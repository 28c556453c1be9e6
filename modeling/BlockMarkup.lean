import BlockMarkup.CommandLine.Arguments
import BlockMarkup.CommandLine.Run
import BlockMarkup.Decimal.Double
import BlockMarkup.Document
import BlockMarkup.Files
import BlockMarkup.Format.Json
import BlockMarkup.Format.Outline
import BlockMarkup.Format.Registry
import BlockMarkup.Json.Printer
import BlockMarkup.Json.Reader
import BlockMarkup.Json.Value
import BlockMarkup.Keyed
import BlockMarkup.Main
import BlockMarkup.Pattern
import BlockMarkup.Pattern.Ast
import BlockMarkup.Pattern.Expr
import BlockMarkup.Pattern.Program
import BlockMarkup.Pattern.Reader
import BlockMarkup.Pattern.Search
import BlockMarkup.Pattern.Size
import BlockMarkup.Rule.Compiled
import BlockMarkup.Rule.File
import BlockMarkup.Rule.Spec
import BlockMarkup.Settings.Key
import BlockMarkup.Settings.Sources
import BlockMarkup.Settings.Value
import BlockMarkup.Text.Quoted
import BlockMarkup.Token.Basic
import BlockMarkup.Token.Scan
import BlockMarkup.Token.Stream
import BlockMarkup.Toml.Reader
import BlockMarkup.Toml.Value
import BlockMarkup.Transform
import BlockMarkup.Tree.Build
import BlockMarkup.Tree.Expect
import BlockMarkup.Tree.Node
import BlockMarkup.Unicode.Age
import BlockMarkup.Unicode.Category
import BlockMarkup.Unicode.CharSet
import BlockMarkup.Unicode.Folding
import BlockMarkup.Unicode.Property
import BlockMarkup.Unicode.Query
import BlockMarkup.Unicode.Script
import BlockMarkup.Unicode.ScriptExtension
import BlockMarkup.Unicode.Segmentation
import BlockMarkup.Yaml.Cursor
import BlockMarkup.Yaml.Node
import BlockMarkup.Yaml.Scalar
import BlockMarkup.Yaml.Token
import BlockMarkup.Yaml.Value
import BlockMarkup.Proofs.Pattern.Bounds
import BlockMarkup.Proofs.Pattern.Enclosed
import BlockMarkup.Proofs.Pattern.Grouped
import BlockMarkup.Proofs.Pattern.Texts
import BlockMarkup.Proofs.Pattern.OneCharacter
import BlockMarkup.Proofs.Pattern.ClassSize
import BlockMarkup.Proofs.Rule.Source
import BlockMarkup.Proofs.Rule.Compiling
import BlockMarkup.Proofs.Rule.Anchored
import BlockMarkup.Proofs.Rule.Verbatim
import BlockMarkup.Proofs.Rule.Listed
import BlockMarkup.Proofs.Rule.Delimiter
import BlockMarkup.Proofs.Token.Trace
import BlockMarkup.Proofs.Token.Parts
import BlockMarkup.Proofs.Token.Scans
import BlockMarkup.Proofs.Token.Partition
import BlockMarkup.Proofs.Token.FirstRule
import BlockMarkup.Proofs.Tree.Descent
import BlockMarkup.Proofs.Tree.Flatten
import BlockMarkup.Proofs.Tree.Forest
import BlockMarkup.Proofs.Tree.Printing
import BlockMarkup.Proofs.Tree.Refusal
import BlockMarkup.Proofs.Tree.Layout
import BlockMarkup.Proofs.Pattern.Words
import BlockMarkup.Proofs.Tree.BlockForm
import BlockMarkup.Proofs.Tree.Leaves
import BlockMarkup.Proofs.Token.Restart
import BlockMarkup.Proofs.Token.RuleOrder
import BlockMarkup.Proofs.Keyed
import BlockMarkup.Proofs.Rule.Mapping
import BlockMarkup.Proofs.Rule.PairKeys
import BlockMarkup.Proofs.Tree.Strictness
import BlockMarkup.Proofs.Format.Lines
import BlockMarkup.Proofs.Pattern.Settling
import BlockMarkup.Proofs.Pattern.FromStart
import BlockMarkup.Proofs.Rule.Wrapping
import BlockMarkup.Proofs.Tree.Depth
import BlockMarkup.Proofs.Tree.Prefix
import BlockMarkup.Proofs.Tree.Stretch
import BlockMarkup.Proofs.Json.Parts
import BlockMarkup.Proofs.Json.Reading
import BlockMarkup.Proofs.Format.Tokens
import BlockMarkup.Proofs.Format.Resemblance
import BlockMarkup.Proofs.Json.Denoting
import BlockMarkup.Proofs.Json.Distinct
import BlockMarkup.Proofs.Format.Documents
import BlockMarkup.Proofs.Rule.Faults
import BlockMarkup.Proofs.Token.Cursor
import BlockMarkup.Proofs.Format.Transforms
import BlockMarkup.Proofs.Settings.Layers
import BlockMarkup.Proofs.Rule.Grammar
import BlockMarkup.Proofs.Rule.Insertions
import BlockMarkup.Proofs.Format.Registered
import BlockMarkup.Proofs.Tree.Walks
