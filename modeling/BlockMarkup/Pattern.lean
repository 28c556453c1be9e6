import BlockMarkup.Pattern.Reader
import BlockMarkup.Pattern.Search

/-!
# Patterns

Regular expressions with leftmost-first matching on Unicode text. `compile?` makes a program of a
pattern's source, `Program.find` searches with it.
-/

namespace BlockMarkup.Pattern

/-- The program for a pattern under the flags that hold from its start. None if the source is
malformed or the program would be too large. -/
def compile? (flags : Flags) (source : List Char) : Option Program :=
  (read? source).bind fun ast => (Expr.ofAst? flags ast).bind fun (e, _) =>
    if e.size ≤ sizeLimit then some (Program.ofExpr e) else none

end BlockMarkup.Pattern
