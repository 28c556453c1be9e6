import BlockMarkup.Yaml.Token

/-!
# YAML nodes

`document?` makes the node of a text that holds at most one document. An alias is kept as a node of
its own, with the node that it stands for.
-/

namespace BlockMarkup.Yaml

inductive Node where
  | scalar (text : List Char) (plain : Bool) (tag : Option String)
  | sequence (tag : Option String) (items : List Node)
  | mapping (tag : Option String) (entries : List (Node × Node))
  | alias (target : Node)
  deriving Inhabited

namespace Node

def missing : Node := .scalar [] true none

mutual

/-- How many nodes are written, starts and ends of collections counted each. -/
def size : Node → Nat
  | .scalar _ _ _ => 1
  | .sequence _ items => sizes items + 2
  | .mapping _ entries => entrySizes entries + 2
  | .alias _ => 1

def sizes : List Node → Nat
  | [] => 0
  | n :: rest => n.size + sizes rest

def entrySizes : List (Node × Node) → Nat
  | [] => 0
  | (k, v) :: rest => k.size + v.size + entrySizes rest

end

/-! ### Reading nodes -/

/-- What reading has to know: the tokens that are left, the anchors of finished nodes (of
unfinished ones only the name), and the handles of tags. -/
structure Source where
  tokens : List Token
  anchors : List (List Char × Option Node) := []
  handles : List (List Char × List Char)

abbrev Reader := StateT Source Option

def peek : Reader (Option Token) := do return (← get).tokens.head?

def advance : Reader Unit := modify fun s => { s with tokens := s.tokens.tail }

def refuse : Reader α := StateT.lift none

def resolveTag (start suffix : List Char) : Reader String := do
  if start.isEmpty then return String.ofList suffix
  match (← get).handles.lookup start with
  | some tagStart => return String.ofList (tagStart ++ suffix)
  | none => refuse

/-- The anchor and the tag in front of a node, in either order. -/
def properties : Reader (Option (List Char) × Option String) := do
  match ← peek with
  | some (.anchor name) =>
    advance
    match ← peek with
    | some (.tag start suffix) => advance; return (some name, some (← resolveTag start suffix))
    | _ => return (some name, none)
  | some (.tag start suffix) =>
    advance
    let next ← peek
    match next with
    | some (.anchor name) => advance; return (some name, some (← resolveTag start suffix))
    | _ => return (none, some (← resolveTag start suffix))
  | _ => return (none, none)

def declare (anchor : Option (List Char)) : Reader Unit :=
  match anchor with
  | some name => modify fun s => { s with anchors := (name, none) :: s.anchors }
  | none => pure ()

/-- Gives the name of a finished node to it, unless a later node has taken the name. -/
def bindAnchor (name : List Char) (n : Node) :
    List (List Char × Option Node) → List (List Char × Option Node)
  | [] => []
  | (k, none) :: rest =>
    if k = name then (k, some n) :: rest else (k, none) :: bindAnchor name n rest
  | (k, some m) :: rest => (k, some m) :: bindAnchor name n rest

def define (anchor : Option (List Char)) (n : Node) : Reader Node :=
  match anchor with
  | some name => do
    modify fun s => { s with anchors := bindAnchor name n s.anchors }
    return n
  | none => pure n

/-- Where a node stands, which decides what it may be. -/
inductive Context where
  | flow
  | block
  /-- A place where a sequence needs no indentation. -/
  | blockEntry
  deriving DecidableEq

/-- Whether the next token leaves out a node that may stand in front of it. -/
def isOmitted (stops : List Token) : Reader Bool := do
  match ← peek with
  | some t => return stops.contains t
  | none => return true

mutual

def node : Nat → Context → Reader Node
  | 0, _ => refuse
  | fuel + 1, context => do
    match ← peek with
    | some (.alias name) =>
      advance
      match (← get).anchors.lookup name with
      | some (some n) => return .alias n
      | _ => refuse
    | _ =>
      let (anchor, tag) ← properties
      declare anchor
      let n ← body fuel context (anchor.isSome || tag.isSome) tag
      define anchor n

/-- A node after its anchor and tag. `marked` tells whether there were any. -/
def body : Nat → Context → Bool → Option String → Reader Node
  | 0, _, _, _ => refuse
  | fuel + 1, context, marked, tag => do
    match ← peek with
    | some (.scalar text plain) =>
      advance
      return .scalar text plain (if tag = some "!" then none else tag)
    | some .flowSequence => advance; flowItems fuel tag true []
    | some .flowMapping => advance; flowEntries fuel tag true []
    | some .blockSequence =>
      if context = .flow then absent marked tag else advance; blockItems fuel tag []
    | some .blockMapping =>
      if context = .flow then absent marked tag else advance; blockEntries fuel tag []
    | some .blockEntry =>
      if context = .blockEntry then bareItems fuel tag [] else absent marked tag
    | _ => absent marked tag

/-- No content is all right after an anchor or a tag. -/
def absent (marked : Bool) (tag : Option String) : Reader Node :=
  if marked then pure (.scalar [] true tag) else refuse

/-- A node, or a missing one in front of certain tokens. -/
def nodeUnless (stops : List Token) : Nat → Context → Reader Node
  | 0, _ => refuse
  | fuel + 1, context => do
    if ← isOmitted stops then return .missing else node fuel context

def blockItems : Nat → Option String → List Node → Reader Node
  | 0, _, _ => refuse
  | fuel + 1, tag, done => do
    match ← peek with
    | some .blockEntry =>
      advance
      let n ← nodeUnless [.blockEntry, .blockEnd] fuel .block
      blockItems fuel tag (n :: done)
    | some .blockEnd => advance; return .sequence tag done.reverse
    | _ => refuse

/-- The items of a sequence that has no indentation of its own. -/
def bareItems : Nat → Option String → List Node → Reader Node
  | 0, _, _ => refuse
  | fuel + 1, tag, done => do
    match ← peek with
    | some .blockEntry =>
      advance
      let n ← nodeUnless [.blockEntry, .key, .value, .blockEnd] fuel .block
      bareItems fuel tag (n :: done)
    | _ => return .sequence tag done.reverse

def blockEntries : Nat → Option String → List (Node × Node) → Reader Node
  | 0, _, _ => refuse
  | fuel + 1, tag, done => do
    match ← peek with
    | some .key =>
      advance
      let k ← nodeUnless [.key, .value, .blockEnd] fuel .blockEntry
      match ← peek with
      | some .value =>
        advance
        let v ← nodeUnless [.key, .value, .blockEnd] fuel .blockEntry
        blockEntries fuel tag ((k, v) :: done)
      | _ => blockEntries fuel tag ((k, .missing) :: done)
    | some .blockEnd => advance; return .mapping tag done.reverse
    | _ => refuse

/-- The items of a sequence in brackets. A pair of key and value is a mapping of its own. -/
def flowItems : Nat → Option String → Bool → List Node → Reader Node
  | 0, _, _, _ => refuse
  | fuel + 1, tag, first, done => do
    let finish : Reader Node := do advance; return .sequence tag done.reverse
    if (← peek) = some .flowSequenceEnd then finish
    else
      if !first then
        if (← peek) = some .flowEntry then advance else refuse
      match ← peek with
      | some .flowSequenceEnd => finish
      | some .key =>
        advance
        let k ← pairKey fuel
        let v ← flowValue [.flowEntry, .flowSequenceEnd] fuel
        flowItems fuel tag false (.mapping none [(k, v)] :: done)
      | _ =>
        let n ← node fuel .flow
        flowItems fuel tag false (n :: done)

/-- The key of a pair in a sequence. Where it is missing, the token after it is passed over. -/
def pairKey : Nat → Reader Node
  | 0 => refuse
  | fuel + 1 => do
    if ← isOmitted [.value, .flowEntry, .flowSequenceEnd] then
      advance
      return .missing
    else node fuel .flow

def flowValue (stops : List Token) : Nat → Reader Node
  | 0 => refuse
  | fuel + 1 => do
    if (← peek) = some .value then
      advance
      nodeUnless stops fuel .flow
    else return .missing

def flowEntries : Nat → Option String → Bool → List (Node × Node) → Reader Node
  | 0, _, _, _ => refuse
  | fuel + 1, tag, first, done => do
    let finish : Reader Node := do advance; return .mapping tag done.reverse
    if (← peek) = some .flowMappingEnd then finish
    else
      if !first then
        if (← peek) = some .flowEntry then advance else refuse
      match ← peek with
      | some .flowMappingEnd => finish
      | some .key =>
        advance
        let k ← nodeUnless [.value, .flowEntry, .flowMappingEnd] fuel .flow
        let v ← flowValue [.flowEntry, .flowMappingEnd] fuel
        flowEntries fuel tag false ((k, v) :: done)
      | _ =>
        let k ← node fuel .flow
        flowEntries fuel tag false ((k, .missing) :: done)

end

/-! ### Documents -/

/-- Passes over directives. A version comes at most once and must be 1.1 or 1.2; so does a handle
come at most once. -/
def directives (version : Bool) (own : List (List Char)) : Nat → Reader Unit
  | 0 => refuse
  | fuel + 1 => do
    match ← peek with
    | some (.version major minor) =>
      if version || major != 1 || !(minor = 1 || minor = 2) then refuse
      advance
      directives true own fuel
    | some (.tagDirective start tagStart) =>
      if own.contains start then refuse
      advance
      modify fun s => { s with handles := (start, tagStart) :: s.handles }
      directives version (start :: own) fuel
    | _ => pure ()

/-- The only document. A text without any is a missing node. -/
def document (fuel : Nat) : Reader Node := do
  let hasDirectives := match ← peek with
    | some (.version _ _) | some (.tagDirective _ _) => true
    | _ => false
  if (← peek).isNone then return .missing
  if hasDirectives || (← peek) = some .documentStart then
    directives false [] fuel
    if (← peek) != some .documentStart then refuse
    advance
    match ← peek with
    | none | some .documentStart | some .documentEnd | some (.version _ _)
    | some (.tagDirective _ _) => return .missing
    | _ => node fuel .block
  else node fuel .block

/-- Passes over marks for the end of the document. Nothing may follow them. -/
def ending : Nat → Reader Unit
  | 0 => refuse
  | fuel + 1 => do
    match ← peek with
    | none => pure ()
    | some .documentEnd => advance; ending fuel
    | _ => refuse

end Node

def document? (text : List Char) : Option Node :=
  (tokens? text).bind fun tokens =>
    let fuel := 4 * tokens.length + 8
    let read : Node.Reader Node := do
      let n ← Node.document fuel
      Node.ending fuel
      return n
    let handles := [(['!'], ['!']), (['!', '!'], "tag:yaml.org,2002:".toList)]
    (read.run { tokens, handles }).map (·.1)

end BlockMarkup.Yaml
