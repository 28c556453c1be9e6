import BlockMarkup.Pattern.Program

/-!
# Searching

All ways to match run side by side through the text, as threads in the order of preference. A
thread that has matched cuts off the less preferred ones, and of two threads at the same place the
less preferred one is dropped, so a search takes time in proportion to the text. The result is the
match that starts first and, of those, the most preferred one.
-/

namespace BlockMarkup.Pattern

structure Place where
  index : Nat
  before : Option Char
  after : Option Char

/-! ### Anchors -/

def isWordChar (unicode : Bool) (c : Char) : Bool :=
  if unicode then Unicode.isWord c else c.isAlphanum || c = '_'

def WordEdge.holds (edge : WordEdge) (before after : Bool) : Bool :=
  match edge with
  | .any => before != after
  | .none => before == after
  | .start => !before && after
  | .finish => before && !after
  | .startHalf => !before
  | .finishHalf => !after

def Look.holds (l : Look) (at_ : Place) : Bool :=
  match l with
  | .textStart => at_.before.isNone
  | .textEnd => at_.after.isNone
  | .lineStart false => at_.before.all (· = '\n')
  | .lineStart true =>
    at_.before.all fun c => c = '\n' || (c = '\r' && at_.after != some '\n')
  | .lineEnd false => at_.after.all (· = '\n')
  | .lineEnd true =>
    at_.after.all fun c => c = '\r' || (c = '\n' && at_.before != some '\r')
  | .word edge unicode =>
    edge.holds (at_.before.any (isWordChar unicode)) (at_.after.any (isWordChar unicode))

/-! ### Threads -/

structure Thread where
  todo : List Node
  start : Nat
  /-- Slots and the positions noted in them, latest first. -/
  marks : List (Nat × Nat)

structure Match where
  start : Nat
  stop : Nat
  marks : List (Nat × Nat) := []
  deriving DecidableEq, Repr

/-- Where group `i` of a match starts and ends, if it took part. -/
def Match.group (m : Match) (i : Nat) : Option (Nat × Nat) :=
  (m.marks.lookup (2 * i)).bind fun a => (m.marks.lookup (2 * i + 1)).map fun b => (a, b)

/-- Runs threads up to where they consume a character or are finished. `seen` has a bit for each
place that has been passed at this position. A finished thread ends the list. -/
def settle (here : Place) : Nat → List Thread → Nat → List Thread → List Thread
  | 0, _, _, done => done.reverse
  | _ + 1, [], _, done => done.reverse
  | fuel + 1, t :: rest, seen, done =>
    match t.todo with
    | [] => (t :: done).reverse
    | .char _ :: _ | .set _ :: _ => settle here fuel rest seen (t :: done)
    | .look l :: todo =>
      if l.holds here then settle here fuel ({ t with todo } :: rest) seen done
      else settle here fuel rest seen done
    | .mark slot :: todo =>
      settle here fuel ({ t with todo, marks := (slot, here.index) :: t.marks } :: rest) seen done
    | .fork id branches :: todo =>
      if seen.testBit id then settle here fuel rest seen done
      else
        let ways := branches.map fun way => { t with todo := way ++ todo }
        settle here fuel (ways ++ rest) (seen ||| 1 <<< id) done
    | .loop id greedy body :: todo =>
      if seen.testBit id then settle here fuel rest seen done
      else
        let again := { t with todo := body ++ .loop id greedy body :: todo }
        let past := { t with todo }
        let ways := if greedy then [again, past] else [past, again]
        settle here fuel (ways ++ rest) (seen ||| 1 <<< id) done

/-- The thread after it has consumed `c`, if it accepts `c`. -/
def Thread.consume (c : Char) (t : Thread) : Option Thread :=
  match t.todo with
  | .char d :: todo => if c = d then some { t with todo } else none
  | .set s :: todo => if s.contains c then some { t with todo } else none
  | _ => none

/-- The match of a finished thread. Only the last one of a settled list can be finished. -/
def finished? (index : Nat) (threads : List Thread) : Option Match :=
  threads.getLast?.bind fun t =>
    if t.todo.isEmpty then some { start := t.start, stop := index, marks := t.marks } else none

/-- Goes on with `threads` at a position. Until there is a match, a new thread starts at each
position; if `once` is set, only those given go on. -/
def scan (p : Program) (once : Bool) :
    List Char → Nat → Option Char → List Thread → Option Match → Option Match
  | cs, index, before, threads, best =>
    let threads :=
      if !once && best.isNone then threads ++ [{ todo := p.nodes, start := index, marks := [] }]
      else threads
    let here : Place := { index, before, after := cs.head? }
    let settled := settle here ((threads.length + 1) * p.bound) threads 0 []
    let best := (finished? index settled).or best
    match cs with
    | [] => best
    | c :: rest =>
      let moved := settled.filterMap (Thread.consume c)
      if moved.isEmpty && (once || best.isSome) then best
      else scan p once rest (index + 1) (some c) moved best

/-- The leftmost match in `text`, the preferred one among those that start there. -/
def Program.find (p : Program) (text : List Char) : Option Match :=
  if p.isAnchored then
    scan p true text 0 none [{ todo := p.nodes, start := 0, marks := [] }] none
  else scan p false text 0 none [] none

end BlockMarkup.Pattern
