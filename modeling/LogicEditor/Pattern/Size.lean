import LogicEditor.Pattern.Expr
import LogicEditor.Pattern.Utf8
import Std.Data.HashMap

/-! # The size of a pattern

Patterns that would take too much memory are refused. The size of a pattern is that of the larger of
two automata that read bytes: one reads a text forward and notes where groups start and end, the
other reads it backward. A state takes a fixed size, and a state with several transitions or edges
takes more for each. The automata are not built; `Meter` follows their construction and counts.
Repetitions with counts are written out, so that counting stops once the size is too large.

States for sets of characters are shared within the set, as far as a small memory of recent ones
tells. What it forgets depends on the numbers of the states, so these are counted in order. -/

namespace LogicEditor
namespace Pattern

open Text (CharSet)

/-- The largest size of a pattern. -/
def maxSize : Nat := 10485760

/-- The direction in which an automaton reads. -/
inductive Direction
  | forward
  | backward
deriving DecidableEq, Repr

/-! ## Counting -/

/-- An automaton under construction. -/
structure Meter where
  /-- The number of states. The next state has this number. -/
  states : Nat := 0
  /-- The size of what states have beyond their fixed size. -/
  extra : Nat := 0
  /-- Whether the last part ends in a state with edges, to which one more is added when the part is
  linked to the next. -/
  endsInEdges : Bool := false
deriving DecidableEq, Repr

namespace Meter

/-- The size of the automaton. -/
def size (m : Meter) : Nat := 32 * m.states + m.extra

/-- Whether the automaton is too large, and remains so. -/
def isTooLarge (m : Meter) : Bool := maxSize < m.size

/-- Adds some states in a row. -/
def chain (n : Nat) (m : Meter) : Meter :=
  { m with states := m.states + n, endsInEdges := false }

/-- Adds a state. -/
def state (m : Meter) : Meter := m.chain 1

/-- Adds a state with a list of `n` transitions. -/
def transitions (n : Nat) (m : Meter) : Meter :=
  { m.state with extra := m.extra + 8 * n }

/-- Adds `n` edges to states that have them. -/
def edges (n : Nat) (m : Meter) : Meter := { m with extra := m.extra + 4 * n }

/-- Links the end of the last part to something. -/
def link (m : Meter) : Meter :=
  if m.endsInEdges then { m.edges 1 with endsInEdges := false } else m

/-- Takes a state with edges for the end of the last part. -/
def atEdges (m : Meter) : Meter := { m with endsInEdges := true }

/-- Adds something `n` times, or until the automaton is too large. -/
def times (add : Meter → Meter) : (n : Nat) → Meter → Meter
  | 0, m => m
  | n + 1, m => if m.isTooLarge then m else times add n (add m)

/-- Adds a part `n` times, one after the other; instead of none, an empty one. -/
def copies (add : Meter → Meter) : (n : Nat) → Meter → Meter
  | 0, m => m.state
  | n + 1, m => times (fun m => add m.link) n (add m)

end Meter

/-! ## Texts -/

/-- The groups into which empty words divide some words. -/
def splitAtEmpty : List (List Nat) → List (List (List Nat))
  | [] => [[]]
  | [] :: ws => [] :: splitAtEmpty ws
  | w :: ws =>
    match splitAtEmpty ws with
    | [] => [[w]]
    | g :: gs => (w :: g) :: gs

/-- Adds the states of a tree of words, of which not all are empty, except the one in which all of
them end. The tree is no deeper than `depth`. In a node the words before and after an empty one are
kept apart, and empty ones before all others count as one. -/
def Meter.wordTree : (depth : Nat) → List (List Nat) → Meter → Meter
  | 0, _, m => m
  | depth + 1, words, m =>
    let groups := splitAtEmpty (words.dropWhile List.isEmpty)
    let ends := groups.length - 1 + (if words.head? = some [] then 1 else 0)
    let groups := groups.filter fun g => !g.isEmpty
    let m := groups.foldl (fun m g =>
      let leads := (g.filterMap List.head?).eraseDups
      let m := leads.foldl (fun m b =>
        let rest := (g.filter (·.head? = some b)).map List.tail
        if rest.all List.isEmpty then m else m.wordTree depth rest) m
      if leads.length = 1 then m.state else m.transitions leads.length) m
    m.state.edges (groups.length + ends)

/-- Adds alternatives that are texts, as a tree of their common beginnings in reading direction. -/
def Meter.texts (d : Direction) (ts : List Text) (m : Meter) : Meter :=
  let words := match d with
    | .forward => ts.map textBytes
    | .backward => ts.map fun t => (textBytes t).reverse
  m.state.wordTree (words.foldl (fun n w => max n w.length) 0 + 1) words

/-! ## Sets -/

/-- A memory of states by what they do. It has some slots, of which each keeps the last state. -/
structure Memory where
  slots : Nat
  entries : Std.HashMap Nat (List Nat × Nat) := {}

namespace Memory

/-- The slot for a state with some transitions. -/
def slot (m : Memory) (key : List Nat) : Nat :=
  let step (h : UInt64) (n : Nat) := (h ^^^ n.toUInt64) * 1099511628211
  (key.foldl step 14695981039346656037).toNat % m.slots

/-- The number of the state with some transitions, if it is kept. -/
def find? (m : Memory) (key : List Nat) : Option Nat :=
  match m.entries[m.slot key]? with
  | some (kept, n) => if kept = key then some n else none
  | none => none

/-- Keeps a state. -/
def insert (m : Memory) (key : List Nat) (n : Nat) : Memory :=
  { m with entries := m.entries.insert (m.slot key) (key, n) }

end Memory

/-- The number of the state that `key` describes, which `add` adds unless it is kept. -/
def sharedState (key : List Nat) (add : Meter → Meter) : StateM (Meter × Memory) Nat := do
  let (m, memory) ← get
  match memory.find? key with
  | some n => return n
  | none =>
    set (add m, memory.insert key m.states)
    return m.states

/-- The sequences by their first ranges, those of one range after the other. -/
def byLead : List (List ByteRange) → List (ByteRange × List (List ByteRange))
  | [] => []
  | [] :: rest => byLead rest
  | (r :: tail) :: rest =>
    match byLead rest with
    | (r', tails) :: groups =>
      if r = r' then (r, tail :: tails) :: groups else (r, [tail]) :: (r', tails) :: groups
    | [] => [(r, [tail])]

/-- The state that reads one of some sequences forward up to state `target`. -/
def sequencesState (target : Nat) :
    (depth : Nat) → List (List ByteRange) → StateM (Meter × Memory) Nat
  | 0, _ => return target
  | depth + 1, sequences => do
    let transitions ← (byLead sequences).mapM fun (r, tails) => do
      let next ←
        if tails.all List.isEmpty then pure target else sequencesState target depth tails
      return [r.lo, r.hi, next]
    sharedState transitions.flatten (Meter.transitions transitions.length)

/-- Adds the states that read a sequence backward up to state `target`. -/
def backwardState (target : Nat) (sequence : List ByteRange) : StateM (Meter × Memory) Nat :=
  sequence.foldlM (fun next r => sharedState [next, r.lo, r.hi] Meter.state) target

/-- Adds a set of characters. ASCII characters are transitions of one state. Of the others, those
with the same last bytes share states when reading forward, those with the same first bytes when
reading backward. -/
def Meter.chars (d : Direction) (s : CharSet) (m : Meter) : Meter :=
  if s.isAscii then m.state.transitions s.ranges.length
  else
    match d with
    | .forward =>
      let (_, m', _) := (sequencesState m.states 4 (byteSequences s)).run
        (m.state, { slots := 10000 })
      m'
    | .backward =>
      let sequences := byteSequences s
      let (_, m', _) := (sequences.forM fun q => discard (backwardState (m.states + 1) q)).run
        (m.chain 2, { slots := 1000 })
      m'.edges sequences.length

/-! ## Expressions -/

namespace Expr

/-- The text of an expression that is one. -/
def text? : Expr → Option Text
  | .text t => some t
  | _ => none

/-- The place of an expression among the branches of an alternative. -/
inductive Branch
  /-- It is no branch, or the first one, which is closed by the alternative. -/
  | alone
  /-- It is the rest after one branch. -/
  | second
  /-- It is the rest after several branches. -/
  | later
deriving DecidableEq, Repr

/-- Links a branch to the state that chooses and to the end. These follow the second branch. -/
def Branch.close : Branch → Meter → Meter
  | .alone, m => m
  | .second, m => (m.link.edges 1).chain 2
  | .later, m => m.link.edges 1

/-- Adds an expression. -/
def meter (d : Direction) (branch : Branch) : Expr → Meter → Meter
  | .empty, m | .look _, m => branch.close m.state
  | .text t, m => branch.close (m.chain (textBytes t).length)
  | .chars s, m => branch.close (m.chars d s)
  | .capture _ e, m =>
    match d with
    | .forward => branch.close (e.meter d .alone m.state).link.state
    | .backward => branch.close (e.meter d .alone m)
  | .seq a b, m =>
    match d with
    | .forward => branch.close (b.meter d .alone (a.meter d .alone m).link)
    | .backward => branch.close (a.meter d .alone (b.meter d .alone m).link)
  | .alt a b, m =>
    match branch, (branches (.alt a b)).mapM text? with
    | .alone, some ts => m.texts d ts
    | .alone, none => b.meter d .second (Branch.later.close (a.meter d .alone m))
    | branch, _ => b.meter d .later (branch.close (a.meter d .alone m))
  | .repeated min max? _ e, m =>
    let add := e.meter d .alone
    let repeated : Meter :=
      match min, max? with
      | 0, some 1 => ((add m.state).link.edges 2).state
      | 0, none =>
        if e.takesChar then ((add m.state).link.edges 1).atEdges
        else ((add m).link.edges 4).chain 3
      | n, none => ((Meter.copies add n m).link.state.edges 1).atEdges
      | n, some k =>
        let m := Meter.copies add n m
        if n = k then m
        else Meter.times (fun m => (add m.state).link.edges 2) (k - n) m.link.state
    branch.close repeated

/-- Whether a match must start where the search starts reading. -/
def isAnchored (d : Direction) (e : Expr) : Bool :=
  match d with
  | .forward => e.startsWith .textStart
  | .backward => e.endsWith .textEnd

/-- The size of the automaton that reads in a direction. Unless the expression is anchored, a loop
over all bytes stands before it. The whole is a group of its own, and the last state accepts. -/
def automatonSize (d : Direction) (e : Expr) : Nat :=
  let start : Meter :=
    if e.isAnchored d then Meter.state {} else ((Meter.state {}).state.transitions 1).edges 2
  ((Expr.capture 0 e).meter d .alone start).link.state.size

/-- The size of a pattern. -/
def size (e : Expr) : Nat := max (e.automatonSize .forward) (e.automatonSize .backward)

end Expr
end Pattern
end LogicEditor
