import LogicEditor.Text.CharSet

/-! # Resolved patterns

What a pattern means, once its flags are applied and its classes are sets of characters. Expressions
are built by functions that keep them in a normal form: a set of one character is a text, texts that
follow each other are one text, sequences and alternatives are not nested directly and lean to the
right, alternatives of single characters are one set, and what all alternatives start with stands
before them. The normal form matches the same texts in the same order of preference, and the size of
a pattern is measured on it. -/

namespace LogicEditor
namespace Pattern

open Text

/-- What a word boundary asks of the characters before and after a place. -/
inductive WordLook
  | boundary
  | notBoundary
  | start
  | stop
  | startHalf
  | stopHalf
deriving DecidableEq, Repr

/-- A condition on a place in a text. -/
inductive Look
  | textStart
  | textEnd
  /-- After a line feed too. -/
  | lineStart
  /-- Before a line feed too. -/
  | lineEnd
  /-- After a line feed or a carriage return too, but not between the two. -/
  | crlfStart
  /-- Before a line feed or a carriage return too, but not between the two. -/
  | crlfEnd
  /-- A word boundary; words are made of ASCII characters only, or of all. -/
  | word (isAscii : Bool) (look : WordLook)
deriving DecidableEq, Repr

/-- A resolved pattern. -/
inductive Expr
  | empty
  /-- Some characters, one after the other; at least one. -/
  | text (t : Text)
  /-- One character of a set. -/
  | chars (s : CharSet)
  | look (l : Look)
  /-- A repetition; without `max?` it has no upper bound. A greedy one prefers more. -/
  | repeated (min : Nat) (max? : Option Nat) (greedy : Bool) (e : Expr)
  /-- The group with a number, counted by opening parentheses. -/
  | capture (index : Nat) (e : Expr)
  | seq (a b : Expr)
  /-- Two branches, of which the first is preferred. -/
  | alt (a b : Expr)
deriving DecidableEq, Repr

namespace Expr

/-! ## Properties -/

/-- Whether the expression matches nothing but the empty text. -/
def isOnlyEmpty : Expr → Bool
  | .empty | .look _ => true
  | .text _ | .chars _ => false
  | .repeated _ _ _ e | .capture _ e => e.isOnlyEmpty
  | .seq a b | .alt a b => a.isOnlyEmpty && b.isOnlyEmpty

/-- The least number of characters that the expression matches. There is none if a part of it
matches no text at all. -/
def minLength? : Expr → Option Nat
  | .empty | .look _ => some 0
  | .text t => some t.length
  | .chars s => if s.isEmpty then none else some 1
  | .repeated min _ _ e => e.minLength?.map (min * ·)
  | .capture _ e => e.minLength?
  | .seq a b => do return (← a.minLength?) + (← b.minLength?)
  | .alt a b => do return Nat.min (← a.minLength?) (← b.minLength?)

/-- Whether the expression surely takes a character. -/
def takesChar (e : Expr) : Bool := e.minLength?.any (0 < ·)

/-- Whether the condition is asked for before any character is taken. -/
def startsWith (l : Look) : Expr → Bool
  | .look l' => l' = l
  | .repeated min _ _ e => min != 0 && e.startsWith l
  | .capture _ e => e.startsWith l
  | .seq a b => a.startsWith l || (a.isOnlyEmpty && b.startsWith l)
  | .alt a b => a.startsWith l && b.startsWith l
  | _ => false

/-- Whether the condition is asked for after all characters are taken. -/
def endsWith (l : Look) : Expr → Bool
  | .look l' => l' = l
  | .repeated min _ _ e => min != 0 && e.endsWith l
  | .capture _ e => e.endsWith l
  | .seq a b => b.endsWith l || (b.isOnlyEmpty && a.endsWith l)
  | .alt a b => a.endsWith l && b.endsWith l
  | _ => false

/-! ## Sets and sequences -/

/-- One character of a set. -/
def ofSet (s : CharSet) : Expr :=
  match s.ranges with
  | [r] => if r.lo = r.hi then .text [Char.ofNat r.lo] else .chars s
  | _ => .chars s

/-- A part, which is no sequence itself, before an expression. -/
def before : Expr → Expr → Expr
  | .empty, e => e
  | a, .empty => a
  | .text s, .text t => .text (s ++ t)
  | .text s, .seq (.text t) e => .seq (.text (s ++ t)) e
  | a, e => .seq a e

/-- One expression after another. -/
def andThen : Expr → Expr → Expr
  | .seq a b, e => a.before (b.andThen e)
  | a, e => a.before e

/-- Some expressions, one after the other. -/
def sequence (es : List Expr) : Expr := es.foldr andThen .empty

/-- The parts of a sequence. -/
def parts : Expr → List Expr
  | .seq a b => a :: b.parts
  | e => [e]

/-! ## Repetitions -/

/-- A repetition. What matches only the empty text need not be repeated, and no repetition or a
single one is none. -/
def repetition (min : Nat) (max? : Option Nat) (greedy : Bool) (e : Expr) : Expr :=
  let (min, max?) :=
    if e.isOnlyEmpty then (Nat.min min 1, some ((max?.map (Nat.min · 1)).getD 1)) else (min, max?)
  if min = 0 ∧ max? = some 0 then .empty
  else if min = 1 ∧ max? = some 1 then e
  else .repeated min max? greedy e

/-! ## Alternatives -/

/-- The branches of an alternative. -/
def branches : Expr → List Expr
  | .alt a b => a :: b.branches
  | e => [e]

/-- The branches as they are, with none matching nothing. -/
def ofBranches : List Expr → Expr
  | [] => .chars .empty
  | [e] => e
  | e :: es => .alt e (ofBranches es)

/-- The character of a text of one character. -/
def char? : Expr → Option Char
  | .text [c] => some c
  | _ => none

/-- The set of an expression that is one. -/
def set? : Expr → Option CharSet
  | .chars s => some s
  | _ => none

/-- The one set that branches stand for, if each is a single character or each is a set. -/
def commonSet? (es : List Expr) : Option CharSet :=
  (es.mapM char?).map (fun cs => .ofCodes (cs.map Char.toNat)) <|>
    (es.mapM set?).map (fun ss => .ofRanges (ss.flatMap (·.ranges)))

/-- Alternatives without a common beginning, whose branches may be alternatives themselves. -/
def oneOf (es : List Expr) : Expr :=
  let es := es.flatMap branches
  match es, commonSet? es with
  | [e], _ => e
  | _, some s => ofSet s
  | _, none => ofBranches es

/-- The elements that two lists both start with. -/
def sharedLead : List Expr → List Expr → List Expr
  | a :: as, b :: bs => if a = b then a :: sharedLead as bs else []
  | _, _ => []

/-- Whether the expression is a sequence. -/
def isSeq : Expr → Bool
  | .seq _ _ => true
  | _ => false

/-- The parts that all branches start with, if each is a sequence. -/
def commonLead : List Expr → List Expr
  | [] => []
  | e :: es =>
    if es.isEmpty || !(e :: es).all isSeq then []
    else es.foldl (fun lead e => sharedLead lead e.parts) e.parts

/-- Alternatives. What all branches start with is written once before them. -/
def alternation (es : List Expr) : Expr :=
  let es := es.flatMap branches
  match commonLead es with
  | [] => oneOf es
  | lead => (sequence lead).andThen (oneOf (es.map fun e => sequence (e.parts.drop lead.length)))

end Expr
end Pattern
end LogicEditor
