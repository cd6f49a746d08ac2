import LogicEditor.Pattern.Expr
import LogicEditor.Text.Property
import LogicEditor.Language.Token

/-! # Matching

A resolved pattern becomes a program. Matching follows all ways through the program at once, in the
order of preference, one character at a time: `Program.follow` collects the instructions that wait
for a character, each once, in the order in which they are preferred, and stops when the program
accepts, because what comes later is preferred less. So `Program.matchLength?` tells the length of
the preferred match at one place, and `Program.spans` finds the matches in a text from left to
right. -/

namespace LogicEditor
namespace Pattern

open Text

/-- An instruction. Jumps are relative to its place. -/
inductive Instr
  /-- Waits for a character of the set. -/
  | chars (s : CharSet)
  /-- Goes on if the condition holds. -/
  | look (l : Look)
  /-- Goes on in two places, the first of which is preferred. -/
  | fork (first second : Int)
  | jump (offset : Int)
  | accept
deriving Repr

/-- A program. It starts with its first instruction. -/
abbrev Program := Array Instr

/-! ## Writing programs -/

/-- A fork between going in and going out; a greedy one prefers going in. -/
def forkTo (greedy : Bool) (inside outside : Int) : Instr :=
  if greedy then .fork inside outside else .fork outside inside

/-- Up to `n` repetitions, each of which can be left to the end. They are written from the last one
to the first. -/
def optionalCopies (greedy : Bool) (code : List Instr) (n : Nat) : List Instr :=
  (List.range n).foldl (fun rest i =>
    forkTo greedy 1 ((i + 1) * (code.length + 1) : Nat) :: (code ++ rest)) []

/-- One repetition or more. -/
def onceOrMore (greedy : Bool) (code : List Instr) : List Instr :=
  code ++ [forkTo greedy (-(code.length : Int)) 1]

/-- Any number of repetitions. If the code may match the empty text, its repetition is written as an
option of one or more, so that a match of the empty text ends it. -/
def anyNumber (greedy takesChar : Bool) (code : List Instr) : List Instr :=
  if takesChar then
    forkTo greedy 1 (code.length + 2 : Nat) :: (code ++ [.jump (-(code.length + 1 : Nat) : Int)])
  else
    let loop := onceOrMore greedy code
    forkTo greedy 1 (loop.length + 1 : Nat) :: loop

/-- The instructions of an expression. After a match they go on with what follows them. -/
def Expr.code : Expr → List Instr
  | .empty => []
  | .text t => t.map fun c => .chars (.single c)
  | .chars s => [.chars s]
  | .look l => [.look l]
  | .capture _ e => e.code
  | .seq a b => a.code ++ b.code
  | .alt a b =>
    let first := a.code
    let second := b.code
    .fork 1 (first.length + 2 : Nat) :: (first ++ (.jump (second.length + 1 : Nat) :: second))
  | .repeated min max? greedy e =>
    let code := e.code
    match min, max? with
    | 0, none => anyNumber greedy e.takesChar code
    | n + 1, none => (List.replicate n code).flatten ++ onceOrMore greedy code
    | n, some max => (List.replicate n code).flatten ++ optionalCopies greedy code (max - n)

/-- The program of an expression. -/
def Expr.program (e : Expr) : Program := (e.code ++ [Instr.accept]).toArray

/-! ## Places -/

/-- The characters next to a place in a text. -/
structure Place where
  before? : Option Char
  after? : Option Char

/-- Whether a character belongs to a word. -/
def isWordFor (isAscii : Bool) (c : Char) : Bool :=
  if c.toNat < 128 then c.isAlphanum || c == '_' else !isAscii && Property.word.contains c

/-- Whether a condition holds at a place. -/
def Place.meets (p : Place) : Look → Bool
  | .textStart => p.before?.isNone
  | .textEnd => p.after?.isNone
  | .lineStart => p.before?.isNone || p.before? == some '\n'
  | .lineEnd => p.after?.isNone || p.after? == some '\n'
  | .crlfStart =>
    p.before?.isNone || p.before? == some '\n' || (p.before? == some '\r' && p.after? != some '\n')
  | .crlfEnd =>
    p.after?.isNone || p.after? == some '\r' || (p.after? == some '\n' && p.before? != some '\r')
  | .word isAscii look =>
    let before := p.before?.any (isWordFor isAscii)
    let after := p.after?.any (isWordFor isAscii)
    match look with
    | .boundary => before != after
    | .notBoundary => before == after
    | .start => !before && after
    | .stop => before && !after
    | .startHalf => !before
    | .stopHalf => !after

namespace Program

/-! ## Running programs -/

/-- The place of an instruction that a jump leads to. -/
def target (pc : Nat) (offset : Int) : Nat := (pc + offset).toNat

/-- The instructions that wait for a character after the ways in `stack` have been followed, and
whether the program accepts. Instructions in `seen` are not followed again, for a way that is
preferred has been there. The waiting instructions found so far are given backwards. -/
def follow (p : Program) (place : Place) :
    (fuel : Nat) → (stack : List Nat) → (seen : Array Bool) → (waiting : List Nat) → List Nat × Bool
  | 0, _, _, waiting => (waiting.reverse, false)
  | _ + 1, [], _, waiting => (waiting.reverse, false)
  | fuel + 1, pc :: stack, seen, waiting =>
    if seen.getD pc true then follow p place fuel stack seen waiting
    else
      let seen := seen.setIfInBounds pc true
      match p[pc]? with
      | none => follow p place fuel stack seen waiting
      | some (.chars _) => follow p place fuel stack seen (pc :: waiting)
      | some (.look l) =>
        follow p place fuel (if place.meets l then (pc + 1) :: stack else stack) seen waiting
      | some (.fork first second) =>
        follow p place fuel (target pc first :: target pc second :: stack) seen waiting
      | some (.jump offset) => follow p place fuel (target pc offset :: stack) seen waiting
      | some .accept => (waiting.reverse, true)

/-- Follows some ways at a place. Every instruction is followed once and leads to two others at
most. -/
def advance (p : Program) (place : Place) (ways : List Nat) : List Nat × Bool :=
  p.follow place (ways.length + 2 * p.size + 1) ways (Array.replicate p.size false) []

/-- Whether the instruction waits for a character. -/
def takes (p : Program) (c : Char) (pc : Nat) : Bool :=
  match p[pc]? with
  | some (.chars s) => s.contains c
  | _ => false

/-- The length of the preferred match, when some instructions wait for the next character, `length`
characters have been taken, and `best?` is the length of the match found so far. -/
def run (p : Program) (waiting : List Nat) (length : Nat) (best? : Option Nat) : Text → Option Nat
  | [] => best?
  | c :: t =>
    match waiting.filter (p.takes c) with
    | [] => best?
    | taken =>
      let (waiting, accepted) := p.advance ⟨some c, t.head?⟩ (taken.map (· + 1))
      p.run waiting (length + 1) (if accepted then some (length + 1) else best?) t

/-- The length of the preferred match at the start of `t`, which `before?` stands before. -/
def matchLength? (p : Program) (before? : Option Char) (t : Text) : Option Nat :=
  let (waiting, accepted) := p.advance ⟨before?, t.head?⟩ [0]
  p.run waiting 0 (if accepted then some 0 else none) t

/-- The non-empty matches in `t`, which starts in column `col` and has `before?` before it. Each is
the preferred one at the first place with a match after the match before. -/
def spansFrom (p : Program) (before? : Option Char) (col : Nat) : Text → List Span
  | [] => []
  | c :: t =>
    match p.matchLength? before? (c :: t) with
    | some (n + 1) =>
      have : (t.drop n).length < (c :: t).length := by
        simp only [List.length_drop, List.length_cons]
        omega
      ⟨col, col + (n + 1)⟩ ::
        p.spansFrom (some (((c :: t).take (n + 1)).getLastD c)) (col + (n + 1)) (t.drop n)
    | _ => p.spansFrom (some c) (col + 1) t
termination_by t => t.length

/-- The non-empty matches in a text, from left to right. -/
def spans (p : Program) (t : Text) : List Span := p.spansFrom none 0 t

end Program
end Pattern
end LogicEditor
