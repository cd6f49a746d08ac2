import LogicEditor.Text.Basic

/-! # Positions, ranges and selections

Lines and columns are counted from 0. A position is ordered by line, then by column. A range runs
from its start up to but not including its end. A selection remembers where it was started (the
anchor) and where the cursor is (the active end), in either order. -/

namespace LogicEditor

/-- A line and a column. -/
structure Position where
  line : Nat
  col : Nat
deriving DecidableEq, Repr

namespace Position

/-- Whether `a` stands before `b`. -/
def lt (a b : Position) : Prop := a.line < b.line ∨ a.line = b.line ∧ a.col < b.col

/-- Whether `a` does not stand after `b`. -/
def le (a b : Position) : Prop := a.line < b.line ∨ a.line = b.line ∧ a.col ≤ b.col

instance : LT Position := ⟨lt⟩
instance : LE Position := ⟨le⟩

instance (a b : Position) : Decidable (a < b) :=
  inferInstanceAs (Decidable (a.line < b.line ∨ a.line = b.line ∧ a.col < b.col))

instance (a b : Position) : Decidable (a ≤ b) :=
  inferInstanceAs (Decidable (a.line < b.line ∨ a.line = b.line ∧ a.col ≤ b.col))

/-- How `a` stands to `b`. -/
def order (a b : Position) : Ordering := if a < b then .lt else if a = b then .eq else .gt

/-- The same column `d` lines further down, held between the first and the largest line number. -/
def shifted (p : Position) (d : Int) : Position := { p with line := moveIndex p.line d }

/-- Line and column counted from 1, as shown to users. -/
def display (p : Position) : String := toString (p.line + 1) ++ ":" ++ toString (p.col + 1)

/-- Line and column counted from 0, for diagnosis. -/
def debug (p : Position) : String := "Pos(" ++ toString p.line ++ ":" ++ toString p.col ++ ")"

end Position

/-- The positions from `start` up to but not including `stop`. -/
structure Range where
  start : Position
  stop : Position
deriving DecidableEq, Repr

namespace Range

/-- The range between two positions in either order. -/
def between (a b : Position) : Range := if a ≤ b then ⟨a, b⟩ else ⟨b, a⟩

/-- The empty range at a position. -/
def point (p : Position) : Range := ⟨p, p⟩

/-- Columns `start` to `stop` of one line. -/
def onLine (line start stop : Nat) : Range := ⟨⟨line, start⟩, ⟨line, stop⟩⟩

/-- Whether the range holds no position. -/
def isEmpty (r : Range) : Bool := r.start == r.stop

/-- Whether a position lies in the range. -/
def contains (r : Range) (p : Position) : Bool := decide (r.start ≤ p) && decide (p < r.stop)

/-- Both ends, as shown to users. -/
def display (r : Range) : String := r.start.display ++ "-" ++ r.stop.display

/-- Both ends, for diagnosis. -/
def debug (r : Range) : String := "Range(" ++ r.start.debug ++ " .. " ++ r.stop.debug ++ ")"

end Range

/-- A selection from `anchor` to `active`. -/
structure Selection where
  anchor : Position
  active : Position
deriving DecidableEq, Repr

/-- The lines from `first` to `last`, both included. -/
structure LineBlock where
  first : Nat
  last : Nat
deriving DecidableEq, Repr

/-- The number of lines of a block. -/
def LineBlock.size (b : LineBlock) : Nat := b.last + 1 - b.first

namespace Selection

/-- A cursor without extent. -/
def caret (p : Position) : Selection := ⟨p, p⟩

/-- Whether the selection is a mere cursor. -/
def isCaret (s : Selection) : Bool := s.anchor == s.active

def range (s : Selection) : Range := .between s.anchor s.active

/-- The lines that line commands work on: those the selection touches, without a last line of which
it holds no character. -/
def lineBlock (s : Selection) : LineBlock :=
  let r := s.range
  if r.start.line < r.stop.line ∧ r.stop.col = 0 then ⟨r.start.line, r.stop.line - 1⟩
  else ⟨r.start.line, r.stop.line⟩

/-- Both ends `d` lines further down. -/
def shifted (s : Selection) (d : Int) : Selection := ⟨s.anchor.shifted d, s.active.shifted d⟩

/-- Both ends, for diagnosis. -/
def debug (s : Selection) : String := "Sel(" ++ s.anchor.debug ++ " -> " ++ s.active.debug ++ ")"

end Selection
end LogicEditor
