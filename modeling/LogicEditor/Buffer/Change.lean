import LogicEditor.Text.Basic

/-! # Changes of a buffer

Every line of a buffer has a handle that stays with it while its number and its text change. A buffer
records its changes line by line, so that whoever keeps something per line can follow. -/

namespace LogicEditor

/-- The handle of a line. Handles count up in the order in which lines come into being, and none is
used twice in one buffer. -/
abbrev LineId := Nat

/-- Lines `start` up to but not including `stop` move by `delta`. -/
structure Shift where
  start : Nat
  stop : Nat
  delta : Int
deriving DecidableEq, Repr

namespace Shift

/-- All lines from `start` on move by `delta`. -/
def onward (start : Nat) (delta : Int) : Shift := ⟨start, maxIndex, delta⟩

/-- Where the shift takes a line, if it covers it. -/
def target? (s : Shift) (line : Nat) : Option Nat :=
  if s.start ≤ line ∧ line < s.stop then some (moveIndex line s.delta) else none

/-- Where the first of several shifts that covers a line takes it. -/
def firstTarget? (shifts : List Shift) (line : Nat) : Option Nat :=
  shifts.findSome? (·.target? line)

end Shift

/-- One change of a buffer. -/
inductive Change
  /-- The text of the line changed in place. -/
  | edited (id : LineId)
  /-- A new line stands at `line`. -/
  | inserted (id : LineId) (line : Nat)
  /-- The line is gone. -/
  | removed (id : LineId)
  /-- Lines got new numbers. All shifts refer to the numbers before the change. -/
  | shifted (shifts : List Shift)
deriving DecidableEq, Repr

end LogicEditor
