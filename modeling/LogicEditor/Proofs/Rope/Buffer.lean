import LogicEditor.Buffer.Edit
import LogicEditor.Proofs.Rope.Basic

/-!
# Buffers on a rope

A large text is better not kept line by line. `RopeBuffer` keeps the whole text in a rope and, beside
it, one slot for each line with what belongs to the line but is not text. Nothing ties the slots to
the lines of the rope, except that every command changes both at the same place: the rope at an index
that it computes from the lines of the rope, the slots at a line number.
-/

namespace LogicEditor

open Text

/-- What is kept with a line besides its text. -/
structure Slot where
  id : LineId
  tokens? : Option (List Token) := none
deriving DecidableEq, Repr

/-- A text under editing, on a rope. -/
structure RopeBuffer (R : Type) where
  rope : R
  slots : List Slot
  ending : LineEnding
  /-- The handle that the next new line gets. -/
  nextId : LineId
  log : List Change
  isModified : Bool
deriving DecidableEq, Repr

namespace RopeBuffer

variable {R : Type}

def lineCount (b : RopeBuffer R) : Nat := b.slots.length

def ids (b : RopeBuffer R) : List LineId := b.slots.map (·.id)

/-! ## Slots -/

def record (b : RopeBuffer R) (changes : List Change) : RopeBuffer R :=
  { b with log := b.log ++ changes }

def markModified (b : RopeBuffer R) : RopeBuffer R := { b with isModified := true }

/-- Forgets the tokens of a line, as its text has changed. -/
def touch (b : RopeBuffer R) (line : Nat) : RopeBuffer R :=
  match b.slots[line]? with
  | some s => { b with slots := b.slots.set line { id := s.id } }.record [.edited s.id]
  | none => b

/-- Makes a slot for a new line. -/
def openSlot (b : RopeBuffer R) (line : Nat) : RopeBuffer R :=
  { b with slots := b.slots.insertIdx line { id := b.nextId }, nextId := b.nextId + 1 }.record
    [.inserted b.nextId line]

/-- Makes slots one by one for as many new lines. -/
def openEach (b : RopeBuffer R) (line : Nat) : (count : Nat) → RopeBuffer R
  | 0 => b
  | count + 1 => openEach (b.openSlot line) (line + 1) count

/-- Makes slots for new lines before line `line`. -/
def openSlots (b : RopeBuffer R) (line count : Nat) : RopeBuffer R :=
  if count = 0 then b
  else if line < b.lineCount then (b.record [.shifted [.onward line count]]).openEach line count
  else b.openEach line count

/-- Drops the slots from `start` up to but not including `stop`. -/
def closeSlots (b : RopeBuffer R) (start stop : Nat) : RopeBuffer R :=
  if stop ≤ start then b
  else
    let old := (b.slots.take stop).drop start
    let rest := { b with slots := b.slots.take start ++ b.slots.drop stop }.record
      (old.map fun (s : Slot) => Change.removed s.id)
    if stop < rest.lineCount + (stop - start) then
      rest.record [.shifted [.onward stop (-((stop - start : Nat) : Int))]]
    else rest

/-- A list turned to the left. -/
def turned {α : Type} (n : Nat) (xs : List α) : List α := xs.drop n ++ xs.take n

/-- Turns the slots from `start` to `stop`, so that the one at `mid` comes first. -/
def rotateSlots (b : RopeBuffer R) (start mid stop : Nat) : RopeBuffer R :=
  { b with
    slots := b.slots.take start ++ turned (mid - start) ((b.slots.take stop).drop start) ++
      b.slots.drop stop }.record
    [.shifted [⟨mid, stop, -((mid - start : Nat) : Int)⟩, ⟨start, mid, ((stop - mid : Nat) : Int)⟩]]

/-- Keeps tokens with a line. There may be no such line. -/
def setTokens (b : RopeBuffer R) (line : Nat) (tokens : List Token) : RopeBuffer R :=
  { b with slots := b.slots.modify line fun s => { s with tokens? := some tokens } }

def clearLog (b : RopeBuffer R) : RopeBuffer R := { b with log := [] }

def markSaved (b : RopeBuffer R) : RopeBuffer R := { b with isModified := false }

/-! What happens to the slots leaves the rope alone. -/

section
variable (b : RopeBuffer R)

@[simp] theorem rope_record (changes : List Change) : (b.record changes).rope = b.rope := rfl

@[simp] theorem rope_markModified : b.markModified.rope = b.rope := rfl

@[simp] theorem rope_touch (line : Nat) : (b.touch line).rope = b.rope := by
  rw [touch]
  split <;> rfl

@[simp] theorem rope_openEach (line count : Nat) : (b.openEach line count).rope = b.rope := by
  induction count generalizing b line with
  | zero => rfl
  | succ count ih => rw [openEach, ih, openSlot, rope_record]

@[simp] theorem rope_openSlots (line count : Nat) : (b.openSlots line count).rope = b.rope := by
  rw [openSlots]
  split
  · rfl
  · split <;> simp

@[simp] theorem rope_closeSlots (start stop : Nat) : (b.closeSlots start stop).rope = b.rope := by
  rw [closeSlots]
  split
  · rfl
  · dsimp only
    split <;> rfl

@[simp] theorem rope_rotateSlots (start mid stop : Nat) :
    (b.rotateSlots start mid stop).rope = b.rope := rfl

end

/-! ## Lines of the rope -/

variable [Rope R]

/-- The whole text. -/
def contents (b : RopeBuffer R) : Text := Rope.text b.rope

/-- The number of characters of a line, without its break. -/
def contentLength (b : RopeBuffer R) (line : Nat) : Nat := bodyLength (Rope.line b.rope line)

/-- The text of a line, without its break. -/
def text? (b : RopeBuffer R) (line : Nat) : Option Text :=
  if line < b.lineCount then
    let start := Rope.lineStart b.rope line
    some (Rope.slice b.rope start (start + b.contentLength line))
  else none

/-- The texts of the lines from `start` up to but not including `stop`. -/
def textsFrom (b : RopeBuffer R) (start stop : Nat) : List Text :=
  (List.range' start (stop - start)).filterMap b.text?

def texts (b : RopeBuffer R) : List Text := b.textsFrom 0 b.lineCount

/-- Where a position is in the rope. -/
def index (b : RopeBuffer R) (p : Position) : Nat := Rope.lineStart b.rope p.line + p.col

/-! ## New buffers -/

/-- A buffer on a rope before it has slots. -/
def blank (rope : R) (ending : LineEnding) : RopeBuffer R := ⟨rope, [], ending, 0, [], false⟩

/-- A buffer with the lines of a text and the breaks of its first break. The rope says how many lines
there are. -/
def ofText (t : Text) : RopeBuffer R :=
  let rope : R := Rope.ofText (joinLines (.detect t) t.lines)
  (blank rope (.detect t)).openEach 0 (Rope.lineCount rope)

def ofLines (ls : List Text) : RopeBuffer R := ofText (joinLines .lf ls)

/-! ## Effects -/

def insertedText (b : RopeBuffer R) (p : Position) (t : Text) : RopeBuffer R :=
  let pieces := t.lines
  let rope := Rope.insert b.rope (b.index p) (joinLines b.ending pieces)
  (({ b with rope }.touch p.line).openSlots (p.line + 1) (pieces.length - 1)).markModified

/-- The position after a text put in at a position. -/
def afterText (p : Position) (t : Text) : Position :=
  let pieces := t.lines
  let added := pieces.length - 1
  if added = 0 then ⟨p.line, p.col + t.length⟩
  else ⟨p.line + added, (pieces[added]?.getD []).length⟩

def deletedRange (b : RopeBuffer R) (r : Range) : RopeBuffer R :=
  let rope := Rope.remove b.rope (b.index r.start) (b.index r.stop)
  (({ b with rope }.closeSlots (r.start.line + 1) (r.stop.line + 1)).touch r.start.line).markModified

/-- The buffer with another text, without breaks, on a line. -/
def editedLine (b : RopeBuffer R) (line : Nat) (t : Text) : RopeBuffer R :=
  let start := Rope.lineStart b.rope line
  let rope := Rope.insert (Rope.remove b.rope start (start + b.contentLength line)) start t
  ({ b with rope }.touch line).markModified

/-- The buffer with new lines. Behind the last line, the break comes before them. -/
def insertedLines (b : RopeBuffer R) (line : Nat) (pieces : List Text) : RopeBuffer R :=
  let body := joinLines b.ending pieces
  let rope :=
    if line < b.lineCount then Rope.insert b.rope (Rope.lineStart b.rope line) (body ++ b.ending.text)
    else Rope.insert b.rope (Rope.length b.rope) (b.ending.text ++ body)
  ({ b with rope }.openSlots line pieces.length).markModified

/-- The buffer without a block of lines. With the last line, the break before the block goes too. -/
def removedLines (b : RopeBuffer R) (start stop : Nat) : RopeBuffer R :=
  if start = 0 ∧ stop = b.lineCount then
    let none := { b with rope := (Rope.ofText [] : R), slots := [] }.record
      (b.slots.map fun (s : Slot) => Change.removed s.id)
    (none.openSlots 0 1).markModified
  else
    let rope :=
      if stop < b.lineCount then
        Rope.remove b.rope (Rope.lineStart b.rope start) (Rope.lineStart b.rope stop)
      else
        Rope.remove b.rope (Rope.lineStart b.rope (start - 1) + b.contentLength (start - 1))
          (Rope.length b.rope)
    ({ b with rope }.closeSlots start stop).markModified

/-- The buffer with a block of lines turned. -/
def rotatedLines (b : RopeBuffer R) (start mid stop : Nat) : RopeBuffer R :=
  let texts := turned (mid - start) (b.textsFrom start stop)
  let first := Rope.lineStart b.rope start
  let last := Rope.lineStart b.rope (stop - 1) + b.contentLength (stop - 1)
  let rope := Rope.insert (Rope.remove b.rope first last) first (joinLines b.ending texts)
  ({ b with rope }.rotateSlots start mid stop).markModified

/-! ## Checks -/

def lineError? (b : RopeBuffer R) (line : Nat) : Option EditError :=
  if line < b.lineCount then none else some (.lineOutOfRange line b.lineCount)

def positionError? (b : RopeBuffer R) (p : Position) : Option EditError :=
  match b.lineError? p.line with
  | some e => some e
  | none =>
    if b.contentLength p.line < p.col then
      some (.columnOutOfRange p.line p.col (b.contentLength p.line))
    else none

end RopeBuffer

/-! ## Commands -/

namespace RopeEdit

open RopeBuffer

variable {R : Type}

/-- Fails with the error that a check finds. -/
def guardWith (check : RopeBuffer R → Option EditError) : EditM (RopeBuffer R) Unit := do
  match check (← get) with
  | some e => throw e
  | none => pure ()

variable [Rope R]

def insertText (p : Position) (t : Text) : EditM (RopeBuffer R) Position := do
  guardWith (·.positionError? p)
  if t.isEmpty then return p
  modify (·.insertedText p t)
  return afterText p t

def deleteRange (r : Range) : EditM (RopeBuffer R) Text := do
  guardWith (·.positionError? r.start)
  guardWith (·.positionError? r.stop)
  if r.isEmpty then return []
  let b ← get
  let removed := Rope.slice b.rope (b.index r.start) (b.index r.stop)
  modify (·.deletedRange r)
  return removed

def replaceRange (r : Range) (t : Text) : EditM (RopeBuffer R) Position := do
  guardWith (·.positionError? r.stop)
  let _ ← deleteRange r
  insertText r.start t

def setLine (line : Nat) (t : Text) : EditM (RopeBuffer R) Unit := do
  guardWith (·.lineError? line)
  if t.hasBreak then
    let length := (← get).contentLength line
    let _ ← replaceRange (.onLine line 0 length) t
  else
    modify (·.editedLine line t)

def insertLines (line : Nat) (ts : List Text) : EditM (RopeBuffer R) Unit := do
  guardWith fun b => if line ≤ b.lineCount then none else some (.lineOutOfRange line b.lineCount)
  let pieces := ts.flatMap Text.lines
  if pieces.isEmpty then return
  modify (·.insertedLines line pieces)

def removeLines (start stop : Nat) : EditM (RopeBuffer R) (List Text) := do
  guardWith fun b =>
    if start < stop ∧ stop ≤ b.lineCount then none
    else some (.lineOutOfRange (max start stop) b.lineCount)
  let removed := (← get).textsFrom start stop
  modify (·.removedLines start stop)
  return removed

def rotate (start mid stop : Nat) : EditM (RopeBuffer R) Unit := do
  guardWith fun b =>
    if b.lineCount < stop then some (.lineOutOfRange (stop - 1) b.lineCount)
    else if start < mid ∧ mid < stop then none
    else some (.lineOutOfRange mid b.lineCount)
  modify (·.rotatedLines start mid stop)

end RopeEdit
end LogicEditor
