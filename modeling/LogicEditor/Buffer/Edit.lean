import LogicEditor.Buffer.Basic
import LogicEditor.Pattern.Syntax

/-! # Editing commands

A command runs on a state and leaves a state behind, whether it succeeds or fails (`EditM`). The
commands on buffers check their positions and line numbers before they change anything. -/

namespace LogicEditor

/-- Why a command fails. -/
inductive EditError
  /-- There is no line with this number. -/
  | lineOutOfRange (line lineCount : Nat)
  /-- The line has fewer characters. -/
  | columnOutOfRange (line col length : Nat)
  /-- The search pattern is no regular expression. -/
  | invalidPattern (cause : Pattern.PatternError)
  /-- A number that the command takes is no index, or a text would be too long. No caller gets this
  error: the program stops and nothing is left of what it worked on, so the command is taken to have
  done nothing. -/
  | overflow
deriving DecidableEq, Repr

namespace EditError

/-- The text shown for the error. -/
def message : EditError → String
  | .lineOutOfRange line lineCount =>
    "line " ++ toString line ++ " is out of range (buffer has " ++ toString lineCount ++ " lines)"
  | .columnOutOfRange line col length =>
    "column " ++ toString col ++ " is out of range on line " ++ toString line ++ " (" ++
      toString length ++ " chars)"
  | .invalidPattern cause => "invalid search pattern: " ++ cause.message
  | .overflow => "arithmetic overflow"

/-- Whether a position or line number was at fault. -/
def isOutOfRange : EditError → Bool
  | .lineOutOfRange .. | .columnOutOfRange .. => true
  | .invalidPattern _ | .overflow => false

end EditError

/-- A command that changes a state of type `σ` and may fail. -/
abbrev EditM (σ : Type) := ExceptT EditError (StateM σ)

namespace EditM

variable {σ α : Type}

/-- What a command returns and what it leaves behind. -/
def outcome (command : EditM σ α) (s : σ) : Except EditError α × σ := (ExceptT.run command).run s

/-- What a command returns. -/
def result (command : EditM σ α) (s : σ) : Except EditError α := (command.outcome s).1

end EditM

namespace Buffer

/-! ## Checks -/

/-- What is wrong with a line number. -/
def lineError? (b : Buffer) (line : Nat) : Option EditError :=
  if line < b.lineCount then none else some (.lineOutOfRange line b.lineCount)

/-- What is wrong with a position. -/
def positionError? (b : Buffer) (p : Position) : Option EditError :=
  match b.text? p.line with
  | none => some (.lineOutOfRange p.line b.lineCount)
  | some t => if p.col ≤ t.length then none else some (.columnOutOfRange p.line p.col t.length)

/-- Whether a column of a line is no index. A column on the line always is one, as no line is that
long. -/
def columnOverflows (t : Text) (col : Nat) : Bool := decide (t.length < col ∧ maxIndex < col)

end Buffer

namespace Edit

open Buffer

/-- Fails with the error that a check finds. -/
def guardWith (check : Buffer → Option EditError) : EditM Buffer Unit := do
  match check (← get) with
  | some e => throw e
  | none => pure ()

/-- Stops the program if a number that is computed is too large. -/
def stopIf (tooLarge : Bool) : EditM Buffer Unit :=
  if tooLarge then throw .overflow else pure ⟨⟩

/-- Fails unless the line exists. -/
def checkLine (line : Nat) : EditM Buffer Unit := guardWith (·.lineError? line)

/-- Fails unless the position exists; the end of a line is a position. -/
def checkPosition (p : Position) : EditM Buffer Unit := guardWith (·.positionError? p)

end Edit

/-! ## Effects

What the commands do once their arguments have been checked. -/

namespace Buffer

/-- The buffer with a text put in at a position. The line at the position keeps its handle; what
follows a break of the text goes to new lines below. -/
def insertedText (b : Buffer) (p : Position) (text : Text) : Buffer :=
  let old := b.lineText p.line
  match Text.lines text with
  | [] => b
  | [piece] => (b.editLine p.line (old.take p.col ++ piece ++ old.drop p.col)).markModified
  | piece :: pieces =>
    ((b.editLine p.line (old.take p.col ++ piece)).openLines (p.line + 1)
      (pieces.dropLast ++ [pieces.getLastD [] ++ old.drop p.col])).markModified

/-- The position after a text put in at a position. -/
def afterText (p : Position) (text : Text) : Position :=
  match Text.lines text with
  | [] => p
  | [piece] => ⟨p.line, p.col + piece.length⟩
  | _ :: pieces => ⟨p.line + pieces.length, (pieces.getLastD []).length⟩

/-- The text in a range, with the breaks of the buffer. -/
def textIn (b : Buffer) (r : Range) : Text :=
  if r.start.line = r.stop.line then (b.lineText r.start.line).slice r.start.col r.stop.col
  else
    Text.joinLines b.ending
      ((b.lineText r.start.line).drop r.start.col ::
        ((b.texts.take r.stop.line).drop (r.start.line + 1) ++
          [(b.lineText r.stop.line).take r.stop.col]))

/-- The buffer without the text in a range. The first line of the range keeps its handle. -/
def deletedRange (b : Buffer) (r : Range) : Buffer :=
  let joined := (b.lineText r.start.line).take r.start.col ++ (b.lineText r.stop.line).drop r.stop.col
  ((b.closeLines (r.start.line + 1) (r.stop.line + 1)).editLine r.start.line joined).markModified

end Buffer

namespace Edit

open Buffer

/-! ## Characters -/

/-- Puts a text in at a position and returns the position after it. Breaks of any style become
breaks of the buffer. -/
def insertText (p : Position) (text : Text) : EditM Buffer Position := do
  checkPosition p
  if text.isEmpty then return p
  modify (·.insertedText p text)
  return afterText p text

/-- Takes the text in a range out and returns it. -/
def deleteRange (r : Range) : EditM Buffer Text := do
  checkPosition r.start
  checkPosition r.stop
  if r.isEmpty then return []
  let removed := (← get).textIn r
  modify (·.deletedRange r)
  return removed

/-- Puts a text in place of the text in a range and returns the position after it. -/
def replaceRange (r : Range) (text : Text) : EditM Buffer Position := do
  checkPosition r.stop
  let _ ← deleteRange r
  insertText r.start text

/-! ## Lines -/

/-- Gives a line another text. If the text has breaks, the line keeps what comes before the first,
and new lines follow. -/
def setLine (line : Nat) (text : Text) : EditM Buffer Unit := do
  checkLine line
  if text.hasBreak then
    let length := ((← get).lineText line).length
    let _ ← replaceRange (.onLine line 0 length) text
  else
    modify fun b => (b.editLine line text).markModified

/-- Puts new lines before line `line`; the number of lines puts them at the end. -/
def insertLines (line : Nat) (texts : List Text) : EditM Buffer Unit := do
  guardWith fun b => if line ≤ b.lineCount then none else some (.lineOutOfRange line b.lineCount)
  let pieces := texts.flatMap Text.lines
  if pieces.isEmpty then return
  modify fun b => (b.openLines line pieces).markModified

/-- Takes the lines from `start` up to but not including `stop` out and returns their texts. At least
one line must be taken. If none is left, a new empty one takes their place. -/
def removeLines (start stop : Nat) : EditM Buffer (List Text) := do
  guardWith fun b =>
    if start < stop ∧ stop ≤ b.lineCount then none
    else some (.lineOutOfRange (max start stop) b.lineCount)
  let b ← get
  let rest := b.closeLines start stop
  set (if rest.lines.isEmpty then rest.openLines 0 [[]] else rest).markModified
  return (b.texts.take stop).drop start

/-- Exchanges the lines from `start` to `mid` with those from `mid` to `stop`. Both blocks must have a
line. -/
def rotate (start mid stop : Nat) : EditM Buffer Unit := do
  guardWith fun b =>
    if b.lineCount < stop then some (.lineOutOfRange (stop - 1) b.lineCount)
    else if start < mid ∧ mid < stop then none
    else some (.lineOutOfRange mid b.lineCount)
  modify fun b => (b.rotateLines start mid stop).markModified

end Edit
end LogicEditor
