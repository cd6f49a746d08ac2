import LogicEditor.Buffer.Change
import LogicEditor.Language.Token
import LogicEditor.Position
import LogicEditor.Text.LineBreak

/-! # Buffers

A buffer is a list of lines, each with its handle, its text and, until the text changes, the tokens
that somebody lexed from it. There is always at least one line, and no text has a line break; the
breaks are all of one style, that of the text the buffer was made from.

All editing comes down to four steps: `Buffer.editLine` gives a line another text,
`Buffer.openLines` makes room for new lines, `Buffer.closeLines` takes lines away, and
`Buffer.rotateLines` exchanges neighbouring blocks. Each step keeps the log of changes. -/

namespace LogicEditor

/-- A line of a buffer. -/
structure Line where
  id : LineId
  text : Text
  tokens? : Option (List Token) := none
deriving DecidableEq, Repr

/-- A text under editing. -/
structure Buffer where
  lines : List Line
  ending : LineEnding
  /-- The handle that the next new line gets. -/
  nextId : LineId
  /-- The changes since the log was last drained, oldest first. -/
  log : List Change
  /-- Whether something changed since the buffer was made or last saved. -/
  isModified : Bool
deriving DecidableEq, Repr

namespace Buffer

/-! ## Views -/

/-- The number of lines. -/
def lineCount (b : Buffer) : Nat := b.lines.length

def texts (b : Buffer) : List Text := b.lines.map (·.text)

/-- The handles of all lines. -/
def ids (b : Buffer) : List LineId := b.lines.map (·.id)

def text? (b : Buffer) (line : Nat) : Option Text := b.lines[line]?.map (·.text)

/-- The text of a line, empty if there is no such line. -/
def lineText (b : Buffer) (line : Nat) : Text := (b.text? line).getD []

/-- The handle of a line. -/
def id? (b : Buffer) (line : Nat) : Option LineId := b.lines[line]?.map (·.id)

/-- The number of the line with a handle. -/
def indexOf? (b : Buffer) (id : LineId) : Option Nat := b.lines.findIdx? (·.id == id)

/-- The tokens kept with a line. -/
def tokens? (b : Buffer) (line : Nat) : Option (List Token) := b.lines[line]?.bind (·.tokens?)

/-- The whole text. -/
def contents (b : Buffer) : Text := Text.joinLines b.ending b.texts

/-- A summary for diagnosis. -/
def debug (b : Buffer) : String :=
  "TextBuffer \x7b lines: " ++ toString b.lineCount ++ ", chars: " ++ toString b.contents.length ++
    ", line_ending: " ++ b.ending.debug ++ ", modified: " ++ toString b.isModified ++
    ", pending_changes: " ++ toString b.log.length ++ ", .. \x7d"

/-! ## Steps -/

/-- Puts changes at the end of the log. -/
def record (b : Buffer) (changes : List Change) : Buffer := { b with log := b.log ++ changes }

/-- Marks the buffer as changed. -/
def markModified (b : Buffer) : Buffer := { b with isModified := true }

/-- New lines with these texts, with handles from `id` on. -/
def freshLines (id : LineId) : List Text → List Line
  | [] => []
  | t :: ts => { id, text := t } :: freshLines (id + 1) ts

/-- The changes that report new lines from number `line` on. -/
def insertions (line : Nat) : List Line → List Change
  | [] => []
  | l :: ls => .inserted l.id line :: insertions (line + 1) ls

/-- Gives a line another text. Its tokens are no longer valid. -/
def editLine (b : Buffer) (line : Nat) (text : Text) : Buffer :=
  match b.lines[line]? with
  | some l =>
    { b with lines := b.lines.set line { id := l.id, text } }.record [.edited l.id]
  | none => b

/-- Puts new lines with these texts before line `line`. -/
def openLines (b : Buffer) (line : Nat) (texts : List Text) : Buffer :=
  if texts.isEmpty then b
  else
    let new := freshLines b.nextId texts
    let moved : List Change :=
      if line < b.lineCount then [.shifted [.onward line texts.length]] else []
    { b with
      lines := b.lines.take line ++ new ++ b.lines.drop line
      nextId := b.nextId + texts.length }.record (moved ++ insertions line new)

/-- Takes away the lines from `start` up to but not including `stop`. -/
def closeLines (b : Buffer) (start stop : Nat) : Buffer :=
  let old := (b.lines.take stop).drop start
  if old.isEmpty then b
  else
    let moved : List Change :=
      if stop < b.lineCount then [.shifted [.onward stop (-(old.length : Int))]] else []
    { b with lines := b.lines.take start ++ b.lines.drop stop }.record
      (old.map (fun (l : Line) => Change.removed l.id) ++ moved)

/-- Exchanges the lines from `start` to `mid` with those from `mid` to `stop`. -/
def rotateLines (b : Buffer) (start mid stop : Nat) : Buffer :=
  let upper := (b.lines.take mid).drop start
  let lower := (b.lines.take stop).drop mid
  { b with lines := b.lines.take start ++ (lower ++ upper) ++ b.lines.drop stop }.record
    [.shifted [⟨mid, stop, -((mid - start : Nat) : Int)⟩, ⟨start, mid, ((stop - mid : Nat) : Int)⟩]]

/-- Keeps tokens with a line. There may be no such line. -/
def setTokens (b : Buffer) (line : Nat) (tokens : List Token) : Buffer :=
  { b with lines := b.lines.modify line fun l => { l with tokens? := some tokens } }

/-- Forgets the log. -/
def clearLog (b : Buffer) : Buffer := { b with log := [] }

/-- Declares the present text as saved. -/
def markSaved (b : Buffer) : Buffer := { b with isModified := false }

/-! ## New buffers -/

/-- A buffer with the lines of a text and the breaks of its first break. Every line is reported as
new. -/
def ofText (t : Text) : Buffer :=
  { lines := [], ending := .detect t, nextId := 0, log := [], isModified := false : Buffer }.openLines
    0 t.lines

/-- A buffer with these lines; a line with breaks in it becomes several. -/
def ofLines (ls : List Text) : Buffer := ofText (Text.joinLines .lf ls)

end Buffer
end LogicEditor
