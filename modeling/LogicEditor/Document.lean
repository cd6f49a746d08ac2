import LogicEditor.Buffer.LineCommand
import LogicEditor.Completion
import LogicEditor.Language.Style
import LogicEditor.Language.Tokenize
import LogicEditor.Options
import LogicEditor.Search

/-! # Documents

A document is a buffer with all that is shown of it: tokens, styling, symbols and code line numbers.
`Document.flushed` brings these up to date with the changes that the buffer has logged. It lexes the
lines that are new or have a new text, and no others; lines that only moved get new numbers. Every
command on a document ends with a flush and reports which lines look different or stand elsewhere. -/

namespace LogicEditor

structure StyledLine where
  line : Nat
  spans : List StyledSpan
deriving DecidableEq, Repr

/-- An editing session. -/
structure Document where
  buffer : Buffer
  table : InstructionTable
  symbols : SymbolIndex := {}
  styles : StyleCache LineId := {}
  options : Options := {}
  /-- The code line number of each line; lines without code have none. -/
  codeLines : List (Option Nat) := []

/-- What a command reports: the selection to show, and the lines to paint anew in ascending order. -/
structure Outcome where
  selection : Selection
  repaint : List StyledLine
deriving DecidableEq, Repr

/-- What replacing all matches reports. -/
structure ReplaceOutcome where
  count : Nat
  repaint : List StyledLine
deriving DecidableEq, Repr

/-! ## Code lines -/

/-- Whether a line with these tokens holds code: something besides a comment. -/
def isCode (tokens : List Token) : Bool := tokens.any (·.kind != .comment)

/-- Numbers the code lines from `next` on. -/
def numberCode (next : Nat) : List Bool → List (Option Nat)
  | [] => []
  | true :: ls => some next :: numberCode (next + 1) ls
  | false :: ls => none :: numberCode next ls

namespace Document

/-! ## Following the log -/

/-- The lines with something to do after changes were followed. -/
structure Backlog where
  /-- Lines to be lexed. -/
  dirty : Std.TreeSet LineId := ∅
  /-- Lines with a new number. -/
  moved : Std.TreeSet LineId := ∅

/-- Follows one change: the index gets the new numbers, and what is kept for a removed line is
dropped. -/
def follow (s : Document × Backlog) : Change → Document × Backlog
  | .edited id => (s.1, { s.2 with dirty := s.2.dirty.insert id })
  | .inserted id line =>
    ({ s.1 with symbols := s.1.symbols.track id line }, { s.2 with dirty := s.2.dirty.insert id })
  | .removed id =>
    ({ s.1 with symbols := s.1.symbols.remove id, styles := s.1.styles.forget id },
      { dirty := s.2.dirty.erase id, moved := s.2.moved.erase id })
  | .shifted shifts =>
    ({ s.1 with symbols := s.1.symbols.shift shifts },
      { s.2 with moved := s.2.moved.insertMany (s.1.symbols.movedBy shifts) })

/-- Takes the log of the buffer and follows it. -/
def followLog (d : Document) : Document × Backlog :=
  d.buffer.log.foldl follow ({ d with buffer := d.buffer.clearLog }, {})

/-! ## Restoring what is shown -/

/-- The tokens kept with a line, else those of its text. -/
def tokensOf (d : Document) (l : Line) : List Token := l.tokens?.getD (tokenize d.table l.text)

/-- The tokens of a line; there are none if the line does not exist. -/
def lineTokens (d : Document) (line : Nat) : List Token :=
  (d.buffer.lines[line]?.map d.tokensOf).getD []

/-- The styling kept for a line handle. -/
def spansOf (d : Document) (id : LineId) : List StyledSpan := (d.styles.get? id).getD []

def styling (d : Document) : List StyledLine :=
  d.buffer.ids.zipIdx.map fun p => ⟨p.2, d.spansOf p.1⟩

/-- Lexes the line with a handle. -/
def relex (d : Document) (id : LineId) : Document :=
  match d.symbols.position? id with
  | some line =>
    let text := d.buffer.lineText line
    let tokens := tokenize d.table text
    { d with
      symbols := d.symbols.update id line text tokens
      styles := d.styles.restyle id tokens
      buffer := d.buffer.setTokens line tokens }
  | none => d

/-- The styling of the line with a handle. -/
def styledLine? (d : Document) (id : LineId) : Option StyledLine :=
  (d.symbols.position? id).map fun line => ⟨line, d.spansOf id⟩

/-- Numbers the code lines anew. -/
def renumber (d : Document) : Document :=
  { d with codeLines := numberCode 0 (d.buffer.lines.map fun l => isCode (d.tokensOf l)) }

/-- Lexes the dirty lines and returns the styling of these and of the moved lines, in the order of
their numbers. No line is in both lists. -/
def refresh (d : Document) (dirty moved : List LineId) : Document × List StyledLine :=
  let d := dirty.foldl relex d
  (d.renumber, ((dirty ++ moved).filterMap d.styledLine?).mergeSort fun a b => a.line ≤ b.line)

/-- The document up to date with its buffer, and the lines to paint anew. -/
def flushed (d : Document) : Document × List StyledLine :=
  if d.buffer.log.isEmpty then (d, [])
  else
    let (d, todo) := d.followLog
    d.refresh todo.dirty.toList (todo.moved.toList.filter fun id => !todo.dirty.contains id)

/-! ## Opening -/

/-- Opens a buffer. -/
def ofBuffer (buffer : Buffer) (table : InstructionTable) : Document :=
  (flushed { buffer, table }).1

/-- Opens a text. -/
def ofText (text : Text) (table : InstructionTable) : Document := ofBuffer (.ofText text) table

/-- A summary for diagnosis. -/
def debug (d : Document) : String :=
  "Document \x7b buffer: " ++ d.buffer.debug ++ ", symbols: " ++ toString d.symbols.size ++
    ", styled: " ++ toString d.styles.size ++ ", options: " ++ d.options.debug ++
    ", code_lines: " ++ toString (d.codeLines.filterMap id).length ++ ", .. \x7d"

/-! ## Commands -/

/-- Brings the document up to date and returns the lines to paint anew. -/
def flush : EditM Document (List StyledLine) := do
  let (d, repaint) := (← get).flushed
  set d
  return repaint

/-- Runs a command on the buffer and returns its result, be it an error. -/
def attempt {α : Type} (command : EditM Buffer α) : EditM Document (Except EditError α) := do
  let d ← get
  let (result, buffer) := EditM.outcome command d.buffer
  set { d with buffer }
  return result

/-- Runs a command on the buffer, then flushes. -/
def edit (command : EditM Buffer Selection) : EditM Document Outcome := do
  match ← attempt command with
  | .ok selection => return { selection, repaint := ← flush }
  | .error e => throw e

/-- Puts a text in. The cursor goes to its end. -/
def insertText (p : Position) (text : Text) : EditM Document Outcome :=
  edit (Selection.caret <$> Edit.insertText p text)

/-- Takes the text in a range out. The cursor goes to its place. -/
def deleteRange (r : Range) : EditM Document Outcome :=
  edit do
    let _ ← Edit.deleteRange r
    return .caret r.start

/-- Puts a completion in place of what was typed. The cursor goes to its end. -/
def accept (c : Candidate) : EditM Document Outcome :=
  edit (Selection.caret <$> Edit.replaceRange c.replace c.text.toList)

/-- Puts a text in place of a match, and selects it. -/
def replaceMatch (m : Match) (new : Text) : EditM Document Outcome :=
  edit (Selection.mk m.start <$> Edit.replaceMatch m new)

/-- Puts a text in place of the matches of a pattern, until cancelled after some lines. The lines
that were reached are brought up to date even so. -/
def replaceUntil (pattern new : Text) (cancelled : Option Nat) : EditM Document ReplaceOutcome := do
  let flags := (← get).options.searchFlags
  let result ← attempt (Edit.replaceUntil pattern new flags cancelled)
  let repaint ← flush
  match result with
  | .ok count => return { count, repaint }
  | .error e => throw e

/-- Puts a text in place of all matches of a pattern. -/
def replaceAll (pattern new : Text) (cancelled : Bool := false) : EditM Document ReplaceOutcome :=
  replaceUntil pattern new (if cancelled then some 0 else none)

def deleteLines (sel : Selection) : EditM Document Outcome := edit (Edit.deleteLines sel)

/-- Moves the selected lines up. -/
def moveUp (sel : Selection) : EditM Document Outcome := edit (Edit.moveUp sel)

/-- Moves the selected lines down. -/
def moveDown (sel : Selection) : EditM Document Outcome := edit (Edit.moveDown sel)

/-- Copies the selected lines upwards. -/
def duplicateUp (sel : Selection) : EditM Document Outcome := edit (Edit.duplicateUp sel)

/-- Copies the selected lines downwards. -/
def duplicateDown (sel : Selection) : EditM Document Outcome := edit (Edit.duplicateDown sel)

/-- Comments the selected lines, or uncomments them. -/
def toggleComment (sel : Selection) : EditM Document Outcome := edit (Edit.toggleComment sel)

/-- Puts spaces in up to the next tab stop. -/
def insertTab (sel : Selection) : EditM Document Outcome := do
  edit (Edit.insertTab (← get).options.tabstop sel)

/-- Applies a line of option directives and returns the lines that they show. -/
def setOptions (d : Document) (line : Text) : Except OptionError (List String) × Document :=
  let (result, options) := (ExceptT.run (Options.setLine line)).run d.options
  (result, { d with options })

/-! ## Questions -/

def tokens (line : Nat) : EditM Document (List Token) := do
  let _ ← flush
  let d ← get
  if let some e := d.buffer.lineError? line then throw e
  return d.lineTokens line

def styledLine (line : Nat) : EditM Document (List StyledSpan) := do
  let _ ← flush
  let d ← get
  if let some e := d.buffer.lineError? line then throw e
  return ((d.buffer.id? line).map d.spansOf).getD []

def styledLines : EditM Document (List StyledLine) := do
  let _ ← flush
  return (← get).styling

/-- The code line number of a line, if it holds code. -/
def codeLine (line : Nat) : EditM Document (Option Nat) := do
  let _ ← flush
  let d ← get
  if let some e := d.buffer.lineError? line then throw e
  return d.codeLines[line]?.join

/-- The completions at a position. The column may lie past the end of the line. -/
def complete (p : Position) : EditM Document (List Candidate) := do
  let _ ← flush
  let d ← get
  if let some e := d.buffer.lineError? p.line then throw e
  return completions d.table d.symbols (d.buffer.lineText p.line) (d.lineTokens p.line) p
    d.options.maxCompletions

/-- The next match of a pattern. -/
def find (d : Document) (pattern : Text) (start : Position) (direction : SearchDirection) :
    Except EditError (Option Match) :=
  d.buffer.find pattern start direction d.options.searchFlags

/-- The matches of a pattern in the lines from `first` up to but not including `stop`. -/
def findAll (d : Document) (pattern : Text) (first stop : Nat) : Except EditError (List Match) :=
  d.buffer.findAll pattern first stop d.options.searchFlags

end Document
end LogicEditor
