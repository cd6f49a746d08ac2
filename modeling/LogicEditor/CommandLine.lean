import LogicEditor.Document
import LogicEditor.Language.Description
import LogicEditor.Language.Stock
import LogicEditor.Text.Quoted

/-! # Command line

What the program answers to its arguments and the files they name. Commands write their output
line by line, and an invocation that fails ends with a message. Files are only read: the replacing
command shows the new text. The system passes arguments that need not be texts; the program stops at
the first of these that it comes to. -/

namespace LogicEditor

/-- Why a file cannot be read. -/
inductive FileError
  /-- The file is no text in UTF-8. -/
  | notText
  /-- The system refuses, with a reason and its number. -/
  | system (reason : String) (code : Nat)
deriving DecidableEq, Repr

/-- The text shown for the error. -/
def FileError.message : FileError → String
  | .notText => "stream did not contain valid UTF-8"
  | .system reason code => reason ++ " (os error " ++ toString code ++ ")"

/-- The error of a file that does not exist. -/
def FileError.missing : FileError := .system "No such file or directory" 2

/-- An argument as the system passes it. -/
inductive CommandArgument
  | text (s : String)
  /-- The argument is no text in Unicode. -/
  | notText
deriving DecidableEq, Repr

/-- Why an invocation fails. -/
inductive CommandError
  /-- The program comes to an argument that is no text. -/
  | argument
  /-- The arguments make no invocation. -/
  | usage (message : String)
  | file (path : String) (cause : FileError)
  | description (path : String) (cause : TableError)
  | edit (cause : EditError)
  | option (cause : OptionError)
deriving DecidableEq, Repr

/-- How the program is called. -/
def usageText : String :=
  "usage: mlog-edit [-s DIRECTIVES] [--syntax FILE] <command> FILE [ARGS]\n\n" ++
  "commands:\n" ++
  "  highlight FILE                       print style tags and code line numbers\n" ++
  "  symbols FILE                         list labels and variables\n" ++
  "  complete FILE LINE COL               completion candidates (1-indexed)\n" ++
  "  find FILE PATTERN                    list every match\n" ++
  "  replace FILE PATTERN REPLACEMENT     print the text with all matches replaced"

/-- Whether the program stops at the error, without a message of its own. -/
def CommandError.isStop : CommandError → Bool
  | .argument | .edit .overflow => true
  | _ => false

/-- The text shown for the error. -/
def CommandError.message : CommandError → String
  | .argument => "argument is not valid Unicode"
  | .usage message => message ++ "\n\n" ++ usageText
  | .file path cause => path ++ ": " ++ cause.message
  | .description path cause => path ++ ": " ++ cause.message
  | .edit cause => cause.message
  | .option cause => cause.message

/-! ## Arguments -/

/-- What the arguments ask for. -/
structure Invocation where
  /-- Lines of option directives. -/
  directives : List String
  /-- The file with the syntax description, in place of the stock instructions. -/
  syntaxFile? : Option String
  command : String
  file : String
  arguments : List String
deriving DecidableEq, Repr

namespace Invocation

/-- Whether an argument is written as an option. -/
def isOption (arg : String) : Bool := arg.toList.head? == some '-'

/-- The texts of arguments that are texts. -/
def textsOf : List CommandArgument → Except CommandError (List String)
  | [] => .ok []
  | .notText :: _ => .error .argument
  | .text s :: rest => (textsOf rest).map (s :: ·)

/-- Reads options up to the first argument that is none; the rest is the command. An option that is
wrong is reported before the arguments behind it are looked at. -/
def ofOptions (directives : List String) (syntaxFile? : Option String) :
    List CommandArgument → Except CommandError Invocation
  | [] => .error (.usage "missing command or file")
  | .notText :: _ => .error .argument
  | .text arg :: rest =>
    if arg = "-s" ∨ arg = "--set" then
      match rest with
      | .text value :: rest => ofOptions (directives ++ [value]) syntaxFile? rest
      | .notText :: _ => .error .argument
      | [] => .error (.usage "--set needs a value")
    else if arg = "--syntax" then
      match rest with
      | .text file :: rest => ofOptions directives (some file) rest
      | .notText :: _ => .error .argument
      | [] => .error (.usage "--syntax needs a file")
    else if arg = "-h" ∨ arg = "--help" then .error (.usage "")
    else if isOption arg then .error (.usage ("unknown option " ++ arg))
    else
      match textsOf rest with
      | .ok (file :: arguments) => .ok { directives, syntaxFile?, command := arg, file, arguments }
      | .ok [] => .error (.usage "missing command or file")
      | .error e => .error e

/-- The invocation that the arguments make. -/
def ofArguments (args : List CommandArgument) : Except CommandError Invocation :=
  ofOptions [] none args

/-- The files that the invocation reads. -/
def files (i : Invocation) : List String := i.syntaxFile?.toList ++ [i.file]

end Invocation

/-! ## Reports -/

namespace Report

/-- A text with blanks put before it to fill four columns. -/
def aligned (s : String) : String := String.ofList (List.replicate (4 - s.length) ' ') ++ s

def span (text : Text) (s : StyledSpan) : String :=
  "[" ++ s.tag.name ++ " " ++ String.ofList (text.sliceSpan s.span) ++ "]"

/-- A line with its number, its code line number and its styling. -/
def styledLine (d : Document) (s : StyledLine) : String :=
  let code := ((d.codeLines[s.line]?.join).map toString).getD ""
  aligned (toString (s.line + 1)) ++ " " ++ aligned code ++ ": " ++
    " ".intercalate (s.spans.map (span (d.buffer.lineText s.line)))

/-- A symbol with the lines that define it and mention it. -/
def symbol (s : Symbol) : String :=
  s.name ++ "\t" ++ s.kind.name ++
    "\tdef " ++ ((s.definingLine?.map fun line => toString (line + 1)).getD "-") ++
    "\trefs " ++ ",".intercalate (s.references.map fun line => toString (line + 1))

/-- A completion. -/
def candidate (c : Candidate) : String :=
  c.text ++ "\t" ++ c.kind.name ++ "\t" ++ toString c.score ++ "\t" ++ c.detail?.getD ""

/-- A match with the line it is on. -/
def found (d : Document) (m : Match) : String :=
  m.start.display ++ "\t" ++ String.ofList (d.buffer.lineText m.start.line)

end Report

/-! ## Output -/

/-- What the program has written, and its exit code. -/
structure Reply where
  stdout : String := ""
  stderr : String := ""
  code : Nat := 0
deriving DecidableEq, Repr

/-- What the program writes first to standard error. -/
def diagnostic (message : String) : String := "mlog-edit: " ++ message ++ "\n"

/-- A part of the program. What it writes before it fails stays written. -/
abbrev ProgramM := ExceptT CommandError (StateM Reply)

namespace ProgramM

/-- What a part of the program returns and what it leaves behind. -/
def outcome {α : Type} (part : ProgramM α) (r : Reply) : Except CommandError α × Reply :=
  (ExceptT.run part).run r

def print (s : String) : ProgramM Unit := modify fun r => { r with stdout := r.stdout ++ s }

def eprint (s : String) : ProgramM Unit := modify fun r => { r with stderr := r.stderr ++ s }

/-- Writes lines one after the other. -/
def printLines : List String → ProgramM Unit
  | [] => pure ⟨⟩
  | l :: ls => do
    print (l ++ "\n")
    printLines ls

end ProgramM

/-! ## Commands -/

namespace Invocation

open ProgramM

/-- The error of an argument that names no index. -/
def indexError (what value : String) : CommandError :=
  .usage (what ++ " must be a positive number, got " ++ String.ofList (Text.quoted value.toList))

/-- The index named by an argument that counts from 1. -/
def index (what value : String) : Except CommandError Nat :=
  match Text.index? value.toList with
  | some (n + 1) => .ok n
  | _ => .error (indexError what value)

def readFile (read : String → Except FileError Text) (path : String) : Except CommandError Text :=
  (read path).mapError (.file path)

/-- The instruction table that the invocation asks for. -/
def table (i : Invocation) (read : String → Except FileError Text) :
    Except CommandError InstructionTable :=
  match i.syntaxFile? with
  | some path => do
    let source ← readFile read path
    (InstructionTable.ofDescription source).mapError (.description path)
  | none => .ok .stock

/-- Applies lines of option directives to a document. -/
def applyDirectives (d : Document) : List String → Except CommandError Document
  | [] => .ok d
  | line :: lines => do
    let (shown, d) := d.setOptions line.toList
    let _ ← shown.mapError .option
    applyDirectives d lines

/-- Opens the document that the invocation names. -/
def document (i : Invocation) (read : String → Except FileError Text) :
    Except CommandError Document := do
  let table ← i.table read
  let text ← readFile read i.file
  applyDirectives (.ofText text table) i.directives

/-- The result of an editing command as one of the program. -/
def ofEdit {α : Type} (result : Except EditError α) : Except CommandError α := result.mapError .edit

/-- Runs the command on an open document. -/
def perform (i : Invocation) (d : Document) : ProgramM Unit := do
  match i.command, i.arguments with
  | "highlight", [] => printLines (d.styling.map (Report.styledLine d))
  | "symbols", [] => printLines (d.symbols.all.map Report.symbol)
  | "complete", [line, col] =>
    let line ← index "LINE" line
    let col ← index "COL" col
    let cs ← ofEdit ((Document.complete ⟨line, col⟩).result d)
    printLines (cs.map Report.candidate)
  | "find", [pattern] =>
    let ms ← ofEdit (d.findAll pattern.toList 0 d.buffer.lineCount)
    printLines (ms.map (Report.found d))
  | "replace", [pattern, new] =>
    let (result, d) := (Document.replaceAll pattern.toList new.toList).outcome d
    let r ← ofEdit result
    eprint (diagnostic (toString r.count ++ " replacement(s)"))
    print (String.ofList d.buffer.contents)
  | command, _ =>
    throw (.usage ("bad arguments for " ++ String.ofList (Text.quoted command.toList)))

end Invocation

/-- Runs the program on its arguments, given the files. -/
def program (args : List CommandArgument) (read : String → Except FileError Text) :
    ProgramM Unit := do
  let i ← Invocation.ofArguments args
  let d ← i.document read
  i.perform d

/-- The reply to arguments. The message of a failure comes after what was written before it. Where
the program stops, what the system reports of that is not part of the reply. -/
def reply (args : List CommandArgument) (read : String → Except FileError Text) : Reply :=
  match (program args read).outcome {} with
  | (.ok _, r) => r
  | (.error e, r) =>
    if e.isStop then { r with code := 101 }
    else { r with stderr := r.stderr ++ diagnostic e.message, code := 1 }

end LogicEditor
