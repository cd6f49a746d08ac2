import LogicEditor.Proofs.Buffer.Task
import LogicEditor.Proofs.Document.Revision

/-!
# Failures leave no trace

Whatever is asked of a buffer or of a document, setting options apart, either is done or leaves all as
it was (`Document.unchanged_of_error`). A buffer may be asked at any time, whatever stands in its log. For
a document it matters that nothing is in the log between two commands: a question flushes before it
looks at its arguments, and replacing flushes even if it failed.
-/

namespace LogicEditor
namespace Document

variable {d d' : Document}

/-! ## Requests -/

/-- What can be asked of a document, except to set options. -/
inductive Request
  | revise (r : Revision)
  | replaceUntil (pattern new : Text) (cancelled : Option Nat)
  | flush
  | tokens (line : Nat)
  | styledLine (line : Nat)
  | styledLines
  | codeLine (line : Nat)
  | complete (p : Position)
  | find (pattern : Text) (start : Position) (direction : SearchDirection)
  | findAll (pattern : Text) (first stop : Nat)

/-- A question, asked of the document as it stands. -/
def ask {α : Type} (question : Document → Except EditError α) : EditM Document Unit := do
  let _ ← question (← get)

/-- The request, without its answer. -/
def Request.run : Request → EditM Document Unit
  | .revise r => (fun _ => ()) <$> r.run
  | .replaceUntil pattern new cancelled =>
    (fun _ => ()) <$> Document.replaceUntil pattern new cancelled
  | .flush => (fun _ => ()) <$> Document.flush
  | .tokens line => (fun _ => ()) <$> Document.tokens line
  | .styledLine line => (fun _ => ()) <$> Document.styledLine line
  | .styledLines => (fun _ => ()) <$> Document.styledLines
  | .codeLine line => (fun _ => ()) <$> Document.codeLine line
  | .complete p => (fun _ => ()) <$> Document.complete p
  | .find pattern start direction => ask (·.find pattern start direction)
  | .findAll pattern first stop => ask (·.findAll pattern first stop)

theorem snd_outcome_ask {α : Type} (question : Document → Except EditError α) (d : Document) :
    ((ask question).outcome d).2 = d := by
  rw [ask, EditM.outcome_bind, EditM.outcome_get]
  cases h : question d <;> simp only [h] <;> rfl

/-! ## Failing requests -/

theorem eq_of_edit_error {command : EditM Buffer Selection} (H : EditM.Sound command d.buffer)
    {e : EditError} (h : (edit command).outcome d = (.error e, d')) : d' = d := by
  rw [outcome_edit] at h
  rcases hc : command.outcome d.buffer with ⟨e' | sel, c⟩
  · obtain rfl := H.eq_of_error hc
    rw [hc] at h
    cases h
    rfl
  · rw [hc] at h
    cases h

/-- Replacing flushes even if it failed, but there is nothing to bring up to date then. -/
theorem Idle.eq_of_replaceUntil_error (S : d.Idle) {pattern new : Text}
    {cancelled : Option Nat} {e : EditError}
    (h : (replaceUntil pattern new cancelled).outcome d = (.error e, d')) : d' = d := by
  have H := Edit.sound_replaceUntil (R := Pattern.Program) S.wellFormed pattern new
    d.options.searchFlags cancelled
  rw [outcome_replaceUntil] at h
  rcases hc : (Edit.replaceUntil pattern new d.options.searchFlags cancelled).outcome d.buffer with
    ⟨e' | n, c⟩
  · obtain rfl := H.eq_of_error hc
    rw [hc] at h
    cases h
    exact congrArg Prod.fst (flushed_eq_of_log_eq_nil S.log)
  · rw [hc] at h
    cases h

theorem Idle.eq_of_error (S : d.Idle) {r : Request} {e : EditError}
    (h : r.run.outcome d = (.error e, d')) : d' = d := by
  cases r with
  | revise r =>
    have h := EditM.outcome_map_eq_error.1 h
    rw [Revision.outcome_run] at h
    exact eq_of_edit_error (r.sound S.wellFormed _) h
  | replaceUntil pattern new cancelled =>
    exact S.eq_of_replaceUntil_error (EditM.outcome_map_eq_error.1 h)
  | flush | styledLines => cases h
  | tokens line | styledLine line | codeLine line =>
    have h := EditM.outcome_map_eq_error.1 h
    exact (congrArg Prod.snd h).symm.trans (snd_outcome_question_of_log S.log line _)
  | complete p =>
    have h := EditM.outcome_map_eq_error.1 h
    exact (congrArg Prod.snd h).symm.trans (snd_outcome_question_of_log S.log p.line _)
  | find | findAll => exact (congrArg Prod.snd h).symm.trans (snd_outcome_ask ..)

/-- What fails leaves all as it was: of a buffer its lines with their handles and tokens, its log, its
breaks and whether it is modified; of a document also its symbols, styling, code lines and options. An
overflow is no failure that somebody is told of, but the end of the program. -/
theorem unchanged_of_error :
    (∀ b : Buffer, b.Lived → ∀ (t : Buffer.Task) e c, e ≠ .overflow →
      t.run.outcome b = (.error e, c) → c = b) ∧
    ∀ d, Session d → ∀ (r : Request) e d', e ≠ .overflow →
      r.run.outcome d = (.error e, d') → d' = d := by
  refine ⟨fun b H t e c _ h => ?_, fun d S r e d' _ h => ?_⟩
  · exact (t.sound H.wellFormed).eq_of_error h
  · exact S.idle.eq_of_error h

/-- A tab in place of a selection that ends on no line, while a change waits in the log, and a match
that ends past the end of its line. -/
theorem unchanged_of_error_outside :
    let b := Buffer.Op.apply (.insertText ⟨0, 1⟩ "x".toList) (.ofText "a\nb".toList)
    let t := Buffer.Task.insertTab 4 ⟨⟨0, 1⟩, ⟨2, 0⟩⟩
    let d := ofBuffer b .stock
    let r := Request.revise (.replaceMatch ⟨⟨0, 1⟩, 2⟩ "y".toList)
    b.log ≠ [] ∧ t.run.outcome b = (.error (.lineOutOfRange 2 2), b) ∧
      r.run.outcome d = (.error (.columnOutOfRange 0 3 2), d) := by
  intro b t d r
  have hnew : Buffer.New (.ofText "a\nb".toList) := .ofText _ (by decide)
  have hop : Buffer.OpStep (.ofText "a\nb".toList) b :=
    .apply (.insertText ⟨0, 1⟩ "x".toList) (by decide)
  have hb : b.Lived := ⟨_, hnew, .single (.moment (.event (.op hop)))⟩
  have hd : Session d := .opened ⟨_, hnew, .single (.event (.op hop))⟩ .stock
  have ht : t.run.outcome b = (.error (.lineOutOfRange 2 2), (t.run.outcome b).2) :=
    Prod.ext (by decide) rfl
  have hr : r.run.outcome d = (.error (.columnOutOfRange 0 3 2), (r.run.outcome d).2) :=
    Prod.ext (by decide +kernel) rfl
  refine ⟨by decide, ?_, ?_⟩
  · rw [ht, unchanged_of_error.1 b hb t _ _ (by decide) ht]
  · rw [hr, unchanged_of_error.2 d hd r _ _ (by decide) hr]

end Document
end LogicEditor
