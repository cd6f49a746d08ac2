import LogicEditor.Proofs.Buffer.Comment
import LogicEditor.Proofs.Buffer.Run

/-!
# All that is asked of a buffer

A task is anything that a buffer can be asked for and that may fail: to change its text, to run a
command on selected lines, to replace matches, to search, to check a position. Every task is sound
(`Buffer.Task.sound`), so whatever a buffer went through, it is well-formed (`Buffer.Lived.wellFormed`).
-/

namespace LogicEditor
namespace Buffer

variable {b c : Buffer}

/-! ## Tasks -/

inductive Task
  | edit (o : Op)
  | deleteLines (sel : Selection)
  | moveUp (sel : Selection)
  | moveDown (sel : Selection)
  | duplicateUp (sel : Selection)
  | duplicateDown (sel : Selection)
  | toggleComment (sel : Selection)
  | insertTab (tab : Nat) (sel : Selection)
  | replaceMatch (m : Match) (new : Text)
  | replaceUntil (pattern new : Text) (flags : SearchFlags) (cancelled : Option Nat)
  | find (pattern : Text) (start : Position) (direction : SearchDirection) (flags : SearchFlags)
  | findAll (pattern : Text) (first stop : Nat) (flags : SearchFlags)
  | checkLine (line : Nat)
  | checkPosition (p : Position)

/-- A question, asked of the buffer as it stands. -/
def ask {α : Type} (question : Buffer → Except EditError α) : EditM Buffer Unit := do
  let _ ← question (← get)

namespace Task

/-- The task, without its result. -/
def run : Task → EditM Buffer Unit
  | .edit o => o.command
  | .deleteLines sel => (fun _ => ()) <$> Edit.deleteLines sel
  | .moveUp sel => (fun _ => ()) <$> Edit.moveUp sel
  | .moveDown sel => (fun _ => ()) <$> Edit.moveDown sel
  | .duplicateUp sel => (fun _ => ()) <$> Edit.duplicateUp sel
  | .duplicateDown sel => (fun _ => ()) <$> Edit.duplicateDown sel
  | .toggleComment sel => (fun _ => ()) <$> Edit.toggleComment sel
  | .insertTab tab sel => (fun _ => ()) <$> Edit.insertTab tab sel
  | .replaceMatch m new => (fun _ => ()) <$> Edit.replaceMatch m new
  | .replaceUntil pattern new flags cancelled =>
    (fun _ => ()) <$> Edit.replaceUntil pattern new flags cancelled
  | .find pattern start direction flags => ask (·.find pattern start direction flags)
  | .findAll pattern first stop flags => ask (·.findAll pattern first stop flags)
  | .checkLine line => Edit.checkLine line
  | .checkPosition p => Edit.checkPosition p

end Task

theorem snd_outcome_ask {α : Type} (question : Buffer → Except EditError α) (b : Buffer) :
    ((ask question).outcome b).2 = b := by
  rw [ask, EditM.outcome_bind, EditM.outcome_get]
  cases h : question b <;> simp only [h] <;> rfl

theorem snd_outcome_guardWith (check : Buffer → Option EditError) (b : Buffer) :
    ((Edit.guardWith check).outcome b).2 = b := by
  rw [Edit.outcome_guardWith]
  cases check b <;> rfl

theorem Task.sound (W : b.WellFormed) (t : Task) : EditM.Sound t.run b := by
  cases t with
  | edit o => exact o.sound W
  | deleteLines sel => exact (Edit.sound_deleteLines W sel).map _
  | moveUp sel => exact (Edit.sound_moveUp sel).map _
  | moveDown sel => exact (Edit.sound_moveDown sel).map _
  | duplicateUp sel => exact (Edit.sound_duplicateUp sel).map _
  | duplicateDown sel => exact (Edit.sound_duplicateDown sel).map _
  | toggleComment sel => exact (Edit.sound_toggleComment W sel).map _
  | insertTab tab sel => exact (Edit.sound_insertTab W tab sel).map _
  | replaceMatch m new => exact (Edit.sound_replaceMatch W m new).map _
  | replaceUntil pattern new flags cancelled =>
    exact (Edit.sound_replaceUntil W pattern new flags cancelled).map _
  | find | findAll => exact .of_unchanged (snd_outcome_ask ..)
  | checkLine | checkPosition => exact .of_unchanged (snd_outcome_guardWith ..)

/-! ## Lives -/

/-- A task is run, be it accepted or rejected, or anything else happens to the buffer. -/
inductive Turn : Buffer → Buffer → Prop
  | task {b : Buffer} (t : Task) : Turn b (t.run.outcome b).2
  | moment {b c : Buffer} (h : Moment b c) : Turn b c

/-- A buffer as it may be after anything that can happen to it since it was made. -/
def Lived (b : Buffer) : Prop := ∃ a, New a ∧ Relation.ReflTransGen Turn a b

theorem Turn.wellFormed (W : b.WellFormed) (H : Turn b c) : c.WellFormed := by
  cases H with
  | task t => exact (t.sound W).wellFormed W
  | moment h => exact h.wellFormed W

theorem Lived.wellFormed (H : Lived b) : b.WellFormed := by
  obtain ⟨a, ha, H⟩ := H
  induction H with
  | refl => exact ha.wellFormed
  | tail _ h ih => exact h.wellFormed ih

end Buffer
end LogicEditor
