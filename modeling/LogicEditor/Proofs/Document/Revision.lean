import LogicEditor.Proofs.Document.Session

/-!
# Revisions

The commands that change a document and hand back a selection. A revision is a sound command on the
buffer (`Document.Revision.sound`) followed by a flush (`Document.Revision.outcome_run`), so what is to
be known of all revisions is proved about commands on buffers.
-/

namespace LogicEditor
namespace Document

variable {d d' : Document} {table : InstructionTable}

/-- A command that changes a document and hands back a selection. -/
inductive Revision
  | insertText (p : Position) (text : Text)
  | deleteRange (r : Range)
  | accept (candidate : Candidate)
  | replaceMatch (m : Match) (new : Text)
  | deleteLines (sel : Selection)
  | moveUp (sel : Selection)
  | moveDown (sel : Selection)
  | duplicateUp (sel : Selection)
  | duplicateDown (sel : Selection)
  | toggleComment (sel : Selection)
  | insertTab (sel : Selection)
deriving DecidableEq

namespace Revision

def run : Revision → EditM Document Outcome
  | .insertText p text => Document.insertText p text
  | .deleteRange r => Document.deleteRange r
  | .accept candidate => Document.accept candidate
  | .replaceMatch m new => Document.replaceMatch m new
  | .deleteLines sel => Document.deleteLines sel
  | .moveUp sel => Document.moveUp sel
  | .moveDown sel => Document.moveDown sel
  | .duplicateUp sel => Document.duplicateUp sel
  | .duplicateDown sel => Document.duplicateDown sel
  | .toggleComment sel => Document.toggleComment sel
  | .insertTab sel => Document.insertTab sel

/-- What the revision does to the buffer, with a tab stop every `tab` columns. -/
def command (tab : Nat) : Revision → EditM Buffer Selection
  | .insertText p text => Selection.caret <$> Edit.insertText p text
  | .deleteRange r => (fun _ => .caret r.start) <$> Edit.deleteRange r
  | .accept candidate => Selection.caret <$> Edit.replaceRange candidate.replace candidate.text.toList
  | .replaceMatch m new => Selection.mk m.start <$> Edit.replaceMatch m new
  | .deleteLines sel => Edit.deleteLines sel
  | .moveUp sel => Edit.moveUp sel
  | .moveDown sel => Edit.moveDown sel
  | .duplicateUp sel => Edit.duplicateUp sel
  | .duplicateDown sel => Edit.duplicateDown sel
  | .toggleComment sel => Edit.toggleComment sel
  | .insertTab sel => Edit.insertTab tab sel

theorem outcome_run (r : Revision) (d : Document) :
    r.run.outcome d = (edit (r.command d.options.tabstop)).outcome d := by
  cases r with
  | deleteRange r =>
    rw [run, Document.deleteRange, command, map_eq_pure_bind]
  | insertTab sel => exact outcome_insertTab sel d
  | _ => rfl

theorem sound {b : Buffer} (W : b.WellFormed) (tab : Nat) (r : Revision) :
    EditM.Sound (r.command tab) b := by
  cases r with
  | insertText p text => exact (Edit.sound_insertText W p text).map _
  | deleteRange r => exact (Edit.sound_deleteRange W r).map _
  | accept candidate => exact (Edit.sound_replaceRange W _ _).map _
  | replaceMatch m new => exact (Edit.sound_replaceMatch W m new).map _
  | deleteLines sel => exact Edit.sound_deleteLines W sel
  | moveUp sel => exact Edit.sound_moveUp sel
  | moveDown sel => exact Edit.sound_moveDown sel
  | duplicateUp sel => exact Edit.sound_duplicateUp sel
  | duplicateDown sel => exact Edit.sound_duplicateDown sel
  | toggleComment sel => exact Edit.sound_toggleComment W sel
  | insertTab sel => exact Edit.sound_insertTab W tab sel

/-- An accepted revision is an accepted command on the buffer, and then a flush. -/
theorem exists_of_run {r : Revision} {o : Outcome} (h : r.run.outcome d = (.ok o, d')) :
    ∃ c, (r.command d.options.tabstop).outcome d.buffer = (.ok o.selection, c) ∧
      o.repaint = (flushed { d with buffer := c }).2 ∧ d' = (flushed { d with buffer := c }).1 := by
  rw [outcome_run, outcome_edit] at h
  rcases hc : (r.command d.options.tabstop).outcome d.buffer with ⟨_ | sel, c⟩
  · rw [hc] at h
    cases h
  · rw [hc] at h
    cases h
    exact ⟨c, rfl, rfl, rfl⟩

end Revision
end Document
end LogicEditor
