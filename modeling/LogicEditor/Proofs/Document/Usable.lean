import LogicEditor.Proofs.Buffer.Comment
import LogicEditor.Proofs.Document.Revision

/-!
# Selections handed back

A revision of positions that exist hands back a selection, for the front end to show and for the next
command to work on. Both of its ends exist, save in one case: lines that are moved down to the very end
of the text push a selection that ends below them past the last line (`Document.holds_selection_iff`).
-/

namespace LogicEditor
namespace Document

variable {d d' : Document} {b c : Buffer}

namespace Revision

/-- All positions that the revision is given exist. -/
def Within (b : Buffer) : Revision → Prop
  | .insertText p _ => b.positionError? p = none
  | .deleteRange r => b.positionError? r.start = none ∧ b.positionError? r.stop = none
  | .accept candidate =>
    b.positionError? candidate.replace.start = none ∧ b.positionError? candidate.replace.stop = none
  | .replaceMatch m _ => b.positionError? m.range.start = none ∧ b.positionError? m.range.stop = none
  | .deleteLines sel | .moveUp sel | .moveDown sel | .duplicateUp sel | .duplicateDown sel
  | .toggleComment sel | .insertTab sel => b.Holds sel

/-- Lines are moved down below which the selection ends, and there is no second line behind them. -/
def Overshoots (b : Buffer) : Revision → Prop
  | .moveDown sel => sel.EndsBelow ∧ sel.range.stop.line + 1 = b.lineCount
  | _ => False

/-- A text put in place of a range that exists ends at a position. -/
theorem positionError?_replaced {r : Range} (hs : b.positionError? r.start = none) (t : Text) :
    ((b.withoutRange r).withText r.start t).positionError? (Buffer.afterInsert r.start t) = none :=
  (Buffer.position_afterInsert (Buffer.positionError?_withoutRange hs) t).1

theorem holds_command_iff {tab : Nat} {r : Revision} {o : Selection} (W : b.WellFormed) (F : b.Fits)
    (hr : r.Within b) (h : (r.command tab).outcome b = (.ok o, c)) (F' : c.Fits) :
    c.Holds o ↔ ¬r.Overshoots b := by
  cases r with
  | moveDown sel => exact Edit.holds_of_moveDown_iff hr F h
  | insertText p t =>
    have hp : b.positionError? p = none := hr
    rw [command, EditM.outcome_map, Edit.outcome_insertText, hp] at h
    cases h
    exact iff_of_true (Buffer.holds_caret.2 (Buffer.position_afterInsert hp t).1) not_false
  | deleteRange r =>
    rw [command, EditM.outcome_map, Edit.outcome_deleteRange, hr.1, hr.2] at h
    cases h
    exact iff_of_true (Buffer.holds_caret.2 (Buffer.positionError?_withoutRange hr.1)) not_false
  | accept candidate =>
    rw [command, EditM.outcome_map, Edit.outcome_replaceRange_of_valid _ hr.1 hr.2] at h
    cases h
    exact iff_of_true (Buffer.holds_caret.2 (positionError?_replaced hr.1 _)) not_false
  | replaceMatch m new =>
    rw [command, EditM.outcome_map, Edit.outcome_replaceMatch] at h
    split at h
    · cases h
    · rw [Edit.outcome_replaceRange_of_valid _ hr.1 hr.2] at h
      cases h
      refine iff_of_true ⟨?_, positionError?_replaced hr.1 _⟩ not_false
      exact Buffer.positionError?_withText (Buffer.positionError?_withoutRange hr.1) new
  | insertTab sel =>
    obtain ⟨hs, he⟩ := Buffer.holds_range.1 hr
    rw [command, Edit.outcome_insertTab tab hs he] at h
    split at h
    · cases h
    · cases h
      exact iff_of_true (Buffer.holds_caret.2 (positionError?_replaced hs _)) not_false
  | deleteLines sel => exact iff_of_true (Edit.holds_of_deleteLines hr W h) not_false
  | moveUp sel => exact iff_of_true (Edit.holds_of_moveUp hr F h) not_false
  | duplicateUp sel => exact iff_of_true (Edit.holds_of_duplicateUp hr W h) not_false
  | duplicateDown sel => exact iff_of_true (Edit.holds_of_duplicateDown hr W h F') not_false
  | toggleComment sel => exact iff_of_true (Edit.holds_of_toggleComment W hr h) not_false

end Revision

/-- The selection that a revision hands back ends at positions, unless lines that were moved down to
the end of the text pushed it past its last line. -/
theorem holds_selection_iff (S : Session d) {r : Revision} (hr : r.Within d.buffer)
    {o : Outcome} (h : r.run.outcome d = (.ok o, d')) (fits : d'.buffer.Fits) :
    d'.buffer.Holds o.selection ↔ ¬r.Overshoots d.buffer := by
  obtain ⟨c, hc, -, rfl⟩ := Revision.exists_of_run h
  rw [fits_flushed] at fits
  rw [Buffer.holds_congr (texts_flushed { d with buffer := c })]
  exact Revision.holds_command_iff S.idle.wellFormed S.idle.fits hr hc fits

/-- A selection of a line and a half, made upwards, moves down by a line. -/
theorem holds_selection_moveDown :
    let d := ofText "a\nbc\nd".toList .stock
    let r := Revision.moveDown ⟨⟨1, 1⟩, ⟨0, 0⟩⟩
    ∃ o d', r.run.outcome d = (.ok o, d') ∧ o.selection = ⟨⟨2, 1⟩, ⟨1, 0⟩⟩ ∧
      d'.buffer.Holds o.selection := by
  intro d r
  have hd : Session d := .opened ⟨_, .ofText _ (by decide), .refl⟩ .stock
  have hrun : ∃ o, (r.run.outcome d).1 = .ok o ∧ o.selection = ⟨⟨2, 1⟩, ⟨1, 0⟩⟩ :=
    ⟨_, rfl, by decide +kernel⟩
  obtain ⟨o, ho, hsel⟩ := hrun
  have hr : r.run.outcome d = (.ok o, (r.run.outcome d).2) := Prod.ext ho rfl
  have hfits : (r.run.outcome d).2.buffer.Fits := by decide +kernel
  have hheld : d.buffer.Holds ⟨⟨1, 1⟩, ⟨0, 0⟩⟩ := by decide +kernel
  have hwithin : r.Within d.buffer := hheld
  have hroom : ¬r.Overshoots d.buffer := fun h => absurd h.2 (by decide +kernel)
  exact ⟨o, _, hr, hsel, (holds_selection_iff hd hwithin hr hfits).2 hroom⟩

/-- The first of two lines is moved down with a selection that runs to the start of the second. -/
theorem not_holds_selection_moveDown :
    let d := ofText "a\nb".toList .stock
    let r := Revision.moveDown ⟨⟨0, 0⟩, ⟨1, 0⟩⟩
    Reachable .stock d ∧ r.Within d.buffer ∧ ∃ o d', r.run.outcome d = (.ok o, d') ∧
      d'.buffer.Fits ∧ o.selection.active = ⟨2, 0⟩ ∧ ¬d'.buffer.Holds o.selection := by
  intro d r
  have hd : Reachable .stock d := .opened (.ofText _ (by decide)) .refl
  have hwithin : d.buffer.Holds ⟨⟨0, 0⟩, ⟨1, 0⟩⟩ := by decide +kernel
  have hrun : ∃ o, (r.run.outcome d).1 = .ok o ∧ o.selection.active = ⟨2, 0⟩ ∧
      ¬(r.run.outcome d).2.buffer.Holds o.selection := ⟨_, rfl, by decide +kernel, by decide +kernel⟩
  obtain ⟨o, ho, hactive, hnot⟩ := hrun
  exact ⟨hd, hwithin, o, _, Prod.ext ho rfl, by decide +kernel, hactive, hnot⟩

end Document
end LogicEditor
