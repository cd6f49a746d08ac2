import LogicEditor.Proofs.Buffer.Diff
import LogicEditor.Proofs.Buffer.Effect

/-!
# Lines reported as edited

Which lines a command reports as edited. A line that gets another text is the only one that it
reports, also if the text has breaks and brings new lines with it (`editsOnly_setLine`).
-/

namespace LogicEditor
namespace Buffer

variable {P Q : LineId → Prop} {b c d : Buffer} {id : LineId} {line : Nat} {t : Text} {p : Position}

/-- From `b` to `c`, only lines with the property are reported as edited. -/
def EditsOnly (P : LineId → Prop) (b c : Buffer) : Prop :=
  ∃ es, c.log = b.log ++ es ∧ ∀ id, .edited id ∈ es → P id

namespace EditsOnly

theorem refl : EditsOnly P b b := ⟨[], (List.append_nil _).symm, fun _ h => nomatch h⟩

theorem trans (H : EditsOnly P b c) (H' : EditsOnly P c d) : EditsOnly P b d := by
  obtain ⟨es, hlog, hes⟩ := H
  obtain ⟨fs, hlog', hfs⟩ := H'
  refine ⟨es ++ fs, by rw [hlog', hlog, List.append_assoc], fun id h => ?_⟩
  exact (List.mem_append.1 h).elim (hes id) (hfs id)

theorem mono (H : EditsOnly P b c) (h : ∀ id, P id → Q id) : EditsOnly Q b c := by
  obtain ⟨es, hlog, hes⟩ := H
  exact ⟨es, hlog, fun id hid => h id (hes id hid)⟩

theorem mark (H : EditsOnly P b c) : EditsOnly P b c.markModified := H

end EditsOnly

theorem id?_eq (b : Buffer) (line : Nat) : b.id? line = b.ids[line]? := List.getElem?_map.symm

theorem id?_editLine (b : Buffer) (line n : Nat) (t : Text) :
    (b.editLine line t).id? n = b.id? n := by
  rw [id?_eq, ids_editLine, id?_eq]

theorem editsOnly_editLine (h : b.id? line = some id) (t : Text) :
    EditsOnly (· = id) b (b.editLine line t) := by
  obtain ⟨l, hl, rfl⟩ := Option.map_eq_some_iff.1 h
  rw [editLine, hl]
  refine ⟨[.edited l.id], rfl, fun id h => ?_⟩
  cases List.mem_singleton.1 h
  rfl

theorem editsOnly_openLines (b : Buffer) (line : Nat) (ts : List Text) :
    EditsOnly P b (b.openLines line ts) := by
  rw [openLines]
  split
  · exact .refl
  · refine ⟨_, rfl, fun id h => ?_⟩
    rcases List.mem_append.1 h with h | h
    · split at h
      · cases List.mem_singleton.1 h
      · cases h
    · obtain ⟨_, _, _, h⟩ := mem_insertions h
      cases h

theorem editsOnly_insertedText (h : b.id? p.line = some id) (t : Text) :
    EditsOnly (· = id) b (b.insertedText p t) := by
  rw [insertedText]
  split
  · exact .refl
  · exact (editsOnly_editLine h _).mark
  · exact ((editsOnly_editLine h _).trans (editsOnly_openLines ..)).mark

theorem editsOnly_withText (h : b.id? p.line = some id) (t : Text) :
    EditsOnly (· = id) b (b.withText p t) := by
  rw [withText]
  split
  · exact .refl
  · exact editsOnly_insertedText h t

/-- Taking out a part of one line edits that line, and all lines keep their handles. -/
theorem editsOnly_withoutRange_onLine (h : b.id? line = some id) (start stop : Nat) :
    EditsOnly (· = id) b (b.withoutRange (.onLine line start stop)) ∧
      (b.withoutRange (.onLine line start stop)).id? line = some id := by
  rw [withoutRange]
  split
  · exact ⟨.refl, h⟩
  · have hclose : b.closeLines (line + 1) (line + 1) = b := closeLines_of_le (Nat.le_refl _)
    simp only [deletedRange, Range.onLine, hclose]
    exact ⟨(editsOnly_editLine h _).mark, (id?_editLine ..).trans h⟩

theorem editsOnly_setLine (h : b.id? line = some id) (t : Text) :
    EditsOnly (· = id) b ((Edit.setLine line t).outcome b).2 := by
  obtain ⟨l, hl, -⟩ := Option.map_eq_some_iff.1 h
  have hlt : line < b.lineCount := (List.getElem?_eq_some_iff.1 hl).1
  rw [Edit.outcome_setLine, lineError?_eq_none.2 hlt]
  cases ht : t.hasBreak with
  | false => exact (editsOnly_editLine h t).mark
  | true =>
    have hs : b.positionError? ⟨line, 0⟩ = none :=
      positionError?_eq_none_iff.2 ⟨hlt, Nat.zero_le _⟩
    have he : b.positionError? ⟨line, (b.lineText line).length⟩ = none :=
      positionError?_eq_none_iff.2 ⟨hlt, Nat.le_refl _⟩
    obtain ⟨H, hid⟩ := editsOnly_withoutRange_onLine h 0 (b.lineText line).length
    rw [if_pos rfl, EditM.outcome_map, Edit.outcome_replaceRange_of_valid t hs he]
    exact H.trans (editsOnly_withText hid t)

end Buffer
end LogicEditor
