import LogicEditor.Proofs.Rope.Refine
import LogicEditor.Proofs.Text.Split

/-!
# Buffers that have just been made

A buffer made from a text has the lines of the text, joined by the first break that the text has
(`Buffer.ofText_normalises`). A buffer made from a list of texts joins them before it splits them, so it
has the lines that they would bring into a buffer one by one, unless one of them ends in a carriage
return that the line feed behind it takes in (`Buffer.texts_ofLines_iff`).
-/

namespace LogicEditor
namespace Buffer

open Text

variable {t : Text} {es : List LineEnding} {ls : List Text}

@[simp] theorem texts_ofText (t : Text) : (ofText t).texts = t.lines := by
  rw [ofText_eq, texts, map_text_freshLines]

@[simp] theorem ending_ofText (t : Text) : (ofText t).ending = .detect t := by rw [ofText_eq]

theorem contents_ofText (t : Text) : (ofText t).contents = joinLines (.detect t) t.lines := by
  rw [contents, texts_ofText, ending_ofText]

/-! ## Texts -/

/-- A buffer has the breaks of its text in number, and that of the first of them in style. -/
theorem splits_contents_ofText (H : Splits t es ls) :
    Splits (ofText t).contents (es.map fun _ => es.headD .lf) ls := by
  have hjoin : (ofText t).contents = joinLines (es.headD .lf) ls := by
    rw [contents_ofText, H.detect_eq, H.lines_eq]
  have hbreaks : (es.map fun _ => es.headD .lf) = List.replicate (ls.length - 1) (es.headD .lf) := by
    rw [List.map_const', H.length_eq, Nat.add_sub_cancel]
  rw [hjoin, hbreaks]
  exact splits_joinLines (H.lines_eq ▸ lines_ne_nil t)
    (H.lines_eq ▸ fun _ => hasBreak_of_mem_lines)

theorem contents_ofText_of_forall (H : Splits t es ls) (h : ∀ x ∈ es, x = es.headD .lf) :
    (ofText t).contents = t := by
  rw [contents_ofText, H.detect_eq, H.lines_eq, ← H.eq_joinLines h]

/-- A text is split into lines in one way only. A buffer made from it has these lines, and between them
the first break that the text has and no other. Made from its own contents it is the same again, and a
text with breaks of one style only is its own contents. All this is read off a rope alike. -/
theorem ofText_normalises (R : Type) [Rope R] [LawfulRope R] (t : Text) :
    (∃! s : List LineEnding × List Text, Splits t s.1 s.2) ∧ ∀ es ls, Splits t es ls →
      let b := ofText t
      let r : RopeBuffer R := RopeBuffer.ofText t
      b.texts = ls ∧ Splits b.contents (es.map fun _ => es.headD .lf) ls ∧
      (ofText b.contents).texts = ls ∧ (ofText b.contents).contents = b.contents ∧
      ((∀ x ∈ es, x = es.headD .lf) → b.contents = t) ∧
      r.texts = b.texts ∧ r.contents = b.contents := by
  obtain ⟨es, h⟩ := exists_splits t
  refine ⟨⟨(es, t.lines), h, fun s H => ?_⟩, fun es ls H => ?_⟩
  · exact Prod.ext (H.breaks_unique h) H.lines_eq.symm
  have hsplits := splits_contents_ofText H
  have hstyle : ∀ x ∈ es.map fun _ => es.headD .lf, x = (es.map fun _ => es.headD .lf).headD .lf := by
    intro x hx
    obtain ⟨y, hy, rfl⟩ := List.mem_map.1 hx
    obtain ⟨e, es, rfl⟩ := List.exists_cons_of_ne_nil (List.ne_nil_of_mem hy)
    rfl
  have hrope := RopeBuffer.represents_ofText (R := R) t
  have htexts := hrope.texts_eq (wellFormed_ofText t)
  refine ⟨?_, hsplits, ?_, contents_ofText_of_forall hsplits hstyle, contents_ofText_of_forall H,
    htexts, hrope.text⟩
  · rw [texts_ofText, H.lines_eq]
  · rw [texts_ofText, hsplits.lines_eq]

/-- A carriage return before one that belongs to a line feed, and a line feed at the end. -/
theorem ofText_normalises_mixed :
    let t := "\r\r\nb\n".toList
    let b := ofText t
    Splits t [.cr, .crlf, .lf] [[], [], ['b'], []] ∧ b.texts = [[], [], ['b'], []] ∧
      b.contents = "\r\rb\r".toList ∧ (ofText b.contents).contents = b.contents := by
  intro t b
  have h : Splits t [.cr, .crlf, .lf] [[], [], ['b'], []] :=
    .line (l := []) (t := "\r\nb\n".toList) (e := .cr) rfl (by decide)
      (.line (l := []) (t := "b\n".toList) (e := .crlf) rfl (by decide)
        (.line (l := ['b']) (t := []) (e := .lf) rfl (by decide) (.last rfl)))
  obtain ⟨-, H⟩ := ofText_normalises Text t
  obtain ⟨htexts, -, -, hagain, -⟩ := H _ _ h
  exact ⟨h, htexts, by decide +kernel, hagain⟩

/-! ## Lists of texts -/

theorem texts_ofLines (h : ls ≠ []) : (ofLines ls).texts =
    (ls.dropLast.map dropReturn).flatMap Text.lines ++ Text.lines (ls.getLastD []) := by
  rw [ofLines, texts_ofText, lines_joinLines_lf h]

/-- A buffer made from texts has the lines of each of them, but where a text other than the last ends
in a carriage return, the line behind it is missing. So it has the lines that the same texts bring into
an empty buffer iff there is no such text. -/
theorem texts_ofLines_iff (h : ls ≠ []) : ∃ c,
    (Edit.insertLines 0 ls).outcome (ofText []) = (.ok ⟨⟩, c) ∧
    c.texts = ls.flatMap Text.lines ++ [[]] ∧
    (ofLines ls).texts = (ls.dropLast.map dropReturn).flatMap Text.lines ++ Text.lines (ls.getLastD []) ∧
    (c.texts = (ofLines ls).texts ++ [[]] ↔ ∀ t ∈ ls.dropLast, t.getLast? ≠ some '\r') := by
  have hc : ((ofText []).withLines 0 ls).texts = ls.flatMap Text.lines ++ [[]] := by
    rw [texts, lines_withLines (Nat.zero_le _), List.map_append, List.map_append,
      map_text_freshLines, List.take_zero, List.map_nil, List.nil_append, List.drop_zero, ← texts,
      texts_ofText, Text.lines]
  have hlast : ls.flatMap Text.lines = ls.dropLast.flatMap Text.lines ++ Text.lines (ls.getLastD []) := by
    conv => lhs; rw [← dropLast_append_getLastD h]
    rw [List.flatMap_append, List.flatMap_singleton]
  refine ⟨_, by rw [Edit.outcome_insertLines, if_pos (Nat.zero_le _)], hc, texts_ofLines h, ?_⟩
  rw [hc, texts_ofLines h, hlast, List.append_left_inj, List.append_left_inj, eq_comm]
  exact flatMap_dropReturn_eq_iff

/-- A carriage return at the end of the last text, and in the middle of another, does no harm. -/
theorem texts_ofLines_iff_inner :
    let ls := ["a\rb".toList, "c\n".toList, "d\r".toList]
    ∃ c, (Edit.insertLines 0 ls).outcome (ofText []) = (.ok ⟨⟩, c) ∧
      c.texts = (ofLines ls).texts ++ [[]] ∧
      (ofLines ls).texts = [['a'], ['b'], ['c'], [], ['d'], []] := by
  intro ls
  have hne : ls ≠ [] := List.cons_ne_nil _ _
  obtain ⟨c, hc, -, -, h⟩ := texts_ofLines_iff hne
  exact ⟨c, hc, h.2 (by decide), by decide⟩

/-- The empty line between the two texts is lost. -/
theorem not_texts_ofLines :
    let ls := ["x\ny\r".toList, "b".toList]
    (ofLines ls).texts = [['x'], ['y'], ['b']] ∧
      ls.flatMap Text.lines = [['x'], ['y'], [], ['b']] ∧
      ((Edit.insertLines 0 ls).outcome (ofText [])).2.texts = [['x'], ['y'], [], ['b'], []] := by
  decide +kernel

end Buffer
end LogicEditor
