import LogicEditor.Proofs.Buffer.Step

/-!
# Effects are steps

What it means for the lines of a buffer that a text is put in or a range is taken out, and that both
are steps. The line where a change starts keeps its handle (`insertedText_split`,
`getElem?_deletedRange`), and its place stays a position (`positionError?_withoutRange`).
-/

namespace LogicEditor
namespace Buffer

variable {limit : Nat} {b c : Buffer} {line start stop : Nat} {t : Text} {p : Position} {r : Range}
  {above below : List Line} {l : Line}

/-! ## Texts put in -/

theorem insertedText_of_lines_singleton {piece : Text} (ht : Text.lines t = [piece]) :
    b.insertedText p t =
      (b.editLine p.line ((b.lineText p.line).take p.col ++ piece ++
        (b.lineText p.line).drop p.col)).markModified := by
  simp [insertedText, ht]

theorem insertedText_of_lines_cons {first : Text} {more : List Text}
    (ht : Text.lines t = first :: more) (hm : more ≠ []) :
    b.insertedText p t =
      ((b.editLine p.line ((b.lineText p.line).take p.col ++ first)).openLines (p.line + 1)
        (more.dropLast ++ [more.getLastD [] ++ (b.lineText p.line).drop p.col])).markModified := by
  cases more with
  | nil => exact absurd rfl hm
  | cons => simp [insertedText, ht]

/-- A text put in at a line: what stood before the place goes before its first line, what stood
behind goes behind its last. The line keeps its handle, and the further lines are new. -/
theorem insertedText_split (h : b.lines = above ++ l :: below) (hn : above.length = p.line)
    (t : Text) :
    ∃ new : List Line,
      (b.insertedText p t).lines = above ++ new ++ below ∧
      new.map (·.text) = Text.flank (l.text.take p.col) (Text.lines t) (l.text.drop p.col) ∧
      new.map (·.id) = l.id :: List.range' b.nextId ((Text.lines t).length - 1) := by
  have hl : b.lineText p.line = l.text := lineText_split h hn
  obtain ⟨first, more, ht⟩ := List.exists_cons_of_ne_nil (Text.lines_ne_nil t)
  by_cases hm : more = []
  · subst hm
    rw [insertedText_of_lines_singleton ht, hl, editLine_split h hn, ht]
    refine ⟨_, (List.append_cons above _ below), rfl, rfl⟩
  · rw [insertedText_of_lines_cons ht hm, hl, editLine_split h hn, ht]
    have hn' : (above ++ [(⟨l.id, l.text.take p.col ++ first, none⟩ : Line)]).length =
        p.line + 1 := by
      simp [hn]
    rw [openLines_split (List.append_cons above _ below) hn' (by simp)]
    refine ⟨⟨l.id, l.text.take p.col ++ first, none⟩ :: freshLines b.nextId
      (more.dropLast ++ [more.getLastD [] ++ l.text.drop p.col]),
      by simp [record, markModified], ?_, ?_⟩
    · obtain ⟨m, ms, rfl⟩ := List.exists_cons_of_ne_nil hm
      rw [List.map_cons, map_text_freshLines, Text.flank_cons_cons]
    · obtain ⟨m, ms, rfl⟩ := List.exists_cons_of_ne_nil hm
      simp

theorem lineCount_insertedText (h : p.line < b.lineCount) (t : Text) :
    (b.insertedText p t).lineCount = b.lineCount + ((Text.lines t).length - 1) := by
  obtain ⟨above, l, below, hs, hn⟩ := exists_line h
  obtain ⟨new, hl, -, hid⟩ := insertedText_split hs hn t
  have := congrArg List.length hid
  simp only [List.length_map, List.length_cons, List.length_range'] at this
  rw [lineCount, hl, lineCount, hs]
  simp only [List.length_append, List.length_cons]
  omega

theorem Steps.insertedText (W : b.WellFormed) (h : p.line < b.lineCount)
    (fits : (b.insertedText p t).lineCount ≤ limit) : Steps limit b (b.insertedText p t) := by
  have hc := W.clean_lineText p.line
  have hf := Text.hasBreak_take hc p.col
  have hb := Text.hasBreak_drop hc p.col
  have hls : ∀ l ∈ Text.lines t, Text.hasBreak l = false := fun l => Text.hasBreak_of_mem_lines
  rw [lineCount_insertedText h] at fits
  obtain ⟨first, more, ht⟩ := List.exists_cons_of_ne_nil (Text.lines_ne_nil t)
  have hfirst : first.hasBreak = false := hls first (by simp [ht])
  by_cases hm : more = []
  · subst hm
    rw [insertedText_of_lines_singleton ht]
    exact .tail (.single (.editLine h (by simp [hf, hb, hfirst]))) .mark
  · rw [insertedText_of_lines_cons ht hm]
    have hedit : Step limit b (b.editLine p.line ((b.lineText p.line).take p.col ++ first)) :=
      .editLine h (by simp [hf, hfirst])
    have hline : p.line + 1 ≤ (b.editLine p.line ((b.lineText p.line).take p.col ++ first)).lineCount := by
      rwa [lineCount_editLine]
    refine .tail (.tail (.single hedit) (.openLines hline (by simp) ?_ ?_)) .mark
    · intro u hu
      rw [List.mem_append, List.mem_singleton] at hu
      rcases hu with hu | rfl
      · exact hls u (ht ▸ List.mem_cons_of_mem _ (List.dropLast_subset _ hu))
      · rw [Text.hasBreak_append, hb, Bool.or_false]
        exact hls _ (ht ▸ List.mem_cons_of_mem _ (Text.getLastD_mem hm))
    · rw [ht, List.length_cons] at fits
      have := List.length_pos_iff.2 hm
      rw [lineCount_editLine, List.length_append, List.length_dropLast, List.length_singleton]
      omega

theorem Steps.withText (W : b.WellFormed) (hp : b.positionError? p = none)
    (fits : (b.withText p t).lineCount ≤ limit) : Steps limit b (b.withText p t) := by
  rw [Buffer.withText] at fits ⊢
  split
  · exact .refl
  · rw [if_neg ‹_›] at fits
    exact .insertedText W (positionError?_eq_none_iff.1 hp).1 fits

theorem Steps.withLines {ts : List Text} (h : line ≤ b.lineCount)
    (fits : (b.withLines line ts).lineCount ≤ limit) : Steps limit b (b.withLines line ts) := by
  rw [Buffer.withLines] at fits ⊢
  split
  · exact .refl
  · rename_i hne
    rw [if_neg hne] at fits
    refine .tail (.single (.openLines h (fun h' => hne (by rw [h']; rfl)) ?_ ?_)) .mark
    · intro u hu
      obtain ⟨v, -, hu⟩ := List.mem_flatMap.1 hu
      exact Text.hasBreak_of_mem_lines hu
    · rw [← lineCount_openLines h]
      exact fits

/-! ## Texts taken out -/

theorem lines_closeLines (b : Buffer) (start stop : Nat) :
    (b.closeLines start stop).lines = b.lines ∨
      (b.closeLines start stop).lines = b.lines.take start ++ b.lines.drop stop := by
  rw [closeLines]
  split
  · exact .inl rfl
  · exact .inr rfl

/-- Taking lines away leaves those above them alone. -/
theorem getElem?_closeLines {i : Nat} (stop : Nat) (h : i < start) (hi : i < b.lineCount) :
    (b.closeLines start stop).lines[i]? = b.lines[i]? := by
  rw [lineCount] at hi
  rcases lines_closeLines b start stop with hl | hl
  · rw [hl]
  · rw [hl, List.getElem?_append_left (by rw [List.length_take]; omega), List.getElem?_take_of_lt h]

theorem lt_lineCount_closeLines (stop : Nat) (h : line < start) (hl : line < b.lineCount) :
    line < (b.closeLines start stop).lineCount := by
  have := getElem?_closeLines stop h hl
  rw [List.getElem?_eq_getElem hl] at this
  exact (List.getElem?_eq_some_iff.1 this).1

/-- The joined line of a deleted range stands where the range starts. -/
theorem getElem?_deletedRange (h : r.start.line < b.lineCount) :
    ∃ id, (b.deletedRange r).lines[r.start.line]? =
      some { id, text := (b.lineText r.start.line).take r.start.col ++
        (b.lineText r.stop.line).drop r.stop.col } := by
  obtain ⟨above, l, below, hs, hn⟩ := exists_line
    (lt_lineCount_closeLines (r.stop.line + 1) (Nat.lt_succ_self r.start.line) h)
  refine ⟨l.id, ?_⟩
  rw [deletedRange, editLine_split hs hn, ← hn]
  simp [markModified, record]

theorem Steps.deletedRange (W : b.WellFormed) (hs : r.start.line < b.lineCount)
    (he : r.stop.line < b.lineCount) : Steps limit b (b.deletedRange r) := by
  have hclean : Text.hasBreak ((b.lineText r.start.line).take r.start.col ++
      (b.lineText r.stop.line).drop r.stop.col) = false := by
    rw [Text.hasBreak_append, Text.hasBreak_take (W.clean_lineText _),
      Text.hasBreak_drop (W.clean_lineText _), Bool.or_self]
  have hclose : Steps limit b (b.closeLines (r.start.line + 1) (r.stop.line + 1)) := by
    by_cases h : r.start.line < r.stop.line
    · exact .single (.closeLines (by omega) he (.inl (Nat.succ_pos _)))
    · rw [closeLines_of_le (by omega)]
  have hline := lt_lineCount_closeLines (r.stop.line + 1) (Nat.lt_succ_self _) hs
  exact .tail (.tail hclose (.editLine hline hclean)) .mark

section
variable (W : b.WellFormed) (hs : b.positionError? r.start = none)
  (he : b.positionError? r.stop = none)
include W hs he

theorem Steps.withoutRange : Steps limit b (b.withoutRange r) := by
  rw [Buffer.withoutRange]
  split
  · exact .refl
  · exact .deletedRange W (positionError?_eq_none_iff.1 hs).1 (positionError?_eq_none_iff.1 he).1

omit W he in
/-- The start of a range is still a position after the range was deleted. -/
theorem positionError?_withoutRange : (b.withoutRange r).positionError? r.start = none := by
  rw [Buffer.withoutRange]
  split
  · exact hs
  · obtain ⟨hl, hc⟩ := positionError?_eq_none_iff.1 hs
    obtain ⟨id, h⟩ := getElem?_deletedRange (r := r) hl
    refine positionError?_eq_none.2 ⟨_, h, ?_⟩
    rw [List.length_append, List.length_take]
    omega

end

end Buffer

theorem Edit.outcome_replaceRange_of_valid {b : Buffer} {r : Range} (t : Text)
    (hs : b.positionError? r.start = none) (he : b.positionError? r.stop = none) :
    (replaceRange r t).outcome b = (.ok (if t.isEmpty then r.start else Buffer.afterText r.start t),
      (b.withoutRange r).withText r.start t) := by
  rw [outcome_replaceRange, hs, he, outcome_insertText, Buffer.positionError?_withoutRange hs]

end LogicEditor
