import LogicEditor.Proofs.Buffer.Comment
import LogicEditor.Proofs.Buffer.Task

/-!
# Comments toggled twice

On lines that are no comments, toggling comments puts marks in, and toggling once more takes them out
and leaves the lines and the selection as they were, unless an end of the selection is too far right
to be pushed on (`toggleComment_twice_iff`). That is so on each line by itself (`LineEffect.Undoes`),
and the second time the command turns to the other branch, as a line is a comment by then
(`toggle_toggled`). An end of the selection need not be a position of the buffer, and only one that
is none can be too far right (`EndsHaveRoom`).
-/

namespace LogicEditor

open Buffer EditM
open Edit (mapEnds)

variable {b : Buffer} {sel : Selection} {line : Nat} {t : Text} {ts : List Text}

namespace Edit

open LineEffect

/-- The second effect takes back what the first one does to a line. -/
structure LineEffect.Undoes (e' e : LineEffect) (t : Text) : Prop where
  text : e'.text (e.text t) = t
  col : ∀ i, e'.col (e.text t) (e.col t i) = i

theorem LineEffect.Undoes.map_text {e e' : LineEffect} (H : ∀ t ∈ ts, Undoes e' e t) :
    (ts.map e.text).map e'.text = ts := by
  rw [List.map_map]
  exact (List.map_congr_left fun t ht => (H t ht).text).trans (List.map_id ts)

theorem LineEffect.Undoes.move {e e' : LineEffect} (H : ∀ t ∈ ts, Undoes e' e t) (line : Nat)
    (p : Position) : e'.move line (ts.map e.text) (e.move line ts p) = p := by
  by_cases hl : line ≤ p.line
  · cases hk : ts[p.line - line]? with
    | none => simp [LineEffect.move, hl, hk]
    | some t => simp [LineEffect.move, hl, hk, (H t (List.mem_of_getElem? hk)).col]
  · simp [LineEffect.move, hl]

theorem LineEffect.Undoes.skipping {e e' : LineEffect} {skip skip' : Text → Bool}
    (hkept : skip t = true → skip' t = true)
    (H : skip t = false → skip' (e.text t) = false ∧ Undoes e' e t) :
    Undoes (e'.skipping skip') (e.skipping skip) t := by
  cases hs : skip t with
  | false =>
    obtain ⟨hs', htext, hcol⟩ := H hs
    refine ⟨?_, fun i => ?_⟩
    · rw [text_skipping_of_not hs, text_skipping_of_not hs', htext]
    · rw [text_skipping_of_not hs, col_skipping_of_not hs, col_skipping_of_not hs', hcol]
  | true =>
    refine ⟨?_, fun i => ?_⟩
    · rw [text_skipping hs, text_skipping (hkept hs)]
    · rw [text_skipping hs, col_skipping hs, col_skipping (hkept hs)]

theorem unmark_undoes_mark (t : Text) : unmark.Undoes mark t := by
  refine ⟨uncommented_commented t, fun i => ?_⟩
  show mark.col t i - min (markLength ((commented t).dropWhile Text.isSpace))
    (mark.col t i - indentation (commented t)) = i
  rw [dropWhile_commented, indentation_commented, markLength, mark]
  simp only []
  split <;> omega

theorem text_comment (h : isCommented t = false) : comment.text t = commented t :=
  text_skipping_of_not h

theorem uncomment_undoes_comment (h : isCommented t = false) : uncomment.Undoes comment t := by
  refine .skipping (fun hc => ?_) fun _ => ⟨?_, unmark_undoes_mark t⟩
  · rw [h] at hc
    cases hc
  · exact congrArg (!·) (isCommented_commented t)

/-- A block that toggling comments puts marks into: it has a line that is neither blank nor a comment,
or it has blank lines alone. -/
def GetsMarks (ts : List Text) : Prop :=
  (∃ t ∈ ts, t.isBlank = false ∧ isCommented t = false) ∨ ∀ t ∈ ts, t.isBlank = true

instance (ts : List Text) : Decidable (GetsMarks ts) := inferInstanceAs (Decidable (_ ∨ _))

/-- In such a block lines are commented, blank ones only if there are no others. -/
theorem toggle_of_getsMarks (h : GetsMarks ts) :
    toggle ts = comment.skipping fun t => !ts.all Text.isBlank && t.isBlank := by
  rw [toggle]
  rcases h with ⟨t, ht, hblank, hplain⟩ | hall
  · have hnot : ts.all Text.isBlank = false := List.all_eq_false.2 ⟨t, ht, by simp [hblank]⟩
    have hsome : (ts.all fun t => Text.isBlank t || isCommented t) = false :=
      List.all_eq_false.2 ⟨t, ht, by simp [hblank, hplain]⟩
    rw [hnot, hsome]
    rfl
  · rw [List.all_eq_true.2 hall]
    rfl

theorem getsMarks_of_plain (h : ∀ t ∈ ts, isCommented t = false) : GetsMarks ts := by
  cases hall : ts.all Text.isBlank with
  | true => exact .inr (List.all_eq_true.1 hall)
  | false =>
    obtain ⟨t, ht, hblank⟩ := List.all_eq_false.1 hall
    exact .inl ⟨t, ht, Bool.eq_false_iff.2 hblank, h t ht⟩

section
variable (h : ∀ t ∈ ts, isCommented t = false)
include h

theorem toggle_of_plain : toggle ts = comment.skipping fun t => !ts.all Text.isBlank && t.isBlank :=
  toggle_of_getsMarks (getsMarks_of_plain h)

/-- Lines are commented after that, so they are uncommented next. -/
theorem isCommented_toggled (hne : ts ≠ []) :
    ((ts.map (toggle ts).text).all Text.isBlank) = false ∧
      ((ts.map (toggle ts).text).all fun t => Text.isBlank t || isCommented t) = true := by
  -- at least one line is not skipped, and it is no longer blank
  have hmark : ∃ t ∈ ts, (!ts.all Text.isBlank && t.isBlank) = false := by
    cases hall : ts.all Text.isBlank with
    | true => exact (List.exists_mem_of_ne_nil ts hne).imp fun t ht => ⟨ht, rfl⟩
    | false =>
      obtain ⟨t, ht, hblank⟩ := List.all_eq_false.1 hall
      exact ⟨t, ht, by simpa using hblank⟩
  have hblank : ((ts.map (toggle ts).text).all Text.isBlank) = false := by
    obtain ⟨t, ht, hs⟩ := hmark
    refine List.all_eq_false.2 ⟨_, List.mem_map_of_mem ht, ?_⟩
    rw [toggle_of_plain h, text_skipping_of_not hs, text_comment (h t ht),
      not_isBlank_of_isCommented (isCommented_commented t)]
    exact Bool.false_ne_true
  have hcommented : ((ts.map (toggle ts).text).all fun t => Text.isBlank t || isCommented t) = true := by
    refine List.all_eq_true.2 (List.forall_mem_map.2 fun t ht => ?_)
    rw [toggle_of_plain h]
    cases hs : !ts.all Text.isBlank && t.isBlank with
    | false => rw [text_skipping_of_not hs, text_comment (h t ht), isCommented_commented, Bool.or_true]
    | true => rw [text_skipping hs, (Bool.and_eq_true_iff.1 hs).2, Bool.true_or]
  exact ⟨hblank, hcommented⟩

theorem toggle_toggled (hne : ts ≠ []) :
    toggle (ts.map (toggle ts).text) = uncomment.skipping Text.isBlank := by
  obtain ⟨hblank, hcommented⟩ := isCommented_toggled h hne
  rw [toggle, if_neg (Bool.not_eq_true _ ▸ hblank), if_pos hcommented]

theorem toggle_undoes (ht : t ∈ ts) :
    (toggle (ts.map (toggle ts).text)).Undoes (toggle ts) t := by
  rw [toggle_toggled h (List.ne_nil_of_mem ht), toggle_of_plain h]
  refine .skipping (fun hs => (Bool.and_eq_true_iff.1 hs).2) fun _ =>
    ⟨?_, uncomment_undoes_comment (h t ht)⟩
  rw [text_comment (h t ht), not_isBlank_of_isCommented (isCommented_commented t)]

end

theorem lineBlock_comment (skip : Text → Bool) (ts : List Text) (sel : Selection) :
    (mapEnds ((comment.skipping skip).move line ts) sel).lineBlock = sel.lineBlock := by
  refine (Selection.lineBlock_mapEnds_eq_iff fun p => line_move _ line ts p).2 fun _ => ?_
  exact col_move_eq_zero_iff (col_comment_eq_zero_iff skip) line ts _

/-! ## Ends of the selection beyond their lines -/

/-- The ends of a selection on lines that get a mark are on these lines, or they can be pushed on to
columns that are indices. -/
def EndsHaveRoom (b : Buffer) (sel : Selection) : Prop :=
  ∀ p ∈ [sel.anchor, sel.active], sel.lineBlock.first ≤ p.line → p.line ≤ sel.lineBlock.last →
    getsMark (blockTexts b sel.lineBlock) (b.lineText p.line) = true →
      p.col ≤ (b.lineText p.line).length ∨ p.col + 2 ≤ maxIndex

theorem pushOverflows_eq_false_iff {block : LineBlock} {p : Position} :
    pushOverflows b block p = false ↔ (block.first ≤ p.line → p.line ≤ block.last →
      getsMark (blockTexts b block) (b.lineText p.line) = true →
        p.col ≤ (b.lineText p.line).length ∨ p.col + 2 ≤ maxIndex) := by
  have hcol : columnOverflows (commented (b.lineText p.line)) (p.col + 2) = false ↔
      p.col ≤ (b.lineText p.line).length ∨ p.col + 2 ≤ maxIndex := by
    rw [columnOverflows, length_commented, decide_eq_false_iff_not]
    omega
  rw [pushOverflows, Bool.and_eq_false_imp, Bool.and_eq_true, decide_eq_true_iff, hcol]
  exact ⟨fun h hfirst hlast hmark => h ⟨⟨hfirst, hlast⟩, hmark⟩, fun h hp => h hp.1.1 hp.1.2 hp.2⟩

theorem toggleOverflows_eq_false_iff : toggleOverflows b sel = false ↔ EndsHaveRoom b sel := by
  rw [toggleOverflows, Bool.or_eq_false_iff, pushOverflows_eq_false_iff, pushOverflows_eq_false_iff,
    EndsHaveRoom, List.forall_mem_cons, List.forall_mem_singleton]

instance (b : Buffer) (sel : Selection) : Decidable (EndsHaveRoom b sel) :=
  decidable_of_iff _ toggleOverflows_eq_false_iff

/-- Where no line gets a mark, no end is pushed on. -/
theorem endsHaveRoom_of_unmarked (hl : sel.lineBlock.last < b.lineCount)
    (h : ∀ t ∈ blockTexts b sel.lineBlock, getsMark (blockTexts b sel.lineBlock) t = false) :
    EndsHaveRoom b sel := by
  intro p _ hfirst hlast hmark
  have hline : p.line < b.lineCount := Nat.lt_of_le_of_lt hlast hl
  have hmem : b.lineText p.line ∈ blockTexts b sel.lineBlock := by
    refine List.mem_of_getElem? ((getElem?_blockTexts hfirst hlast).trans ?_)
    rw [lineText, text?, List.getElem?_eq_getElem hline]
    rfl
  rw [h _ hmem] at hmark
  cases hmark

theorem getsMark_eq_false (hblank : ts.all Text.isBlank = false)
    (h : (ts.all fun t => Text.isBlank t || isCommented t) = true) (ht : t ∈ ts) :
    getsMark ts t = false := by
  have := List.all_eq_true.1 h t ht
  rw [getsMark, hblank, Bool.false_or]
  cases hc : isCommented t with
  | true => rfl
  | false => rw [hc, Bool.or_false] at this; rw [this]; rfl

/-! ## The command and the command once more -/

/-- What toggling comments twice does, if both times succeed: it takes back what it did, and in
between the lines of the block have marks. -/
structure TogglesBack (b : Buffer) (sel o : Selection) (c d : Buffer) : Prop where
  once : (toggleComment sel).outcome b = (.ok o, c)
  twice : (toggleComment o).outcome c = (.ok sel, d)
  texts : d.texts = b.texts
  ids : d.ids = b.ids
  block : o.lineBlock = sel.lineBlock
  marked : blockTexts c sel.lineBlock = (blockTexts b sel.lineBlock).map fun t =>
    if !(blockTexts b sel.lineBlock).all Text.isBlank && t.isBlank then t else commented t

theorem exists_togglesBack (W : b.WellFormed) (hl : sel.lineBlock.last < b.lineCount)
    (hplain : ∀ t ∈ blockTexts b sel.lineBlock, isCommented t = false) (hroom : EndsHaveRoom b sel) :
    ∃ o c d, TogglesBack b sel o c d := by
  obtain ⟨above, ts, below, H⟩ := exists_parts (first_le_last sel) hl
  rw [H.blockTexts_eq] at hplain
  obtain ⟨c, ho, R⟩ := exists_toggleComment W H (toggleOverflows_eq_false_iff.2 hroom)
  have Hc := H.replaced R.texts (List.length_map _)
  have hblock : (mapEnds ((toggle ts).move sel.lineBlock.first ts) sel).lineBlock = sel.lineBlock := by
    rw [toggle_of_plain hplain, lineBlock_comment]
  -- the block is the same, so the second call runs on the lines that the first one left
  have hundoes (t : Text) (ht : t ∈ ts) := toggle_undoes hplain ht
  have hback : mapEnds ((toggle (ts.map (toggle ts).text)).move sel.lineBlock.first
      (ts.map (toggle ts).text)) (mapEnds ((toggle ts).move sel.lineBlock.first ts) sel) = sel := by
    rw [mapEnds, mapEnds, Undoes.move hundoes, Undoes.move hundoes]
  have hunmarked := isCommented_toggled hplain (H.ne_nil (first_le_last sel))
  have hroom' : EndsHaveRoom c (mapEnds ((toggle ts).move sel.lineBlock.first ts) sel) := by
    refine endsHaveRoom_of_unmarked (by rw [hblock]; exact Hc.last_lt) ?_
    rw [hblock, Hc.blockTexts_eq]
    exact fun t ht => getsMark_eq_false hunmarked.1 hunmarked.2 ht
  obtain ⟨d, ho', R'⟩ := exists_toggleComment (R.wellFormed W) (hblock.symm ▸ Hc)
    (toggleOverflows_eq_false_iff.2 hroom')
  rw [hblock, hback] at ho'
  refine ⟨_, c, d, ho, ho', ?_, R'.ids.trans R.ids, hblock, ?_⟩
  · rw [R'.texts, H.texts, Undoes.map_text hundoes]
  · rw [Hc.blockTexts_eq, H.blockTexts_eq]
    refine List.map_congr_left fun t ht => ?_
    rw [toggle_of_plain hplain]
    show (if _ then t else comment.text t) = _
    rw [text_comment (hplain t ht)]

/-- Toggling comments twice on lines that are no comments takes back what it did, if and only if the
ends of the selection can be pushed on. If not, the program stops at the first of the two. -/
theorem toggleComment_twice_iff (hb : b.Lived) (hl : sel.lineBlock.last < b.lineCount)
    (hplain : ∀ t ∈ blockTexts b sel.lineBlock, isCommented t = false) :
    ((∃ o c d, TogglesBack b sel o c d) ↔ EndsHaveRoom b sel) ∧
      (¬EndsHaveRoom b sel → (toggleComment sel).outcome b = (.error .overflow, b)) := by
  have hstops (h : ¬EndsHaveRoom b sel) :
      (toggleComment sel).outcome b = (.error .overflow, b) := by
    refine outcome_toggleComment_of_overflows hl ?_
    rwa [← toggleOverflows_eq_false_iff, Bool.not_eq_false] at h
  refine ⟨⟨?_, exists_togglesBack hb.wellFormed hl hplain⟩, hstops⟩
  rintro ⟨o, c, d, H⟩
  by_contra h
  have := H.once
  rw [hstops h] at this
  cases this

/-- A selection from beyond the end of the last line back into the first one, with a blank line
between. -/
theorem toggleComment_twice_iff_backward :
    let b := Buffer.ofText "  ab\n \nc".toList
    let sel : Selection := ⟨⟨2, maxIndex - 2⟩, ⟨0, 3⟩⟩
    ∃ o c d, (toggleComment sel).outcome b = (.ok o, c) ∧ (toggleComment o).outcome c = (.ok sel, d) ∧
      d.texts = b.texts ∧ o.lineBlock = ⟨0, 2⟩ ∧
      blockTexts c sel.lineBlock = ["  # ab".toList, " ".toList, "# c".toList] := by
  intro b sel
  have hb : b.Lived := ⟨b, .ofText _ (by decide), .refl⟩
  obtain ⟨o, c, d, H⟩ :=
    (toggleComment_twice_iff hb (by decide : sel.lineBlock.last < b.lineCount) (by decide)).1.2
      (by decide)
  exact ⟨o, c, d, H.once, H.twice, H.texts, H.block.trans (by decide), H.marked.trans (by decide)⟩

/-- A line that is no comment, selected up to the last column that is an index. -/
theorem not_togglesBack :
    let b := Buffer.ofText ['a']
    let sel : Selection := ⟨⟨0, 0⟩, ⟨0, maxIndex⟩⟩
    sel.lineBlock.last < b.lineCount ∧
      (∀ t ∈ blockTexts b sel.lineBlock, isCommented t = false) ∧
      (toggleComment sel).outcome b = (.error .overflow, b) ∧ ¬∃ o c d, TogglesBack b sel o c d := by
  intro b sel
  have hstop : (toggleComment sel).outcome b = (.error .overflow, b) := by decide
  refine ⟨by decide, by decide, hstop, ?_⟩
  rintro ⟨o, c, d, H⟩
  have := H.once
  rw [hstop] at this
  cases this

end Edit
end LogicEditor
