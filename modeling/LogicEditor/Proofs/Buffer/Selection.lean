import LogicEditor.Proofs.Buffer.Command
import LogicEditor.Proofs.Buffer.Replay

/-!
# Selections after commands

Where the ends of a selection go when a command is run on its lines, and whether they are positions
then (`Buffer.Holds`). A selection ends in its block of lines or right behind it, in column 0
(`Selection.EndsBelow`). Lines that move keep their texts, so ends in the block go with them
(`Buffer.holds_moved_iff`); an end behind the block needs a line there.
-/

namespace LogicEditor

open Edit (mapEnds)
open SymbolIndex

variable {b c : Buffer} {sel : Selection} {p : Position} {line start mid stop i : Nat}
  {t : Text} {ts : List Text} {f : Position → Position} {g : Nat → Nat}

/-! ## Selections and their blocks -/

namespace Selection

/-- The selection ends before the first character of its last line, which is not in its block. -/
def EndsBelow (sel : Selection) : Prop :=
  sel.range.start.line < sel.range.stop.line ∧ sel.range.stop.col = 0

instance (sel : Selection) : Decidable sel.EndsBelow := inferInstanceAs (Decidable (_ ∧ _))

theorem range_eq (sel : Selection) :
    sel.range = ⟨sel.anchor, sel.active⟩ ∨ sel.range = ⟨sel.active, sel.anchor⟩ := by
  rw [range, Range.between]
  split
  · exact .inl rfl
  · exact .inr rfl

theorem start_line_eq (sel : Selection) : sel.range.start.line = sel.lineBlock.first := by
  rw [lineBlock]
  split <;> rfl

theorem stop_eq_of_endsBelow (h : sel.EndsBelow) :
    sel.range.stop = ⟨sel.lineBlock.last + 1, 0⟩ := by
  rw [EndsBelow] at h
  rw [lineBlock, if_pos h, Nat.sub_add_cancel (Nat.zero_lt_of_lt h.1), ← h.2]

theorem stop_line_eq (h : ¬sel.EndsBelow) : sel.range.stop.line = sel.lineBlock.last := by
  rw [EndsBelow] at h
  rw [lineBlock, if_neg h]

theorem range_mapEnds (f : Position → Position) (sel : Selection) :
    (mapEnds f sel).range = ⟨f sel.range.start, f sel.range.stop⟩ ∨
      (mapEnds f sel).range = ⟨f sel.range.stop, f sel.range.start⟩ := by
  rcases sel.range_eq with h | h
  · rw [h]
    exact (mapEnds f sel).range_eq
  · rw [h]
    exact (mapEnds f sel).range_eq.symm

/-- The block of a selection whose ends go to other lines, but not past each other. -/
theorem lineBlock_mapEnds (hstart : (f sel.range.start).line = g sel.range.start.line)
    (hstop : (f sel.range.stop).line = g sel.range.stop.line)
    (hlt : sel.range.start.line < sel.range.stop.line →
      g sel.range.start.line < g sel.range.stop.line) :
    (mapEnds f sel).lineBlock =
      if sel.range.start.line < sel.range.stop.line ∧ (f sel.range.stop).col = 0 then
        ⟨g sel.range.start.line, g sel.range.stop.line - 1⟩
      else ⟨g sel.range.start.line, g sel.range.stop.line⟩ := by
  have hle := (mapEnds f sel).start_line_le
  rw [lineBlock]
  -- on different lines the ends keep their order; on one line it does not matter
  rcases Nat.lt_or_eq_of_le sel.start_line_le with h | h
  · rcases range_mapEnds f sel with hr | hr
    · simp only [hr, hstart, hstop, h, hlt h]
    · rw [hr] at hle
      change (f sel.range.stop).line ≤ (f sel.range.start).line at hle
      rw [hstart, hstop] at hle
      exact absurd hle (Nat.not_le.2 (hlt h))
  · rcases range_mapEnds f sel with hr | hr <;> simp [hr, hstart, hstop, h]

/-- The block stays unless the selection comes to end in column 0 of its last line, or no longer does. -/
theorem lineBlock_mapEnds_eq_iff (hline : ∀ p, (f p).line = p.line) :
    (mapEnds f sel).lineBlock = sel.lineBlock ↔ (sel.range.start.line < sel.range.stop.line →
      ((f sel.range.stop).col = 0 ↔ sel.range.stop.col = 0)) := by
  rw [lineBlock_mapEnds (g := id) (hline _) (hline _) id, lineBlock]
  by_cases h : sel.range.start.line < sel.range.stop.line
  · by_cases h1 : (f sel.range.stop).col = 0 <;> by_cases h2 : sel.range.stop.col = 0 <;>
      simp [h, h1, h2] <;> omega
  · simp [h]

theorem last_le_stop_line (sel : Selection) : sel.lineBlock.last ≤ sel.range.stop.line := by
  rw [lineBlock]
  split
  · exact Nat.sub_le ..
  · exact Nat.le_refl _

/-- The block goes with its lines if they stay next to each other. -/
theorem lineBlock_moved (hlt : sel.range.start.line < sel.range.stop.line →
      g sel.range.start.line < g sel.range.stop.line)
    (hnext : sel.range.start.line < sel.range.stop.line →
      g sel.range.stop.line - 1 = g (sel.range.stop.line - 1)) :
    (mapEnds (fun p => ⟨g p.line, p.col⟩) sel).lineBlock =
      ⟨g sel.lineBlock.first, g sel.lineBlock.last⟩ := by
  rw [lineBlock_mapEnds (g := g) rfl rfl hlt, lineBlock]
  by_cases h : sel.range.start.line < sel.range.stop.line ∧ sel.range.stop.col = 0
  · rw [if_pos h, if_pos h, hnext h.1]
  · rw [if_neg h, if_neg h]

theorem lineBlock_shifted_add {d : Nat} (h : sel.range.stop.line + d ≤ maxIndex) :
    (sel.shifted d).lineBlock = ⟨sel.lineBlock.first + d, sel.lineBlock.last + d⟩ := by
  have hmove {i : Nat} (hi : i ≤ sel.range.stop.line) : moveIndex i d = i + d :=
    moveIndex_add (Nat.le_trans (Nat.add_le_add_right hi d) h)
  have hlast := sel.last_le_stop_line
  rw [← hmove hlast, ← hmove (Nat.le_trans (Edit.first_le_last sel) hlast)]
  refine lineBlock_moved (g := (moveIndex · d)) (fun hlt => ?_) fun hlt => ?_
  · rw [hmove sel.start_line_le, hmove (Nat.le_refl _)]
    exact Nat.add_lt_add_right hlt d
  · rw [hmove (Nat.le_refl _), hmove (Nat.sub_le ..)]
    omega

theorem lineBlock_shifted_sub {d : Nat} (h : d ≤ sel.range.start.line)
    (h' : sel.range.stop.line ≤ maxIndex) :
    (sel.shifted (-d)).lineBlock = ⟨sel.lineBlock.first - d, sel.lineBlock.last - d⟩ := by
  have hmove {i : Nat} (hi : d ≤ i) (hi' : i ≤ sel.range.stop.line) : moveIndex i (-d) = i - d :=
    moveIndex_sub (Nat.le_trans hi' h') hi
  have hfirst : d ≤ sel.lineBlock.first := sel.start_line_eq ▸ h
  have hle := Edit.first_le_last sel
  have hlast := sel.last_le_stop_line
  rw [← hmove hfirst (Nat.le_trans hle hlast), ← hmove (Nat.le_trans hfirst hle) hlast]
  refine lineBlock_moved (g := (moveIndex · (-d))) (fun hlt => ?_) fun hlt => ?_
  · rw [hmove h sel.start_line_le, hmove (Nat.le_trans h sel.start_line_le) (Nat.le_refl _)]
    exact Nat.sub_lt_sub_right h hlt
  · rw [hmove (Nat.le_trans h sel.start_line_le) (Nat.le_refl _),
      hmove (Nat.le_sub_one_of_lt (Nat.lt_of_le_of_lt h hlt)) (Nat.sub_le ..)]
    omega

end Selection

namespace Buffer

/-! ## Positions -/

theorem positionError?_eq_none_iff_text? :
    b.positionError? p = none ↔ ∃ t, b.text? p.line = some t ∧ p.col ≤ t.length := by
  rw [positionError?]
  cases b.text? p.line with
  | none => simp
  | some t => simp

theorem lt_lineCount (hp : b.positionError? p = none) : p.line < b.lineCount :=
  (positionError?_eq_none_iff.1 hp).1

/-- The start of an existing line is a position. -/
theorem positionError?_start : b.positionError? ⟨line, 0⟩ = none ↔ line < b.lineCount := by
  rw [positionError?_eq_none_iff]
  exact and_iff_left (Nat.zero_le _)

/-- Both ends of the selection are positions. -/
def Holds (b : Buffer) (sel : Selection) : Prop :=
  b.positionError? sel.anchor = none ∧ b.positionError? sel.active = none

instance (b : Buffer) (sel : Selection) : Decidable (b.Holds sel) :=
  inferInstanceAs (Decidable (_ ∧ _))

theorem holds_caret : b.Holds (.caret p) ↔ b.positionError? p = none := and_self_iff

theorem holds_congr (h : c.texts = b.texts) : c.Holds sel ↔ b.Holds sel := by
  simp only [Holds, positionError?_eq_none_iff_text?, text?_eq, h]

/-- Both ends go the same way, whichever of them comes first. -/
theorem holds_mapEnds {f : Position → Position} : b.Holds (mapEnds f sel) ↔
    b.positionError? (f sel.range.start) = none ∧ b.positionError? (f sel.range.stop) = none := by
  rcases sel.range_eq with h | h
  · rw [h]
    rfl
  · rw [h]
    exact And.comm

theorem holds_range : b.Holds sel ↔
    b.positionError? sel.range.start = none ∧ b.positionError? sel.range.stop = none :=
  holds_mapEnds (f := id)

/-- The block of a selection that is held exists. -/
theorem Holds.last_lt (H : b.Holds sel) : sel.lineBlock.last < b.lineCount := by
  have hstop := lt_lineCount (holds_range.1 H).2
  by_cases h : sel.EndsBelow
  · rw [Selection.stop_eq_of_endsBelow h] at hstop
    exact Nat.lt_of_succ_lt hstop
  · rwa [Selection.stop_line_eq h] at hstop

/-! ## Texts put in -/

/-- The place where a text is put in is still a position. -/
theorem positionError?_withText (hp : b.positionError? p = none) (t : Text) :
    (b.withText p t).positionError? p = none := by
  rw [withText]
  split
  · exact hp
  · obtain ⟨above, l, below, hs, hn, hcol⟩ := exists_position hp
    obtain ⟨new, hlines, htexts, -⟩ := insertedText_split hs hn t
    obtain ⟨first, more, hls⟩ := List.exists_cons_of_ne_nil (Text.lines_ne_nil t)
    obtain ⟨m, rest, rfl, hm⟩ : ∃ m rest, new = m :: rest ∧ p.col ≤ m.text.length := by
      have hflank : ∃ u us, Text.flank (l.text.take p.col) (Text.lines t) (l.text.drop p.col) =
          (l.text.take p.col ++ u) :: us := by
        rw [hls]
        cases more with
        | nil => exact ⟨first ++ l.text.drop p.col, [], by rw [Text.flank, List.append_assoc]⟩
        | cons m ms => exact ⟨first, _, Text.flank_cons_cons⟩
      obtain ⟨u, us, hu⟩ := hflank
      rw [hu] at htexts
      obtain ⟨m, rest, rfl, hm, -⟩ := List.map_eq_cons_iff.1 htexts
      refine ⟨m, rest, rfl, ?_⟩
      rw [hm, List.length_append, List.length_take_of_le hcol]
      exact Nat.le_add_right _ _
    rw [List.append_assoc, List.cons_append] at hlines
    exact positionError?_split hlines hn hm

/-! ## Lines that move -/

/-- A selection goes with its lines: its ends are positions still, if a line comes behind them
should it end there. -/
theorem holds_moved_iff {f : Nat → Nat} (H : b.Holds sel)
    (hblock : ∀ i, sel.lineBlock.first ≤ i → i ≤ sel.lineBlock.last → c.text? (f i) = b.text? i) :
    c.Holds (mapEnds (fun p => ⟨f p.line, p.col⟩) sel) ↔
      (sel.EndsBelow → f (sel.lineBlock.last + 1) < c.lineCount) := by
  obtain ⟨hstart, hstop⟩ := holds_range.1 H
  have hle := Edit.first_le_last sel
  have goes {p : Position} (hp : b.positionError? p = none) (h1 : sel.lineBlock.first ≤ p.line)
      (h2 : p.line ≤ sel.lineBlock.last) : c.positionError? ⟨f p.line, p.col⟩ = none := by
    obtain ⟨t, ht, hcol⟩ := positionError?_eq_none_iff_text?.1 hp
    exact positionError?_eq_none_iff_text?.2 ⟨t, (hblock _ h1 h2).trans ht, hcol⟩
  have hfirst := goes hstart (Nat.le_of_eq sel.start_line_eq.symm) (by rwa [sel.start_line_eq])
  rw [holds_mapEnds, and_iff_right hfirst]
  by_cases h : sel.EndsBelow
  · rw [Selection.stop_eq_of_endsBelow h, positionError?_start]
    exact ⟨fun hlt _ => hlt, fun hlt => hlt h⟩
  · have hlast := Selection.stop_line_eq h
    exact iff_of_true (goes hstop (by rwa [hlast]) (Nat.le_of_eq hlast)) fun h' => absurd h' h

theorem holds_shifted_iff {d : Int} (H : b.Holds sel)
    (hblock : ∀ i, sel.lineBlock.first ≤ i → i ≤ sel.lineBlock.last →
      c.text? (moveIndex i d) = b.text? i) :
    c.Holds (sel.shifted d) ↔ (sel.EndsBelow → moveIndex (sel.lineBlock.last + 1) d < c.lineCount) :=
  holds_moved_iff H hblock

section
variable {α : Type} {above block below : List α} {k : Nat}

theorem getElem?_block (h : k < block.length) :
    (above ++ block ++ below)[above.length + k]? = block[k]? := by
  rw [List.append_assoc, List.getElem?_append_right (Nat.le_add_right _ _), Nat.add_sub_cancel_left,
    List.getElem?_append_left h]

end

section
variable (h : start < mid) (h' : mid < stop) (hs : stop ≤ b.lineCount)
include h h' hs

theorem exists_rotated : ∃ above upper lower below,
    b.lines = above ++ upper ++ lower ++ below ∧ above.length = start ∧
    start + upper.length = mid ∧ mid + lower.length = stop ∧
    (b.rotateLines start mid stop).lines = above ++ lower ++ upper ++ below := by
  obtain ⟨rest, lower, below, hb, hr, hl⟩ := exists_block (Nat.le_of_lt h') hs
  obtain ⟨above, upper, rfl, ha⟩ := exists_split_at (hr ▸ Nat.le_of_lt h)
  have hu : start + upper.length = mid := by rw [← hr, List.length_append, ha]
  refine ⟨above, upper, lower, below, hb, ha, hu, hl, ?_⟩
  rw [lines_rotateLines hb ha hu hl, ← List.append_assoc above]

theorem lineCount_rotateLines : (b.rotateLines start mid stop).lineCount = b.lineCount := by
  obtain ⟨above, upper, lower, below, hb, -, -, -, hrot⟩ := exists_rotated h h' hs
  rw [lineCount, lineCount, hrot, hb]
  simp only [List.length_append]
  omega

theorem text?_rotateLines_lower (hi : mid ≤ i) (hi' : i < stop) :
    (b.rotateLines start mid stop).text? (i - (mid - start)) = b.text? i := by
  obtain ⟨above, upper, lower, below, hb, rfl, hu, hl, hrot⟩ := exists_rotated h h' hs
  rw [← List.length_append] at hu
  obtain ⟨k, rfl⟩ := Nat.exists_eq_add_of_le hi
  have hk : k < lower.length := by omega
  have hback : mid + k - (mid - above.length) = above.length + k := by omega
  rw [hback, text?, text?, hrot, hb, List.append_assoc (above ++ lower), getElem?_block hk, ← hu,
    getElem?_block hk]

theorem text?_rotateLines_upper (hi : start ≤ i) (hi' : i < mid) :
    (b.rotateLines start mid stop).text? (i + (stop - mid)) = b.text? i := by
  obtain ⟨above, upper, lower, below, hb, rfl, hu, hl, hrot⟩ := exists_rotated h h' hs
  obtain ⟨k, rfl⟩ := Nat.exists_eq_add_of_le hi
  have hk : k < upper.length := by omega
  have hforth : above.length + k + (stop - mid) = (above ++ lower).length + k := by
    rw [List.length_append]
    omega
  rw [hforth, text?, text?, hrot, hb, List.append_assoc (above ++ upper), getElem?_block hk,
    getElem?_block hk]

end

/-! ## Lines that are copied -/

theorem flatMap_lines (h : ∀ t ∈ ts, Text.hasBreak t = false) : ts.flatMap Text.lines = ts := by
  induction ts with
  | nil => rfl
  | cons t ts ih =>
    rw [List.forall_mem_cons] at h
    rw [List.flatMap_cons, Text.lines_of_not_hasBreak h.1, ih h.2]
    rfl

theorem texts_withLines (hl : line ≤ b.lineCount) (h : ∀ t ∈ ts, Text.hasBreak t = false) :
    (b.withLines line ts).texts = b.texts.take line ++ ts ++ b.texts.drop line := by
  rw [texts, lines_withLines hl, flatMap_lines h, List.map_append, List.map_append,
    map_text_freshLines, List.map_take, List.map_drop]
  rfl

section
variable {block : LineBlock}

theorem length_blockTexts (hl : block.last < b.lineCount) :
    (Edit.blockTexts b block).length = block.size := by
  rw [Edit.blockTexts, List.length_drop, List.length_take, texts, List.length_map,
    Nat.min_eq_left (show block.last + 1 ≤ b.lines.length from hl), LineBlock.size]

theorem getElem?_blockTexts (hi : block.first ≤ i) (hi' : i ≤ block.last) :
    (Edit.blockTexts b block)[i - block.first]? = b.text? i := by
  rw [Edit.blockTexts, List.getElem?_drop, Nat.add_sub_cancel' hi,
    List.getElem?_take_of_lt (Nat.lt_succ_of_le hi'), text?_eq]

theorem clean_blockTexts (W : b.WellFormed) : ∀ t ∈ Edit.blockTexts b block, Text.hasBreak t = false :=
  fun t ht => W.clean t (List.mem_of_mem_take (List.mem_of_mem_drop ht))

section
variable (W : b.WellFormed) (hl : block.last < b.lineCount) (hline : line ≤ b.lineCount)
include W hl hline

theorem lineCount_withLines_blockTexts :
    (b.withLines line (Edit.blockTexts b block)).lineCount = b.lineCount + block.size := by
  have hlen : (b.withLines line (Edit.blockTexts b block)).texts.length = b.lineCount + block.size := by
    rw [texts_withLines hline (clean_blockTexts W), List.length_append, List.length_append,
      length_blockTexts hl, List.length_take, List.length_drop, texts, List.length_map]
    simp only [lineCount] at hline ⊢
    omega
  rwa [texts, List.length_map] at hlen

/-- The copy of a block stands where it was put. -/
theorem text?_withLines_blockTexts (hi : block.first ≤ i) (hi' : i ≤ block.last) :
    (b.withLines line (Edit.blockTexts b block)).text? (line + (i - block.first)) = b.text? i := by
  have htake : (b.texts.take line).length = line :=
    List.length_take_of_le (by rwa [texts, List.length_map])
  have hlen := length_blockTexts hl
  rw [LineBlock.size] at hlen
  have hk : i - block.first < (Edit.blockTexts b block).length := by omega
  rw [text?_eq, texts_withLines hline (clean_blockTexts W)]
  nth_rewrite 3 [← htake]
  rw [getElem?_block hk, getElem?_blockTexts hi hi']

end
end

end Buffer

namespace Edit

open Buffer EditM SymbolIndex

/-! ## Commands on selected lines -/

section
variable {o : Selection} (H : b.Holds sel)
include H

theorem holds_of_moveUp (F : b.Fits) (h : (moveUp sel).outcome b = (.ok o, c)) : c.Holds o := by
  have hle := first_le_last sel
  have hlast := H.last_lt
  rw [outcome_moveUp hlast] at h
  split at h
  · cases h
    exact H
  · rename_i hfirst
    cases h
    have hup (i : Nat) (hi : 1 ≤ i) (hi' : i ≤ b.lineCount) : moveIndex i (-1) = i - 1 :=
      moveIndex_sub (Nat.le_trans hi' F) hi
    have hlt : sel.lineBlock.first - 1 < sel.lineBlock.first := by omega
    refine (holds_shifted_iff H fun i hi hi' => ?_).2 fun _ => ?_
    · have := text?_rotateLines_lower hlt (Nat.lt_succ_of_le hle) hlast hi (Nat.lt_succ_of_le hi')
      rw [hup i (by omega) (by omega)]
      rwa [Nat.sub_sub_self (Nat.one_le_iff_ne_zero.2 hfirst)] at this
    · rw [hup _ (by omega) hlast]
      exact (lineCount_rotateLines hlt (Nat.lt_succ_of_le hle) hlast).symm ▸ hlast

/-- Lines that move down take a selection with them, unless it ends below them, on the last line:
then it ends on no line afterwards. -/
theorem holds_of_moveDown_iff (F : b.Fits) (h : (moveDown sel).outcome b = (.ok o, c)) :
    c.Holds o ↔ ¬(sel.EndsBelow ∧ sel.range.stop.line + 1 = b.lineCount) := by
  have hle := first_le_last sel
  have hlast := H.last_lt
  have hstop := lt_lineCount (holds_range.1 H).2
  rw [outcome_moveDown hlast] at h
  split at h
  · rename_i hcount
    cases h
    refine iff_of_true H fun ⟨hbelow, _⟩ => ?_
    rw [Selection.stop_eq_of_endsBelow hbelow] at hstop
    exact Nat.not_lt.2 hcount hstop
  · rename_i hcount
    rw [Nat.not_le] at hcount
    rw [Prod.mk.injEq, Except.ok.injEq] at h
    obtain ⟨rfl, rfl⟩ := h
    have hdown (i : Nat) (hi : i + 1 ≤ b.lineCount) : moveIndex i 1 = i + 1 :=
      moveIndex_add (Nat.le_trans hi F)
    have hfirst : sel.lineBlock.first < sel.lineBlock.last + 1 := Nat.lt_add_one_of_le hle
    have hmid : sel.lineBlock.last + 1 < sel.lineBlock.last + 2 := Nat.lt_add_one _
    refine (holds_shifted_iff H fun i hi hi' => ?_).trans ?_
    · have := text?_rotateLines_upper hfirst hmid hcount hi (Nat.lt_add_one_of_le hi')
      rw [Nat.add_sub_add_left] at this
      rw [hdown i (by omega)]
      exact this
    · have hc : (b.rotateLines sel.lineBlock.first (sel.lineBlock.last + 1)
          (sel.lineBlock.last + 2)).markModified.lineCount = b.lineCount :=
        lineCount_rotateLines hfirst hmid hcount
      rw [hc, not_and]
      refine forall_congr' fun hbelow => ?_
      rw [Selection.stop_eq_of_endsBelow hbelow, hdown _ hcount]
      show sel.lineBlock.last + 2 < b.lineCount ↔ sel.lineBlock.last + 2 ≠ b.lineCount
      omega

theorem holds_of_deleteLines (W : b.WellFormed) (h : (deleteLines sel).outcome b = (.ok o, c)) :
    c.Holds o := by
  have hpos : 0 < c.lineCount := by
    have := ((sound_deleteLines W sel).wellFormed W).lineCount_pos
    rwa [h] at this
  rw [outcome_deleteLines H.last_lt] at h
  cases h
  exact holds_caret.2 (positionError?_start.2 (by omega))

theorem holds_of_duplicateUp (W : b.WellFormed) (h : (duplicateUp sel).outcome b = (.ok o, c)) :
    c.Holds o := by
  have hle := first_le_last sel
  have hlast := H.last_lt
  rw [outcome_duplicateUp hlast] at h
  cases h
  have hfirst : sel.lineBlock.first ≤ b.lineCount := by omega
  refine (holds_moved_iff (f := id) H fun i hi hi' => ?_).2 fun _ => ?_
  · rw [← text?_withLines_blockTexts W hlast hfirst hi hi', Nat.add_sub_cancel' hi]
    rfl
  · rw [lineCount_withLines_blockTexts W hlast hfirst, LineBlock.size]
    show sel.lineBlock.last + 1 < _
    omega

theorem holds_of_duplicateDown (W : b.WellFormed)
    (h : (duplicateDown sel).outcome b = (.ok o, c)) (F : c.Fits) : c.Holds o := by
  have hle := first_le_last sel
  have hlast := H.last_lt
  have hstop := lt_lineCount (holds_range.1 H).2
  rw [outcome_duplicateDown hlast, length_blockTexts hlast] at h
  cases h
  have hcount := lineCount_withLines_blockTexts W hlast (Nat.succ_le_of_lt hlast)
  rw [Fits, hcount] at F
  have hdown (i : Nat) (hi : i ≤ b.lineCount) :
      moveIndex i sel.lineBlock.size = i + sel.lineBlock.size :=
    moveIndex_add (Nat.le_trans (Nat.add_le_add_right hi _) F)
  refine (holds_shifted_iff H fun i hi hi' => ?_).2 fun hbelow => ?_
  · rw [hdown i (by omega), ← text?_withLines_blockTexts W hlast (Nat.succ_le_of_lt hlast) hi hi',
      LineBlock.size]
    congr 1
    omega
  · rw [Selection.stop_eq_of_endsBelow hbelow] at hstop
    rw [hdown _ (Nat.succ_le_of_lt hlast), hcount]
    exact Nat.add_lt_add_right hstop _

end

end Edit
end LogicEditor
