import LogicEditor.Proofs.Buffer.Block
import LogicEditor.Proofs.Buffer.LineList

/-!
# Commands that take each other back

Lines that were moved go back with the opposite move (`Edit.move_back`). A copy of lines that is
deleted leaves the lines it was made from (`Edit.delete_copy`). A text that was put in goes out again,
and one that was taken out goes in again (`Edit.insert_delete`).
-/

namespace LogicEditor

open Buffer EditM

variable {b c : Buffer} {sel : Selection} {p : Position} {r : Range} {t : Text} {ts : List Text}
  {line start mid stop : Nat}

theorem Buffer.contents_congr (hl : c.lines = b.lines) (he : c.ending = b.ending) :
    c.contents = b.contents := by
  rw [contents, contents, texts, texts, hl, he]

/-! ## Lines moved to and fro -/

theorem moveIndex_back {n : Nat} {d : Int} (h : 0 ≤ n + d) (hn : n ≤ maxIndex)
    (hd : n + d ≤ maxIndex) : moveIndex (moveIndex n d) (-d) = n := by
  simp only [moveIndex]
  omega

namespace Selection

theorem stop_line_le (sel : Selection) : sel.range.stop.line ≤ sel.lineBlock.last + 1 := by
  rw [lineBlock]
  split
  · exact Nat.le_add_of_sub_le (Nat.le_refl _)
  · exact Nat.le_succ _

/-- A selection that does not come to the first or the largest line number is shifted back. -/
theorem shifted_back {d : Int} (h : 0 ≤ sel.range.start.line + d)
    (hstop : sel.range.stop.line ≤ maxIndex) (hd : sel.range.stop.line + d ≤ maxIndex) :
    (sel.shifted d).shifted (-d) = sel := by
  have hback (p : Position) (h1 : sel.range.start.line ≤ p.line)
      (h2 : p.line ≤ sel.range.stop.line) : (p.shifted d).shifted (-d) = p := by
    have hline : moveIndex (moveIndex p.line d) (-d) = p.line :=
      moveIndex_back (by omega) (by omega) (by omega)
    rw [Position.shifted, Position.shifted]
    simp only [hline]
  have hle := sel.start_line_le
  rw [shifted, shifted, Selection.mk.injEq]
  rcases sel.range_eq with hr | hr
  · rw [hr] at hback hle
    exact ⟨hback _ (Nat.le_refl _) hle, hback _ hle (Nat.le_refl _)⟩
  · rw [hr] at hback hle
    exact ⟨hback _ hle (Nat.le_refl _), hback _ (Nat.le_refl _) hle⟩

section
variable {first last : Nat} (hm : last + 2 ≤ maxIndex)
include hm

theorem shifted_up (hb : sel.lineBlock = ⟨first + 1, last + 1⟩) :
    (sel.shifted (-1)).lineBlock = ⟨first, last⟩ ∧ (sel.shifted (-1)).shifted 1 = sel := by
  have hstart := sel.start_line_eq
  have hstop := sel.stop_line_le
  simp only [hb] at hstart hstop
  have hblock : (sel.shifted (-1)).lineBlock = _ :=
    lineBlock_shifted_sub (d := 1) (by omega) (by omega)
  rw [hb] at hblock
  exact ⟨hblock, shifted_back (by omega) (by omega) (by omega)⟩

theorem shifted_down (hb : sel.lineBlock = ⟨first, last⟩) :
    (sel.shifted 1).lineBlock = ⟨first + 1, last + 1⟩ ∧ (sel.shifted 1).shifted (-1) = sel := by
  have hstop := sel.stop_line_le
  simp only [hb] at hstop
  have hblock : (sel.shifted 1).lineBlock = _ := lineBlock_shifted_add (d := 1) (by omega)
  rw [hb] at hblock
  exact ⟨hblock, shifted_back (by omega) (by omega) (by omega)⟩

end

end Selection

/-- Two neighbouring blocks that change places do so again. -/
theorem Buffer.rotateLines_back {mid' : Nat} (h : start < mid) (h' : mid < stop)
    (hs : stop ≤ b.lineCount) (hmid : mid + mid' = start + stop) :
    let c := (b.rotateLines start mid stop).markModified
    let d := (c.rotateLines start mid' stop).markModified
    c.lineCount = b.lineCount ∧ d.lines = b.lines ∧ d.contents = b.contents := by
  intro c d
  obtain ⟨above, upper, lower, below, hb, ha, hu, hl, hrot⟩ := exists_rotated h h' hs
  have hc : c.lines = above ++ lower ++ upper ++ below := hrot
  have hlower : start + lower.length = mid' := by omega
  have hupper : mid' + upper.length = stop := by omega
  have hd : d.lines = b.lines := by
    rw [hb, List.append_assoc above]
    exact lines_rotateLines hc ha hlower hupper
  exact ⟨lineCount_rotateLines h h' hs, hd, contents_congr hd rfl⟩

namespace Edit

section
variable {first last : Nat}

/-- The lines from `first` to `last` change places with the one below them. -/
theorem outcome_moveDown_of_block (hb : sel.lineBlock = ⟨first, last⟩)
    (hl : last + 1 < b.lineCount) : (moveDown sel).outcome b =
      (.ok (sel.shifted 1), (b.rotateLines first (last + 1) (last + 2)).markModified) := by
  have hlast : sel.lineBlock.last < b.lineCount := hb ▸ Nat.lt_of_succ_lt hl
  rw [outcome_moveDown hlast, hb, if_neg (Nat.not_le.2 hl)]

/-- Those lines, below the one that they changed places with, change places with it again. -/
theorem outcome_moveUp_of_block (hb : sel.lineBlock = ⟨first + 1, last + 1⟩)
    (hl : last + 1 < b.lineCount) : (moveUp sel).outcome b =
      (.ok (sel.shifted (-1)), (b.rotateLines first (first + 1) (last + 2)).markModified) := by
  have hlast : sel.lineBlock.last < b.lineCount := hb ▸ hl
  rw [outcome_moveUp hlast, hb, if_neg (Nat.succ_ne_zero first), Nat.add_sub_cancel]

variable (F : b.Fits) (hl : last + 1 < b.lineCount)
include F hl

theorem moveUp_back (hb : sel.lineBlock = ⟨first + 1, last + 1⟩) : ∃ o c d,
    (moveUp sel).outcome b = (.ok o, c) ∧ BlockCommand.moveUp.Carries b c sel.lineBlock ∧
      (moveDown o).outcome c = (.ok sel, d) ∧ d.lines = b.lines ∧ d.contents = b.contents := by
  have hle : first + 1 ≤ last + 1 := by simpa only [hb] using first_le_last sel
  obtain ⟨hblock, hback⟩ := Selection.shifted_up (Nat.le_trans hl F) hb
  have hmid : first + 1 + (last + 1) = first + (last + 2) := by omega
  obtain ⟨hcount, hlines, hcontents⟩ := rotateLines_back (Nat.lt_succ_self first)
    (Nat.lt_succ_of_le hle) hl hmid
  have hagain := outcome_moveDown_of_block hblock (hcount.symm ▸ hl)
  rw [hback] at hagain
  refine ⟨_, _, _, outcome_moveUp_of_block hb hl, ?_, hagain, hlines, hcontents⟩
  rw [hb]
  exact blockLines_rotateLines_up hle hl (Nat.succ_pos first)

theorem moveDown_back (hb : sel.lineBlock = ⟨first, last⟩) : ∃ o c d,
    (moveDown sel).outcome b = (.ok o, c) ∧ BlockCommand.moveDown.Carries b c sel.lineBlock ∧
      (moveUp o).outcome c = (.ok sel, d) ∧ d.lines = b.lines ∧ d.contents = b.contents := by
  have hle : first ≤ last := by simpa only [hb] using first_le_last sel
  obtain ⟨hblock, hback⟩ := Selection.shifted_down (Nat.le_trans hl F) hb
  have hmid : last + 1 + (first + 1) = first + (last + 2) := by omega
  obtain ⟨hcount, hlines, hcontents⟩ := rotateLines_back (Nat.lt_succ_of_le hle)
    (Nat.lt_succ_self (last + 1)) hl hmid
  have hagain := outcome_moveUp_of_block hblock (hcount.symm ▸ hl)
  rw [hback] at hagain
  refine ⟨_, _, _, outcome_moveDown_of_block hb hl, ?_, hagain, hlines, hcontents⟩
  rw [hb]
  exact blockLines_rotateLines_down hle hl

end

/-- Lines that were moved go back with the opposite move, run on the selection that was returned. They
are the same lines then, with their handles and tokens, and the selection is the same. -/
theorem move_back (F : b.Fits) (hl : sel.lineBlock.last < b.lineCount) :
    (0 < sel.lineBlock.first → ∃ o c d, (moveUp sel).outcome b = (.ok o, c) ∧
      BlockCommand.moveUp.Carries b c sel.lineBlock ∧
      (moveDown o).outcome c = (.ok sel, d) ∧ d.lines = b.lines ∧ d.contents = b.contents) ∧
    (sel.lineBlock.last + 1 < b.lineCount → ∃ o c d, (moveDown sel).outcome b = (.ok o, c) ∧
      BlockCommand.moveDown.Carries b c sel.lineBlock ∧
      (moveUp o).outcome c = (.ok sel, d) ∧ d.lines = b.lines ∧ d.contents = b.contents) := by
  refine ⟨fun hroom => ?_, fun hroom => moveDown_back F hroom rfl⟩
  obtain ⟨first, hfirst⟩ := Nat.exists_eq_succ_of_ne_zero (Nat.ne_of_gt hroom)
  have hpos : 0 < sel.lineBlock.last := Nat.lt_of_lt_of_le hroom (first_le_last sel)
  obtain ⟨last, hlast⟩ := Nat.exists_eq_succ_of_ne_zero (Nat.ne_of_gt hpos)
  have hlt : last + 1 < b.lineCount := Nat.lt_of_le_of_lt (Nat.le_of_eq hlast.symm) hl
  exact moveUp_back F hlt (congrArg₂ LineBlock.mk hfirst hlast)

/-- The two lower lines, selected from behind the last break up into the middle of the second line. -/
theorem move_back_backward :
    let b := Buffer.ofText "a\r\nbc\r\nd\r\n".toList
    let sel : Selection := ⟨⟨3, 0⟩, ⟨1, 1⟩⟩
    ∃ o c d, (moveUp sel).outcome b = (.ok o, c) ∧ (moveDown o).outcome c = (.ok sel, d) ∧
      o = ⟨⟨2, 0⟩, ⟨0, 1⟩⟩ ∧ c.contents = "bc\r\nd\r\na\r\n".toList ∧ d.contents = b.contents := by
  intro b sel
  have hmoved : ((moveUp sel).outcome b).1.toOption = some ⟨⟨2, 0⟩, ⟨0, 1⟩⟩ ∧
      ((moveUp sel).outcome b).2.contents = "bc\r\nd\r\na\r\n".toList := by decide +kernel
  obtain ⟨o, c, d, ho, -, ho', -, hd⟩ :=
    (move_back (by decide : b.Fits) (by decide : sel.lineBlock.last < b.lineCount)).1 (by decide)
  rw [ho] at hmoved
  exact ⟨o, c, d, ho, ho', Option.some.inj hmoved.1, hmoved.2, hd⟩

end Edit

/-! ## Copies of lines -/

/-- New lines that are taken away leave the lines that were there. -/
theorem Buffer.withoutLines_withLines (W : b.WellFormed) (hl : line ≤ b.lineCount) (hne : ts ≠ [])
    (hclean : ∀ t ∈ ts, Text.hasBreak t = false) :
    let c := b.withLines line ts
    let d := c.withoutLines line (line + ts.length)
    line + ts.length ≤ c.lineCount ∧ d.lines = b.lines ∧ d.contents = b.contents := by
  intro c d
  obtain ⟨above, below, hb, hn⟩ := exists_split_at hl
  have hc : c.lines = above ++ freshLines b.nextId ts ++ below := lines_withLines_split hb hn hclean
  have hlen : (above ++ freshLines b.nextId ts).length = line + ts.length := by
    rw [List.length_append, length_freshLines, hn]
  have hcount : c.lineCount = line + ts.length + below.length := by
    rw [lineCount, hc, List.length_append, hlen]
  have hnew : line < line + ts.length := Nat.lt_add_of_pos_right (List.length_pos_iff.2 hne)
  have hstop : line + ts.length ≤ c.lineCount := hcount ▸ Nat.le_add_right ..
  -- the old lines are still there, so no empty line is put in
  have hold : ¬(line = 0 ∧ line + ts.length = c.lineCount) := by
    rintro ⟨rfl, hall⟩
    have hbelow : below = [] := List.eq_nil_of_length_eq_zero (by omega)
    exact W.nonempty (by rw [hb, List.eq_nil_of_length_eq_zero hn, hbelow, List.append_nil])
  have hd : d.lines = b.lines := by
    rw [lines_withoutLines hnew hstop, if_neg hold, hc, List.drop_left' hlen, List.append_assoc,
      List.take_left' hn, hb]
  have hsteps : Steps c.lineCount b c := .withLines hl (Nat.le_refl _)
  have hrest : Steps c.lineCount c d := .withoutLines (hsteps.wellFormed W) hnew hstop
  exact ⟨hstop, hd, contents_congr hd (Steps.ending (hsteps.trans hrest))⟩

namespace Edit

theorem deleteLines_withLines (W : b.WellFormed) (hl : line ≤ b.lineCount) (hne : ts ≠ [])
    (hclean : ∀ t ∈ ts, Text.hasBreak t = false) (hfirst : sel.lineBlock.first = line)
    (hlast : sel.lineBlock.last + 1 = line + ts.length) : ∃ o d,
      (deleteLines sel).outcome (b.withLines line ts) = (.ok o, d) ∧ d.lines = b.lines ∧
        d.contents = b.contents := by
  obtain ⟨hstop, hd⟩ := withoutLines_withLines W hl hne hclean
  rw [← hlast] at hstop hd
  have hdelete := outcome_deleteLines hstop
  rw [hfirst] at hdelete
  exact ⟨_, _, hdelete, hd⟩

/-- Deleting the selection that duplicating lines returned takes the copy away. The lines that are left
are those that were there, with their handles and tokens. -/
theorem delete_copy (hb : b.Lived) (hl : sel.lineBlock.last < b.lineCount) {command : BlockCommand}
    (hcopy : command = .duplicateUp ∨ command = .duplicateDown) : ∃ o c,
      (command.run sel).outcome b = (.ok o, c) ∧ command.Carries b c sel.lineBlock ∧
      (c.Fits → ∃ o' d, (deleteLines o).outcome c = (.ok o', d) ∧ d.lines = b.lines ∧
        d.contents = b.contents) := by
  have W := hb.wellFormed
  have hle := first_le_last sel
  have hclean := @clean_blockTexts b sel.lineBlock W
  have hlen := length_blockTexts hl
  rw [LineBlock.size] at hlen
  have hne : blockTexts b sel.lineBlock ≠ [] := by
    rw [← List.length_pos_iff]
    omega
  rcases hcopy with rfl | rfl
  · refine ⟨_, _, outcome_duplicateUp hl, upper_withLines hle W hl, fun _ => ?_⟩
    exact deleteLines_withLines W (by omega) hne hclean rfl (by omega)
  · refine ⟨_, _, outcome_duplicateDown hl, lower_withLines hle W hl, fun F => ?_⟩
    rw [Fits, lineCount_withLines_blockTexts W hl hl, LineBlock.size] at F
    have hstop := sel.stop_line_le
    have hblock : (sel.shifted (blockTexts b sel.lineBlock).length).lineBlock = _ :=
      Selection.lineBlock_shifted_add (by omega)
    refine deleteLines_withLines W hl hne hclean ?_ ?_
    · rw [hblock]
      show sel.lineBlock.first + _ = _
      omega
    · rw [hblock]
      show sel.lineBlock.last + _ + 1 = _
      omega

/-- The last two lines are copied behind the end of the buffer, and their copy is deleted. -/
theorem delete_copy_at_end :
    let b := Buffer.ofText "a\n\nc".toList
    let sel : Selection := ⟨⟨1, 0⟩, ⟨2, 1⟩⟩
    ∃ o c o' d, (duplicateDown sel).outcome b = (.ok o, c) ∧ (deleteLines o).outcome c = (.ok o', d) ∧
      c.contents = "a\n\nc\n\nc".toList ∧ d.lines = b.lines := by
  intro b sel
  have hb : b.Lived := ⟨b, .ofText _ (by decide), .refl⟩
  have hcopied : ((duplicateDown sel).outcome b).2.contents = "a\n\nc\n\nc".toList ∧
      ((duplicateDown sel).outcome b).2.Fits := by decide +kernel
  have hcopy : BlockCommand.duplicateDown = .duplicateUp ∨ BlockCommand.duplicateDown = .duplicateDown :=
    .inr rfl
  obtain ⟨o, c, ho, -, hdelete⟩ :=
    delete_copy hb (by decide : sel.lineBlock.last < b.lineCount) hcopy
  rw [show (duplicateDown sel).outcome b = (.ok o, c) from ho] at hcopied
  obtain ⟨o', d, ho', hd, -⟩ := hdelete hcopied.2
  exact ⟨o, c, o', d, ho, ho', hcopied.1, hd⟩

end Edit

/-! ## Texts put in and taken out -/

theorem Position.le_afterInsert (p : Position) (t : Text) : p ≤ afterInsert p t := by
  cases hls : t.lines with
  | nil => exact absurd hls (Text.lines_ne_nil t)
  | cons first more =>
    have hline := line_afterInsert p t
    rw [hls, List.length_cons, Nat.add_sub_cancel] at hline
    cases more with
    | nil =>
      have ht : t.hasBreak = false := by
        rw [Text.eq_of_lines_eq_singleton hls]
        exact Text.hasBreak_of_mem_lines (hls ▸ List.mem_cons_self)
      rw [afterInsert_of_not_hasBreak ht]
      exact .inr ⟨rfl, Nat.le_add_right ..⟩
    | cons m more => exact .inl (by rw [hline, List.length_cons]; omega)

namespace Buffer

/-- A text that was put in is what stands between its place and the position after it. -/
theorem withoutRange_withText (hp : b.positionError? p = none) (t : Text) :
    let c := b.withText p t
    let r : Range := ⟨p, afterInsert p t⟩
    c.positionError? r.start = none ∧ c.positionError? r.stop = none ∧
      (if r.isEmpty then [] else c.textIn r) = Text.withBreaks b.ending t ∧
      (c.withoutRange r).contents = b.contents ∧ (c.withoutRange r).ids = b.ids := by
  intro c r
  have hs : c.positionError? r.start = none := positionError?_withText hp t
  obtain ⟨he, hstop⟩ : c.positionError? r.stop = none ∧ _ := position_afterInsert hp t
  have hle : r.start ≤ r.stop := Position.le_afterInsert p t
  have hstart : c.offset r.start = b.offset p := offset_withText hp t
  have hlen : (b.contents.take (b.offset p)).length = b.offset p :=
    List.length_take_of_le (offset_le_length hp)
  have hend : (b.contents.take (b.offset p) ++ Text.joinLines b.ending t.lines).length =
      b.offset p + (Text.joinLines b.ending t.lines).length := by
    rw [List.length_append, hlen]
  have hcontents : c.contents = _ := contents_withText hp t
  refine ⟨hs, he, ?_, ?_, ?_⟩
  · rw [removed_eq_slice hs he hle, hstop, hstart, hcontents, List.take_left' hend,
      List.drop_left' hlen, Text.joinLines_lines]
  · rw [contents_withoutRange hs he hle, hstop, hstart, hcontents, List.drop_left' hend,
      List.append_assoc, List.take_left' hlen, List.take_append_drop]
  · have hline : p.line < b.lineCount := (positionError?_eq_none_iff.1 hp).1
    have hbefore : (b.ids.take (p.line + 1)).length = p.line + 1 := length_take_ids hline
    have hbetween : (b.ids.take (p.line + 1) ++
        List.range' b.nextId (t.lines.length - 1)).length = r.stop.line + 1 := by
      rw [List.length_append, hbefore, List.length_range', line_afterInsert, Nat.add_right_comm]
    have hids : c.ids = _ := ids_withText hp t
    rw [ids_withoutRange hs he hle, hids, List.drop_left' hbetween, List.append_assoc,
      List.take_left' hbefore, List.take_append_drop]

/-- The lines are those of the whole text. -/
theorem lines_contents (W : b.WellFormed) : Text.lines b.contents = b.texts :=
  Text.lines_joinLines (fun h => W.nonempty (List.map_eq_nil_iff.1 h)) W.clean

/-- What stands in a range has the breaks of the buffer. -/
theorem withBreaks_textIn (W : b.WellFormed) (r : Range) :
    Text.withBreaks b.ending (b.textIn r) = b.textIn r := by
  have hclean := W.clean_lineText
  rw [← Text.joinLines_lines, textIn]
  split
  · have hslice : ((b.lineText r.start.line).slice r.start.col r.stop.col).hasBreak = false :=
      Text.hasBreak_take (Text.hasBreak_drop (hclean _) _) _
    rw [Text.lines_of_not_hasBreak hslice, Text.joinLines_cons, Text.preceded_nil, List.append_nil]
  · rw [Text.lines_joinLines (List.cons_ne_nil _ _)]
    intro l hl
    simp only [List.mem_cons, List.mem_append, List.not_mem_nil, or_false] at hl
    rcases hl with rfl | hl | rfl
    · exact Text.hasBreak_drop (hclean _) _
    · exact W.clean l (List.mem_of_mem_take (List.mem_of_mem_drop hl))
    · exact Text.hasBreak_take (hclean _) _

/-- The whole text before the end of a range is that before its start, and what stands in it. -/
theorem take_contents_append_removed (hs : b.positionError? r.start = none)
    (he : b.positionError? r.stop = none) (hle : r.start ≤ r.stop) :
    b.contents.take (b.offset r.start) ++ (if r.isEmpty then [] else b.textIn r) =
      b.contents.take (b.offset r.stop) := by
  have hbefore : b.contents.take (b.offset r.start) =
      (b.contents.take (b.offset r.stop)).take (b.offset r.start) := by
    rw [List.take_take, Nat.min_eq_left (offset_mono hs he hle)]
  rw [removed_eq_slice hs he hle, hbefore, List.take_append_drop]

/-- A text that was taken out goes in again where it was, and ends where it ended. -/
theorem withText_withoutRange (W : b.WellFormed) (hs : b.positionError? r.start = none)
    (he : b.positionError? r.stop = none) (hle : r.start ≤ r.stop) {s : Text}
    (h : s = if r.isEmpty then [] else b.textIn r) :
    afterInsert r.start s = r.stop ∧
      ((b.withoutRange r).withText r.start s).contents = b.contents := by
  have hbreaks : Text.joinLines b.ending (Text.lines s) = s := by
    rw [Text.joinLines_lines, h]
    split
    · rfl
    · exact withBreaks_textIn W r
  have hsplit := take_contents_append_removed hs he hle
  rw [← h] at hsplit
  have hcontents : ((b.withoutRange r).withText r.start s).contents = b.contents := by
    rw [contents_replaced hs he hle, hbreaks, hsplit, List.take_append_drop]
  refine ⟨?_, hcontents⟩
  have hs' : (b.withoutRange r).positionError? r.start = none := positionError?_withoutRange hs
  obtain ⟨hafter, hoffset⟩ := position_afterInsert hs' s
  rw [offset_withoutRange hs he hle, ending_withoutRange, hbreaks] at hoffset
  have hstop : b.offset r.stop = b.offset r.start + s.length := by
    have hlen := congrArg List.length hsplit
    rw [List.length_append, List.length_take_of_le (offset_le_length hs),
      List.length_take_of_le (offset_le_length he)] at hlen
    exact hlen.symm
  have hremove : Steps b.lineCount b (b.withoutRange r) := .withoutRange W hs he
  have W' := hremove.wellFormed W
  have hinsert := Steps.withText (t := s) W' hs' (Nat.le_refl _)
  have htexts : ((b.withoutRange r).withText r.start s).texts = b.texts := by
    rw [← lines_contents (hinsert.wellFormed W'), hcontents, lines_contents W]
  -- both buffers have the same text, so the position has the same place and the same offset in both
  rw [← hasPosition_lineList, LineList.HasPosition, lineList, htexts] at hafter
  rw [offset, ending_withText, ending_withoutRange, htexts] at hoffset
  exact offset_inj (hasPosition_lineList.1 hafter) he (hoffset.trans hstop.symm)

end Buffer

namespace Edit

/-- What a command put in, deleting the range up to the position that it returned gives out again,
with the breaks of the buffer. What was deleted goes in again at the start of its range, and the
position behind it is the end of the range. -/
theorem insert_delete (hb : b.Lived) :
    (∀ p t, b.positionError? p = none → ∃ e c d,
      (insertText p t).outcome b = (.ok e, c) ∧
      (deleteRange ⟨p, e⟩).outcome c = (.ok (Text.withBreaks b.ending t), d) ∧
      d.contents = b.contents ∧ d.ids = b.ids) ∧
    ∀ r : Range, b.positionError? r.start = none → b.positionError? r.stop = none →
      r.start ≤ r.stop → ∃ s c d,
        (deleteRange r).outcome b = (.ok s, c) ∧
        (insertText r.start s).outcome c = (.ok r.stop, d) ∧ d.contents = b.contents := by
  constructor
  · intro p t hp
    obtain ⟨hs, he, hremoved, hcontents, hids⟩ := withoutRange_withText hp t
    refine ⟨afterInsert p t, b.withText p t, _, ?_, ?_, hcontents, hids⟩
    · rw [outcome_insertText, hp]
      rfl
    · rw [outcome_deleteRange, hs, he]
      exact congrArg (fun s => (Except.ok s, _)) hremoved
  · intro r hs he hle
    obtain ⟨hafter, hcontents⟩ := withText_withoutRange hb.wellFormed hs he hle rfl
    refine ⟨if r.isEmpty then [] else b.textIn r, b.withoutRange r, _, ?_, ?_, hcontents⟩
    · rw [outcome_deleteRange, hs, he]
    · rw [outcome_insertText, positionError?_withoutRange hs]
      exact congrArg (fun p => (Except.ok p, _)) hafter

/-- A text with breaks of three styles between two empty lines, next to a break of the buffer. -/
theorem insert_delete_mixed :
    let b := Buffer.ofText "ä\r\nb".toList
    let t := "\nx\r\ny\r".toList
    ∃ e c d, (insertText ⟨0, 1⟩ t).outcome b = (.ok e, c) ∧
      (deleteRange ⟨⟨0, 1⟩, e⟩).outcome c = (.ok "\r\nx\r\ny\r\n".toList, d) ∧
      d.contents = b.contents ∧ d.ids = [0, 1] := by
  intro b t
  have hb : b.Lived := ⟨b, .ofText _ (by decide), .refl⟩
  obtain ⟨e, c, d, hc, hd, hcontents, hids⟩ := (insert_delete hb).1 ⟨0, 1⟩ t (by decide)
  have hbreaks : Text.withBreaks b.ending t = "\r\nx\r\ny\r\n".toList := by decide
  exact ⟨e, c, d, hc, hbreaks ▸ hd, hcontents, hids.trans (by decide)⟩

end Edit
end LogicEditor
