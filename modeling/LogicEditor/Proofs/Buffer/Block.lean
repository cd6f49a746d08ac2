import LogicEditor.Proofs.Buffer.Comment
import LogicEditor.Proofs.Buffer.Task

/-!
# Blocks that commands carry along

Commands that move, copy or comment a block of lines return a selection on the lines where the block,
or its copy, stands afterwards (`BlockCommand.lineBlock_eq_target_iff`). There is one exception: when
comment marks are taken out, a selection that ends in the mark of its last line comes to end in
column 0 of it, and a selection that ends there does not cover the line any more
(`Selection.Collapses`).
-/

namespace LogicEditor

open Buffer EditM
open Edit (mapEnds blockTexts isCommented markLength)

variable {b c : Buffer} {sel : Selection} {block : LineBlock} {above ls below : List Line}

/-! ## Lines of a block -/

namespace Buffer

/-- The lines of a block. -/
def blockLines (b : Buffer) (block : LineBlock) : List Line :=
  (b.lines.take (block.last + 1)).drop block.first

theorem blockLines_of_append (h : b.lines = above ++ ls ++ below) (hn : above.length = block.first)
    (hl : above.length + ls.length = block.last + 1) : b.blockLines block = ls := by
  rw [blockLines, h, ← hl, ← hn, ← List.length_append, List.take_left, List.drop_left]

theorem map_text_blockLines (b : Buffer) (block : LineBlock) :
    (b.blockLines block).map Line.text = blockTexts b block := by
  rw [blockLines, blockTexts, List.map_drop, List.map_take]
  rfl

theorem map_id_blockLines (b : Buffer) (block : LineBlock) :
    (b.blockLines block).map Line.id = (b.ids.take (block.last + 1)).drop block.first := by
  rw [blockLines, List.map_drop, List.map_take]
  rfl

theorem lines_withLines_split {line : Nat} {ts : List Text} (h : b.lines = above ++ below)
    (hn : above.length = line) (hc : ∀ t ∈ ts, Text.hasBreak t = false) :
    (b.withLines line ts).lines = above ++ freshLines b.nextId ts ++ below := by
  have hl : line ≤ b.lineCount := by
    rw [lineCount, h, ← hn, List.length_append]
    exact Nat.le_add_right ..
  rw [lines_withLines hl, flatMap_lines hc, h, List.take_left' hn, List.drop_left' hn]

end Buffer

/-- The lines right behind a block, as many as it has. -/
def LineBlock.behind (block : LineBlock) : LineBlock := ⟨block.last + 1, block.last + block.size⟩

namespace Buffer

section
variable (hle : block.first ≤ block.last)
include hle

theorem blockLines_rotateLines_up (hl : block.last < b.lineCount) (hroom : 0 < block.first) :
    (b.rotateLines (block.first - 1) block.first (block.last + 1)).blockLines
      ⟨block.first - 1, block.last - 1⟩ = b.blockLines block := by
  have hup : block.first - 1 < block.first := Nat.sub_one_lt_of_lt hroom
  obtain ⟨above, upper, lower, below, hlines, ha, hu, hn, hrot⟩ :=
    exists_rotated hup (Nat.lt_succ_of_le hle) hl
  have hmid : (above ++ upper).length = block.first := by rw [List.length_append, ha, hu]
  have hlast : above.length + lower.length = block.last - 1 + 1 := by omega
  rw [blockLines_of_append (hrot.trans (List.append_assoc ..)) ha hlast,
    blockLines_of_append hlines hmid (hmid ▸ hn)]

theorem blockLines_rotateLines_down (hroom : block.last + 1 < b.lineCount) :
    (b.rotateLines block.first (block.last + 1) (block.last + 2)).blockLines
      ⟨block.first + 1, block.last + 1⟩ = b.blockLines block := by
  obtain ⟨above, upper, lower, below, hlines, ha, hu, hn, hrot⟩ :=
    exists_rotated (Nat.lt_succ_of_le hle) (Nat.lt_succ_self _) hroom
  have hmid : (above ++ lower).length = block.first + 1 := by
    rw [List.length_append]
    omega
  have hlast : (above ++ lower).length + upper.length = block.last + 1 + 1 := by omega
  rw [blockLines_of_append hrot hmid hlast,
    blockLines_of_append (hlines.trans (List.append_assoc ..)) ha (ha ▸ hu)]

section
variable (W : b.WellFormed) (hl : block.last < b.lineCount)
include W hl

theorem exists_copied : ∃ above old new below,
    above.length = block.first ∧ above.length + old.length = block.last + 1 ∧
    new.length = old.length ∧ new.map Line.text = blockTexts b block ∧
    b.blockLines block = old ∧
    (b.withLines block.first (blockTexts b block)).lines = above ++ new ++ old ++ below ∧
    (b.withLines (block.last + 1) (blockTexts b block)).lines = above ++ old ++ new ++ below := by
  have hclean := @clean_blockTexts b block W
  obtain ⟨above, old, below, hlines, ha, hn⟩ := exists_block (Nat.le_succ_of_le hle) hl
  rw [← ha] at hn
  have hblock := blockLines_of_append hlines ha hn
  refine ⟨above, old, freshLines b.nextId (blockTexts b block), below, ha, hn, ?_,
    map_text_freshLines .., hblock, ?_, ?_⟩
  · rw [← List.length_map (·.text), map_text_freshLines, ← map_text_blockLines, hblock, List.length_map]
  · rw [lines_withLines_split (hlines.trans (List.append_assoc ..)) ha hclean]
    simp only [List.append_assoc]
  · rw [lines_withLines_split hlines (List.length_append.trans hn) hclean]

theorem upper_withLines :
    blockTexts (b.withLines block.first (blockTexts b block)) block = blockTexts b block ∧
    (b.withLines block.first (blockTexts b block)).blockLines block.behind = b.blockLines block := by
  obtain ⟨above, old, new, below, ha, hn, hlen, htexts, hblock, hc, -⟩ := exists_copied hle W hl
  have hbehind : (above ++ new).length + old.length = block.last + block.size + 1 := by
    rw [List.length_append, LineBlock.size]
    omega
  rw [← map_text_blockLines, blockLines_of_append (hc.trans (List.append_assoc ..)) ha (hlen ▸ hn),
    hblock]
  exact ⟨htexts, blockLines_of_append hc (List.length_append.trans (hlen ▸ hn)) hbehind⟩

theorem lower_withLines :
    blockTexts (b.withLines (block.last + 1) (blockTexts b block)) block.behind = blockTexts b block ∧
    (b.withLines (block.last + 1) (blockTexts b block)).blockLines block = b.blockLines block := by
  obtain ⟨above, old, new, below, ha, hn, hlen, htexts, hblock, -, hc⟩ := exists_copied hle W hl
  have hbehind : (above ++ old).length + new.length = block.last + block.size + 1 := by
    rw [List.length_append, LineBlock.size]
    omega
  rw [← map_text_blockLines, blockLines_of_append hc (List.length_append.trans hn) hbehind, hblock]
  exact ⟨htexts, blockLines_of_append (hc.trans (List.append_assoc ..)) ha hn⟩

end
end

end Buffer

/-! ## Commands -/

/-- The commands after which a selection stays with its lines. -/
inductive BlockCommand
  | moveUp
  | moveDown
  | duplicateUp
  | duplicateDown
  | toggleComment
deriving DecidableEq, Repr

namespace BlockCommand

def run : BlockCommand → Selection → EditM Buffer Selection
  | moveUp => Edit.moveUp
  | moveDown => Edit.moveDown
  | duplicateUp => Edit.duplicateUp
  | duplicateDown => Edit.duplicateDown
  | toggleComment => Edit.toggleComment

/-- A block moves if there is a line to change places with. -/
def HasRoom (b : Buffer) (block : LineBlock) : BlockCommand → Prop
  | moveUp => 0 < block.first
  | moveDown => block.last + 1 < b.lineCount
  | duplicateUp | duplicateDown | toggleComment => True

/-- The lines that the block goes to, or its copy. -/
def target (block : LineBlock) : BlockCommand → LineBlock
  | moveUp => ⟨block.first - 1, block.last - 1⟩
  | moveDown => ⟨block.first + 1, block.last + 1⟩
  | duplicateUp | toggleComment => block
  | duplicateDown => block.behind

/-- After the command the block, or its copy, is where it goes to. -/
def Carries (b c : Buffer) (block : LineBlock) (command : BlockCommand) : Prop :=
  let now := command.target block
  match command with
  | moveUp | moveDown => c.blockLines now = b.blockLines block
  | duplicateUp =>
    blockTexts c now = blockTexts b block ∧ c.blockLines block.behind = b.blockLines block
  | duplicateDown => blockTexts c now = blockTexts b block ∧ c.blockLines block = b.blockLines block
  | toggleComment =>
    blockTexts c now =
        (blockTexts b block).map (Edit.LineEffect.toggle (blockTexts b block)).text ∧
      (c.blockLines now).map Line.id = (b.blockLines block).map Line.id

end BlockCommand

/-- Comment marks are taken out, and the selection ends in the one that its last line starts with. -/
def Selection.Collapses (b : Buffer) (sel : Selection) : Prop :=
  sel.range.start.line < sel.range.stop.line ∧ 0 < sel.range.stop.col ∧
    (∀ t ∈ blockTexts b sel.lineBlock, t.isBlank ∨ isCommented t) ∧
    (b.lineText sel.range.stop.line).head? = some commentMark ∧
    sel.range.stop.col ≤ markLength (b.lineText sel.range.stop.line)

/-! ## Columns in comment marks -/

namespace Edit.LineEffect

variable {t : Text} {ts : List Text} {i : Nat}

theorem indentation_of_head? (h : t.head? = some commentMark) :
    indentation t = 0 ∧ t.dropWhile Text.isSpace = t := by
  obtain ⟨rest, rfl⟩ := List.head?_eq_some_iff.1 h
  exact ⟨rfl, rfl⟩

theorem isCommented_of_head? (h : t.head? = some commentMark) : isCommented t := by
  rw [isCommented, (indentation_of_head? h).2, h, beq_self_eq_true]

/-- Uncommenting takes a column to 0 if it is in a mark that the line starts with. -/
theorem col_unmark_eq_zero_iff (hc : isCommented t) (hi : 0 < i) :
    unmark.col t i = 0 ↔ t.head? = some commentMark ∧ i ≤ markLength t := by
  show i - min (markLength (t.dropWhile Text.isSpace)) (i - indentation t) = 0 ↔ _
  constructor
  · intro h
    have hnone : indentation t = 0 := by omega
    have htext : t.dropWhile Text.isSpace = t := by
      have := List.takeWhile_append_dropWhile (p := Text.isSpace) (l := t)
      rwa [List.eq_nil_of_length_eq_zero hnone, List.nil_append] at this
    rw [isCommented, htext, beq_iff_eq] at hc
    rw [htext] at h
    exact ⟨hc, by omega⟩
  · rintro ⟨hhead, hle⟩
    obtain ⟨hnone, htext⟩ := indentation_of_head? hhead
    rw [htext]
    omega

theorem col_uncomment_eq_zero_iff (ht : t.isBlank ∨ isCommented t) (hi : 0 < i) :
    (uncomment.skipping Text.isBlank).col t i = 0 ↔
      t.head? = some commentMark ∧ i ≤ markLength t := by
  rcases ht with hblank | hc
  · rw [col_skipping hblank]
    refine iff_of_false (Nat.ne_of_gt hi) fun h => ?_
    rw [not_isBlank_of_isCommented (isCommented_of_head? h.1)] at hblank
    cases hblank
  · rw [col_skipping_of_not (not_isBlank_of_isCommented hc), uncomment,
      col_skipping_of_not (congrArg (!·) hc), col_unmark_eq_zero_iff hc hi]

theorem col_toggle_eq_zero_iff (ht : t ∈ ts) (hi : 0 < i) : (toggle ts).col t i = 0 ↔
    (∀ u ∈ ts, Text.isBlank u ∨ isCommented u) ∧ t.head? = some commentMark ∧ i ≤ markLength t := by
  have hcomment (skip : Text → Bool) : (comment.skipping skip).col t i ≠ 0 := fun h =>
    Nat.ne_of_gt hi ((col_comment_eq_zero_iff skip t i).1 h)
  rw [toggle]
  split
  · rename_i hall
    refine iff_of_false (hcomment _) fun h => ?_
    have hblank := List.all_eq_true.1 hall t ht
    rw [not_isBlank_of_isCommented (isCommented_of_head? h.2.1)] at hblank
    cases hblank
  · split
    · rename_i hall
      have hall (u : Text) (hu : u ∈ ts) : u.isBlank ∨ isCommented u :=
        Bool.or_eq_true_iff.1 (List.all_eq_true.1 hall u hu)
      rw [col_uncomment_eq_zero_iff (hall t ht) hi, and_iff_right hall]
    · rename_i hall
      refine iff_of_false (hcomment _) fun h => hall (List.all_eq_true.2 fun u hu => ?_)
      exact Bool.or_eq_true_iff.2 (h.1 u hu)

end Edit.LineEffect

theorem Selection.lineBlock_toggle_eq_iff (hl : sel.lineBlock.last < b.lineCount) :
    (mapEnds ((Edit.LineEffect.toggle (blockTexts b sel.lineBlock)).move sel.lineBlock.first
      (blockTexts b sel.lineBlock)) sel).lineBlock = sel.lineBlock ↔ ¬sel.Collapses b := by
  have hle := Edit.first_le_last sel
  rw [lineBlock_mapEnds_eq_iff fun p => Edit.LineEffect.line_move .., Collapses, not_and]
  refine forall_congr' fun hlt => ?_
  rcases Nat.eq_zero_or_pos sel.range.stop.col with h0 | hpos
  · -- the last line is behind the block, so it stays as it is
    have hnone : (blockTexts b sel.lineBlock)[sel.range.stop.line - sel.lineBlock.first]? = none := by
      rw [List.getElem?_eq_none_iff, length_blockTexts hl, LineBlock.size, stop_eq_of_endsBelow ⟨hlt, h0⟩]
    rw [Edit.LineEffect.move_of_none hnone]
    exact iff_of_true Iff.rfl fun h => Nat.ne_of_gt h.1 h0
  · -- the last line is the last of the block, and only a column on it decides
    have hlast := stop_line_eq fun h => Nat.ne_of_gt hpos h.2
    have htext : (blockTexts b sel.lineBlock)[sel.range.stop.line - sel.lineBlock.first]? =
        some (b.lineText sel.range.stop.line) := by
      rw [hlast, getElem?_blockTexts hle (Nat.le_refl _), lineText, text?_eq,
        List.getElem?_eq_getElem (b.length_texts ▸ hl), Option.getD_some]
    rw [Edit.LineEffect.move_of_getElem? (hlast ▸ hle) htext, and_iff_right hpos,
      ← Edit.LineEffect.col_toggle_eq_zero_iff (List.mem_of_getElem? htext) hpos]
    exact ⟨fun h h' => Nat.ne_of_gt hpos (h.1 h'), fun h => iff_of_false h (Nat.ne_of_gt hpos)⟩

/-! ## Lines that are carried -/

namespace BlockCommand

theorem exists_carries (hb : b.Lived) (hsel : b.Holds sel) (command : BlockCommand)
    (hroom : command.HasRoom b sel.lineBlock) : ∃ o c,
      (command.run sel).outcome b = (.ok o, c) ∧ command.Carries b c sel.lineBlock := by
  have W := hb.wellFormed
  have hl := hsel.last_lt
  have hle := Edit.first_le_last sel
  cases command with
  | moveUp =>
    exact ⟨_, _, (Edit.outcome_moveUp hl).trans (if_neg (Nat.ne_of_gt hroom)),
      blockLines_rotateLines_up hle hl hroom⟩
  | moveDown =>
    exact ⟨_, _, (Edit.outcome_moveDown hl).trans (if_neg (Nat.not_le.2 hroom)),
      blockLines_rotateLines_down hle hroom⟩
  | duplicateUp => exact ⟨_, _, Edit.outcome_duplicateUp hl, upper_withLines hle W hl⟩
  | duplicateDown => exact ⟨_, _, Edit.outcome_duplicateDown hl, lower_withLines hle W hl⟩
  | toggleComment =>
    obtain ⟨above, ts, below, H⟩ := exists_parts hle hl
    obtain ⟨c, ho, R⟩ := Edit.exists_toggleComment W H (Edit.toggleOverflows_of_holds hsel)
    have Hc := H.replaced R.texts (List.length_map _)
    refine ⟨_, c, ho, ?_, ?_⟩
    · rw [target, Hc.blockTexts_eq, H.blockTexts_eq]
    · rw [target, map_id_blockLines, map_id_blockLines, R.ids]

theorem lineBlock_eq_target_iff (hb : b.Lived) (H : b.Holds sel) (command : BlockCommand)
    (hroom : command.HasRoom b sel.lineBlock) {o : Selection}
    (h : (command.run sel).outcome b = (.ok o, c)) (F : c.Fits) :
    o.lineBlock = command.target sel.lineBlock ↔ ¬(command = toggleComment ∧ sel.Collapses b) := by
  have W := hb.wellFormed
  have hl := H.last_lt
  have hle := Edit.first_le_last sel
  have hstop := lt_lineCount (holds_range.1 H).2
  have returned {o' : Selection} {c' : Buffer}
      (ho : (command.run sel).outcome b = (.ok o', c')) : o = o' ∧ c = c' := by
    have := h.symm.trans ho
    rwa [Prod.mk.injEq, Except.ok.injEq] at this
  cases command with
  | moveUp =>
    obtain ⟨rfl, rfl⟩ := returned ((Edit.outcome_moveUp hl).trans (if_neg (Nat.ne_of_gt hroom)))
    have hcount := lineCount_rotateLines (Nat.sub_one_lt_of_lt hroom) (Nat.lt_succ_of_le hle) hl
    have F : b.Fits := Nat.le_trans (Nat.le_of_eq hcount.symm) F
    refine iff_of_true ?_ fun h => absurd h.1 (by decide)
    refine Selection.lineBlock_shifted_sub (d := 1) ?_ (Nat.le_trans (Nat.le_of_lt hstop) F)
    rw [sel.start_line_eq]
    exact hroom
  | moveDown =>
    obtain ⟨rfl, rfl⟩ := returned ((Edit.outcome_moveDown hl).trans (if_neg (Nat.not_le.2 hroom)))
    have hcount := lineCount_rotateLines (Nat.lt_succ_of_le hle) (Nat.lt_succ_self _) hroom
    have F : b.Fits := Nat.le_trans (Nat.le_of_eq hcount.symm) F
    refine iff_of_true ?_ fun h => absurd h.1 (by decide)
    exact Selection.lineBlock_shifted_add (d := 1) (Nat.le_trans hstop F)
  | duplicateUp =>
    obtain ⟨rfl, rfl⟩ := returned (Edit.outcome_duplicateUp hl)
    exact iff_of_true rfl fun h => absurd h.1 (by decide)
  | duplicateDown =>
    obtain ⟨rfl, rfl⟩ := returned (Edit.outcome_duplicateDown hl)
    rw [Fits, lineCount_withLines_blockTexts W hl hl] at F
    refine iff_of_true ?_ fun h => absurd h.1 (by decide)
    rw [length_blockTexts hl, Selection.lineBlock_shifted_add
      (Nat.le_trans (Nat.add_le_add_right (Nat.le_of_lt hstop) _) F), target, LineBlock.behind,
      LineBlock.size, LineBlock.mk.injEq]
    omega
  | toggleComment =>
    obtain ⟨above, ts, below, Hp⟩ := exists_parts hle hl
    obtain ⟨c', ho, -⟩ := Edit.exists_toggleComment W Hp (Edit.toggleOverflows_of_holds H)
    obtain ⟨rfl, -⟩ := returned ho
    rw [and_iff_right rfl, ← Selection.lineBlock_toggle_eq_iff hl, Hp.blockTexts_eq, target]

/-- After a command the selection is on the lines where the block, or its copy, is, unless the end of
the selection collapses with a comment mark. -/
theorem covers_block_iff (hb : b.Lived) (H : b.Holds sel) (command : BlockCommand)
    (hroom : command.HasRoom b sel.lineBlock) : ∃ o c,
      (command.run sel).outcome b = (.ok o, c) ∧ command.Carries b c sel.lineBlock ∧
      (c.Fits → (o.lineBlock = command.target sel.lineBlock ↔
        ¬(command = toggleComment ∧ sel.Collapses b))) := by
  obtain ⟨o, c, ho, hc⟩ := exists_carries hb H command hroom
  exact ⟨o, c, ho, hc, lineBlock_eq_target_iff hb H command hroom ho⟩

/-- A selection that ends behind the last comment mark stays on both lines. -/
theorem covers_block_iff_behind :
    let b := Buffer.ofText "# a\n# b".toList
    let sel : Selection := ⟨⟨0, 0⟩, ⟨1, 3⟩⟩
    ∃ o c, (toggleComment.run sel).outcome b = (.ok o, c) ∧
      toggleComment.Carries b c sel.lineBlock ∧ o.lineBlock = ⟨0, 1⟩ := by
  intro b sel
  have hb : b.Lived := ⟨b, .ofText _ (by decide), .refl⟩
  have hfits : ((toggleComment.run sel).outcome b).2.Fits := by decide +kernel
  obtain ⟨o, c, ho, hc, hiff⟩ := covers_block_iff hb (by decide : b.Holds sel) toggleComment trivial
  rw [ho] at hfits
  refine ⟨o, c, ho, hc, (hiff hfits).2 fun h => ?_⟩
  exact absurd h.2.2.2.2.2 (by decide)

/-- A selection that ends in the last comment mark loses the line when the mark is taken out. -/
theorem not_covers_block :
    let b := Buffer.ofText "# a\n# b".toList
    let sel : Selection := ⟨⟨0, 0⟩, ⟨1, 1⟩⟩
    let o : Selection := ⟨⟨0, 0⟩, ⟨1, 0⟩⟩
    b.Holds sel ∧ sel.lineBlock = ⟨0, 1⟩ ∧
      ((toggleComment.run sel).outcome b).1.toOption = some o ∧
      ((toggleComment.run sel).outcome b).2.texts = [['a'], ['b']] ∧ o.lineBlock = ⟨0, 0⟩ :=
  ⟨by decide, by decide, by decide +kernel, by decide +kernel, by decide⟩

end BlockCommand

end LogicEditor
