import Mathlib.Data.List.TakeWhile
import LogicEditor.Proofs.Buffer.Selection

/-!
# Comments put in and taken out

Toggling comments lets each line of a block go its own way, and with it the ends of the selection on
that line (`LineEffect`). Which way that is depends on the texts of the block alone
(`LineEffect.toggle`). The command is described by one equation (`exists_toggleComment`), from which
follows that it goes by steps and that the ends of the selection are positions still.
-/

namespace LogicEditor

open Buffer EditM
open Edit (mapEnds)

variable {b c : Buffer} {sel : Selection} {line : Nat} {t : Text} {ts above below : List Text}
  {p : Position}

namespace Buffer

variable {block : LineBlock}

/-- The lines of a buffer above a block, those of the block, and those below it. -/
structure Parts (b : Buffer) (block : LineBlock) (above ts below : List Text) : Prop where
  texts : b.texts = above ++ ts ++ below
  first : above.length = block.first
  last : above.length + ts.length = block.last + 1

theorem exists_parts (h : block.first ≤ block.last) (hl : block.last < b.lineCount) :
    ∃ above ts below, b.Parts block above ts below := by
  rw [← length_texts] at hl
  obtain ⟨front, below, htexts, hfront⟩ := exists_split_at (Nat.succ_le_of_lt hl)
  obtain ⟨above, ts, rfl, habove⟩ := exists_split_at (hfront ▸ Nat.le_succ_of_le h)
  exact ⟨above, ts, below, htexts, habove, List.length_append.symm.trans hfront⟩

namespace Parts

variable {ts' : List Text} (H : b.Parts block above ts below)
include H

theorem last_lt : block.last < b.lineCount := by
  rw [← length_texts, H.texts, List.length_append, List.length_append, H.last]
  exact Nat.le_add_right ..

theorem ne_nil (h : block.first ≤ block.last) : ts ≠ [] := by
  have hfirst := H.first
  have hlast := H.last
  rintro rfl
  rw [List.length_nil] at hlast
  omega

theorem blockTexts_eq : Edit.blockTexts b block = ts := by
  rw [Edit.blockTexts, H.texts, ← H.last, ← H.first, ← List.length_append, List.take_left,
    List.drop_left]

theorem replaced (h : c.texts = above ++ ts' ++ below) (hl : ts'.length = ts.length) :
    c.Parts block above ts' below :=
  ⟨h, H.first, hl ▸ H.last⟩

/-- A line of the block goes its own way, and the lines around the block stay. -/
theorem text?_map {f : Text → Text} {i : Nat} (Hc : c.Parts block above (ts.map f) below)
    (ht : b.text? i = some t) :
    c.text? i = some (if block.first ≤ i ∧ i ≤ block.last then f t else t) := by
  have hfirst := H.first
  have hlast := H.last
  rw [text?_eq, H.texts, List.append_assoc] at ht
  rw [text?_eq, Hc.texts, List.append_assoc]
  rcases Nat.lt_or_ge i above.length with hlt | hge
  · rw [List.getElem?_append_left hlt] at ht ⊢
    rw [if_neg (by omega), ht]
  · rw [List.getElem?_append_right hge] at ht ⊢
    rcases Nat.lt_or_ge (i - above.length) ts.length with hlt | hge'
    · rw [List.getElem?_append_left hlt] at ht
      rw [List.getElem?_append_left (by rwa [List.length_map]), List.getElem?_map, ht,
        if_pos (by omega), Option.map_some]
    · rw [List.getElem?_append_right hge'] at ht
      rw [List.getElem?_append_right (by rwa [List.length_map]), List.length_map, ht,
        if_neg (by omega)]

end Parts

/-- The lines of `b` get the texts `ts`. -/
structure Rewrites (b : Buffer) (ts : List Text) (c : Buffer) : Prop where
  texts : c.texts = ts
  ids : c.ids = b.ids
  steps : ∀ limit, Steps limit b c

theorem Rewrites.trans {d : Buffer} {ts' : List Text} (R : b.Rewrites ts c) (R' : c.Rewrites ts' d) :
    b.Rewrites ts' d :=
  ⟨R'.texts, R'.ids.trans R.ids, fun limit => (R.steps limit).trans (R'.steps limit)⟩

theorem Rewrites.lineCount (R : b.Rewrites ts c) : c.lineCount = b.lineCount := by
  rw [← length_ids, R.ids, length_ids]

theorem Rewrites.wellFormed (R : b.Rewrites ts c) (W : b.WellFormed) : c.WellFormed :=
  Steps.wellFormed (R.steps maxIndex) W

end Buffer

namespace Edit

/-! ## Commented lines -/

theorem isCommented_of_isBlank (h : t.isBlank) : isCommented t = false := by
  rw [isCommented, List.dropWhile_eq_nil_iff.2 (List.all_eq_true.1 h)]
  rfl

theorem takeWhile_commented (t : Text) :
    (commented t).takeWhile Text.isSpace = t.takeWhile Text.isSpace :=
  Text.takeWhile_append_cons (fun _ hc => List.mem_takeWhile_imp hc) rfl _

theorem dropWhile_commented (t : Text) : (commented t).dropWhile Text.isSpace =
    commentMark :: ' ' :: t.dropWhile Text.isSpace :=
  Text.dropWhile_append_cons (fun _ hc => List.mem_takeWhile_imp hc) rfl _

theorem isCommented_commented (t : Text) : isCommented (commented t) := by
  rw [isCommented, dropWhile_commented]
  rfl

theorem not_isBlank_of_isCommented (h : isCommented t) : t.isBlank = false := by
  rw [← Bool.not_eq_true]
  intro hblank
  rw [isCommented_of_isBlank hblank] at h
  cases h

theorem indentation_commented (t : Text) : indentation (commented t) = indentation t := by
  rw [indentation, takeWhile_commented, indentation]

theorem indentation_add (t : Text) :
    indentation t + (t.dropWhile Text.isSpace).length = t.length := by
  rw [indentation, ← List.length_append, List.takeWhile_append_dropWhile]

theorem length_commented (t : Text) : (commented t).length = t.length + 2 := by
  rw [commented, List.length_append, List.length_cons, List.length_cons, ← indentation_add t]
  exact (Nat.add_assoc _ _ 2).symm

theorem length_uncommented (t : Text) : (uncommented t).length =
    indentation t + ((t.dropWhile Text.isSpace).length - markLength (t.dropWhile Text.isSpace)) := by
  rw [uncommented, List.length_append, List.length_drop, indentation]

theorem markLength_le (h : isCommented t) :
    markLength (t.dropWhile Text.isSpace) ≤ (t.dropWhile Text.isSpace).length := by
  rw [isCommented] at h
  cases hrest : t.dropWhile Text.isSpace with
  | nil =>
    rw [hrest] at h
    cases h
  | cons c rest =>
    rw [markLength.eq_def]
    split <;> simp_all

theorem hasBreak_commented {t : Text} (ht : t.hasBreak = false) :
    (commented t).hasBreak = false := by
  have h1 := Text.hasBreak_of_sublist (List.takeWhile_sublist Text.isSpace) ht
  have h2 := Text.hasBreak_of_sublist (List.dropWhile_sublist Text.isSpace) ht
  simp [commented, h1, h2, commentMark, Text.isBreakChar]

theorem hasBreak_uncommented {t : Text} (ht : t.hasBreak = false) :
    (uncommented t).hasBreak = false := by
  have h1 := Text.hasBreak_of_sublist (List.takeWhile_sublist Text.isSpace) ht
  have h2 := Text.hasBreak_of_sublist (List.dropWhile_sublist Text.isSpace) ht
  simp only [uncommented, Text.hasBreak_append, h1, Bool.false_or]
  exact Text.hasBreak_drop h2 _

theorem uncommented_commented (t : Text) : uncommented (commented t) = t := by
  rw [uncommented, takeWhile_commented, dropWhile_commented]
  exact List.takeWhile_append_dropWhile

/-! ## Lines that go their own way -/

/-- What becomes of a line, and of the columns on it. -/
structure LineEffect where
  text : Text → Text
  col : Text → Nat → Nat

namespace LineEffect

variable {e : LineEffect}

/-- Puts a comment mark in, and what stands right of it goes along. -/
def mark : LineEffect where
  text := commented
  col t i := if indentation t < i then i + 2 else i

/-- Takes the comment mark out. A column on it goes back to where it stood. -/
def unmark : LineEffect where
  text := uncommented
  col t i := i - min (markLength (t.dropWhile Text.isSpace)) (i - indentation t)

/-- Lines on which a condition holds stay as they are. -/
def skipping (skip : Text → Bool) (e : LineEffect) : LineEffect where
  text t := if skip t then t else e.text t
  col t i := if skip t then i else e.col t i

def comment : LineEffect := mark.skipping isCommented

def uncomment : LineEffect := unmark.skipping fun t => !isCommented t

/-- What toggling comments does to the lines of a block. -/
def toggle (ts : List Text) : LineEffect :=
  if ts.all Text.isBlank then comment.skipping fun _ => false
  else if ts.all fun t => Text.isBlank t || isCommented t then uncomment.skipping Text.isBlank
  else comment.skipping Text.isBlank

section
variable {skip : Text → Bool}

theorem text_skipping (h : skip t) : (e.skipping skip).text t = t := if_pos h

theorem col_skipping (h : skip t) (i : Nat) : (e.skipping skip).col t i = i := if_pos h

theorem text_skipping_of_not (h : skip t = false) : (e.skipping skip).text t = e.text t :=
  if_neg (Bool.not_eq_true _ ▸ h)

theorem col_skipping_of_not (h : skip t = false) (i : Nat) :
    (e.skipping skip).col t i = e.col t i :=
  if_neg (Bool.not_eq_true _ ▸ h)

end

/-- Where a position goes with the lines `ts`, which stand from number `line` on. -/
def move (e : LineEffect) (line : Nat) (ts : List Text) (p : Position) : Position :=
  if line ≤ p.line then { p with col := ts[p.line - line]?.elim p.col (e.col · p.col) } else p

theorem line_move (e : LineEffect) (line : Nat) (ts : List Text) (p : Position) :
    (e.move line ts p).line = p.line := by
  rw [move]
  split <;> rfl

theorem move_nil (e : LineEffect) (line : Nat) (p : Position) : e.move line [] p = p := by
  rw [move]
  split <;> rfl

theorem move_cons (e : LineEffect) (line : Nat) (t : Text) (ts : List Text) (p : Position) :
    e.move line (t :: ts) p = e.move (line + 1) ts (e.move line [t] p) := by
  obtain ⟨i, col⟩ := p
  rcases Nat.lt_trichotomy i line with h | rfl | h
  · simp [move, Nat.not_le.2 h, Nat.not_le.2 (Nat.lt_succ_of_lt h)]
  · simp [move, Nat.not_le.2 (Nat.lt_succ_self i)]
  · obtain ⟨k, rfl⟩ := Nat.exists_eq_add_of_lt h
    have h1 : line + k + 1 - line = k + 1 := by omega
    have h2 : line + k + 1 - (line + 1) = k := by omega
    have h3 : line ≤ line + k + 1 := by omega
    have h4 : line + 1 ≤ line + k + 1 := by omega
    simp [move, h1, h2, h3, h4]

theorem move_singleton (e : LineEffect) (line : Nat) (t : Text) (p : Position) :
    e.move line [t] p = if p.line = line then ⟨line, e.col t p.col⟩ else p := by
  obtain ⟨i, col⟩ := p
  rcases Nat.lt_trichotomy i line with h | rfl | h
  · simp [move, Nat.not_le.2 h, Nat.ne_of_lt h]
  · simp [move]
  · have hne : i - line ≠ 0 := Nat.sub_ne_zero_of_lt h
    obtain ⟨k, hk⟩ := Nat.exists_eq_succ_of_ne_zero hne
    simp [move, Nat.le_of_lt h, Nat.ne_of_gt h, hk]

theorem move_eq_self (h : ∀ i, e.col t i = i) : e.move line [t] p = p := by
  rw [move_singleton, h]
  split
  · rename_i hp
    rw [← hp]
  · rfl

theorem move_of_getElem? (hl : line ≤ p.line) (h : ts[p.line - line]? = some t) :
    e.move line ts p = ⟨p.line, e.col t p.col⟩ := by
  rw [move, if_pos hl, h]
  rfl

theorem move_of_none (h : ts[p.line - line]? = none) : e.move line ts p = p := by
  rw [move, h]
  split <;> rfl

theorem col_move_eq_zero_iff (h : ∀ t i, e.col t i = 0 ↔ i = 0) (line : Nat) (ts : List Text)
    (p : Position) : (e.move line ts p).col = 0 ↔ p.col = 0 := by
  rw [move]
  split
  · cases ts[p.line - line]? with
    | none => exact Iff.rfl
    | some t => exact h t p.col
  · exact Iff.rfl

theorem col_skipping_eq_zero_iff {skip : Text → Bool} (h : ∀ t i, e.col t i = 0 ↔ i = 0) (t : Text)
    (i : Nat) : (e.skipping skip).col t i = 0 ↔ i = 0 := by
  cases hs : skip t with
  | false => rw [col_skipping_of_not hs, h]
  | true => rw [col_skipping hs]

theorem col_comment_eq_zero_iff (skip : Text → Bool) (t : Text) (i : Nat) :
    (comment.skipping skip).col t i = 0 ↔ i = 0 := by
  refine col_skipping_eq_zero_iff (col_skipping_eq_zero_iff fun t i => ?_) t i
  rw [mark]
  simp only []
  split <;> omega

end LineEffect

open LineEffect

/-! ## The command -/

/-- The command lets the line it is run on go its way, and leaves all else alone. -/
structure Performs (command : Nat → Text → Selection → EditM Buffer Selection) (e : LineEffect) :
    Prop where
  exists_outcome : ∀ {b : Buffer} {above below : List Text} {line : Nat} {t : Text} (sel : Selection),
    b.texts = above ++ t :: below → above.length = line → t.hasBreak = false →
    ∃ c, (command line t sel).outcome b = (.ok (mapEnds (e.move line [t]) sel), c) ∧
      b.Rewrites (above ++ e.text t :: below) c

theorem outcome_setLine_of_not_hasBreak {new : Text} (hl : line < b.lineCount)
    (hnew : new.hasBreak = false) :
    (setLine line new).outcome b = (.ok ⟨⟩, (b.editLine line new).markModified) := by
  rw [outcome_setLine, lineError?_eq_none.2 hl, hnew]
  rfl

theorem exists_setLine {new : Text} (h : b.texts = above ++ t :: below) (hn : above.length = line)
    (hnew : new.hasBreak = false) : ∃ c, (setLine line new).outcome b = (.ok ⟨⟩, c) ∧
      b.Rewrites (above ++ new :: below) c := by
  obtain ⟨upper, rest, hlines, rfl, hrest⟩ := List.map_eq_append_iff.1 h
  obtain ⟨l, lower, rfl, rfl, rfl⟩ := List.map_eq_cons_iff.1 hrest
  rw [List.length_map] at hn
  have hl := lt_lineCount_split hlines hn
  refine ⟨_, outcome_setLine_of_not_hasBreak hl hnew, ?_, ids_editLine b line new,
    fun _ => .tail (.single (.editLine hl hnew)) .mark⟩
  rw [editLine_split hlines hn]
  exact List.map_append

theorem Performs.skipping {command : Nat → Text → Selection → EditM Buffer Selection} {e : LineEffect}
    (P : Performs command e) (skip : Text → Bool) :
    Performs (fun line t sel => if skip t then pure sel else command line t sel) (e.skipping skip) := by
  refine ⟨fun {b above below line t} sel h hn ht => ?_⟩
  cases hs : skip t with
  | false =>
    have hmove : (e.skipping skip).move line [t] = e.move line [t] := by
      funext p
      rw [move_singleton, move_singleton, col_skipping_of_not hs]
    rw [hmove, text_skipping_of_not hs]
    exact P.exists_outcome sel h hn ht
  | true =>
    have hstay (p : Position) : (e.skipping skip).move line [t] p = p :=
      move_eq_self fun i => col_skipping hs i
    rw [mapEnds, hstay, hstay, text_skipping hs]
    exact ⟨b, rfl, h, rfl, fun _ => .refl⟩

theorem performs_setLine {e : LineEffect} {move : Nat → Text → Position → Position}
    (hmove : ∀ line t p, e.move line [t] p = move line t p)
    (hclean : ∀ {t : Text}, t.hasBreak = false → (e.text t).hasBreak = false) :
    Performs (fun line t sel => do setLine line (e.text t); return mapEnds (move line t) sel) e := by
  refine ⟨fun {b above below line t} sel h hn ht => ?_⟩
  obtain ⟨c, hset, hc⟩ := exists_setLine h hn (hclean ht)
  refine ⟨c, ?_, hc⟩
  rw [outcome_bind_ok hset, funext (hmove line t)]
  rfl

theorem performs_commentLine : Performs commentLine comment := by
  refine (performs_setLine (e := mark) (fun line t p => ?_) hasBreak_commented).skipping isCommented
  obtain ⟨i, col⟩ := p
  rw [move_singleton, pushRight, mark]
  by_cases hp : i = line
  · subst hp
    by_cases hcol : indentation t < col <;> simp [hcol]
  · rw [if_neg hp, if_neg fun h => hp h.1]

theorem performs_uncommentLine : Performs uncommentLine uncomment := by
  refine (performs_setLine (e := unmark) (fun line t p => ?_) hasBreak_uncommented).skipping _
  obtain ⟨i, col⟩ := p
  rw [move_singleton, pullLeft, unmark]
  by_cases hp : i = line
  · subst hp
    by_cases hcol : indentation t < col
    · simp [hcol]
    · simp [hcol, Nat.sub_eq_zero_of_le (Nat.not_lt.1 hcol)]
  · rw [if_neg hp, if_neg fun h => hp h.1]

theorem eachLine_cons (command : Nat → Text → Selection → EditM Buffer Selection) (skip : Text → Bool)
    (line : Nat) (t : Text) (ts : List Text) (sel : Selection) :
    eachLine command skip line (t :: ts) sel =
      (if skip t then pure sel else command line t sel) >>= eachLine command skip (line + 1) ts := by
  rw [eachLine]
  split <;> rfl

theorem exists_eachLine {command : Nat → Text → Selection → EditM Buffer Selection} {e : LineEffect}
    (P : Performs command e) (skip : Text → Bool) (sel : Selection)
    (h : b.texts = above ++ ts ++ below) (hn : above.length = line)
    (hclean : ∀ t ∈ ts, t.hasBreak = false) : ∃ c, (eachLine command skip line ts sel).outcome b =
        (.ok (mapEnds ((e.skipping skip).move line ts) sel), c) ∧
      b.Rewrites (above ++ ts.map (e.skipping skip).text ++ below) c := by
  induction ts generalizing b above line sel with
  | nil =>
    refine ⟨b, ?_, h, rfl, fun _ => .refl⟩
    rw [mapEnds, move_nil, move_nil]
    rfl
  | cons t ts ih =>
    obtain ⟨ht, hclean⟩ := List.forall_mem_cons.1 hclean
    rw [List.append_assoc, List.cons_append] at h
    -- the line that is done goes to those above
    obtain ⟨c, hc, R⟩ := (P.skipping skip).exists_outcome sel h hn ht
    have htexts := R.texts
    rw [List.append_cons, ← List.append_assoc] at htexts
    obtain ⟨d, hd, R'⟩ := ih (mapEnds ((e.skipping skip).move line [t]) sel) htexts
      (List.length_append.trans (congrArg (· + 1) hn)) hclean
    refine ⟨d, ?_, ?_⟩
    · rw [eachLine_cons, outcome_bind_ok hc, hd, mapEnds, funext (move_cons _ line t ts)]
      rfl
    · rw [List.map_cons, List.append_cons above]
      exact R.trans R'

theorem outcome_toggleComment_of_overflows (hl : sel.lineBlock.last < b.lineCount)
    (h : toggleOverflows b sel = true) : (toggleComment sel).outcome b = (.error .overflow, b) := by
  rw [toggleComment, outcome_checkBlock_bind hl, outcome_bind, outcome_get]
  simp only [outcome_stopIf_bind, if_pos h]

/-- What toggling comments does to a buffer whose block has the lines `ts`. -/
theorem exists_toggleComment (W : b.WellFormed) (H : b.Parts sel.lineBlock above ts below)
    (hroom : toggleOverflows b sel = false) : ∃ c,
    (toggleComment sel).outcome b =
      (.ok (mapEnds ((toggle ts).move sel.lineBlock.first ts) sel), c) ∧
    b.Rewrites (above ++ ts.map (toggle ts).text ++ below) c := by
  have hclean := H.blockTexts_eq ▸ @clean_blockTexts b sel.lineBlock W
  rw [toggleComment, outcome_checkBlock_bind H.last_lt, outcome_bind, outcome_get]
  simp only [outcome_stopIf_bind, hroom, Bool.false_eq_true, if_false, H.blockTexts_eq]
  rw [toggle]
  split
  · exact exists_eachLine performs_commentLine _ sel H.texts H.first hclean
  · split
    · exact exists_eachLine performs_uncommentLine _ sel H.texts H.first hclean
    · exact exists_eachLine performs_commentLine _ sel H.texts H.first hclean

/-! ## Comments that stay -/

section
variable {l : Line} (hl : l ∈ b.lines) (hc : isCommented l.text)
include hl hc

/-- Commenting a line leaves comments alone, with their tokens. -/
theorem mem_lines_commentLine (ht : b.text? line = some t) (hclean : t.hasBreak = false) :
    l ∈ ((commentLine line t sel).outcome b).2.lines := by
  rw [commentLine]
  split
  · exact hl
  · rename_i hplain
    obtain ⟨m, hm, rfl⟩ := text?_eq_some.1 ht
    obtain ⟨upper, lower, hlines, hn⟩ := exists_split hm
    rw [outcome_bind_ok (outcome_setLine_of_not_hasBreak (lt_lineCount_split hlines hn)
      (hasBreak_commented hclean))]
    show l ∈ (b.editLine line _).lines
    rw [editLine_split hlines hn]
    rw [hlines, List.mem_append, List.mem_cons] at hl
    rcases hl with hl | rfl | hl
    · exact List.mem_append_left _ hl
    · exact absurd hc hplain
    · exact List.mem_append_right _ (List.mem_cons_of_mem _ hl)

theorem mem_lines_eachLine (skip : Text → Bool) (h : b.texts = above ++ ts ++ below)
    (hn : above.length = line) (hclean : ∀ t ∈ ts, t.hasBreak = false) :
    l ∈ ((eachLine commentLine skip line ts sel).outcome b).2.lines := by
  induction ts generalizing b above line sel with
  | nil => exact hl
  | cons t ts ih =>
    obtain ⟨ht, hclean⟩ := List.forall_mem_cons.1 hclean
    rw [List.append_assoc, List.cons_append] at h
    obtain ⟨c, ho, R⟩ := (performs_commentLine.skipping skip).exists_outcome sel h hn ht
    have hstays : l ∈ c.lines := by
      have hline : b.text? line = some t := by
        rw [text?_eq, h, ← hn, List.getElem?_append_right (Nat.le_refl _), Nat.sub_self]
        rfl
      have hnext : ((if skip t then pure sel else commentLine line t sel).outcome b).2 = c :=
        congrArg Prod.snd ho
      rw [← hnext]
      split
      · exact hl
      · exact mem_lines_commentLine hl hc hline ht
    have htexts := R.texts
    rw [List.append_cons, ← List.append_assoc] at htexts
    rw [eachLine_cons, outcome_bind_ok ho]
    exact ih hstays htexts (List.length_append.trans (congrArg (· + 1) hn)) hclean

end

theorem sound_toggleComment (W : b.WellFormed) (sel : Selection) : Sound (toggleComment sel) b := by
  by_cases hl : sel.lineBlock.last < b.lineCount
  · cases hroom : toggleOverflows b sel with
    | true => exact .of_unchanged (by rw [outcome_toggleComment_of_overflows hl hroom])
    | false =>
      obtain ⟨above, ts, below, H⟩ := exists_parts (first_le_last sel) hl
      obtain ⟨c, ho, R⟩ := exists_toggleComment W H hroom
      exact .of_ok ho fun _ => R.steps _
  · exact sound_of_not_lt hl _

/-! ## Selections on the lines -/

/-- Columns of a line go to columns of the line that it becomes. -/
def LineEffect.Within (e : LineEffect) (t : Text) : Prop :=
  ∀ i, i ≤ t.length → e.col t i ≤ (e.text t).length

theorem within_skipping {e : LineEffect} {skip : Text → Bool} (h : skip t = false → e.Within t) :
    (e.skipping skip).Within t := by
  intro i hi
  cases hs : skip t with
  | false =>
    rw [text_skipping_of_not hs, col_skipping_of_not hs]
    exact h hs i hi
  | true => rwa [text_skipping hs, col_skipping hs]

theorem within_mark (t : Text) : mark.Within t := by
  intro i hi
  rw [mark]
  simp only [length_commented]
  split <;> omega

theorem within_unmark (h : isCommented t) : unmark.Within t := by
  intro i hi
  have hlen := indentation_add t
  have hmark := markLength_le h
  rw [unmark]
  simp only [length_uncommented]
  omega

theorem within_toggle (ts : List Text) (t : Text) : (toggle ts).Within t := by
  have hcomment : comment.Within t := within_skipping fun _ => within_mark t
  rw [toggle]
  split
  · exact within_skipping fun _ => hcomment
  · split
    · refine within_skipping fun _ => within_skipping fun hs => within_unmark ?_
      rwa [Bool.not_eq_false'] at hs
    · exact within_skipping fun _ => hcomment

theorem positionError?_move {e : LineEffect} {block : LineBlock} (H : b.Parts block above ts below)
    (Hc : c.Parts block above (ts.map e.text) below) (hin : ∀ t, e.Within t)
    (hp : b.positionError? p = none) : c.positionError? (e.move block.first ts p) = none := by
  obtain ⟨t, ht, hcol⟩ := positionError?_eq_none_iff_text?.1 hp
  rw [positionError?_eq_none_iff_text?, line_move]
  refine ⟨_, H.text?_map Hc ht, ?_⟩
  by_cases hblock : block.first ≤ p.line ∧ p.line ≤ block.last
  · have hget : ts[p.line - block.first]? = some t := by
      rw [← H.blockTexts_eq, getElem?_blockTexts hblock.1 hblock.2, ht]
    rw [if_pos hblock, move_of_getElem? hblock.1 hget]
    exact hin t _ hcol
  · have hstay : e.move block.first ts p = p := by
      by_cases hge : block.first ≤ p.line
      · have hlast := H.last
        rw [H.first] at hlast
        exact move_of_none (List.getElem?_eq_none (by omega))
      · rw [move, if_neg hge]
    rw [if_neg hblock, hstay]
    exact hcol

/-- Positions of the buffer can always be pushed on. -/
theorem pushOverflows_of_valid (block : LineBlock) (hp : b.positionError? p = none) :
    pushOverflows b block p = false := by
  have hcol := (positionError?_eq_none_iff.1 hp).2
  rw [pushOverflows, columnOverflows_of_le (by rw [length_commented]; omega), Bool.and_false]

theorem toggleOverflows_of_holds (hsel : b.Holds sel) : toggleOverflows b sel = false := by
  rw [toggleOverflows, pushOverflows_of_valid _ hsel.1, pushOverflows_of_valid _ hsel.2]
  rfl

theorem holds_of_toggleComment {o : Selection} (W : b.WellFormed) (hsel : b.Holds sel)
    (h : (toggleComment sel).outcome b = (.ok o, c)) : c.Holds o := by
  obtain ⟨above, ts, below, H⟩ := exists_parts (first_le_last sel) hsel.last_lt
  obtain ⟨c', ho, R⟩ := exists_toggleComment W H (toggleOverflows_of_holds hsel)
  have Hc := H.replaced R.texts (List.length_map _)
  cases ho.symm.trans h
  exact ⟨positionError?_move H Hc (within_toggle ts) hsel.1,
    positionError?_move H Hc (within_toggle ts) hsel.2⟩

end Edit
end LogicEditor
