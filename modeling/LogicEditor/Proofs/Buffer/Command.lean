import LogicEditor.Buffer.LineCommand
import LogicEditor.Proofs.Buffer.Splice
import LogicEditor.Search

/-!
# Commands go by steps

Every command on a buffer comes down to steps (`EditM.Sound`), and a command that fails leaves the
buffer as it was. The only thing to watch is room: a command may open lines only as long as every
line has a number, so the steps are there if the buffer it leaves behind still fits. This file goes
through the commands there are, those on selected lines and those that replace matches included.
Toggling comments alone has a file of its own, as it takes a walk through the lines of a block.
-/

namespace LogicEditor

/-! ## Commands that go by steps -/

namespace EditM

/-- A command run on `b` goes by steps, and if it fails it leaves `b` alone. -/
structure Sound {α : Type} (command : EditM Buffer α) (b : Buffer) : Prop where
  steps : ∀ {limit}, (command.outcome b).2.lineCount ≤ limit →
    Buffer.Steps limit b (command.outcome b).2
  atomic : ∀ e, (command.outcome b).1 = .error e → (command.outcome b).2 = b

namespace Sound

variable {α β : Type} {b c : Buffer} {x : EditM Buffer α} {f : α → EditM Buffer β}

/-- A command that leaves the buffer alone. -/
theorem of_unchanged (h : (x.outcome b).2 = b) : Sound x b :=
  ⟨fun _ => by rw [h], fun _ _ => h⟩

/-- A command that succeeds and goes by steps. -/
theorem of_ok {a : α} (h : x.outcome b = (.ok a, c))
    (H : ∀ {limit}, c.lineCount ≤ limit → Buffer.Steps limit b c) : Sound x b :=
  ⟨fun F => by rw [h] at F ⊢; exact H F, fun e he => by rw [h] at he; cases he⟩

theorem map (H : Sound x b) (g : α → β) : Sound (g <$> x) b := by
  refine ⟨fun F => ?_, fun e he => ?_⟩
  · rw [outcome_map] at F ⊢
    exact H.steps F
  · rw [outcome_map] at he ⊢
    cases hx : (x.outcome b).1 with
    | error e => exact H.atomic e hx
    | ok a => rw [hx] at he; cases he

theorem wellFormed (H : Sound x b) (W : b.WellFormed) : (x.outcome b).2.WellFormed :=
  Buffer.Steps.wellFormed (H.steps (Nat.le_refl _)) W

theorem eq_of_error (H : Sound x b) {e : EditError} (h : x.outcome b = (.error e, c)) : c = b := by
  have := H.atomic e
  rw [h] at this
  exact this rfl

/-- A command that does what a sound one does. -/
theorem congr {y : EditM Buffer α} (H : Sound x b) (h : y.outcome b = x.outcome b) : Sound y b :=
  ⟨by rw [h]; exact H.steps, by rw [h]; exact H.atomic⟩

end Sound
end EditM

theorem Selection.start_line_le (sel : Selection) : sel.range.start.line ≤ sel.range.stop.line := by
  rw [range, Range.between]
  split
  · rename_i h
    exact h.elim Nat.le_of_lt fun h => Nat.le_of_eq h.1
  · rename_i h
    exact Nat.not_lt.1 fun h' => h (.inl h')

namespace Edit

open Buffer EditM

variable {b : Buffer}

theorem sound_insertText (W : b.WellFormed) (p : Position) (t : Text) :
    Sound (insertText p t) b := by
  cases hp : b.positionError? p with
  | some e => exact .of_unchanged (by rw [outcome_insertText, hp])
  | none => exact .of_ok (by rw [outcome_insertText, hp]) (.withText W hp)

theorem sound_deleteRange (W : b.WellFormed) (r : Range) : Sound (deleteRange r) b := by
  cases hs : b.positionError? r.start with
  | some e => exact .of_unchanged (by rw [outcome_deleteRange, hs])
  | none =>
    cases he : b.positionError? r.stop with
    | some e => exact .of_unchanged (by rw [outcome_deleteRange, hs, he])
    | none =>
      exact .of_ok (by rw [outcome_deleteRange, hs, he]) fun _ => .withoutRange W hs he

theorem sound_replaceRange (W : b.WellFormed) (r : Range) (t : Text) :
    Sound (replaceRange r t) b := by
  cases he : b.positionError? r.stop with
  | some e => exact .of_unchanged (by rw [outcome_replaceRange, he])
  | none =>
    cases hs : b.positionError? r.start with
    | some e => exact .of_unchanged (by rw [outcome_replaceRange, he, hs])
    | none =>
      refine .of_ok (outcome_replaceRange_of_valid t hs he) fun {limit} F => ?_
      have hd : Steps limit b (b.withoutRange r) := .withoutRange W hs he
      exact hd.trans (Steps.withText (hd.wellFormed W) (positionError?_withoutRange hs) F)

theorem sound_setLine (W : b.WellFormed) (line : Nat) (t : Text) : Sound (setLine line t) b := by
  cases hl : b.lineError? line with
  | some e => exact .of_unchanged (by rw [outcome_setLine, hl])
  | none =>
    cases ht : t.hasBreak with
    | true =>
      exact ((sound_replaceRange W _ t).map _).congr (by rw [outcome_setLine, hl, ht]; rfl)
    | false =>
      exact .of_ok (by rw [outcome_setLine, hl, ht]; rfl) fun _ =>
        .tail (.single (.editLine (lineError?_eq_none.1 hl) ht)) .mark

theorem sound_insertLines (line : Nat) (ts : List Text) : Sound (insertLines line ts) b := by
  by_cases hl : line ≤ b.lineCount
  · exact .of_ok (by rw [outcome_insertLines, if_pos hl]) (.withLines hl)
  · exact .of_unchanged (by rw [outcome_insertLines, if_neg hl])

theorem sound_removeLines (W : b.WellFormed) (start stop : Nat) :
    Sound (removeLines start stop) b := by
  by_cases h : start < stop ∧ stop ≤ b.lineCount
  · exact .of_ok (by rw [outcome_removeLines, if_pos h]) fun _ => .withoutLines W h.1 h.2
  · exact .of_unchanged (by rw [outcome_removeLines, if_neg h])

theorem sound_rotate (start mid stop : Nat) : Sound (rotate start mid stop) b := by
  by_cases hs : b.lineCount < stop
  · exact .of_unchanged (by rw [outcome_rotate, if_pos hs])
  · by_cases h : start < mid ∧ mid < stop
    · exact .of_ok (by rw [outcome_rotate, if_neg hs, if_pos h]) fun _ =>
        .tail (.single (.rotateLines h.1 h.2 (Nat.not_lt.1 hs))) .mark
    · exact .of_unchanged (by rw [outcome_rotate, if_neg hs, if_neg h])

/-! ## Commands on the selected lines -/

theorem first_le_last (sel : Selection) : sel.lineBlock.first ≤ sel.lineBlock.last := by
  rw [Selection.lineBlock]
  split
  · rename_i h
    exact Nat.le_sub_one_of_lt h.1
  · exact sel.start_line_le

theorem outcome_checkBlock (sel : Selection) :
    (checkBlock sel).outcome b =
      match b.lineError? sel.lineBlock.last with
      | some e => (.error e, b)
      | none => (.ok sel.lineBlock, b) := by
  simp only [checkBlock, checkLine, outcome_bind, outcome_guardWith]
  cases b.lineError? sel.lineBlock.last <;> rfl

/-- A command on lines that are not there fails at once. -/
theorem snd_outcome_of_not_lt {α : Type} {sel : Selection} (hl : ¬sel.lineBlock.last < b.lineCount)
    (f : LineBlock → EditM Buffer α) : ((checkBlock sel >>= f).outcome b).2 = b := by
  have he : b.lineError? sel.lineBlock.last = some _ := if_neg hl
  rw [outcome_bind_error (by rw [outcome_checkBlock, he])]

theorem sound_of_not_lt {α : Type} {sel : Selection} (hl : ¬sel.lineBlock.last < b.lineCount)
    (f : LineBlock → EditM Buffer α) : Sound (checkBlock sel >>= f) b :=
  .of_unchanged (snd_outcome_of_not_lt hl f)

section
variable {sel : Selection} (hl : sel.lineBlock.last < b.lineCount)
include hl

theorem outcome_checkBlock_bind {α : Type} (f : LineBlock → EditM Buffer α) :
    (checkBlock sel >>= f).outcome b = (f sel.lineBlock).outcome b :=
  outcome_bind_ok (by rw [outcome_checkBlock, lineError?_eq_none.2 hl])

theorem outcome_deleteLines : (deleteLines sel).outcome b =
    (.ok (.caret ⟨min sel.lineBlock.first
        ((b.withoutLines sel.lineBlock.first (sel.lineBlock.last + 1)).lineCount - 1), 0⟩),
      b.withoutLines sel.lineBlock.first (sel.lineBlock.last + 1)) := by
  rw [deleteLines, outcome_checkBlock_bind hl, outcome_bind, outcome_removeLines,
    if_pos ⟨Nat.lt_succ_of_le (first_le_last sel), hl⟩]
  rfl

theorem outcome_moveUp : (moveUp sel).outcome b =
    if sel.lineBlock.first = 0 then (.ok sel, b)
    else (.ok (sel.shifted (-1)), (b.rotateLines (sel.lineBlock.first - 1) sel.lineBlock.first
      (sel.lineBlock.last + 1)).markModified) := by
  rw [moveUp, outcome_checkBlock_bind hl]
  split
  · rfl
  · have := first_le_last sel
    rw [outcome_bind, outcome_rotate, if_neg (by omega), if_pos (by omega)]
    rfl

theorem outcome_moveDown : (moveDown sel).outcome b =
    if b.lineCount ≤ sel.lineBlock.last + 1 then (.ok sel, b)
    else (.ok (sel.shifted 1), (b.rotateLines sel.lineBlock.first (sel.lineBlock.last + 1)
      (sel.lineBlock.last + 2)).markModified) := by
  rw [moveDown, outcome_checkBlock_bind hl, outcome_bind, outcome_get]
  simp only []
  split
  · rfl
  · have := first_le_last sel
    rw [outcome_bind, outcome_rotate, if_neg (by omega), if_pos (by omega)]
    rfl

theorem outcome_duplicateUp : (duplicateUp sel).outcome b =
    (.ok sel, b.withLines sel.lineBlock.first (blockTexts b sel.lineBlock)) := by
  have := first_le_last sel
  rw [duplicateUp, outcome_checkBlock_bind hl, outcome_bind, outcome_get]
  simp only []
  rw [outcome_bind, outcome_insertLines, if_pos (by omega)]
  rfl

theorem outcome_duplicateDown : (duplicateDown sel).outcome b =
    (.ok (sel.shifted (blockTexts b sel.lineBlock).length),
      b.withLines (sel.lineBlock.last + 1) (blockTexts b sel.lineBlock)) := by
  rw [duplicateDown, outcome_checkBlock_bind hl, outcome_bind, outcome_get]
  simp only []
  rw [outcome_bind, outcome_insertLines, if_pos (by omega)]
  rfl

end

theorem sound_deleteLines (W : b.WellFormed) (sel : Selection) : Sound (deleteLines sel) b := by
  by_cases hl : sel.lineBlock.last < b.lineCount
  · exact .of_ok (outcome_deleteLines hl) fun _ =>
      .withoutLines W (Nat.lt_succ_of_le (first_le_last sel)) hl
  · exact sound_of_not_lt hl _

theorem sound_moveUp (sel : Selection) : Sound (moveUp sel) b := by
  by_cases hl : sel.lineBlock.last < b.lineCount
  · have := first_le_last sel
    by_cases h : sel.lineBlock.first = 0
    · exact .of_unchanged (by rw [outcome_moveUp hl, if_pos h])
    · exact .of_ok (by rw [outcome_moveUp hl, if_neg h]) fun _ =>
        .tail (.single (.rotateLines (by omega) (by omega) hl)) .mark
  · exact sound_of_not_lt hl _

theorem sound_moveDown (sel : Selection) : Sound (moveDown sel) b := by
  by_cases hl : sel.lineBlock.last < b.lineCount
  · have := first_le_last sel
    by_cases h : b.lineCount ≤ sel.lineBlock.last + 1
    · exact .of_unchanged (by rw [outcome_moveDown hl, if_pos h])
    · exact .of_ok (by rw [outcome_moveDown hl, if_neg h]) fun _ =>
        .tail (.single (.rotateLines (by omega) (by omega) (by omega))) .mark
  · exact sound_of_not_lt hl _

theorem sound_duplicateUp (sel : Selection) : Sound (duplicateUp sel) b := by
  by_cases hl : sel.lineBlock.last < b.lineCount
  · have := first_le_last sel
    exact .of_ok (outcome_duplicateUp hl) (.withLines (by omega))
  · exact sound_of_not_lt hl _

theorem sound_duplicateDown (sel : Selection) : Sound (duplicateDown sel) b := by
  by_cases hl : sel.lineBlock.last < b.lineCount
  · exact .of_ok (outcome_duplicateDown hl) (.withLines hl)
  · exact sound_of_not_lt hl _

/-! ## Tabs -/

/-- The text before a position on its line. -/
def textBefore (b : Buffer) (p : Position) : Text := (b.lineText p.line).take p.col

/-- The spaces up to the next tab stop after a position. -/
def tabSpaces (tab : Nat) (b : Buffer) (p : Position) : Text :=
  List.replicate (spacesBehind (max tab 1) (textBefore b p)) ' '

/-- What a tab behind a text stops the program at: a number that is no index, or more spaces than a
text can have. -/
def TabStops (tab : Nat) (t : Text) : Prop :=
  (∃ n ∈ tabNumbers tab t, maxIndex < n) ∨ maxSpaces < spacesBehind tab t

instance (tab : Nat) (t : Text) : Decidable (TabStops tab t) :=
  inferInstanceAs (Decidable (_ ∨ _))

theorem outcome_tabOverflows (tab : Nat) (sel : Selection) : (tabOverflows tab sel).outcome b =
    match b.positionError? sel.range.start, b.positionError? sel.range.stop with
    | some e, _ | none, some e => (.error e, b)
    | none, none => (.ok ((tabNumbers (max tab 1) (textBefore b sel.range.start)).any
        (maxIndex < ·)), b) := by
  simp only [tabOverflows, checkPosition, outcome_bind, outcome_guardWith, outcome_get]
  cases b.positionError? sel.range.start with
  | some e => rfl
  | none => cases he : b.positionError? sel.range.stop <;> simp [he, textBefore]

theorem outcome_insertTab {sel : Selection} (tab : Nat)
    (hs : b.positionError? sel.range.start = none) (he : b.positionError? sel.range.stop = none) :
    (insertTab tab sel).outcome b =
      if TabStops (max tab 1) (textBefore b sel.range.start) then (.error .overflow, b)
      else
        let spaces := tabSpaces tab b sel.range.start
        (.ok (.caret (if spaces.isEmpty then sel.range.start else afterText sel.range.start spaces)),
          (b.withoutRange sel.range).withText sel.range.start spaces) := by
  have hany : (tabNumbers (max tab 1) (textBefore b sel.range.start)).any (maxIndex < ·) = true ↔
      ∃ n ∈ tabNumbers (max tab 1) (textBefore b sel.range.start), maxIndex < n := by
    simp only [List.any_eq_true, decide_eq_true_eq]
  have hcheck := outcome_tabOverflows (b := b) tab sel
  rw [hs, he] at hcheck
  rw [insertTab, outcome_bind_ok hcheck, outcome_stopIf_bind]
  by_cases hnum : ∃ n ∈ tabNumbers (max tab 1) (textBefore b sel.range.start), maxIndex < n
  · have hstop : TabStops (max tab 1) (textBefore b sel.range.start) := .inl hnum
    rw [if_pos (hany.2 hnum), if_pos hstop]
  · rw [if_neg (mt hany.1 hnum)]
    rw [outcome_bind, outcome_get]
    simp only [outcome_stopIf_bind, decide_eq_true_eq]
    by_cases hroom : maxSpaces < spacesBehind (max tab 1) (textBefore b sel.range.start)
    · have hstop : TabStops (max tab 1) (textBefore b sel.range.start) := .inr hroom
      rw [if_pos hstop, ← textBefore, if_pos hroom]
    · have hstop : ¬TabStops (max tab 1) (textBefore b sel.range.start) := not_or.2 ⟨hnum, hroom⟩
      rw [if_neg hstop, ← textBefore, if_neg hroom]
      simp only [outcome_bind, outcome_deleteRange, hs, he, outcome_insertText,
        positionError?_withoutRange hs]
      rfl

theorem sound_insertTab (W : b.WellFormed) (tab : Nat) (sel : Selection) :
    Sound (insertTab tab sel) b := by
  have hcheck := outcome_tabOverflows (b := b) tab sel
  cases hs : b.positionError? sel.range.start with
  | some e =>
    rw [hs] at hcheck
    exact .of_unchanged (by rw [insertTab, outcome_bind_error hcheck])
  | none =>
    cases he : b.positionError? sel.range.stop with
    | some e =>
      rw [hs, he] at hcheck
      exact .of_unchanged (by rw [insertTab, outcome_bind_error hcheck])
    | none =>
      by_cases h : TabStops (max tab 1) (textBefore b sel.range.start)
      · exact .of_unchanged (by rw [outcome_insertTab tab hs he, if_pos h])
      · refine .of_ok (by rw [outcome_insertTab tab hs he, if_neg h]) fun {limit} F => ?_
        have hd : Steps limit b (b.withoutRange sel.range) := .withoutRange W hs he
        exact hd.trans (Steps.withText (hd.wellFormed W) (positionError?_withoutRange hs) F)

/-! ## Matches -/

theorem outcome_replaceMatch (m : Match) (new : Text) : (replaceMatch m new).outcome b =
    if columnOverflows (b.lineText m.start.line) (m.start.col + m.length) then (.error .overflow, b)
    else (replaceRange m.range new).outcome b := by
  rw [replaceMatch, outcome_bind, outcome_get]
  exact outcome_stopIf_bind ..

theorem columnOverflows_of_le {t : Text} {col : Nat} (h : col ≤ t.length) :
    columnOverflows t col = false :=
  decide_eq_false fun h' => Nat.not_lt.2 h h'.1

theorem sound_replaceMatch (W : b.WellFormed) (m : Match) (new : Text) :
    Sound (replaceMatch m new) b := by
  cases h : columnOverflows (b.lineText m.start.line) (m.start.col + m.length) with
  | true => exact .of_unchanged (by rw [outcome_replaceMatch, if_pos h])
  | false =>
    refine (sound_replaceRange W m.range new).congr ?_
    rw [outcome_replaceMatch, if_neg (Bool.eq_false_iff.1 h)]

/-- Giving a line that is there another text adds as many lines as the text has breaks. -/
theorem exists_outcome_setLine {line : Nat} (hl : line < b.lineCount) (t : Text) :
    ∃ c, (setLine line t).outcome b = (.ok ⟨⟩, c) ∧
      c.lineCount + 1 = b.lineCount + (Text.lines t).length := by
  obtain ⟨above, l, below, hs, hn⟩ := exists_line hl
  obtain ⟨c, hc, hr⟩ := replaced_setLine hs hn t
  obtain ⟨new, hlines, htexts, -⟩ := hr.exists_lines
  have hnew : new.length = (Text.lines t).length := by rw [← htexts, List.length_map]
  refine ⟨c, hc, ?_⟩
  rw [lineCount, hlines, lineCount, hs]
  simp only [List.length_append, List.length_cons]
  omega

section
variable {R : Type} [Engine R] (m : Matcher R) (new : Text) {steps line : Nat}

/-- Behind the last line the loop ends. -/
theorem outcome_replaceLines_of_le (h : b.lineCount ≤ line) :
    (replaceLines m new (steps + 1) line).outcome b = (.ok 0, b) := by
  rw [replaceLines, outcome_bind, outcome_get]
  dsimp only
  rw [if_pos h]
  rfl

theorem outcome_replaceLines_of_isEmpty (h : line < b.lineCount)
    (hs : (m.lineMatches (b.lineText line)).isEmpty = true) :
    (replaceLines m new (steps + 1) line).outcome b =
      (replaceLines m new steps (line + 1)).outcome b := by
  rw [replaceLines, outcome_bind, outcome_get]
  dsimp only
  rw [if_neg (Nat.not_le.2 h), if_pos hs]

theorem outcome_replaceLines_succ {c d : Buffer} {t : Text} {n : Nat} (h : line < b.lineCount)
    (hs : (m.lineMatches (b.lineText line)).isEmpty = false)
    (ht : Text.replaceSpans new 0 (m.lineMatches (b.lineText line)) (b.lineText line) = t)
    (hset : (setLine line t).outcome b = (.ok ⟨⟩, c))
    (hrest : (replaceLines m new steps (line + (Text.lines t).length)).outcome c = (.ok n, d)) :
    (replaceLines m new (steps + 1) line).outcome b =
      (.ok ((m.lineMatches (b.lineText line)).length + n), d) := by
  rw [replaceLines, outcome_bind, outcome_get]
  dsimp only
  rw [if_neg (Nat.not_le.2 h), if_neg (Bool.eq_false_iff.1 hs), ht, outcome_bind_ok hset,
    outcome_bind_ok hrest]
  rfl

/-- Replacing in lines succeeds, and no lines are lost. -/
theorem exists_outcome_replaceLines (b : Buffer) (steps line : Nat) :
    ∃ n c, (replaceLines m new steps line).outcome b = (.ok n, c) ∧ b.lineCount ≤ c.lineCount ∧
      ∀ {limit}, b.WellFormed → c.lineCount ≤ limit → Steps limit b c := by
  induction steps generalizing b line with
  | zero => exact ⟨0, b, rfl, Nat.le_refl _, fun _ _ => .refl⟩
  | succ steps ih =>
    rcases Nat.lt_or_ge line b.lineCount with hl | hl
    · cases hs : (m.lineMatches (b.lineText line)).isEmpty with
      | true =>
        rw [outcome_replaceLines_of_isEmpty m new hl hs]
        exact ih b (line + 1)
      | false =>
        obtain ⟨t, ht⟩ : ∃ t, Text.replaceSpans new 0 (m.lineMatches (b.lineText line))
          (b.lineText line) = t := ⟨_, rfl⟩
        obtain ⟨c, hset, hn⟩ := exists_outcome_setLine hl t
        obtain ⟨n, d, hrest, hn', hd⟩ := ih c (line + (Text.lines t).length)
        have hpos := List.length_pos_iff.2 (Text.lines_ne_nil t)
        refine ⟨_, d, outcome_replaceLines_succ m new hl hs ht hset hrest, by omega,
          fun {limit} W F => ?_⟩
        have hc : Steps limit b c := by
          have H := sound_setLine W line t
          rw [← show _ = c from congrArg Prod.snd hset] at hn' ⊢
          exact H.steps (Nat.le_trans hn' F)
        exact hc.trans (hd (Steps.wellFormed hc W) F)
    · exact ⟨0, b, outcome_replaceLines_of_le m new hl, Nat.le_refl _, fun _ _ => .refl⟩

end

section
variable {R : Type} [Engine R]

theorem outcome_replaceUntil_of_make {m : Matcher R} {pattern : Text} {flags : SearchFlags}
    (hp : pattern ≠ []) (hm : Matcher.make pattern flags = .ok m) (new : Text)
    (cancelled : Option Nat) : (replaceUntil pattern new flags cancelled R).outcome b =
      (replaceLines m new (cancelled.getD b.lineCount) 0).outcome b := by
  rw [replaceUntil, if_neg (by simpa using hp), hm]
  rfl

theorem sound_replaceUntil (W : b.WellFormed) (pattern new : Text) (flags : SearchFlags)
    (cancelled : Option Nat) : Sound (replaceUntil pattern new flags cancelled R) b := by
  by_cases hp : pattern = []
  · subst hp
    exact .of_unchanged rfl
  · cases hm : (Matcher.make pattern flags : Except EditError (Matcher R)) with
    | error e =>
      refine .of_unchanged ?_
      rw [replaceUntil, if_neg (by simpa using hp), hm]
      rfl
    | ok m =>
      obtain ⟨n, c, ho, -, hc⟩ := exists_outcome_replaceLines m new b (cancelled.getD b.lineCount) 0
      exact .of_ok ((outcome_replaceUntil_of_make hp hm new cancelled).trans ho) (hc W)

end

end Edit
end LogicEditor
