import LogicEditor.Proofs.Search.Literal
import LogicEditor.Proofs.Search.Match

/-!
# Whole words

A search for whole words takes the matches that do not overlap, from the left, and then drops those
with a word character next to them. A match that is dropped hides the occurrences that it overlaps,
also one that stands free. Whether that can happen is decided by the pattern alone: nothing is missed
in any line if and only if the pattern, wherever it overlaps a copy of itself further left, stands
behind a word character of the copy (`Matcher.finds_free_iff`). This is so with any lawful engine.
-/

namespace LogicEditor

variable {R : Type} [Engine R] {w line t : Text} {i d : Nat} {s s' : Span} {ss : List Span}

/-- A free occurrence: no word character stands next to it. -/
def Text.OccursFree (w line : Text) (i : Nat) : Prop :=
  w.Occurs line i ∧ Matcher.isWholeWord line ⟨i, i + w.length⟩ = true

instance (w line : Text) (i : Nat) : Decidable (w.OccursFree line i) :=
  inferInstanceAs (Decidable (_ ∧ _))

/-- Wherever the text overlaps a copy of itself further left, a word character of the copy stands
before it. -/
def Text.OverlapsInWords (w : Text) : Prop :=
  ∀ d < w.length, 0 < d → w.drop d <+: w → (w.take d).getLast?.any Text.isWordChar = true

instance (w : Text) : Decidable w.OverlapsInWords :=
  inferInstanceAs (Decidable (∀ d < w.length, _))

/-- Some match overlaps what stands in columns `i` to `i + n`. -/
def Matcher.Touches (m : Matcher R) (line : Text) (i n : Nat) : Prop :=
  ∃ s ∈ m.lineMatches line, s.start < i + n ∧ i < s.stop

/-! ## Overlaps -/

theorem Span.Ascend.eq_or_apart {lo hi : Nat} (H : Ascend lo hi ss) (hs : s ∈ ss) (hs' : s' ∈ ss) :
    s = s' ∨ s.stop ≤ s'.start ∨ s'.stop ≤ s.start := by
  obtain ⟨i, hi, rfl⟩ := List.mem_iff_getElem.1 hs
  obtain ⟨j, hj, rfl⟩ := List.mem_iff_getElem.1 hs'
  rcases Nat.lt_trichotomy i j with h | rfl | h
  · exact .inr (.inl (List.pairwise_iff_getElem.1 H.apart i j hi hj h))
  · exact .inl rfl
  · exact .inr (.inr (List.pairwise_iff_getElem.1 H.apart j i hj hi h))

namespace Text.Occurs

/-- What two occurrences share is an end and a beginning of the text. -/
theorem drop_prefix (h : w.Occurs t i) (h' : w.Occurs t (i + d)) (hd : d ≤ w.length) :
    w.drop d <+: w := by
  obtain ⟨rest, hrest⟩ := h
  rw [Occurs, ← List.drop_drop, ← hrest, List.drop_append_of_le_length hd] at h'
  exact List.prefix_of_prefix_length_le (List.prefix_append ..) h' (List.drop_sublist d w).length_le

/-- The character before a place within an occurrence. -/
theorem getLast?_take (h : w.Occurs t i) (hpos : 0 < d) (hd : d ≤ w.length) :
    (t.take (i + d)).getLast? = (w.take d).getLast? := by
  obtain ⟨rest, hrest⟩ := h
  have hne : w.take d ≠ [] := by
    rw [← List.length_pos_iff, List.length_take_of_le hd]
    exact hpos
  rw [List.take_add, ← hrest, List.take_append_of_le_length hd, List.getLast?_append,
    List.getLast?_eq_some_getLast hne, Option.some_or]

end Text.Occurs

namespace Matcher

variable {m : Matcher R} {flags : SearchFlags}

theorem isWholeWord_iff : isWholeWord line s = true ↔
    (line.take s.start).getLast?.any Text.isWordChar = false ∧
      (line.drop s.stop).head?.any Text.isWordChar = false := by
  rw [isWholeWord, Bool.and_eq_true, Bool.not_eq_true', Bool.not_eq_true']

/-- A literal pattern in the case it is written in is searched for as it is. -/
theorem literal?_of_make (hm : make w flags = .ok m) (hcase : flags.caseSensitive = true)
    (hplain : flags.regex = false) :
    Engine.literal? false w = .ok m.program ∧ m.wholeWord = flags.wholeWord := by
  rw [make, hcase, hplain] at hm
  cases hr : (Engine.literal? false w : Except Pattern.PatternError R) with
  | error e =>
    simp only [Bool.not_true, Bool.false_eq_true, if_false, hr] at hm
    cases hm
  | ok r =>
    simp only [Bool.not_true, Bool.false_eq_true, if_false, hr] at hm
    cases hm
    exact ⟨rfl, rfl⟩

section
variable (hword : m.wholeWord = true) (H : ∀ t, w.Leftmost t (Engine.spans m.program t))
include hword H

theorem mem_lineMatches_iff :
    s ∈ m.lineMatches line ↔ s ∈ Engine.spans m.program line ∧ isWholeWord line s = true := by
  have hfull (hs : s ∈ Engine.spans m.program line) : (!s.isEmpty) = true := by
    rw [Bool.not_eq_true', Span.isEmpty_eq_false_iff]
    exact Nat.ne_of_lt ((H line).ascend.bounds s hs).2.1
  rw [lineMatches, List.mem_filter, List.mem_filter, hword, Bool.not_true, Bool.false_or]
  exact ⟨fun h => ⟨h.1.1, h.2⟩, fun h => ⟨⟨h.1, hfull h.1⟩, h.2⟩⟩

/-- A free occurrence is a match, unless one that it overlaps has been taken further left. -/
theorem mem_of_occursFree (hw : w.OverlapsInWords) (h : w.OccursFree line i) :
    ⟨i, i + w.length⟩ ∈ m.lineMatches line := by
  obtain ⟨hocc, hfree⟩ := h
  obtain ⟨⟨a, e⟩, hs, hstart, hstop⟩ := (H line).covers i hocc
  obtain ⟨hlen, hocc'⟩ := (H line).occurs _ hs
  obtain ⟨d, rfl⟩ := Nat.exists_eq_add_of_le (show a ≤ i from hstart)
  have hd : d < w.length := by
    have : a + d < e := hstop
    have : e = a + w.length := hlen
    omega
  rcases Nat.eq_zero_or_pos d with rfl | hpos
  · obtain rfl : e = a + w.length := hlen
    exact (mem_lineMatches_iff hword H).2 ⟨hs, hfree⟩
  · -- the character before the occurrence belongs to the match further left
    have hchar := hw d hd hpos (hocc'.drop_prefix hocc (Nat.le_of_lt hd))
    rw [← hocc'.getLast?_take hpos (Nat.le_of_lt hd)] at hchar
    have hnone := (isWholeWord_iff.1 hfree).1
    rw [hchar] at hnone
    cases hnone

/-- A line in which a word character makes the first match dropped, and the match hides a free
occurrence. -/
theorem exists_not_touches (hd : d < w.length) (hpos : 0 < d) (hpre : w.drop d <+: w)
    (hnone : (w.take d).getLast?.any Text.isWordChar = false) :
    ∃ line i, w.OccursFree line i ∧ ¬m.Touches line i w.length := by
  obtain ⟨x, hx, hhead⟩ : ∃ x, Text.isWordChar x = true ∧ w.head? ≠ some x := by
    by_cases h : w.head? = some 'a'
    · exact ⟨'b', by decide, by rw [h]; decide⟩
    · exact ⟨'a', by decide, h⟩
  have htake : (w.take d).length = d := List.length_take_of_le (Nat.le_of_lt hd)
  have hlength : (x :: (w.take d ++ w)).length = 1 + d + w.length := by
    rw [List.length_cons, List.length_append, htake]
    omega
  have hnot : ¬w.Occurs (x :: (w.take d ++ w)) 0 := by
    intro h
    obtain ⟨c, u, rfl⟩ := List.exists_cons_of_ne_nil (List.length_pos_iff.1 (Nat.zero_lt_of_lt hd))
    rw [Text.Occurs, List.drop_zero, List.cons_prefix_cons] at h
    exact hhead (by rw [h.1]; rfl)
  have hfirst : w.Occurs (x :: (w.take d ++ w)) 1 := by
    show w <+: w.take d ++ w
    have := (List.prefix_append_right_inj (w.take d)).2 hpre
    rwa [List.take_append_drop] at this
  have hsecond : w.OccursFree (x :: (w.take d ++ w)) (1 + d) := by
    have hdrop : (x :: (w.take d ++ w)).drop (1 + d) = w := by
      rw [Nat.add_comm, List.drop_succ_cons, List.drop_left' htake]
    refine ⟨⟨[], (List.append_nil w).trans hdrop.symm⟩, isWholeWord_iff.2 ⟨?_, ?_⟩⟩
    · rw [hfirst.getLast?_take hpos (Nat.le_of_lt hd)]
      exact hnone
    · rw [List.drop_of_length_le (Nat.le_of_eq hlength)]
      rfl
  refine ⟨_, 1 + d, hsecond, ?_⟩
  rintro ⟨s, hs, hstart, hstop⟩
  obtain ⟨hs, hfree⟩ := (mem_lineMatches_iff hword H).1 hs
  have started {s : Span} (hs : s ∈ Engine.spans m.program (x :: (w.take d ++ w))) :
      1 ≤ s.start ∧ s.stop = s.start + w.length ∧ s.stop ≤ 1 + d + w.length := by
    obtain ⟨hlen, hocc⟩ := (H _).occurs s hs
    refine ⟨Nat.one_le_iff_ne_zero.2 fun h => hnot (h ▸ hocc), hlen, ?_⟩
    exact hlength ▸ ((H _).ascend.bounds s hs).2.2
  -- there is no room for a second match
  obtain ⟨s', hs', hstart', hstop'⟩ := (H _).covers 1 hfirst
  have h := started hs
  have h' := started hs'
  obtain rfl : s = s' := by
    rcases (H _).ascend.eq_or_apart hs hs' with h | h | h
    · exact h
    · omega
    · omega
  have hone : s.start = 1 := by omega
  have := (isWholeWord_iff.1 hfree).1
  rw [hone] at this
  exact Bool.false_ne_true (this.symm.trans hx)

end

/-- A search for a whole word misses no free occurrence in any line if and only if the word overlaps
itself behind word characters only. -/
theorem finds_free_iff [LawfulEngine R] (hw : w ≠ []) (hm : make w flags = .ok m)
    (hcase : flags.caseSensitive = true) (hword : flags.wholeWord = true)
    (hplain : flags.regex = false) :
    (∀ line i, w.OccursFree line i → m.Touches line i w.length) ↔ w.OverlapsInWords := by
  obtain ⟨hr, hm⟩ := literal?_of_make hm hcase hplain
  have hword : m.wholeWord = true := hm.trans hword
  have H := LawfulEngine.leftmost hw hr
  constructor
  · intro hall d hd hpos hpre
    rw [← Bool.not_eq_false]
    intro hnone
    obtain ⟨line, i, hfree, hmissed⟩ := exists_not_touches hword H hd hpos hpre hnone
    exact hmissed (hall line i hfree)
  · intro hover line i hfree
    have hpos := List.length_pos_iff.2 hw
    exact ⟨_, mem_of_occursFree hword H hover hfree, Nat.lt_add_of_pos_right hpos,
      Nat.lt_add_of_pos_right hpos⟩

/-- The word overlaps itself, but only behind a letter. -/
theorem finds_free_iff_letters :
    let w : Text := "-aa-aa".toList
    let flags : SearchFlags := { caseSensitive := true, wholeWord := true }
    ∃ m : Matcher Pattern.Program, make w flags = .ok m ∧
      ∀ line i, w.OccursFree line i → m.Touches line i w.length := by
  intro w flags
  obtain ⟨m, hm⟩ : ∃ m : Matcher Pattern.Program, make w flags = .ok m :=
    exists_make (by decide +kernel)
  have hover : w.OverlapsInWords := by decide +kernel
  exact ⟨m, hm, (finds_free_iff (by decide) hm rfl rfl rfl).2 hover⟩

/-- In `xa-a-a` the free occurrence of `a-a` is not found, as the match before it touches the `x`. -/
theorem not_finds_free :
    let w : Text := "a-a".toList
    let line : Text := "xa-a-a".toList
    let flags : SearchFlags := { caseSensitive := true, wholeWord := true }
    ∃ m : Matcher Pattern.Program, make w flags = .ok m ∧ w.OccursFree line 3 ∧
      ¬m.Touches line 3 w.length := by
  intro w line flags
  have hnone : ((make w flags : Except EditError (Matcher Pattern.Program)).map fun m =>
      m.lineMatches line).toOption = some [] := by decide +kernel
  obtain ⟨m, hm⟩ : ∃ m : Matcher Pattern.Program, make w flags = .ok m :=
    exists_make (by decide +kernel)
  rw [hm] at hnone
  refine ⟨m, hm, by decide +kernel, ?_⟩
  rintro ⟨s, hs, -⟩
  rw [show m.lineMatches line = [] from Option.some.inj hnone] at hs
  cases hs

end Matcher
end LogicEditor
