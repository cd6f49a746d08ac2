import LogicEditor.Proofs.Buffer.TabStop
import LogicEditor.Proofs.Options.Listing

/-!
# Tabs beyond the range of indices

The numbers that a tab takes are indices as long as the display width of the text before it is one,
and how wide that is depends on the number of its characters (`Edit.foldl_advance_le`). Every positive
index is accepted as a tab width, hence two tab characters may be too wide already.
-/

namespace LogicEditor
namespace Edit

open Buffer

variable {b : Buffer} {sel : Selection} {tab w n limit length : Nat} {c : Char} {t : Text}

/-! ## How much a character adds -/

theorem charWidth_le (c : Char) : Text.charWidth c ≤ 3 := by
  unfold Text.charWidth
  dsimp only
  split_ifs <;> decide

theorem advance_le (tab w : Nat) (c : Char) : advance tab w c ≤ w + max tab 3 := by
  rw [advance]
  split
  · calc (w / tab + 1) * tab
      _ = w / tab * tab + tab := Nat.succ_mul ..
      _ ≤ w + max tab 3 := Nat.add_le_add (Nat.div_mul_le_self w tab) (Nat.le_max_left tab 3)
  · exact Nat.add_le_add_left (Nat.le_trans (charWidth_le c) (Nat.le_max_right tab 3)) w

theorem foldl_advance_le (tab w : Nat) (t : Text) :
    t.foldl (advance tab) w ≤ w + t.length * max tab 3 := by
  induction t generalizing w with
  | nil => exact Nat.le_add_right ..
  | cons c t ih =>
    have hc := advance_le tab w c
    have ht := ih (advance tab w c)
    rw [List.foldl_cons, List.length_cons, Nat.succ_mul]
    omega

/-- No text of the length is wider than this one. -/
def widest (tab length : Nat) : Text :=
  List.replicate length (if 3 ≤ tab then '\t' else '\u17d8')

theorem displayWidth_widest (h : 0 < tab) (length : Nat) :
    displayWidth tab (widest tab length) = length * max tab 3 := by
  have hstep (k : Nat) : advance tab (k * max tab 3) (if 3 ≤ tab then '\t' else '\u17d8') =
      (k + 1) * max tab 3 := by
    by_cases htab : 3 ≤ tab
    · rw [if_pos htab, Nat.max_eq_left htab, advance, if_pos rfl, Nat.mul_div_cancel k h]
    · rw [if_neg htab, Nat.max_eq_right (by omega), Nat.succ_mul]
      rfl
  induction length with
  | zero => exact (Nat.zero_mul _).symm
  | succ k ih =>
    rw [widest, List.replicate_succ', displayWidth_append, ← widest, ih]
    exact hstep k

/-! ## Tabs in place of selections -/

/-- A tab in place of a selection stops the program where the text before the selection is too
wide. -/
theorem result_tabOverflows (htab : tab ≤ maxIndex) (H : b.Holds sel) :
    (tabOverflows tab sel).result b = .ok (decide (maxIndex < displayWidth (max tab 1)
      ((b.lineText sel.range.start.line).take sel.range.start.col))) := by
  obtain ⟨hs, he⟩ := holds_range.1 H
  have hany : (tabNumbers (max tab 1) (textBefore b sel.range.start)).any (maxIndex < ·) =
      decide (maxIndex < displayWidth (max tab 1) (textBefore b sel.range.start)) := by
    rw [Bool.eq_iff_iff, List.any_eq_true, decide_eq_true_iff, ← exists_lt_mem_tabNumbers htab]
    simp only [decide_eq_true_eq]
  rw [EditM.result, outcome_tabOverflows, hs, he]
  exact congrArg Except.ok hany

/-- The numbers of a tab are indices as long as the display width of the text before it is one. This
holds for all texts of a length if it holds for a text of that many tab characters, or of the widest
characters where these are wider than a tab. There are never more spaces than the tab is wide. -/
theorem tabNumbers_le_iff {o : Options} (H : o.Reachable) :
    (∀ (line : Text) (col : Nat), (∀ n ∈ tabNumbers o.tabstop (line.take col), n ≤ maxIndex) ↔
      displayWidth o.tabstop (line.take col) ≤ maxIndex) ∧
    (∀ length, (∀ t : Text, t.length = length → ∀ n ∈ tabNumbers o.tabstop t, n ≤ maxIndex) ↔
      length * max o.tabstop 3 ≤ maxIndex) ∧
    (∀ t : Text, o.tabstop - displayWidth o.tabstop t % o.tabstop ≤ maxIndex) ∧
    ∀ (b : Buffer) (sel : Selection), b.Holds sel →
      (tabOverflows o.tabstop sel).result b = .ok (decide (maxIndex < displayWidth o.tabstop
        ((b.lineText sel.range.start.line).take sel.range.start.col))) := by
  obtain ⟨hpos, hle⟩ : 0 < o.tabstop ∧ o.tabstop ≤ maxIndex := H.valid .tabstop
  refine ⟨fun line col => forall_tabNumbers_le hpos hle, fun length => ⟨fun h => ?_, ?_⟩,
    fun t => Nat.le_trans (Nat.sub_le ..) hle, fun b sel hsel => ?_⟩
  · have hwidest := h (widest o.tabstop length) List.length_replicate
    rwa [forall_tabNumbers_le hpos hle, displayWidth_widest hpos] at hwidest
  · rintro h t rfl
    have hwidth := foldl_advance_le o.tabstop 0 t
    rw [Nat.zero_add] at hwidth
    exact (forall_tabNumbers_le hpos hle).2 (Nat.le_trans hwidth h)
  · have hresult := result_tabOverflows hle hsel
    rwa [Nat.max_eq_left hpos] at hresult

/-- A tab that is as wide as can be behind two characters that are no tabs. -/
theorem tabNumbers_le_iff_two :
    let o : Options := { tabstop := maxIndex }
    o.Reachable ∧ (∀ n ∈ tabNumbers maxIndex "៘a".toList, n ≤ maxIndex) ∧
      ¬ ∀ t : Text, t.length = 2 → ∀ n ∈ tabNumbers maxIndex t, n ≤ maxIndex := by
  intro o
  have H : o.Reachable := Options.reachable_iff_valid.2 fun x => by cases x <;> decide
  obtain ⟨hline, hlength, -⟩ := tabNumbers_le_iff H
  exact ⟨H, (hline "៘a".toList 2).2 (by decide), mt (hlength 2).1 (by decide)⟩

/-- Two tab characters, with tab stops every 2 ^ 63 columns. -/
theorem not_tabNumbers_le : ¬ ∀ o : Options, o.Reachable → ∀ (line : Text) (col : Nat),
    ∀ n ∈ tabNumbers o.tabstop (line.take col), n ≤ maxIndex := by
  intro h
  have htab : ((Options.setLine "ts=9223372036854775808".toList).outcome {}).2.tabstop = 2 ^ 63 := by
    decide +kernel
  have hmem : 2 ^ 64 ∈ tabNumbers (2 ^ 63) ("		".toList.take 2) := by decide
  have hle := h _ (.setLine .default _) "		".toList 2 (2 ^ 64) (htab ▸ hmem)
  exact absurd hle (by decide)

end Edit
end LogicEditor
