import LogicEditor.Proofs.Text.LineBreak

/-!
# Texts put together

The lines of a text that follows another text: the last line of the one goes on with the first line
of the other (`Text.lines_append`). Only where a carriage return and a line feed meet is the break at
the seam counted once and not twice (`Text.length_lines_append`).
-/

namespace LogicEditor
namespace Text

/-- Two lists of lines as one, in which the last line of the first goes on with the first line of the
second. -/
def weld : List Text → List Text → List Text
  | [], ms => ms
  | [l], [] => [l]
  | [l], m :: ms => (l ++ m) :: ms
  | l :: ls, ms => l :: weld ls ms

/-- Where `v` follows `u`, a carriage return and a line feed become one break. -/
def Meet (u v : Text) : Prop := u.getLast? = some '\r' ∧ v.head? = some '\n'

section
variable {u v front back l m : Text} {ls ms : List Text}

theorem weld_cons (h : ls ≠ []) : weld (l :: ls) ms = l :: weld ls ms := by
  obtain ⟨k, ls, rfl⟩ := List.exists_cons_of_ne_nil h
  rfl

theorem weld_singleton (l : Text) : weld [l] (m :: ms) = (l ++ m) :: ms := rfl

theorem weld_weld_singleton (h : ms ≠ []) :
    weld [front] (weld [back] ms) = weld [front ++ back] ms := by
  obtain ⟨m, ms, rfl⟩ := List.exists_cons_of_ne_nil h
  rw [weld_singleton, weld_singleton, weld_singleton, List.append_assoc]

theorem length_weld (hl : ls ≠ []) (hm : ms ≠ []) :
    (weld ls ms).length + 1 = ls.length + ms.length := by
  induction ls with
  | nil => exact absurd rfl hl
  | cons l ls ih =>
    by_cases h : ls = []
    · obtain ⟨m, ms, rfl⟩ := List.exists_cons_of_ne_nil hm
      subst h
      exact Nat.add_comm _ 1
    · rw [weld_cons h, List.length_cons, ih h, List.length_cons]
      omega

theorem weld_ne_nil (hm : ms ≠ []) : weld ls ms ≠ [] := by
  by_cases h : ls = []
  · rwa [h]
  · have := length_weld h hm
    have := List.length_pos_iff.2 h
    have := List.length_pos_iff.2 hm
    rw [← List.length_pos_iff]
    omega

theorem consLine_weld {c : Char} (hl : ls ≠ []) :
    weld (consLine c ls) ms = consLine c (weld ls ms) := by
  obtain ⟨l, ls, rfl⟩ := List.exists_cons_of_ne_nil hl
  cases ls with
  | nil => cases ms <;> rfl
  | cons k ls => rfl

theorem weld_cons_right (h : ls ≠ []) :
    weld ls (m :: ms) = ls.dropLast ++ [ls.getLastD [] ++ m] ++ ms := by
  induction ls with
  | nil => exact absurd rfl h
  | cons l ls ih =>
    cases ls with
    | nil => rfl
    | cons k ls =>
      rw [weld_cons (List.cons_ne_nil k ls), ih (List.cons_ne_nil k ls)]
      rfl

/-- Lines put in the middle of a line, with further lines behind it. -/
theorem flank_append (h : ls ≠ []) : flank front ls m ++ ms = weld [front] (weld ls (m :: ms)) := by
  match ls with
  | [l] => rw [weld_singleton, weld_singleton, flank, List.append_assoc, List.singleton_append]
  | l :: k :: ls =>
    rw [flank_cons_cons, weld_cons (List.cons_ne_nil k ls), weld_singleton,
      weld_cons_right (List.cons_ne_nil k ls), List.cons_append]

theorem Meet.cons {c : Char} (h : Meet u v) : Meet (c :: u) v := by
  refine ⟨?_, h.2⟩
  rw [List.getLast?_cons, h.1]
  rfl

/-- The lines of two texts, if no break spans the seam. -/
theorem lines_append (h : ¬Meet u v) : lines (u ++ v) = weld (lines u) (lines v) := by
  fun_induction lines u with
  | case1 =>
    obtain ⟨l, ls, hls⟩ := List.exists_cons_of_ne_nil (lines_ne_nil v)
    rw [List.nil_append, hls]
    rfl
  | case2 t ih =>
    rw [List.cons_append, List.cons_append, lines, ih fun h' => h h'.cons.cons,
      weld_cons (lines_ne_nil t)]
  | case3 c t hpair hc ih =>
    -- a carriage return at the end of `u` is a break by itself
    have hseam : ∀ w, c = '\r' → t ++ v = '\n' :: w → False := by
      rintro w rfl hw
      cases t with
      | nil => exact h ⟨rfl, by rw [show v = '\n' :: w from hw]; rfl⟩
      | cons d t =>
        rw [List.cons_append, List.cons.injEq] at hw
        exact hpair t rfl (by rw [hw.1])
    rw [List.cons_append, lines, if_pos hc, ih fun h' => h h'.cons, weld_cons (lines_ne_nil t)]
    exact hseam
  | case4 c t _ hc ih =>
    rw [List.cons_append, lines_cons_of_not_break (Bool.eq_false_iff.2 hc),
      ih fun h' => h h'.cons, consLine_weld (lines_ne_nil t)]

/-- A break that spans the seam is counted once. -/
theorem length_lines_append (h : Meet u v) :
    (lines (u ++ v)).length + 2 = (lines u).length + (lines v).length := by
  obtain ⟨hr, hn⟩ := h
  obtain ⟨u, rfl⟩ := List.getLast?_eq_some_iff.1 hr
  obtain ⟨v, rfl⟩ := List.head?_eq_some_iff.1 hn
  have hu : lines (u ++ ['\r']) = weld (lines u) [[], []] := lines_append fun h => nomatch h.2
  have huv : lines (u ++ '\r' :: '\n' :: v) = weld (lines u) ([] :: lines v) :=
    lines_append fun h => nomatch h.2
  have hlen := length_weld (lines_ne_nil u) (List.cons_ne_nil ([] : Text) [[]])
  have hlen' := length_weld (lines_ne_nil u) (List.cons_ne_nil ([] : Text) (lines v))
  rw [List.append_assoc, List.singleton_append, huv, hu]
  simp only [List.length_cons, List.length_nil] at hlen hlen'
  rw [show lines ('\n' :: v) = [] :: lines v by simp [lines, isBreakChar], List.length_cons]
  omega

end
end Text
end LogicEditor
