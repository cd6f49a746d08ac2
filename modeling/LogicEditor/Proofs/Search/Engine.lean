import LogicEditor.Search

/-!
# Engines

What is asked of an engine that searches texts (`LawfulEngine`): its matches lie in the text and stand
one after the other, and if a text is taken literally, they are the occurrences that a search from the
left comes to. Some of the matches may be empty; those that are left without these have characters
(`Span.Ordered.ascend`).
-/

namespace LogicEditor

variable {lo hi : Nat} {s : Span} {ss : List Span} {n : Nat}

/-! ## Spans in order -/

/-- Spans between two columns that have characters and stand one after the other. -/
structure Span.Ascend (lo hi : Nat) (ss : List Span) : Prop where
  bounds : ∀ s ∈ ss, lo ≤ s.start ∧ s.start < s.stop ∧ s.stop ≤ hi
  apart : ss.Pairwise fun s s' => s.stop ≤ s'.start

namespace Span.Ascend

theorem nil : Ascend lo hi [] := ⟨fun _ hs => absurd hs List.not_mem_nil, .nil⟩

theorem cons (h1 : lo ≤ s.start) (h2 : s.start < s.stop) (h3 : s.stop ≤ hi)
    (H : Ascend s.stop hi ss) : Ascend lo hi (s :: ss) := by
  refine ⟨fun s' hs' => ?_, .cons (fun s' hs' => (H.bounds s' hs').1) H.apart⟩
  rcases List.mem_cons.1 hs' with rfl | hs'
  · exact ⟨h1, h2, h3⟩
  · have := H.bounds s' hs'
    omega

theorem of_cons (H : Ascend lo hi (s :: ss)) :
    (lo ≤ s.start ∧ s.start < s.stop ∧ s.stop ≤ hi) ∧ Ascend s.stop hi ss := by
  refine ⟨H.bounds s List.mem_cons_self, fun s' hs' => ?_, H.apart.of_cons⟩
  have := H.bounds s' (List.mem_cons_of_mem _ hs')
  exact ⟨List.rel_of_pairwise_cons H.apart hs', this.2⟩

theorem mono (H : Ascend lo hi ss) (h : n ≤ lo) : Ascend n hi ss :=
  ⟨fun s hs => ⟨Nat.le_trans h (H.bounds s hs).1, (H.bounds s hs).2⟩, H.apart⟩

theorem sublist {ss' : List Span} (H : Ascend lo hi ss) (h : ss'.Sublist ss) : Ascend lo hi ss' :=
  ⟨fun s hs => H.bounds s (h.subset hs), H.apart.sublist h⟩

/-- The spans that are left, in the text that is left behind the first. -/
theorem behind {t : Text} {col : Nat} (H : Ascend col (col + t.length) (s :: ss)) :
    Ascend s.stop (s.stop + (t.drop (s.stop - col)).length) ss := by
  obtain ⟨⟨hstart, hpos, hstop⟩, H⟩ := H.of_cons
  have hend : col + t.length = s.stop + (t.drop (s.stop - col)).length := by
    rw [List.length_drop]
    omega
  exact hend ▸ H

end Span.Ascend

/-- Spans between two columns that stand one after the other. Some may be empty. -/
structure Span.Ordered (lo hi : Nat) (ss : List Span) : Prop where
  bounds : ∀ s ∈ ss, lo ≤ s.start ∧ s.start ≤ s.stop ∧ s.stop ≤ hi
  apart : ss.Pairwise fun s s' => s.stop ≤ s'.start

theorem Span.isEmpty_eq_false_iff : s.isEmpty = false ↔ s.start ≠ s.stop := by
  rw [isEmpty, beq_eq_false_iff_ne]

theorem Span.Ordered.ascend (H : Ordered lo hi ss) : Ascend lo hi (ss.filter fun s => !s.isEmpty) := by
  refine ⟨fun s hs => ?_, H.apart.sublist List.filter_sublist⟩
  obtain ⟨hs, hne⟩ := List.mem_filter.1 hs
  rw [Bool.not_eq_true', isEmpty_eq_false_iff] at hne
  obtain ⟨hlo, hle, hhi⟩ := H.bounds s hs
  exact ⟨hlo, Nat.lt_of_le_of_ne hle hne, hhi⟩

theorem Span.Ascend.ordered (H : Ascend lo hi ss) : Ordered lo hi ss :=
  ⟨fun s hs => ⟨(H.bounds s hs).1, Nat.le_of_lt (H.bounds s hs).2.1, (H.bounds s hs).2.2⟩, H.apart⟩

/-! ## Occurrences -/

/-- The text `w` occurs in `t` from column `i` on. -/
def Text.Occurs (w t : Text) (i : Nat) : Prop := w <+: t.drop i

instance (w t : Text) (i : Nat) : Decidable (w.Occurs t i) :=
  inferInstanceAs (Decidable (w <+: t.drop i))

/-- The occurrences of a text that a search from the left comes to, if it goes on behind each of
them. -/
structure Text.Leftmost (w t : Text) (ss : List Span) : Prop where
  ascend : Span.Ascend 0 t.length ss
  occurs : ∀ s ∈ ss, s.stop = s.start + w.length ∧ w.Occurs t s.start
  covers : ∀ i, w.Occurs t i → ∃ s ∈ ss, s.start ≤ i ∧ i < s.stop

/-! ## Laws -/

class LawfulEngine (R : Type) [Engine R] : Prop where
  ordered (r : R) (t : Text) : Span.Ordered 0 t.length (Engine.spans r t)
  /-- A text that is searched for as it is. -/
  leftmost {w : Text} {r : R} (hw : w ≠ []) (h : Engine.literal? false w = .ok r) (t : Text) :
    w.Leftmost t (Engine.spans r t)

end LogicEditor
