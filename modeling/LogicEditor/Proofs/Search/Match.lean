import LogicEditor.Proofs.Buffer.Outcome
import LogicEditor.Proofs.Search.Engine

/-!
# Matches

Where the matches of a pattern stand, whatever engine searches for it. The matches of a line have
characters, lie in the line, and stand one after the other (`Matcher.ascend_lineMatches`). The matches
of a buffer are those of its lines, in the order of the lines (`Buffer.findAll_eq`,
`Buffer.inOrder_matchesIn`).
-/

namespace LogicEditor

variable {R : Type} [Engine R] {t : Text} {line : Nat}

/-! ## Matches of a line -/

namespace Matcher

variable {m : Matcher R} {x y : Match} {pattern : Text} {flags : SearchFlags}

theorem exists_make (h : (make pattern flags : Except EditError (Matcher R)).toBool = true) :
    ∃ m : Matcher R, make pattern flags = .ok m := by
  cases hm : (make pattern flags : Except EditError (Matcher R)) with
  | error e =>
    rw [hm] at h
    cases h
  | ok m => exact ⟨m, rfl⟩

theorem length_matchesOn (m : Matcher R) (line : Nat) (t : Text) :
    (m.matchesOn line t).length = (m.lineMatches t).length := List.length_map _

variable [LawfulEngine R]

/-- The matches of a line have characters, lie in the line, and stand one after the other. -/
theorem ascend_lineMatches (m : Matcher R) (t : Text) : Span.Ascend 0 t.length (m.lineMatches t) :=
  (LawfulEngine.ordered m.program t).ascend.sublist List.filter_sublist

/-- The same bound, for a text that is looked at from column 0 on. -/
theorem ascend_lineMatches_zero (m : Matcher R) (t : Text) :
    Span.Ascend 0 (0 + t.length) (m.lineMatches t) := by
  rw [Nat.zero_add]
  exact m.ascend_lineMatches t

theorem mem_matchesOn (h : x ∈ m.matchesOn line t) :
    x.start.line = line ∧ 0 < x.length ∧ x.start.col + x.length ≤ t.length := by
  obtain ⟨s, hs, rfl⟩ := List.mem_map.1 h
  obtain ⟨-, hpos, hle⟩ := (m.ascend_lineMatches t).bounds s hs
  have hstop : s.start + (s.stop - s.start) = s.stop := Nat.add_sub_cancel' (Nat.le_of_lt hpos)
  exact ⟨rfl, Nat.sub_pos_of_lt hpos, Nat.le_trans (Nat.le_of_eq hstop) hle⟩

theorem pairwise_matchesOn (m : Matcher R) (line : Nat) (t : Text) : (m.matchesOn line t).Pairwise
    fun x y => x.start < y.start ∧ x.range.stop ≤ y.range.start := by
  have H := m.ascend_lineMatches t
  refine List.pairwise_map.2 (H.apart.imp_of_mem fun {s s'} hs _ h => ?_)
  have := H.bounds s hs
  refine ⟨.inr ⟨rfl, ?_⟩, .inr ⟨rfl, ?_⟩⟩
  · show s.start < s'.start
    omega
  · show s.start + (s.stop - s.start) ≤ s'.start
    omega

end Matcher

/-! ## Matches of a buffer -/

namespace Buffer

variable {b : Buffer} {m : Matcher R} {x : Match} {pattern : Text} {flags : SearchFlags}

/-- Matches of a buffer as they follow one another in it. -/
structure InOrder (b : Buffer) (xs : List Match) : Prop where
  ascending : xs.Pairwise fun x y => x.start < y.start
  apart : xs.Pairwise fun x y => x.range.stop ≤ y.range.start
  inside : ∀ x ∈ xs, 0 < x.length ∧ b.positionError? x.range.start = none ∧
    b.positionError? x.range.stop = none

/-- The matches in some lines of a buffer. -/
def matchesIn (b : Buffer) (m : Matcher R) (lines : List Nat) : List Match :=
  lines.flatMap fun line => m.matchesOn line (b.lineText line)

theorem findAll_eq (hp : pattern ≠ []) (hm : Matcher.make pattern flags = .ok m) :
    b.findAll pattern 0 b.lineCount flags R = .ok (b.matchesIn m (List.range b.lineCount)) := by
  rw [findAll, if_neg (by simpa using hp), hm, Nat.min_self, Nat.sub_zero, ← List.range_eq_range']
  rfl

variable [LawfulEngine R]

theorem mem_matchesIn {lines : List Nat} (h : x ∈ b.matchesIn m lines) : x.start.line ∈ lines ∧
    0 < x.length ∧ x.start.col + x.length ≤ (b.lineText x.start.line).length := by
  obtain ⟨line, hline, hx⟩ := List.mem_flatMap.1 h
  obtain ⟨rfl, hx⟩ := Matcher.mem_matchesOn hx
  exact ⟨hline, hx⟩

theorem inOrder_matchesIn (b : Buffer) (m : Matcher R) :
    b.InOrder (b.matchesIn m (List.range b.lineCount)) := by
  have hordered : (b.matchesIn m (List.range b.lineCount)).Pairwise
      fun x y => x.start < y.start ∧ x.range.stop ≤ y.range.start := by
    refine List.pairwise_flatMap.2 ⟨fun line _ => m.pairwise_matchesOn line _, ?_⟩
    refine List.pairwise_lt_range.imp fun {i j} hij x hx y hy => ?_
    obtain ⟨rfl, -⟩ := Matcher.mem_matchesOn hx
    obtain ⟨rfl, -⟩ := Matcher.mem_matchesOn hy
    exact ⟨.inl hij, .inl hij⟩
  refine ⟨hordered.imp And.left, hordered.imp And.right, fun x hx => ?_⟩
  obtain ⟨hline, hpos, hle⟩ := mem_matchesIn hx
  rw [List.mem_range] at hline
  exact ⟨hpos, positionError?_eq_none_iff.2 ⟨hline, Nat.le_of_add_right_le hle⟩,
    positionError?_eq_none_iff.2 ⟨hline, hle⟩⟩

end Buffer
end LogicEditor
