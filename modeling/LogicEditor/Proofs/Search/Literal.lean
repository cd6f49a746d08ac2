import LogicEditor.Proofs.Search.Engine

/-!
# Programs as an engine

A run of a program takes no more characters than there are (`Pattern.Program.matchLength?_le`), and
the search for the next match goes on where the last one ended; so the matches of a text stand one
after the other (`Pattern.Program.ascend_spans`). A pattern that is taken literally becomes a program
that waits for its characters one after the other (`Pattern.program_ofText`). It matches where the
text goes on with the pattern (`Pattern.Program.matchLength?_literal`), so every occurrence of the
pattern starts within a match (`Pattern.Program.leftmost_spans`).
-/

namespace LogicEditor

variable {w t line : Text} {i k n col : Nat} {c : Char} {c? : Option Char}

/-! ## Matches of a program -/

namespace Pattern.Program

variable {p : Program} {waiting : List Nat} {best? : Option Nat} {c? : Option Char}

/-- A run takes no more characters than there are. -/
theorem run_le (hbest : ∀ n ∈ best?, n ≤ col) (h : p.run waiting col best? t = some n) :
    n ≤ col + t.length := by
  induction t generalizing waiting col best? with
  | nil => exact hbest n h
  | cons c t ih =>
    have hnext (accepted : Bool) :
        ∀ k ∈ (if accepted = true then some (col + 1) else best?), k ≤ col + 1 := by
      intro k hk
      cases accepted with
      | true => exact Nat.le_of_eq (Option.some.inj hk).symm
      | false => exact Nat.le_succ_of_le (hbest k hk)
    rw [run] at h
    split at h
    · exact Nat.le_trans (hbest n h) (Nat.le_add_right _ _)
    · have := ih (hnext _) h
      rw [List.length_cons]
      omega

theorem matchLength?_le (h : p.matchLength? c? t = some n) : n ≤ t.length := by
  have hbest (accepted : Bool) : ∀ k ∈ (if accepted = true then some 0 else none), k ≤ 0 := by
    intro k hk
    cases accepted with
    | true => exact Nat.le_of_eq (Option.some.inj hk).symm
    | false => cases hk
  have := run_le (hbest _) h
  rwa [Nat.zero_add] at this

theorem ascend_spansFrom (p : Program) (c? : Option Char) (col : Nat) (t : Text) :
    Span.Ascend col (col + t.length) (p.spansFrom c? col t) := by
  fun_induction spansFrom p c? col t with
  | case1 => exact .nil
  | case2 c? col c t n hn _ ih =>
    have hle : n + 1 ≤ (c :: t).length := matchLength?_le hn
    have hend : col + (n + 1) + (t.drop n).length = col + (c :: t).length := by
      rw [List.length_cons] at hle ⊢
      rw [List.length_drop]
      omega
    rw [hend] at ih
    exact .cons (Nat.le_refl _) (Nat.lt_add_of_pos_right (Nat.succ_pos n))
      (Nat.add_le_add_left hle col) ih
  | case3 c? col c t _ ih =>
    rw [List.length_cons, Nat.add_comm t.length, ← Nat.add_assoc]
    exact ih.mono (Nat.le_succ col)

theorem ascend_spans (p : Program) (t : Text) : Span.Ascend 0 t.length (p.spans t) := by
  have := ascend_spansFrom p none 0 t
  rwa [Nat.zero_add] at this

end Pattern.Program

/-! ## The program of a text -/

namespace Pattern

open Text

theorem Expr.ofSet_single (c : Char) : Expr.ofSet (.single c) = .text [c] := by
  rw [ofSet, CharSet.single, CharSet.range]
  simp

theorem Expr.ofText_cons (c : Char) (w : Text) : Expr.ofText {} (c :: w) = .text (c :: w) := by
  induction w generalizing c with
  | nil =>
    show sequence [ofSet (.single c)] = _
    rw [ofSet_single]
    rfl
  | cons d w ih =>
    show (ofSet (.single c)).andThen (ofText {} (d :: w)) = _
    rw [ih d, ofSet_single]
    rfl

/-- The program waits for the characters of the text, one after the other. -/
theorem program_ofText (h : w ≠ []) : (Expr.ofText {} w).program =
    (w.map (fun c => Instr.chars (.single c)) ++ [Instr.accept]).toArray := by
  obtain ⟨c, w, rfl⟩ := List.exists_cons_of_ne_nil h
  rw [Expr.ofText_cons]
  rfl

theorem contains_single {d : Char} : (CharSet.single c).contains d = decide (d = c) := by
  have hgo : (CharSet.single c).contains d =
      if d.toNat < c.toNat then false else decide (d.toNat ≤ c.toNat) || false := rfl
  have hcode : d = c ↔ d.toNat = c.toNat := Char.toNat_inj.symm
  rw [hgo, Bool.or_false]
  split
  · rename_i hlt
    exact (decide_eq_false fun h => Nat.ne_of_lt hlt (hcode.1 h)).symm
  · rename_i hge
    rw [decide_eq_decide, hcode]
    omega

namespace Program

variable {p : Program} {s : CharSet}

/-! ## Runs of the program -/

/-- An instruction that is followed for the first time. -/
theorem seen_of_getElem? {instr : Instr} (h : p[i]? = some instr) :
    (Array.replicate p.size false).getD i true = false := by
  have hi : i < p.size := (Array.getElem?_eq_some_iff.1 h).1
  simp [hi]

theorem advance_chars (h : p[i]? = some (.chars s)) (place : Place) :
    p.advance place [i] = ([i], false) := by
  rw [advance, follow, seen_of_getElem? h, if_neg Bool.false_ne_true]
  simp only [h]
  rw [List.length_singleton, Nat.add_comm 1, follow]
  rfl

theorem advance_accept (h : p[i]? = some .accept) (place : Place) :
    p.advance place [i] = ([], true) := by
  rw [advance, follow, seen_of_getElem? h, if_neg Bool.false_ne_true]
  simp only [h]
  rfl

theorem run_nil (p : Program) (n : Nat) (best? : Option Nat) (t : Text) :
    p.run [] n best? t = best? := by
  cases t with
  | nil => rfl
  | cons c t => rfl

section
variable (hp : p = (w.map (fun c => Instr.chars (.single c)) ++ [Instr.accept]).toArray)
include hp

theorem getElem?_chars (h : w[i]? = some c) : p[i]? = some (.chars (.single c)) := by
  have hi : i < w.length := (List.getElem?_eq_some_iff.1 h).1
  rw [hp, List.getElem?_toArray, List.getElem?_append_left (by rwa [List.length_map]),
    List.getElem?_map, h, Option.map_some]

theorem getElem?_accept : p[w.length]? = some .accept := by
  rw [hp, List.getElem?_toArray, List.getElem?_append_right (Nat.le_of_eq (List.length_map _)),
    List.length_map, Nat.sub_self]
  rfl

theorem takes_eq {d : Char} (h : w[i]? = some c) : p.takes d i = decide (d = c) := by
  rw [takes, getElem?_chars hp h]
  exact contains_single

/-- Waiting for the character in column `i`, the program accepts what goes on with the pattern from
there. -/
theorem run_literal (h : i < w.length) : p.run [i] i none t =
    if w.drop i <+: t then some w.length else none := by
  induction t generalizing i with
  | nil =>
    rw [run, if_neg]
    intro hpre
    have := List.drop_eq_nil_iff.1 (List.prefix_nil.1 hpre)
    omega
  | cons d t ih =>
    have hc : w[i]? = some w[i] := List.getElem?_eq_getElem h
    rw [run, List.drop_eq_getElem_cons h, List.filter_cons, List.filter_nil, takes_eq hp hc]
    by_cases hd : d = w[i]
    · simp only [hd, decide_true, if_true, List.map_singleton, List.cons_prefix_cons, true_and]
      by_cases hlast : i + 1 = w.length
      · rw [hlast, advance_accept (getElem?_accept hp), List.drop_length, if_pos List.nil_prefix]
        exact run_nil ..
      · have hi : i + 1 < w.length := by omega
        rw [advance_chars (getElem?_chars hp (List.getElem?_eq_getElem hi))]
        exact ih hi
    · have hne : ¬(w[i] :: w.drop (i + 1) <+: d :: t) := fun h =>
        hd (List.cons_prefix_cons.1 h).1.symm
      rw [if_neg hne, decide_eq_false hd]
      rfl

/-- The pattern matches where the text goes on with it. -/
theorem matchLength?_literal (hw : w ≠ []) (c? : Option Char) (t : Text) :
    p.matchLength? c? t = if w <+: t then some w.length else none := by
  have hpos : 0 < w.length := List.length_pos_iff.2 hw
  have hc : w[0]? = some w[0] := List.getElem?_eq_getElem hpos
  rw [matchLength?, advance_chars (getElem?_chars hp hc)]
  exact run_literal hp hpos

/-! ## Matches of the program -/

variable (hw : w ≠ [])
include hw

theorem mem_spansFrom {s : Span} (h : s ∈ p.spansFrom c? col t) :
    s.stop = s.start + w.length ∧ ∃ k, s.start = col + k ∧ w.Occurs t k := by
  fun_induction spansFrom p c? col t with
  | case1 => cases h
  | case2 c? col c t n hn _ ih =>
    rw [matchLength?_literal hp hw] at hn
    split at hn
    · rename_i hpre
      have hlen : w.length = n + 1 := Option.some.inj hn
      rcases List.mem_cons.1 h with rfl | h
      · exact ⟨by rw [hlen], 0, rfl, hpre⟩
      · obtain ⟨hstop, k, hk, hocc⟩ := ih h
        refine ⟨hstop, n + 1 + k, by rw [hk, Nat.add_assoc col], ?_⟩
        rw [Text.Occurs, List.drop_drop] at hocc
        rwa [Text.Occurs, Nat.add_right_comm, List.drop_succ_cons]
    · cases hn
  | case3 c? col c t _ ih =>
    obtain ⟨hstop, k, hk, hocc⟩ := ih h
    exact ⟨hstop, k + 1, by rw [hk]; omega, hocc⟩

/-- Every occurrence starts within a match. -/
theorem exists_mem_spansFrom (h : w.Occurs t k) :
    ∃ s ∈ p.spansFrom c? col t, s.start ≤ col + k ∧ col + k < s.stop := by
  fun_induction spansFrom p c? col t generalizing k with
  | case1 =>
    rw [Text.Occurs, List.drop_nil] at h
    exact absurd (List.prefix_nil.1 h) hw
  | case2 c? col c t n hn _ ih =>
    by_cases hk : k < n + 1
    · exact ⟨_, List.mem_cons_self, Nat.le_add_right col k, Nat.add_lt_add_left hk col⟩
    · -- behind the match the search goes on as if the text started there
      obtain ⟨j, rfl⟩ := Nat.exists_eq_add_of_le (Nat.not_lt.1 hk)
      rw [Text.Occurs, Nat.add_right_comm, List.drop_succ_cons, ← List.drop_drop] at h
      obtain ⟨s, hs, hstart, hstop⟩ := ih h
      exact ⟨s, List.mem_cons_of_mem _ hs, by omega, by omega⟩
  | case3 c? col c t hn ih =>
    cases k with
    | zero =>
      have hpre : w <+: c :: t := h
      obtain ⟨n, hlen⟩ := Nat.exists_eq_add_one_of_ne_zero (mt List.length_eq_zero_iff.1 hw)
      refine absurd ?_ (hn n)
      rw [matchLength?_literal hp hw, if_pos hpre, hlen]
    | succ k =>
      obtain ⟨s, hs, hstart, hstop⟩ := ih h
      exact ⟨s, hs, by omega, by omega⟩

theorem leftmost_spans (t : Text) : w.Leftmost t (p.spans t) := by
  refine ⟨p.ascend_spans t, ?_, ?_⟩
  · intro s hs
    obtain ⟨hstop, k, hk, hocc⟩ := mem_spansFrom hp hw hs
    rw [Nat.zero_add] at hk
    exact ⟨hstop, hk ▸ hocc⟩
  · intro i hi
    obtain ⟨s, hs, hstart, hstop⟩ := exists_mem_spansFrom hp hw hi
    rw [Nat.zero_add] at hstart hstop
    exact ⟨s, hs, hstart, hstop⟩

end

end Program
end Pattern

/-! ## Laws -/

namespace Pattern

theorem eq_of_literal {p : Program} (h : literal? false w = .ok p) :
    p = (Expr.ofText {} w).program := by
  rw [literal?, Expr.compile?] at h
  split at h
  · cases h
  · cases h
    rfl

instance : LawfulEngine Program where
  ordered p t := (p.ascend_spans t).ordered
  leftmost hw h := eq_of_literal h ▸ Program.leftmost_spans (program_ofText hw) hw

end Pattern
end LogicEditor
