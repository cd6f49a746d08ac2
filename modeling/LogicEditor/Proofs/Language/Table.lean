import Mathlib.Data.List.Nodup
import Mathlib.Data.String.Basic
import LogicEditor.Language.Table

/-!
# Tables hold what is declared

Declarations make a table iff they are complete (`Declarations.Complete`): names are distinct, a
variadic instruction has an argument to repeat, a constant argument has a choice. The table then holds
the declared instructions and built-in variables, sorted, and no others (`InstructionTable.Holds`).
-/

namespace LogicEditor

variable {i j : Instruction} {is : List Instruction} {d : Declarations} {t : InstructionTable}
  {name : String} {slot : Nat}

/-! ## Sorted lists without repetitions -/

theorem pairwise_mergeSort_le {α β : Type} [LinearOrder β] (f : α → β) (xs : List α) :
    (xs.mergeSort fun x y => f x ≤ f y).Pairwise (f · ≤ f ·) := by
  refine (List.pairwise_mergeSort (fun x y z => ?_) (fun x y => ?_) xs).imp of_decide_eq_true
  · simpa using le_trans
  · simpa using le_total (f x) (f y)

section
variable {α : Type} [BEq α] {a b x : α} {xs : List α}

private theorem eraseReps_loop (a : α) (xs acc : List α) :
    List.eraseRepsBy.loop (· == ·) a xs acc = acc.reverse ++ (a :: xs).eraseReps := by
  have hloop (a : α) (xs acc : List α) : List.eraseRepsBy.loop (· == ·) a xs acc =
      acc.reverse ++ List.eraseRepsBy.loop (· == ·) a xs [] := by
    induction xs generalizing a acc with
    | nil => simp [List.eraseRepsBy.loop]
    | cons b xs ih =>
      cases h : a == b with
      | true => simp only [List.eraseRepsBy.loop, h, ih a acc]
      | false => simp [List.eraseRepsBy.loop, h, ih b (a :: acc), ih b [a]]
  exact hloop a xs acc

theorem eraseReps_cons_cons : (a :: b :: xs).eraseReps =
    if a == b then (a :: xs).eraseReps else a :: (b :: xs).eraseReps := by
  show List.eraseRepsBy.loop (· == ·) a (b :: xs) [] = _
  cases h : a == b with
  | true => simp only [List.eraseRepsBy.loop, h, if_true]; rfl
  | false =>
    rw [if_neg Bool.false_ne_true]
    simpa [List.eraseRepsBy.loop, h] using eraseReps_loop b xs [a]

theorem mem_eraseReps [LawfulBEq α] : x ∈ xs.eraseReps ↔ x ∈ xs := by
  induction xs with
  | nil => rfl
  | cons a xs ih =>
    cases xs with
    | nil => rfl
    | cons b xs =>
      rw [eraseReps_cons_cons]
      split
      · rename_i h
        obtain rfl := eq_of_beq h
        simp [ih]
      · rw [List.mem_cons, ih]
        exact List.mem_cons.symm

/-- In a sorted list, repeated elements stand side by side. -/
theorem pairwise_lt_eraseReps {α : Type} [LinearOrder α] [BEq α] [LawfulBEq α] {xs : List α}
    (h : xs.Pairwise (· ≤ ·)) : xs.eraseReps.Pairwise (· < ·) := by
  induction xs with
  | nil => exact .nil
  | cons a xs ih =>
    cases xs with
    | nil => exact List.pairwise_singleton _ a
    | cons b xs =>
      obtain ⟨ha, hs⟩ := List.pairwise_cons.1 h
      rw [eraseReps_cons_cons]
      split
      · rename_i hab
        obtain rfl := eq_of_beq hab
        exact ih hs
      · rename_i hab
        have hlt : a < b := lt_of_le_of_ne (ha b List.mem_cons_self) fun h => hab (beq_iff_eq.2 h)
        refine .cons (fun x hx => ?_) (ih hs)
        rcases List.mem_cons.1 (mem_eraseReps.1 hx) with rfl | hx
        · exact hlt
        · exact lt_of_lt_of_le hlt ((List.pairwise_cons.1 hs).1 x hx)

end

/-! ## Declarations -/

/-- What is declared makes a table. -/
structure Declarations.Complete (d : Declarations) : Prop where
  distinct : (d.instructions.map (·.name)).Nodup
  /-- A variadic instruction has an argument to repeat. -/
  repeats : ∀ i ∈ d.instructions, i.isVariadic = true → i.arguments ≠ []
  /-- A constant argument has a choice. -/
  fillable : ∀ i ∈ d.instructions, ∀ a ∈ i.arguments, a.kind = .constant → a.choices ≠ []

/-- What a table holds of declarations. -/
structure InstructionTable.Holds (t : InstructionTable) (d : Declarations) : Prop where
  opcodes_ascending : (t.opcodes.map (·.name)).Pairwise (· < ·)
  opcodes_perm : t.opcodes.Perm d.instructions
  lookup_eq_some : ∀ name i, t.lookup name = some i ↔ i ∈ d.instructions ∧ i.name = name
  builtins_ascending : t.builtins.Pairwise (· < ·)
  isBuiltin_iff : ∀ word, t.isBuiltin word = true ↔ word ∈ d.builtins
  constants_eq : t.constants = d.constants
  /-- A variadic instruction has an argument for every slot. -/
  argument_variadic : ∀ i ∈ t.opcodes, ∀ n, i.arity = .variadic n →
    ∀ slot, (i.argument? slot).isSome = true
  /-- Any other instruction has as many as it takes. -/
  argument_fixed : ∀ i ∈ t.opcodes, ∀ n, i.arity = .fixed n →
    ∀ slot, (i.argument? slot).isSome = true ↔ slot < n

namespace Instruction

theorem defect?_eq_none_iff : i.defect? = none ↔
    (i.isVariadic = true → i.arguments ≠ []) ∧
      ∀ a ∈ i.arguments, a.kind = .constant → a.choices ≠ [] := by
  have hfill : i.arguments.find? (·.isUnfillable) = none ↔
      ∀ a ∈ i.arguments, a.kind = .constant → a.choices ≠ [] := by
    simp [List.find?_eq_none, Argument.isUnfillable]
  rw [defect?]
  split
  · rename_i h
    rw [Bool.and_eq_true, List.isEmpty_iff] at h
    exact iff_of_false (by simp) fun hi => hi.1 h.1 h.2
  · rename_i h
    rw [Bool.and_eq_true, List.isEmpty_iff, not_and] at h
    rw [Option.map_eq_none_iff, hfill]
    exact (and_iff_right h).symm

theorem isSome_argument?_of_variadic (h : i.isVariadic = true) (ha : i.arguments ≠ []) (slot : Nat) :
    (i.argument? slot).isSome = true := by
  rw [argument?, if_pos h, List.getLast?_eq_some_getLast ha]
  cases i.arguments[slot]? <;> rfl

theorem isSome_argument?_of_fixed (h : i.isVariadic = false) :
    (i.argument? slot).isSome = true ↔ slot < i.arguments.length := by
  rw [argument?, if_neg (Bool.eq_false_iff.1 h)]
  simp

end Instruction

/-! ## Sorted names -/

namespace InstructionTable

/-- Sorted names are distinct iff no two neighbours share one. -/
theorem repeatedName?_eq_none_iff (hs : is.Pairwise (·.name ≤ ·.name)) :
    repeatedName? is = none ↔ (is.map (·.name)).Nodup := by
  induction is with
  | nil => simp [repeatedName?]
  | cons i is ih =>
    cases is with
    | nil => simp [repeatedName?]
    | cons j is =>
      obtain ⟨hi, hs⟩ := List.pairwise_cons.1 hs
      rw [repeatedName?]
      split
      · rename_i hij
        simp [hij]
      · rename_i hij
        rw [ih hs, List.map_cons (a := i), List.nodup_cons]
        refine (and_iff_right fun hmem => ?_).symm
        obtain ⟨k, hk, hki⟩ := List.mem_map.1 hmem
        have hlt : i.name < j.name := lt_of_le_of_ne (hi j List.mem_cons_self) hij
        refine absurd hki (ne_of_gt ?_)
        rcases List.mem_cons.1 hk with rfl | hk
        · exact hlt
        · exact lt_of_lt_of_le hlt ((List.pairwise_cons.1 hs).1 k hk)

/-- A table is made of complete declarations, by sorting them, and of no others. -/
theorem ofDeclarations_eq_ok_iff : ofDeclarations d = .ok t ↔ d.Complete ∧
    t = { opcodes := d.instructions.mergeSort fun i j => i.name ≤ j.name
          builtins := (d.builtins.mergeSort (· ≤ ·)).eraseReps
          constants := d.constants } := by
  have hdefect : d.instructions.findSome? (·.defect?) = none ↔
      (∀ i ∈ d.instructions, i.isVariadic = true → i.arguments ≠ []) ∧
        ∀ i ∈ d.instructions, ∀ a ∈ i.arguments, a.kind = .constant → a.choices ≠ [] := by
    rw [List.findSome?_eq_none_iff]
    simp only [Instruction.defect?_eq_none_iff, ← forall_and]
  have hrepeat := (repeatedName?_eq_none_iff (pairwise_mergeSort_le (·.name) d.instructions)).trans
    ((List.mergeSort_perm d.instructions _).map _).nodup_iff
  rw [ofDeclarations]
  split
  · rename_i e he
    refine iff_of_false (by simp) fun h => ?_
    rw [hdefect.2 ⟨h.1.repeats, h.1.fillable⟩] at he
    cases he
  · rename_i hnone
    obtain ⟨hvar, hfill⟩ := hdefect.1 hnone
    dsimp only
    split
    · rename_i name hname
      refine iff_of_false (by simp) fun h => ?_
      rw [hrepeat.2 h.1.distinct] at hname
      cases hname
    · rename_i hname
      rw [Except.ok.injEq, eq_comm]
      exact (and_iff_right ⟨hrepeat.1 hname, hvar, hfill⟩).symm

theorem mem_of_lookup (h : t.lookup name = some i) : i ∈ t.opcodes ∧ i.name = name :=
  ⟨List.mem_of_find?_eq_some h, by simpa using List.find?_some h⟩

theorem isSome_lookup (h : i ∈ t.opcodes) : (t.lookup i.name).isSome = true := by
  rw [lookup, List.find?_isSome]
  exact ⟨i, h, beq_self_eq_true _⟩

theorem lookup_eq_some_iff (h : (t.opcodes.map (·.name)).Nodup) :
    t.lookup name = some i ↔ i ∈ t.opcodes ∧ i.name = name := by
  refine ⟨mem_of_lookup, ?_⟩
  rintro ⟨hi, rfl⟩
  obtain ⟨j, hj⟩ := Option.isSome_iff_exists.1 (isSome_lookup hi)
  obtain ⟨hmem, hname⟩ := mem_of_lookup hj
  rw [hj, List.inj_on_of_nodup_map h hmem hi hname]

/-- The table of some declarations holds them. -/
theorem holds_of_ofDeclarations (h : ofDeclarations d = .ok t) : t.Holds d := by
  obtain ⟨hd, rfl⟩ := ofDeclarations_eq_ok_iff.1 h
  have hperm := List.mergeSort_perm d.instructions fun i j => i.name ≤ j.name
  have hnodup := (hperm.map (·.name)).nodup_iff.2 hd.distinct
  have hsorted : (d.builtins.mergeSort (· ≤ ·)).Pairwise (· ≤ ·) :=
    pairwise_mergeSort_le id d.builtins
  refine ⟨?_, hperm, fun name i => ?_, pairwise_lt_eraseReps hsorted, fun word => ?_, rfl, ?_, ?_⟩
  · have hle := pairwise_mergeSort_le (·.name) d.instructions
    exact (List.pairwise_map.2 hle).imp₂ (fun _ _ => lt_of_le_of_ne) hnodup
  · rw [lookup_eq_some_iff hnodup, List.mem_mergeSort]
  · rw [isBuiltin, List.contains_iff_mem, mem_eraseReps, List.mem_mergeSort]
  · intro i hi n hn slot
    rw [Instruction.arity] at hn
    split at hn
    · exact i.isSome_argument?_of_variadic ‹_› (hd.repeats i (List.mem_mergeSort.1 hi) ‹_›) slot
    · cases hn
  · intro i hi n hn slot
    rw [Instruction.arity] at hn
    split at hn
    · cases hn
    · cases hn
      exact Instruction.isSome_argument?_of_fixed (Bool.eq_false_iff.2 ‹_›)

end InstructionTable
end LogicEditor
