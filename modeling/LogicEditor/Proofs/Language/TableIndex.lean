import Std.Data.HashMap.Lemmas
import LogicEditor.Language.Description
import LogicEditor.Proofs.Language.Table

/-!
# Tables with an index

A table that is asked often keeps an index of its opcodes, which leads from a name to a place in the
sorted list, and searches its built-in variables by halving (`IndexedTable`). The index is filled in
one pass, which is also how repeated names are found. Both give the answers of a table that searches
its lists from end to end, as the lists are sorted (`IndexedTable.map_table_ofDeclarations`,
`IndexedTable.lookup_eq`, `IndexedTable.isBuiltin_eq`).
-/

namespace LogicEditor

/-- A table with an index of the names of its opcodes. -/
structure IndexedTable where
  opcodes : List Instruction
  places : Std.HashMap String Nat
  builtins : List String
  constants : List String

namespace IndexedTable

/-- Puts the names of opcodes from place `place` on into an index; no name may be there already. -/
def indexFrom (place : Nat) (m : Std.HashMap String Nat) :
    List Instruction → Except TableError (Std.HashMap String Nat)
  | [] => .ok m
  | i :: is =>
    if m.contains i.name then .error (.duplicate i.name)
    else indexFrom (place + 1) (m.insert i.name place) is

/-- The table of some declarations, with its index. -/
def ofDeclarations (d : Declarations) : Except TableError IndexedTable :=
  match d.instructions.findSome? (·.defect?) with
  | some e => .error e
  | none =>
    let opcodes := d.instructions.mergeSort fun i j => i.name ≤ j.name
    (indexFrom 0 ∅ opcodes).map fun places =>
      { opcodes
        places
        builtins := (d.builtins.mergeSort (· ≤ ·)).eraseReps
        constants := d.constants }

/-- The opcode with this name. -/
def lookup (t : IndexedTable) (name : String) : Option Instruction :=
  t.places[name]?.bind (t.opcodes[·]?)

/-- The last of `size` places from `base` on at which no larger word than `word` stands, but `base` if
there is none. At each step half of the places are left out. -/
def seek (words : List String) (word : String) (base size : Nat) : Nat :=
  if size ≤ 1 then base
  else if words[base + size / 2]?.any (· ≤ word) then
    seek words word (base + size / 2) (size - size / 2)
  else seek words word base (size - size / 2)
termination_by size

/-- Whether the word is a built-in variable. -/
def isBuiltin (t : IndexedTable) (word : String) : Bool :=
  t.builtins[seek t.builtins word 0 t.builtins.length]? == some word

/-- The table without its index. -/
def table (t : IndexedTable) : InstructionTable :=
  { opcodes := t.opcodes, builtins := t.builtins, constants := t.constants }

variable {d : Declarations} {t : IndexedTable} {m : Std.HashMap String Nat}
  {done rest : List Instruction} {i p : Instruction} {word : String} {words : List String}

/-! ## The index -/

/-- The index leads from each name to the place of its opcode. -/
def Indexes (m : Std.HashMap String Nat) (is : List Instruction) : Prop :=
  ∀ (name : String) (k : Nat), m[name]? = some k ↔ (is.map (·.name))[k]? = some name

theorem Indexes.nodup (H : Indexes m done) : (done.map (·.name)).Nodup := by
  rw [List.nodup_iff_getElem?_ne_getElem?]
  intro j k hjk hk heq
  rw [List.length_map] at hk
  have hk' := List.getElem?_eq_getElem (l := done.map (·.name)) (by simpa using hk)
  have hsame := ((H _ j).2 (heq.trans hk')).symm.trans ((H _ k).2 hk')
  rw [Option.some.injEq] at hsame
  omega

theorem Indexes.contains_iff (H : Indexes m done) : m.contains word = true ↔
    word ∈ done.map (·.name) := by
  rw [Std.HashMap.contains_eq_isSome_getElem?, Option.isSome_iff_exists, List.mem_iff_getElem?]
  simp only [H word]

theorem Indexes.insert (H : Indexes m done) (h : m.contains i.name = false) :
    Indexes (m.insert i.name done.length) (done ++ [i]) := by
  intro name k
  have hnew : i.name ∉ done.map (·.name) := fun hmem =>
    Bool.eq_false_iff.1 h (H.contains_iff.2 hmem)
  rw [Std.HashMap.getElem?_insert, List.map_append, List.map_singleton]
  rcases Nat.lt_trichotomy k done.length with hlt | rfl | hlt
  · rw [List.getElem?_append_left (by simpa using hlt), ← H name k]
    split
    · rename_i hname
      obtain rfl := eq_of_beq hname
      refine iff_of_false (fun h => hlt.ne' (Option.some.inj h)) fun h => hnew ?_
      exact List.mem_of_getElem? ((H _ _).1 h)
    · rfl
  · have hnone : m[name]? ≠ some done.length := fun h => by simpa using (H name _).1 h
    rw [List.getElem?_append_right (by simp)]
    simp [hnone]
  · have hnone : m[name]? ≠ some k := fun h => by
      have := (List.getElem?_eq_some_iff.1 ((H name k).1 h)).1
      rw [List.length_map] at this
      omega
    rw [List.getElem?_eq_none (by simp; omega)]
    refine iff_of_false (fun h => ?_) (by simp)
    split at h
    · exact hlt.ne (Option.some.inj h)
    · exact hnone h

theorem indexes_empty : Indexes ∅ [] := by simp [Indexes]

theorem repeatedName?_append (h : ((done ++ [p]).map (·.name)).Nodup) (hi : p.name = i.name) :
    InstructionTable.repeatedName? (done ++ p :: i :: rest) = some i.name := by
  induction done with
  | nil => rw [List.nil_append, InstructionTable.repeatedName?, if_pos hi, hi]
  | cons q done ih =>
    rw [List.cons_append, List.map_cons, List.nodup_cons] at h
    obtain ⟨hq, hn⟩ := h
    obtain ⟨r, rs, hr⟩ : ∃ r rs, done ++ [p] = r :: rs := List.exists_cons_of_ne_nil (by simp)
    have hne : q.name ≠ r.name := fun heq => hq (by rw [hr, heq]; exact List.mem_cons_self)
    have hsplit : done ++ p :: i :: rest = r :: (rs ++ i :: rest) := by
      rw [← List.cons_append, ← hr, List.append_assoc, List.singleton_append]
    rw [List.cons_append, hsplit, InstructionTable.repeatedName?, if_neg hne, ← hsplit, ih hn]

/-- The pass that fills the index stops at the name that neighbours share, if there is one. -/
theorem indexFrom_eq (H : Indexes m done) (hs : (done ++ rest).Pairwise (·.name ≤ ·.name)) :
    (∃ name, InstructionTable.repeatedName? (done ++ rest) = some name ∧
      indexFrom done.length m rest = .error (.duplicate name)) ∨
    (InstructionTable.repeatedName? (done ++ rest) = none ∧
      ∃ places, indexFrom done.length m rest = .ok places ∧ Indexes places (done ++ rest)) := by
  induction rest generalizing done m with
  | nil =>
    rw [List.append_nil] at hs ⊢
    exact .inr ⟨(InstructionTable.repeatedName?_eq_none_iff hs).2 H.nodup, m, rfl, H⟩
  | cons i rest ih =>
    rw [indexFrom]
    cases hc : m.contains i.name with
    | true =>
      refine .inl ⟨i.name, ?_, rfl⟩
      obtain ⟨q, hq, hname⟩ := List.mem_map.1 (H.contains_iff.1 hc)
      obtain ⟨front, p, rfl⟩ := (List.eq_nil_or_concat' done).resolve_left (List.ne_nil_of_mem hq)
      have hsorted := List.pairwise_append.1 hs
      -- the last name so far lies between the one found in the index and the new one
      have hle : q.name ≤ p.name := by
        rcases List.mem_append.1 hq with hq | hq
        · exact (List.pairwise_append.1 hsorted.1).2.2 q hq p List.mem_cons_self
        · rw [List.mem_singleton.1 hq]
      have hge : p.name ≤ i.name := hsorted.2.2 p (by simp) i List.mem_cons_self
      rw [List.append_assoc, List.singleton_append]
      exact repeatedName?_append H.nodup (le_antisymm hge (hname ▸ hle))
    | false =>
      rw [if_neg Bool.false_ne_true]
      have hsplit : done ++ i :: rest = done ++ [i] ++ rest := by simp
      rw [hsplit] at hs ⊢
      have := ih (H.insert hc) hs
      rwa [List.length_append, List.length_singleton] at this

/-- The pass over sorted opcodes, from the first one on. -/
theorem indexFrom_zero (hs : rest.Pairwise (·.name ≤ ·.name)) :
    (∃ name, InstructionTable.repeatedName? rest = some name ∧
      indexFrom 0 ∅ rest = .error (.duplicate name)) ∨
    (InstructionTable.repeatedName? rest = none ∧
      ∃ places, indexFrom 0 ∅ rest = .ok places ∧ Indexes places rest) :=
  indexFrom_eq indexes_empty hs

/-- With or without an index, the same declarations make the same table or the same error. -/
theorem map_table_ofDeclarations (d : Declarations) :
    (ofDeclarations d).map table = InstructionTable.ofDeclarations d := by
  rw [ofDeclarations, InstructionTable.ofDeclarations]
  cases d.instructions.findSome? (·.defect?) with
  | some e => rfl
  | none =>
    rcases indexFrom_zero (pairwise_mergeSort_le (·.name) d.instructions)
      with ⟨name, hr, hm⟩ | ⟨hr, places, hm, -⟩ <;>
    · simp only [hr, hm]
      rfl

/-! ## Asking -/

theorem indexes_places (h : ofDeclarations d = .ok t) : Indexes t.places t.opcodes := by
  rw [ofDeclarations] at h
  split at h
  · cases h
  · rcases indexFrom_zero (pairwise_mergeSort_le (·.name) d.instructions)
      with ⟨name, -, hm⟩ | ⟨-, places, hm, H⟩ <;> simp only [hm] at h <;> cases h
    exact H

/-- The index leads to the opcode that a search of the list finds. -/
theorem lookup_eq (h : ofDeclarations d = .ok t) (name : String) :
    t.lookup name = t.table.lookup name := by
  have H := indexes_places h
  ext i
  rw [InstructionTable.lookup_eq_some_iff H.nodup, lookup, Option.bind_eq_some_iff]
  simp only [H name, List.getElem?_map, Option.map_eq_some_iff]
  constructor
  · rintro ⟨k, ⟨j, hj, hname⟩, hi⟩
    obtain rfl : j = i := Option.some.inj (hj.symm.trans hi)
    exact ⟨List.mem_of_getElem? hi, hname⟩
  · rintro ⟨hi, hname⟩
    obtain ⟨k, hk⟩ := List.mem_iff_getElem?.1 hi
    exact ⟨k, ⟨i, hk, hname⟩, hk⟩

theorem any_le_iff (hs : words.Pairwise (· < ·)) {k : Nat} (hk : words[k]? = some word) (mid : Nat) :
    words[mid]?.any (· ≤ word) = true ↔ mid ≤ k := by
  obtain ⟨hlen, rfl⟩ := List.getElem?_eq_some_iff.1 hk
  have hlt := List.pairwise_iff_getElem.1 hs
  constructor
  · intro hany
    obtain ⟨hsome, hle⟩ := (Option.any_eq_true_iff_get _ _).1 hany
    have hmid : mid < words.length := by simpa using hsome
    refine Nat.le_of_not_lt fun hkm => (hlt k mid hlen hmid hkm).not_ge ?_
    simpa using hle
  · intro hle
    have hmid : mid < words.length := Nat.lt_of_le_of_lt hle hlen
    rw [List.getElem?_eq_getElem hmid]
    rcases Nat.lt_or_eq_of_le hle with hmk | rfl
    · simpa using (hlt mid k hmid hlen hmk).le
    · simp

/-- A word that stands among the places searched is found where it stands. -/
theorem seek_eq (hs : words.Pairwise (· < ·)) {base size k : Nat} (hk : words[k]? = some word)
    (hle : base ≤ k) (hlt : k < base + size) : seek words word base size = k := by
  fun_induction seek words word base size with
  | case1 base size hsize => omega
  | case2 base size hsize hany ih => exact ih ((any_le_iff hs hk _).1 hany) (by omega)
  | case3 base size hsize hany ih =>
    have hmid : k < base + size / 2 := Nat.lt_of_not_le (hany ∘ (any_le_iff hs hk _).2)
    exact ih hle (by omega)

/-- Halving finds a built-in variable iff a search of the list does. -/
theorem isBuiltin_eq (h : ofDeclarations d = .ok t) (word : String) :
    t.isBuiltin word = t.table.isBuiltin word := by
  have hmade : InstructionTable.ofDeclarations d = .ok t.table := by
    rw [← map_table_ofDeclarations, h]
    rfl
  have hs : t.builtins.Pairwise (· < ·) :=
    (InstructionTable.holds_of_ofDeclarations hmade).builtins_ascending
  rw [Bool.eq_iff_iff, isBuiltin, beq_iff_eq, InstructionTable.isBuiltin, List.contains_iff_mem]
  refine ⟨List.mem_of_getElem?, fun hmem => ?_⟩
  obtain ⟨k, hk⟩ := List.mem_iff_getElem?.1 hmem
  have hlen : k < t.builtins.length := (List.getElem?_eq_some_iff.1 hk).1
  rw [seek_eq hs hk (Nat.zero_le k) (by omega)]
  exact hk

/-- The table that a syntax description declares, with its index. -/
def ofDescription (source : Text) : Except TableError IndexedTable :=
  match (Json.ofText? source).bind Description.declarations? with
  | some d => ofDeclarations d
  | none => .error .malformed

theorem map_table_ofDescription (source : Text) :
    (ofDescription source).map table = InstructionTable.ofDescription source := by
  rw [ofDescription, InstructionTable.ofDescription]
  cases (Json.ofText? source).bind Description.declarations? with
  | some d => exact map_table_ofDeclarations d
  | none => rfl

/-- A text that describes declarations makes a table iff they are complete. The table holds what is
declared, and its index and its search by halving find the same as its lists. -/
theorem ofDescription_holds {source : Text} {d : Declarations}
    (h : (Json.ofText? source).bind Description.declarations? = some d) :
    ((∃ t, InstructionTable.ofDescription source = .ok t) ↔ d.Complete) ∧
      (∀ t, InstructionTable.ofDescription source = .ok t → t.Holds d) ∧
      (ofDescription source).map table = InstructionTable.ofDescription source ∧
      ∀ t, ofDescription source = .ok t →
        (∀ name, t.lookup name = t.table.lookup name) ∧
        ∀ word, t.isBuiltin word = t.table.isBuiltin word := by
  have hlists : InstructionTable.ofDescription source = InstructionTable.ofDeclarations d := by
    rw [InstructionTable.ofDescription, h]
  have hindexed : ofDescription source = ofDeclarations d := by rw [ofDescription, h]
  refine ⟨?_, fun t ht => ?_, map_table_ofDescription source, fun t ht => ?_⟩
  · simp only [hlists, InstructionTable.ofDeclarations_eq_ok_iff, exists_and_left, exists_eq,
      and_true]
  · exact InstructionTable.holds_of_ofDeclarations (hlists ▸ ht)
  · rw [hindexed] at ht
    exact ⟨lookup_eq ht, isBuiltin_eq ht⟩

/-- Opcodes out of order and a repeated variable, with records written as arrays. -/
def unsortedSource : Text :=
  "[[[\"print\", \"\", true, [[\"to\", \"value\"]]], [\"end\"]], [\"@unit\", \"@ipt\", \"@unit\"]]".toList

theorem ofDescription_holds_unsortedSource :
    ∃ t, ofDescription unsortedSource = .ok t ∧
      t.lookup "end" = some { name := "end" } ∧ t.lookup "jump" = none ∧
      t.isBuiltin "@unit" = true ∧ t.isBuiltin "@time" = false := by
  have hread : (Json.ofText? unsortedSource).bind Description.declarations? = some {
      instructions :=
        [{ name := "print", isVariadic := true, arguments := [{ name := "to", kind := .value }] },
          { name := "end" }]
      builtins := ["@unit", "@ipt", "@unit"] } := by decide +kernel
  obtain ⟨hmade, hholds, hmap, hasked⟩ := ofDescription_holds hread
  obtain ⟨u, hu⟩ := hmade.2 ⟨by decide, by decide, by decide⟩
  have H := hholds u hu
  obtain ⟨t, ht, rfl⟩ : ∃ t, ofDescription unsortedSource = .ok t ∧ t.table = u := by
    cases ht : ofDescription unsortedSource with
    | ok t =>
      rw [hu, ht] at hmap
      exact ⟨t, rfl, Except.ok.inj hmap⟩
    | error e =>
      rw [hu, ht] at hmap
      cases hmap
  obtain ⟨hlookup, hbuiltin⟩ := hasked t ht
  refine ⟨t, ht, ?_, ?_, ?_, ?_⟩
  · simp [hlookup, H.lookup_eq_some]
  · simp [hlookup, Option.eq_none_iff_forall_ne_some, H.lookup_eq_some]
  · simp [hbuiltin, H.isBuiltin_iff]
  · simp [hbuiltin, ← Bool.not_eq_true, H.isBuiltin_iff]

end IndexedTable
end LogicEditor
