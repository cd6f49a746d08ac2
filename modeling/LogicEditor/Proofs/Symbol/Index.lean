import Mathlib.Order.Nat
import LogicEditor.Proofs.Symbol.Ledger

/-!
# The index keeps a ledger

The index answers as the ledger does that gets the same updates. `SymbolIndex.Keeps` ties the two
together: the tables of numbers and mentions hold what the ledger holds, the table of names is the
table of mentions read backwards, and no name without mentions is left in it.
-/

namespace LogicEditor

/-! ## Occurrences -/

namespace Occurrences

variable {o : Occurrences} {k : SymbolKind} {id j : LineId}

/-- The lines that mention the name in a role of a kind. -/
def of (o : Occurrences) : SymbolKind → Std.TreeSet LineId
  | .label => o.labels
  | .variable => o.assignments
  | .implicit => o.references

theorem of_modify (o : Occurrences) (role : SymbolRole)
    (f : Std.TreeSet LineId → Std.TreeSet LineId) (k : SymbolKind) :
    (o.modify role f).of k = if role.kind = k then f (o.of k) else o.of k := by
  cases role <;> cases k <;> rfl

theorem not_mem_of_empty : j ∉ ({} : Occurrences).of k := by
  cases k <;> exact Std.TreeSet.not_mem_emptyc

theorem isEmpty_iff : o.isEmpty ↔ ∀ k j, j ∉ o.of k := by
  simp only [isEmpty, Bool.and_eq_true, Std.TreeSet.isEmpty_iff_forall_not_mem]
  constructor
  · rintro ⟨⟨hl, ha⟩, hr⟩ (_ | _ | _)
    exacts [hl, ha, hr]
  · intro h
    exact ⟨⟨h .label, h .variable⟩, h .implicit⟩

theorem mem_modify_insert {role : SymbolRole} :
    j ∈ (o.modify role (·.insert id)).of k ↔ j = id ∧ role.kind = k ∨ j ∈ o.of k := by
  rw [of_modify]
  split
  · simp [Std.TreeSet.mem_insert, *, eq_comm (a := j)]
  · simp [*]

theorem mem_modify_erase {role : SymbolRole} :
    j ∈ (o.modify role (·.erase id)).of k ↔ j ∈ o.of k ∧ ¬(j = id ∧ role.kind = k) := by
  rw [of_modify]
  split
  · simp [Std.TreeSet.mem_erase, *, eq_comm (a := j), and_comm]
  · simp [*]

end Occurrences

namespace SymbolIndex

variable {names : Std.TreeMap String Occurrences} {id j : LineId} {n : String} {k : SymbolKind}
  {m : Mention} {ms : List Mention}

/-! ## Names -/

/-- The table of names has the line under the name and the kind. -/
def At (names : Std.TreeMap String Occurrences) (n : String) (k : SymbolKind) (j : LineId) : Prop :=
  j ∈ (names.getD n {}).of k

/-- No name is left without mentions. -/
def Tidy (names : Std.TreeMap String Occurrences) : Prop :=
  ∀ (n : String) (o : Occurrences), names[n]? = some o → o.isEmpty = false

theorem at_enter : At (enter id names m) n k j ↔
    j = id ∧ m.name = n ∧ m.role.kind = k ∨ At names n k j := by
  rw [At, enter, Std.TreeMap.getD_alter, At]
  by_cases h : m.name = n
  · subst h
    rw [if_pos (by simp), Option.getD_some, Occurrences.mem_modify_insert,
      Std.TreeMap.getD_eq_getD_getElem?]
    simp
  · rw [if_neg (by simpa using h)]
    simp [h]

theorem at_strike : At (strike id names m) n k j ↔
    At names n k j ∧ ¬(j = id ∧ m.name = n ∧ m.role.kind = k) := by
  rw [At, strike, Std.TreeMap.getD_alter, At]
  by_cases h : m.name = n
  · subst h
    rw [if_pos (by simp), Std.TreeMap.getD_eq_getD_getElem?]
    cases names[m.name]? with
    | none => simp [Occurrences.not_mem_of_empty]
    | some o =>
      have hmem : j ∈ (o.modify m.role (·.erase id)).of k ↔ _ := Occurrences.mem_modify_erase
      simp only [Option.getD_some, true_and]
      rw [← hmem]
      split
      · rename_i he
        have := Occurrences.isEmpty_iff.1 he k j
        simp [Occurrences.not_mem_of_empty, this]
      · rfl
  · rw [if_neg (by simpa using h)]
    simp [h]

theorem at_enter_all : At (ms.foldl (enter id) names) n k j ↔
    j = id ∧ (∃ m ∈ ms, m.name = n ∧ m.role.kind = k) ∨ At names n k j := by
  induction ms generalizing names with
  | nil => simp
  | cons m ms ih =>
    rw [List.foldl_cons, ih, at_enter]
    simp only [List.mem_cons, exists_eq_or_imp]
    grind

theorem at_strike_all : At (ms.foldl (strike id) names) n k j ↔
    At names n k j ∧ ¬(j = id ∧ ∃ m ∈ ms, m.name = n ∧ m.role.kind = k) := by
  induction ms generalizing names with
  | nil => simp
  | cons m ms ih =>
    rw [List.foldl_cons, ih, at_strike]
    simp only [List.mem_cons, exists_eq_or_imp]
    grind

theorem Tidy.enter (H : Tidy names) (id : LineId) (m : Mention) : Tidy (enter id names m) := by
  intro n o ho
  rw [SymbolIndex.enter, Std.TreeMap.getElem?_alter] at ho
  split at ho
  · cases ho
    rw [Bool.eq_false_iff, ne_eq, Occurrences.isEmpty_iff]
    exact fun h => h m.role.kind id (Occurrences.mem_modify_insert.2 (.inl ⟨rfl, rfl⟩))
  · exact H n o ho

theorem Tidy.strike (H : Tidy names) (id : LineId) (m : Mention) : Tidy (strike id names m) := by
  intro n o ho
  rw [SymbolIndex.strike, Std.TreeMap.getElem?_alter] at ho
  split at ho
  · cases h : names[m.name]? with
    | none => simp [h] at ho
    | some o' =>
      simp only [h] at ho
      split at ho
      · cases ho
      · rename_i he
        cases ho
        exact Bool.eq_false_iff.2 he
  · exact H n o ho

theorem Tidy.enter_all (H : Tidy names) : Tidy (ms.foldl (SymbolIndex.enter id) names) := by
  induction ms generalizing names with
  | nil => exact H
  | cons m ms ih => exact ih (H.enter id m)

theorem Tidy.strike_all (H : Tidy names) : Tidy (ms.foldl (SymbolIndex.strike id) names) := by
  induction ms generalizing names with
  | nil => exact H
  | cons m ms ih => exact ih (H.strike id m)

/-! ## Keeping a ledger -/

variable {x : SymbolIndex} {L : Ledger} {line : Nat} {text : Text} {tokens : List Token}
  {shifts : List Shift}

/-- The index keeps the ledger. -/
structure Keeps (x : SymbolIndex) (L : Ledger) : Prop where
  position : ∀ id, x.position? id = L.line? id
  contribution : ∀ id, x.contributions.getD id [] = L.mentions id
  occurs : ∀ n k j, At x.names n k j ↔ ∃ m ∈ L.mentions j, m.name = n ∧ m.role.kind = k
  tidy : Tidy x.names
  /-- What is mentioned stands somewhere. -/
  placed : ∀ id, ∀ m ∈ L.mentions id, ∃ line, L.line? id = some line

theorem Keeps.empty : Keeps {} {} where
  position _ := Std.TreeMap.getElem?_emptyc
  contribution _ := Std.TreeMap.getD_emptyc
  occurs n k j := by
    rw [At, Std.TreeMap.getD_emptyc]
    simp [Occurrences.not_mem_of_empty]
  tidy n o h := by simp at h
  placed _ _ h := nomatch h

theorem position?_track : (x.track id line).position? j =
    if j = id then some line else x.position? j := by
  rw [position?, track, Std.TreeMap.getElem?_insert, position?]
  simp [eq_comm (a := id)]

theorem position?_erase : (x.positions.erase id)[j]? = if j = id then none else x.position? j := by
  rw [Std.TreeMap.getElem?_erase, position?]
  simp [eq_comm (a := id)]

theorem contribution_insert : (x.contributions.insert id ms).getD j [] =
    if j = id then ms else x.contributions.getD j [] := by
  rw [Std.TreeMap.getD_insert]
  simp [eq_comm (a := id)]

theorem contribution_erase : (x.contributions.erase id).getD j [] =
    if j = id then [] else x.contributions.getD j [] := by
  rw [Std.TreeMap.getD_erase]
  simp [eq_comm (a := id)]

theorem position?_shift : (x.shift shifts).position? j = (x.position? j).map (target shifts) := by
  rw [position?, shift, Std.TreeMap.getElem?_map, position?]

section
variable (K : Keeps x L)
include K

/-- After a line took its mentions back, the names know of those of the other lines only. -/
theorem Keeps.at_withdraw : At (x.withdraw id).names n k j ↔
    j ≠ id ∧ ∃ m ∈ L.mentions j, m.name = n ∧ m.role.kind = k := by
  rw [withdraw, at_strike_all, K.contribution, K.occurs]
  constructor
  · rintro ⟨h, h'⟩
    exact ⟨fun hj => h' ⟨hj, hj ▸ h⟩, h⟩
  · rintro ⟨hj, h⟩
    exact ⟨h, fun h' => hj h'.1⟩

theorem Keeps.track (id : LineId) (line : Nat) : Keeps (x.track id line) (L.track id line) where
  position j := by rw [position?_track, K.position, Ledger.line?_track]
  contribution := K.contribution
  occurs := K.occurs
  tidy := K.tidy
  placed j m hm := by
    rw [Ledger.line?_track]
    split
    · exact ⟨line, rfl⟩
    · exact K.placed j m hm

theorem Keeps.update (id : LineId) (line : Nat) (text : Text) (tokens : List Token) :
    Keeps (x.update id line text tokens) (L.update id line text tokens) where
  position := (K.track id line).position
  contribution j := by
    have : ((x.withdraw id).contributions.insert id (mentionsOf text tokens)).getD j [] = _ :=
      contribution_insert
    rw [SymbolIndex.update, this, Ledger.mentions_update, withdraw, contribution_erase,
      K.contribution]
    split <;> rfl
  occurs n k j := by
    rw [SymbolIndex.update, at_enter_all, K.at_withdraw, Ledger.mentions_update]
    by_cases h : j = id <;> simp [h]
  tidy := K.tidy.strike_all.enter_all
  placed j m hm := by
    rw [Ledger.mentions_update] at hm
    rw [Ledger.line?_update]
    split
    · exact ⟨line, rfl⟩
    · rw [if_neg ‹_›] at hm
      exact K.placed j m hm

theorem Keeps.remove (id : LineId) : Keeps (x.remove id) (L.remove id) where
  position j := by
    have : (x.withdraw id).positions = x.positions := rfl
    rw [position?, SymbolIndex.remove, this, position?_erase, K.position, Ledger.line?_remove]
  contribution j := by
    rw [SymbolIndex.remove, withdraw, contribution_erase, K.contribution, Ledger.mentions_remove]
  occurs n k j := by
    rw [SymbolIndex.remove, K.at_withdraw, Ledger.mentions_remove]
    by_cases h : j = id <;> simp [h]
  tidy := K.tidy.strike_all
  placed j m hm := by
    rw [Ledger.mentions_remove] at hm
    rw [Ledger.line?_remove]
    split
    · rw [if_pos ‹_›] at hm
      cases hm
    · rw [if_neg ‹_›] at hm
      exact K.placed j m hm

theorem Keeps.shift (shifts : List Shift) : Keeps (x.shift shifts) (L.shift shifts) where
  position j := by rw [position?_shift, K.position, Ledger.line?_shift]
  contribution := K.contribution
  occurs := K.occurs
  tidy := K.tidy
  placed j m hm := by
    obtain ⟨line, h⟩ := K.placed j m hm
    exact ⟨_, by rw [Ledger.line?_shift, h, Option.map_some]⟩

end

/-! ## Answers -/

theorem head?_eq_some_iff_isLeast {ls : List Nat} (h : ls.Pairwise (· < ·)) :
    ls.head? = some line ↔ IsLeast {i | i ∈ ls} line := by
  cases ls with
  | nil => simp [IsLeast]
  | cons i ls =>
    have hle := (List.pairwise_cons.1 h).1
    have hi : IsLeast {j | j ∈ i :: ls} i :=
      ⟨List.mem_cons_self, fun j hj => (List.mem_cons.1 hj).elim (fun h => h ▸ Nat.le_refl _)
        fun hj => Nat.le_of_lt (hle j hj)⟩
    rw [List.head?_cons, Option.some.injEq]
    exact ⟨fun h => h ▸ hi, fun h => hi.unique h⟩

theorem mem_linesOf {ids : List LineId} :
    line ∈ x.linesOf ids ↔ ∃ id ∈ ids, x.position? id = some line := by
  rw [linesOf, Std.TreeSet.mem_toList, Std.TreeSet.mem_ofList]
  simp

theorem ascending_linesOf (x : SymbolIndex) (ids : List LineId) :
    (x.linesOf ids).Pairwise (· < ·) :=
  Std.TreeSet.ordered_toList.imp Nat.compare_eq_lt.1

theorem definitions_eq (o : Occurrences) (h : o.kind ≠ .implicit) :
    o.definitions = (o.of o.kind).toList := by
  rw [Occurrences.definitions]
  cases hk : o.kind with
  | implicit => exact absurd hk h
  | label | «variable» => rfl

section
variable (K : Keeps x L) {o : Occurrences}
include K

theorem Keeps.mem_of (h : x.names[n]? = some o) :
    j ∈ o.of k ↔ ∃ role, role.kind = k ∧ ⟨n, role⟩ ∈ L.mentions j := by
  have := K.occurs n k j
  rw [At, Std.TreeMap.getD_eq_getD_getElem?, h, Option.getD_some] at this
  rw [this]
  constructor
  · rintro ⟨⟨_, role⟩, hm, rfl, hr⟩
    exact ⟨role, hr, hm⟩
  · rintro ⟨role, hr, hm⟩
    exact ⟨_, hm, rfl, hr⟩

theorem Keeps.has_iff (h : x.names[n]? = some o) : L.Has n k ↔ ∃ j, j ∈ o.of k := by
  simp only [Ledger.Has, K.mem_of h]

theorem Keeps.mem_lines (h : x.names[n]? = some o) :
    line ∈ x.linesOf (o.of k).toList ↔ line ∈ L.linesOf n k := by
  simp only [mem_linesOf, Std.TreeSet.mem_toList, K.mem_of h, K.position, Ledger.linesOf,
    Set.mem_ofPred_eq]
  constructor
  · rintro ⟨id, ⟨role, hr, hm⟩, hl⟩
    exact ⟨id, role, hr, hm, hl⟩
  · rintro ⟨id, role, hr, hm, hl⟩
    exact ⟨id, ⟨role, hr, hm⟩, hl⟩

theorem Keeps.denotes (h : x.names[n]? = some o) : L.Denotes n o.kind := by
  have hlabel := K.has_iff (k := .label) h
  have hvariable := K.has_iff (k := .variable) h
  simp only [Occurrences.of, ← Std.TreeSet.isEmpty_eq_false_iff_exists_mem] at hlabel hvariable
  rw [Occurrences.kind]
  cases hl : o.labels.isEmpty with
  | false => exact hlabel.2 hl
  | true =>
    have hn : ¬L.Has n .label := fun h => by simp [hl] at hlabel; exact hlabel h
    cases hv : o.assignments.isEmpty with
    | false => exact ⟨hn, hvariable.2 hv⟩
    | true => exact ⟨hn, fun h => by simp [hv] at hvariable; exact hvariable h⟩

theorem Keeps.describes (h : x.names[n]? = some o) : L.Describes (x.symbol n o) where
  kind := K.denotes h
  defining line := by
    show (x.linesOf o.definitions).head? = some line ↔ _
    by_cases hk : o.kind = .implicit
    · have hd : o.definitions = [] := by rw [Occurrences.definitions, hk]
      simp [symbol, hk, hd, linesOf]
    · have hset : {i | i ∈ x.linesOf (o.of o.kind).toList} = L.linesOf n o.kind :=
        Set.ext fun i => K.mem_lines h
      rw [head?_eq_some_iff_isLeast (ascending_linesOf _ _), definitions_eq o hk, hset]
      exact ⟨fun h => ⟨hk, h⟩, fun h => h.2⟩
  references line := K.mem_lines (k := .implicit) h
  ascending := ascending_linesOf _ _

theorem Keeps.isSome_iff : (x.names[n]?).isSome ↔ n ∈ L.names := by
  constructor
  · intro h
    obtain ⟨o, ho⟩ := Option.isSome_iff_exists.1 h
    have := K.tidy n o ho
    rw [Bool.eq_false_iff, ne_eq, Occurrences.isEmpty_iff] at this
    simp only [not_forall, not_not] at this
    obtain ⟨k, j, hj⟩ := this
    exact ⟨k, (K.has_iff ho).2 ⟨j, hj⟩⟩
  · rintro ⟨k, id, role, hr, hm⟩
    have hat := (K.occurs n k id).2 ⟨_, hm, rfl, hr⟩
    rw [At, Std.TreeMap.getD_eq_getD_getElem?] at hat
    cases hn : x.names[n]? with
    | some o => rfl
    | none =>
      rw [hn] at hat
      exact absurd hat Occurrences.not_mem_of_empty

/-- The index finds a name with all that the ledger says of it. -/
theorem Keeps.get?_eq_some {s : Symbol} :
    x.get? n = some s ↔ s.name = n ∧ n ∈ L.names ∧ L.Describes s := by
  rw [get?, Option.map_eq_some_iff]
  constructor
  · rintro ⟨o, ho, rfl⟩
    exact ⟨rfl, K.isSome_iff.1 (by rw [ho]; rfl), K.describes ho⟩
  · rintro ⟨hn, hmem, hs⟩
    obtain ⟨o, ho⟩ := Option.isSome_iff_exists.1 (K.isSome_iff.2 hmem)
    exact ⟨o, ho, (K.describes ho).unique hs hn.symm⟩

theorem Keeps.kind?_eq_some : x.kind? n = some k ↔ n ∈ L.names ∧ L.Denotes n k := by
  rw [kind?, Option.map_eq_some_iff]
  constructor
  · rintro ⟨o, ho, rfl⟩
    exact ⟨K.isSome_iff.1 (by rw [ho]; rfl), K.denotes ho⟩
  · rintro ⟨hmem, hk⟩
    obtain ⟨o, ho⟩ := Option.isSome_iff_exists.1 (K.isSome_iff.2 hmem)
    exact ⟨o, ho, (K.denotes ho).unique hk⟩

omit K in
theorem mem_all {s : Symbol} : s ∈ x.all ↔ x.get? s.name = some s := by
  simp only [all, List.mem_map, Prod.exists, Std.TreeMap.mem_toList_iff_getElem?_eq_some, get?,
    Option.map_eq_some_iff]
  constructor
  · rintro ⟨n, o, ho, rfl⟩
    exact ⟨o, ho, rfl⟩
  · rintro ⟨o, ho, hs⟩
    exact ⟨s.name, o, ho, hs⟩

omit K in
theorem compare_string_eq_lt {a b : String} : compare a b = .lt ↔ a < b := compareOfLessAndEq_eq_lt

omit K in
theorem ascending_all (x : SymbolIndex) : (x.all.map (·.name)).Pairwise (· < ·) := by
  rw [all, List.map_map, List.pairwise_map]
  exact Std.TreeMap.ordered_keys_toList.imp compare_string_eq_lt.1

theorem Keeps.names_eq : L.names = (x.all.map (·.name)).toFinset := by
  ext n
  rw [List.coe_toFinset, Set.mem_ofPred_eq, List.mem_map, ← K.isSome_iff]
  constructor
  · intro h
    obtain ⟨o, ho⟩ := Option.isSome_iff_exists.1 h
    exact ⟨x.symbol n o, mem_all.2 (by simp [get?, symbol, ho]), rfl⟩
  · rintro ⟨s, hs, rfl⟩
    have := mem_all.1 hs
    rw [get?, Option.map_eq_some_iff] at this
    obtain ⟨o, ho, -⟩ := this
    rw [ho]
    rfl

theorem Keeps.finite_names : L.names.Finite := by
  rw [K.names_eq]
  exact Finset.finite_toSet _

/-- There are as many names in the index as in the ledger. -/
theorem Keeps.size_eq : x.size = L.names.ncard := by
  have hnd : (x.all.map (·.name)).Nodup := by
    refine (ascending_all x).imp fun {a b} h => ?_
    rintro rfl
    exact String.lt_irrefl a h
  rw [K.names_eq, Set.ncard_coe_finset, List.toFinset_card_of_nodup hnd, List.length_map, all,
    List.length_map, Std.TreeMap.length_toList, size]

theorem Keeps.mem_all_iff {s : Symbol} : s ∈ x.all ↔ s.name ∈ L.names ∧ L.Describes s := by
  rw [mem_all, K.get?_eq_some, and_iff_right rfl]

theorem Keeps.isDefined_iff {s : Symbol} (h : L.Describes s) : s.isDefined ↔ s.kind ≠ .implicit := by
  rw [Symbol.isDefined, Option.isSome_iff_exists]
  constructor
  · rintro ⟨line, hl⟩
    exact ((h.defining line).1 hl).1
  · intro hk
    have hhas : L.Has s.name s.kind := by
      have := h.kind
      cases hs : s.kind with
      | implicit => exact absurd hs hk
      | label => rwa [hs] at this
      | «variable» =>
        rw [hs] at this
        exact this.2
    obtain ⟨id, role, hr, hm⟩ := hhas
    obtain ⟨line, hl⟩ := K.placed id _ hm
    have hne : (L.linesOf s.name s.kind).Nonempty := ⟨line, id, role, hr, hm, hl⟩
    classical
    exact ⟨_, (h.defining _).2 ⟨hk, Nat.isLeast_find hne⟩⟩

omit K in
/-- The lines that a shift moves are those that get another number. -/
theorem mem_movedBy : id ∈ x.movedBy shifts ↔
    ∃ line, x.position? id = some line ∧ target shifts line ≠ line := by
  simp only [movedBy, List.mem_map, List.mem_filter, Prod.exists,
    Std.TreeMap.mem_toList_iff_getElem?_eq_some, bne_iff_ne, position?]
  constructor
  · rintro ⟨id, line, h, rfl⟩
    exact ⟨line, h⟩
  · rintro ⟨line, h⟩
    exact ⟨id, line, h, rfl⟩

theorem Keeps.mem_movedBy : id ∈ x.movedBy shifts ↔
    ∃ line, L.line? id = some line ∧ (L.shift shifts).line? id ≠ some line := by
  rw [SymbolIndex.mem_movedBy, K.position]
  refine exists_congr fun line => and_congr_right fun h => ?_
  rw [Ledger.line?_shift, h, Option.map_some, Ne, Ne, Option.some.injEq]

omit K in
theorem nodup_movedBy (x : SymbolIndex) (shifts : List Shift) : (x.movedBy shifts).Nodup := by
  have hord : (x.positions.toList.map (·.1)).Pairwise (compare · · = .lt) :=
    List.pairwise_map.2 Std.TreeMap.ordered_keys_toList
  refine (hord.sublist ((List.filter_sublist).map _)).imp fun {a b} h => ?_
  exact Nat.ne_of_lt (Nat.compare_eq_lt.1 h)

end

/-! ## Sequences of updates -/

/-- An update of the index. -/
inductive Update
  | update (id : LineId) (line : Nat) (text : Text) (tokens : List Token)
  | track (id : LineId) (line : Nat)
  | remove (id : LineId)
  | onward (start : Nat) (delta : Int)
  | shift (shifts : List Shift)

/-- What an update does to the index. -/
def Update.apply (x : SymbolIndex) : Update → SymbolIndex
  | .update id line text tokens => x.update id line text tokens
  | .track id line => x.track id line
  | .remove id => x.remove id
  | .onward start delta => x.shift [.onward start delta]
  | .shift shifts => x.shift shifts

/-- What an update does to a ledger. -/
def Update.note (L : Ledger) : Update → Ledger
  | .update id line text tokens => L.update id line text tokens
  | .track id line => L.track id line
  | .remove id => L.remove id
  | .onward start delta => L.shift [.onward start delta]
  | .shift shifts => L.shift shifts

theorem Keeps.apply (K : Keeps x L) (u : Update) : Keeps (u.apply x) (u.note L) := by
  cases u with
  | update id line text tokens => exact K.update id line text tokens
  | track id line => exact K.track id line
  | remove id => exact K.remove id
  | onward start delta => exact K.shift [.onward start delta]
  | shift shifts => exact K.shift shifts

theorem Keeps.apply_all (K : Keeps x L) (us : List Update) :
    Keeps (us.foldl Update.apply x) (us.foldl Update.note L) := by
  induction us generalizing x L with
  | nil => exact K
  | cons u us ih => exact ih (K.apply u)

/-- After any updates the index answers as the ledger does. -/
theorem answers_like_ledger (us : List Update) :
    let x := us.foldl Update.apply {}
    let L := us.foldl Update.note {}
    (∀ id, x.position? id = L.line? id) ∧
    (L.names.Finite ∧ x.size = L.names.ncard) ∧
    (∀ n, (x.get? n).isSome ↔ n ∈ L.names) ∧
    (∀ n s, x.get? n = some s ↔ s.name = n ∧ n ∈ L.names ∧ L.Describes s) ∧
    (∀ n k, x.kind? n = some k ↔ n ∈ L.names ∧ L.Denotes n k) ∧
    (∀ s, s ∈ x.all ↔ s.name ∈ L.names ∧ L.Describes s) ∧
    (x.all.map (·.name)).Pairwise (· < ·) ∧
    (∀ s ∈ x.all, s.isDefined ↔ s.kind ≠ .implicit) ∧
    ∀ shifts,
      (∀ id, (x.shift shifts).position? id =
        (L.line? id).map fun n => (Shift.firstTarget? shifts n).getD n) ∧
      (x.movedBy shifts).Nodup ∧
      ∀ id, id ∈ x.movedBy shifts ↔
        ∃ line, x.position? id = some line ∧ (x.shift shifts).position? id ≠ some line := by
  intro x L
  have K : Keeps x L := Keeps.empty.apply_all us
  refine ⟨K.position, ⟨K.finite_names, K.size_eq⟩, fun n => ?_, fun n s => K.get?_eq_some,
    fun n k => K.kind?_eq_some, fun s => K.mem_all_iff, ascending_all x,
    fun s hs => K.isDefined_iff (K.mem_all_iff.1 hs).2, fun shifts => ⟨fun id => ?_,
      nodup_movedBy x shifts, fun id => ?_⟩⟩
  · rw [get?, Option.isSome_map, K.isSome_iff]
  · rw [(K.shift shifts).position, Ledger.line?_shift]
    rfl
  · simp only [K.mem_movedBy, K.position, (K.shift shifts).position]

end SymbolIndex
end LogicEditor
