import LogicEditor.Language.Tokenize
import LogicEditor.Proofs.Symbol.Index

/-!
# Symbols from scratch

The symbols of a program, found by going through all of its lines (`scan`). An index that keeps the
ledger of these lines has the same symbols (`SymbolIndex.Keeps.all_eq`).
-/

namespace LogicEditor

/-! ## Scanning -/

/-- What each line of a program mentions. -/
abbrev Listing := List (List Mention)

namespace Listing

/-- The numbers of the lines that mention a name in a role of a kind. -/
def linesOf (ms : Listing) (name : String) (k : SymbolKind) : List Nat :=
  (List.range ms.length).filter fun i =>
    (ms[i]?.getD []).any fun m => m.name == name && m.role.kind == k

/-- What a name denotes. -/
def kindOf (ms : Listing) (name : String) : SymbolKind :=
  if !(ms.linesOf name .label).isEmpty then .label
  else if !(ms.linesOf name .variable).isEmpty then .variable else .implicit

/-- What is known of a name. -/
def symbolOf (ms : Listing) (name : String) : Symbol where
  name
  kind := ms.kindOf name
  definingLine? :=
    if ms.kindOf name = .implicit then none else (ms.linesOf name (ms.kindOf name)).head?
  references := ms.linesOf name .implicit

/-- What is known of all names, in ascending order of the names. -/
def symbols (ms : Listing) : List Symbol :=
  (Std.TreeSet.ofList (ms.flatten.map (·.name))).toList.map ms.symbolOf

end Listing

/-- What each of some lines mentions. -/
def listing (table : InstructionTable) (texts : List Text) : Listing :=
  texts.map fun t => mentionsOf t (tokenize table t)

/-- The symbols of a program with these lines. -/
def scan (table : InstructionTable) (texts : List Text) : List Symbol :=
  (listing table texts).symbols

/-! ## The ledger of a listing -/

/-- The ledger has these lines, in this order and with these mentions, and no others. -/
structure Ledger.Lists (L : Ledger) (ids : List LineId) (ms : Listing) : Prop where
  length : ms.length = ids.length
  line : ∀ (id : LineId) (i : Nat), L.line? id = some i ↔ ids[i]? = some id
  mentions : ∀ (i : Nat) (id : LineId), ids[i]? = some id → ms[i]? = some (L.mentions id)
  absent : ∀ id, id ∉ ids → L.mentions id = []

namespace Ledger.Lists

variable {L : Ledger} {ids : List LineId} {ms : Listing} (H : L.Lists ids ms) {name : String}
  {k : SymbolKind} {i : Nat} {id : LineId}
include H

theorem exists_line {m : Mention} (h : m ∈ L.mentions id) : ∃ i : Nat, ids[i]? = some id := by
  refine List.mem_iff_getElem?.1 ?_
  by_contra hid
  rw [H.absent id hid] at h
  cases h

theorem mem_linesOf : i ∈ ms.linesOf name k ↔ i ∈ L.linesOf name k := by
  simp only [Listing.linesOf, List.mem_filter, List.mem_range, List.any_eq_true, Bool.and_eq_true,
    beq_iff_eq, Ledger.linesOf, Set.mem_ofPred_eq]
  constructor
  · rintro ⟨hi, ⟨_, role⟩, hm, rfl, hr⟩
    rw [H.length] at hi
    have hid := List.getElem?_eq_getElem hi
    rw [H.mentions i _ hid] at hm
    exact ⟨_, role, hr, hm, (H.line _ i).2 hid⟩
  · rintro ⟨id, role, hr, hm, hl⟩
    have hid := (H.line id i).1 hl
    have hms := H.mentions i id hid
    exact ⟨(List.getElem?_eq_some_iff.1 hms).1, ⟨name, role⟩, by rwa [hms], rfl, hr⟩

theorem has_iff : L.Has name k ↔ (ms.linesOf name k).isEmpty = false := by
  rw [List.isEmpty_eq_false_iff_exists_mem]
  simp only [H.mem_linesOf]
  constructor
  · rintro ⟨id, role, hr, hm⟩
    obtain ⟨i, hi⟩ := H.exists_line hm
    exact ⟨i, id, role, hr, hm, (H.line id i).2 hi⟩
  · rintro ⟨i, id, role, hr, hm, -⟩
    exact ⟨id, role, hr, hm⟩

theorem denotes (name : String) : L.Denotes name (ms.kindOf name) := by
  rw [Listing.kindOf]
  cases hl : (ms.linesOf name .label).isEmpty with
  | false => exact H.has_iff.2 hl
  | true =>
    have hn : ¬L.Has name .label := fun h => by rw [H.has_iff, hl] at h; cases h
    cases hv : (ms.linesOf name .variable).isEmpty with
    | false => exact ⟨hn, H.has_iff.2 hv⟩
    | true => exact ⟨hn, fun h => by rw [H.has_iff, hv] at h; cases h⟩

omit H in
theorem ascending_linesOf (ms : Listing) (name : String) (k : SymbolKind) :
    (ms.linesOf name k).Pairwise (· < ·) :=
  List.pairwise_lt_range.filter _

theorem describes (name : String) : L.Describes (ms.symbolOf name) where
  kind := H.denotes name
  defining line := by
    show (if ms.kindOf name = .implicit then none else _) = some line ↔ _ ≠ _ ∧ _
    by_cases hk : ms.kindOf name = .implicit
    · simp [Listing.symbolOf, hk]
    · have hset : {i | i ∈ ms.linesOf name (ms.kindOf name)} = L.linesOf name (ms.kindOf name) :=
        Set.ext fun i => H.mem_linesOf
      rw [if_neg hk, SymbolIndex.head?_eq_some_iff_isLeast (ascending_linesOf ..), hset]
      exact ⟨fun h => ⟨hk, h⟩, fun h => h.2⟩
  references line := H.mem_linesOf
  ascending := ascending_linesOf ..

theorem mem_names : name ∈ L.names ↔ name ∈ ms.flatten.map (·.name) := by
  simp only [List.mem_map, List.mem_flatten]
  constructor
  · rintro ⟨k, id, role, -, hm⟩
    obtain ⟨i, hi⟩ := H.exists_line hm
    exact ⟨_, ⟨_, List.mem_of_getElem? (H.mentions i id hi), hm⟩, rfl⟩
  · rintro ⟨⟨_, role⟩, ⟨l, hl, hm⟩, rfl⟩
    obtain ⟨i, hi⟩ := List.mem_iff_getElem?.1 hl
    have hlt := (List.getElem?_eq_some_iff.1 hi).1
    rw [H.length] at hlt
    have hms := H.mentions i _ (List.getElem?_eq_getElem hlt)
    rw [hi, Option.some.injEq] at hms
    exact ⟨role.kind, _, role, rfl, hms ▸ hm⟩

theorem mem_symbols {s : Symbol} : s ∈ ms.symbols ↔ s.name ∈ L.names ∧ L.Describes s := by
  have hmem : ∀ n, n ∈ (Std.TreeSet.ofList (ms.flatten.map (·.name))).toList ↔ n ∈ L.names :=
      fun n => by
    rw [Std.TreeSet.mem_toList, Std.TreeSet.mem_ofList, List.contains_iff_mem, H.mem_names]
  rw [Listing.symbols, List.mem_map]
  constructor
  · rintro ⟨n, hn, rfl⟩
    exact ⟨(hmem n).1 hn, H.describes n⟩
  · rintro ⟨hn, hs⟩
    exact ⟨s.name, (hmem _).2 hn, (H.describes s.name).unique hs rfl⟩

end Ledger.Lists

theorem Listing.ascending_symbols (ms : Listing) : (ms.symbols.map (·.name)).Pairwise (· < ·) := by
  rw [symbols, List.map_map, List.pairwise_map]
  have hord := Std.TreeSet.ordered_toList (t := Std.TreeSet.ofList (ms.flatten.map (·.name)))
  exact hord.imp SymbolIndex.compare_string_eq_lt.1

namespace SymbolIndex

variable {x y : SymbolIndex} {L : Ledger}

/-- Symbols in the order of their names are determined by which they are. -/
theorem eq_of_names_ascending {ss ts : List Symbol} (hs : (ss.map (·.name)).Pairwise (· < ·))
    (ht : (ts.map (·.name)).Pairwise (· < ·)) (h : ∀ s, s ∈ ss ↔ s ∈ ts) : ss = ts :=
  eq_of_ascending String.lt_asymm (List.pairwise_map.1 hs) (List.pairwise_map.1 ht) h

/-- Two indices that keep one ledger have the same symbols. -/
theorem Keeps.all_congr (K : x.Keeps L) (K' : y.Keeps L) : x.all = y.all :=
  eq_of_names_ascending (ascending_all x) (ascending_all y) fun s => by rw [K.mem_all_iff, K'.mem_all_iff]

/-- An index that keeps the ledger of a listing has its symbols. -/
theorem Keeps.all_eq {ids : List LineId} {ms : Listing} (K : x.Keeps L) (H : L.Lists ids ms) :
    x.all = ms.symbols :=
  eq_of_names_ascending (ascending_all x) ms.ascending_symbols fun s => by
    rw [K.mem_all_iff, H.mem_symbols]

/-- It has them also if it does not know the numbers of lines that mention nothing. -/
theorem Keeps.all_eq_of_mentions {L' : Ledger} {ids : List LineId} {ms : Listing} (K : x.Keeps L)
    (H : L'.Lists ids ms) (hm : L.mentions = L'.mentions)
    (hl : ∀ id, L.mentions id ≠ [] → L.line? id = L'.line? id) : x.all = ms.symbols :=
  eq_of_names_ascending (ascending_all x) ms.ascending_symbols fun s => by
    rw [K.mem_all_iff, H.mem_symbols, Ledger.names_congr hm]
    refine and_congr_right fun _ => ⟨Ledger.Describes.congr hm hl, ?_⟩
    exact Ledger.Describes.congr hm.symm fun id h => (hl id (hm ▸ h)).symm

end SymbolIndex
end LogicEditor
