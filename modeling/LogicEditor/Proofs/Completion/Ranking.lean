import Mathlib.Data.List.Nodup
import Mathlib.Data.List.Perm.Subperm
import Mathlib.Data.List.Dedup
import Mathlib.Data.Prod.Lex
import Mathlib.Data.String.Basic
import LogicEditor.Completion

/-!
# Ranking of completions

Candidates are sorted, then thinned out to one for each text, then cut off. So what is returned is the
best candidates of the slot: a name that several sources offer keeps its best rank, and a name that goes
on with the typed text is left out only if as many better ones are listed as may be
(`completions_isBest`).
-/

namespace LogicEditor

variable {table : InstructionTable} {x : SymbolIndex} {symbols : List Symbol} {slot : CompletionSlot}
  {o : Offer} {offers : List Offer} {typed t : Text} {replace : Range} {p : Position} {limit : Nat}
  {tokens : List Token} {a b c d : Candidate} {cs : List Candidate}

/-! ## Sources of names -/

namespace CompletionSlot

/-- Where the names that suit a slot come from. -/
inductive Source (table : InstructionTable) (symbols : List Symbol) : CompletionSlot → Offer → Prop
  | opcode {i : Instruction} (hi : i ∈ table.opcodes) :
    Source table symbols .firstWord (.ofInstruction .opcode i)
  | label {a : Argument} {s : Symbol} (ha : a.kind = .label) (hs : s ∈ symbols)
      (hkind : s.kind = .label) : Source table symbols (.argument a) (.ofSymbol s)
  | variable {a : Argument} {s : Symbol} (ha : a.kind = .output ∨ a.kind = .value) (hs : s ∈ symbols)
      (hkind : s.kind ≠ .label) : Source table symbols (.argument a) (.ofSymbol s)
  | builtin {a : Argument} {name : String} (ha : a.kind = .value) (hname : name ∈ table.builtins) :
    Source table symbols (.argument a) (.ofBuiltin name)
  | choice {a : Argument} {name : String} (ha : a.kind = .constant) (hname : name ∈ a.choices) :
    Source table symbols (.argument a) (.ofChoice name)
  | symbol {s : Symbol} (hs : s ∈ symbols) : Source table symbols .anywhere (.ofSymbol s)
  | opcodeName {i : Instruction} (hi : i ∈ table.opcodes) :
    Source table symbols .anywhere (.ofInstruction .opcodeName i)

end CompletionSlot

/-- The name is not what is typed, but goes on with it, upper and lower case being the same. -/
structure Offer.Continues (typed : Text) (o : Offer) : Prop where
  ne : o.name.toList ≠ typed
  lower : Text.lower typed <+: Text.lower o.name.toList

theorem Offer.completes_iff : o.completes typed = true ↔ o.Continues typed := by
  rw [completes, Bool.and_eq_true, bne_iff_ne, List.isPrefixOf_iff_prefix]
  exact ⟨fun h => ⟨h.1, h.2⟩, fun h => ⟨h.ne, h.lower⟩⟩

/-- Only the name of an offer counts. -/
theorem Offer.Continues.of_name_eq {o' : Offer} (h : o.Continues typed) (hname : o'.name = o.name) :
    o'.Continues typed :=
  ⟨hname ▸ h.ne, hname ▸ h.lower⟩

/-! ## Ranks -/

namespace Candidate

/-- What candidates are ranked by: the score from high to low, then the length, which does not count in
the first word of a line, then the text. -/
def rank (slot : CompletionSlot) (c : Candidate) : ℕᵒᵈ ×ₗ ℕ ×ₗ String :=
  toLex (OrderDual.toDual c.score, toLex (c.rankLength slot, c.text))

theorem ranked_iff : ranked slot a b = true ↔ a.rank slot ≤ b.rank slot := by
  simp [ranked, rank, Prod.Lex.toLex_le_toLex]

theorem text_eq_of_rank_eq (h : a.rank slot = b.rank slot) : a.text = b.text :=
  congrArg (fun r => (ofLex (ofLex r).2).2) h

theorem score_le_of_rank_le (h : a.rank slot ≤ b.rank slot) : b.score ≤ a.score :=
  Prod.Lex.monotone_fst _ _ h

/-- The candidates that some offers make for a typed text, the best first. -/
def sorted (slot : CompletionSlot) (typed : Text) (replace : Range) (offers : List Offer) :
    List Candidate :=
  ((offers.filter (·.completes typed)).map (·.toCandidate typed replace)).mergeSort (ranked slot)

theorem mem_sorted : c ∈ sorted slot typed replace offers ↔
    ∃ o ∈ offers, o.Continues typed ∧ c = o.toCandidate typed replace := by
  rw [sorted, List.mem_mergeSort, List.mem_map]
  constructor
  · rintro ⟨o, ho, rfl⟩
    obtain ⟨ho, h⟩ := List.mem_filter.1 ho
    exact ⟨o, ho, Offer.completes_iff.1 h, rfl⟩
  · rintro ⟨o, ho, h, rfl⟩
    exact ⟨o, List.mem_filter.2 ⟨ho, Offer.completes_iff.2 h⟩, rfl⟩

theorem pairwise_sorted (slot : CompletionSlot) (typed : Text) (replace : Range)
    (offers : List Offer) :
    (sorted slot typed replace offers).Pairwise fun a b => a.rank slot ≤ b.rank slot := by
  refine (List.pairwise_mergeSort (fun a b c => ?_) (fun a b => ?_) _).imp ranked_iff.1
  · rw [ranked_iff, ranked_iff, ranked_iff]
    exact le_trans
  · rw [Bool.or_eq_true, ranked_iff, ranked_iff]
    exact le_total _ _

/-! ## One candidate for each text -/

theorem distinct_sublist (cs : List Candidate) : (distinct cs).Sublist cs := by
  induction cs with
  | nil => exact .slnil
  | cons c cs ih => exact (List.filter_sublist.trans ih).cons_cons c

theorem nodup_distinct (cs : List Candidate) : ((distinct cs).map (·.text)).Nodup := by
  induction cs with
  | nil => exact .nil
  | cons c cs ih =>
    rw [distinct, List.map_cons, List.nodup_cons]
    refine ⟨fun h => ?_, (List.filter_sublist.map _).nodup ih⟩
    obtain ⟨d, hd, htext⟩ := List.mem_map.1 h
    exact bne_iff_ne.1 (List.mem_filter.1 hd).2 htext

theorem distinct_eq_self (h : (cs.map (·.text)).Nodup) : distinct cs = cs := by
  induction cs with
  | nil => rfl
  | cons c cs ih =>
    rw [List.map_cons, List.nodup_cons] at h
    rw [distinct, ih h.2, List.filter_eq_self.2]
    intro d hd
    exact bne_iff_ne.2 fun heq => h.1 (List.mem_map.2 ⟨d, hd, heq⟩)

/-- Of several candidates with one text the first is kept, which is the best one. -/
theorem exists_mem_distinct (h : cs.Pairwise fun a b => a.rank slot ≤ b.rank slot) (hc : c ∈ cs) :
    ∃ d ∈ distinct cs, d.text = c.text ∧ d.rank slot ≤ c.rank slot := by
  induction cs with
  | nil => cases hc
  | cons a cs ih =>
    obtain ⟨ha, hcs⟩ := List.pairwise_cons.1 h
    rcases List.mem_cons.1 hc with rfl | hc
    · exact ⟨c, List.mem_cons_self, rfl, le_refl _⟩
    · obtain ⟨d, hd, htext, hle⟩ := ih hcs hc
      by_cases heq : d.text = a.text
      · exact ⟨a, List.mem_cons_self, heq ▸ htext, ha c hc⟩
      · refine ⟨d, List.mem_cons_of_mem _ (List.mem_filter.2 ⟨hd, ?_⟩), htext, hle⟩
        exact bne_iff_ne.2 heq

/-- Candidates with different texts have different ranks. -/
theorem pairwise_rank_lt (h : cs.Pairwise fun a b => a.rank slot ≤ b.rank slot)
    (hnodup : (cs.map (·.text)).Nodup) : cs.Pairwise fun a b => a.rank slot < b.rank slot :=
  (h.and (List.pairwise_map.1 hnodup)).imp fun h => lt_of_le_of_ne h.1 fun heq =>
    h.2 (text_eq_of_rank_eq heq)

/-! ## The best candidates -/

/-- The list holds the best candidates, at most `limit` many, that a source has for a typed text. -/
structure IsBest (slot : CompletionSlot) (source : Offer → Prop) (typed : Text) (replace : Range)
    (limit : Nat) (cs : List Candidate) : Prop where
  length_le : cs.length ≤ limit
  nodup : (cs.map (·.text)).Nodup
  ordered : cs.Pairwise fun a b => a.rank slot < b.rank slot
  offered : ∀ c ∈ cs, ∃ o, source o ∧ o.Continues typed ∧ c = o.toCandidate typed replace
  /-- A name that is offered more than once has the highest of its scores. -/
  score_le : ∀ c ∈ cs, ∀ o, source o → o.name = c.text → o.score typed ≤ c.score
  /-- A name is left out only if there is no room for it behind better ones. -/
  full : ∀ o, source o → o.Continues typed → o.name ∉ cs.map (·.text) →
    cs.length = limit ∧ ∀ c ∈ cs, c.rank slot < (o.toCandidate typed replace).rank slot

/-- What has the text of an offer is at least as good. -/
theorem exists_best (slot : CompletionSlot) (replace : Range) (ho : o ∈ offers)
    (h : o.Continues typed) : ∃ d ∈ distinct (sorted slot typed replace offers),
      d.text = o.name ∧ d.rank slot ≤ (o.toCandidate typed replace).rank slot :=
  exists_mem_distinct (pairwise_sorted slot typed replace offers) (mem_sorted.2 ⟨o, ho, h, rfl⟩)

/-- Sorting, thinning out and cutting off leaves the best candidates. -/
theorem isBest_take (slot : CompletionSlot) (offers : List Offer) (typed : Text) (replace : Range)
    (limit : Nat) : IsBest slot (· ∈ offers) typed replace limit
      ((distinct (sorted slot typed replace offers)).take limit) := by
  have hnodup := nodup_distinct (sorted slot typed replace offers)
  have hordered := pairwise_rank_lt
    ((pairwise_sorted slot typed replace offers).sublist (distinct_sublist _)) hnodup
  have htake := List.take_sublist limit (distinct (sorted slot typed replace offers))
  have hoffered : ∀ c ∈ (distinct (sorted slot typed replace offers)).take limit,
      ∃ o ∈ offers, o.Continues typed ∧ c = o.toCandidate typed replace := fun c hc =>
    mem_sorted.1 ((distinct_sublist _).subset (htake.subset hc))
  refine ⟨List.length_take_le _ _, (htake.map _).nodup hnodup, hordered.sublist htake, hoffered,
    fun c hc o ho hname => ?_, fun o ho h hout => ?_⟩
  · -- the best candidate with this text is the only one that was kept
    obtain ⟨o', -, h', rfl⟩ := hoffered c hc
    have h : o.Continues typed := h'.of_name_eq hname
    obtain ⟨d, hd, htext, hle⟩ := exists_best slot replace ho h
    obtain rfl := List.inj_on_of_nodup_map hnodup hd (htake.subset hc) (htext.trans hname)
    exact score_le_of_rank_le hle
  · -- the best candidate with this text was cut off
    obtain ⟨d, hd, htext, hle⟩ := exists_best slot replace ho h
    rw [← List.take_append_drop limit (distinct (sorted slot typed replace offers))] at hd hordered
    rcases List.mem_append.1 hd with hd | hd
    · exact absurd (List.mem_map.2 ⟨d, hd, htext⟩) hout
    · have hlimit : limit < (distinct (sorted slot typed replace offers)).length := by
        refine Nat.lt_of_not_le fun hle => ?_
        rw [List.drop_eq_nil_of_le hle] at hd
        cases hd
      refine ⟨List.length_take_of_le (Nat.le_of_lt hlimit), fun c hc => ?_⟩
      exact lt_of_lt_of_le ((List.pairwise_append.1 hordered).2.2 c hc d hd) hle

end Candidate

/-! ## Completions -/

theorem isBest_offers (table : InstructionTable) (x : SymbolIndex) (t : Text) (tokens : List Token)
    (p : Position) (limit : Nat) :
    let col := min p.col t.length
    let context := CompletionContext.ofLine table t tokens col
    Candidate.IsBest context.slot (· ∈ context.slot.offers table x.all) (t.slice context.start col)
      (.onLine p.line context.start col) limit (completions table x t tokens p limit) :=
  Candidate.isBest_take ..

end LogicEditor
