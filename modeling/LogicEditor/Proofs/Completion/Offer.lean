import LogicEditor.Proofs.Completion.Context
import LogicEditor.Proofs.Completion.Ranking
import LogicEditor.Proofs.Symbol.Ledger

/-!
# The categories of offers

What is offered for a slot, put in there, is lexed as one token. Its category is the one that the offer
has, with two exceptions (`CandidateKind.Misread`): a word that goes on behind a string names no opcode
and fills no argument, and a label may have the name of a constant.
-/

namespace LogicEditor

open Lexeme Word

variable {table : InstructionTable} {symbols : List Symbol} {s : Symbol} {o : Offer} {a : Argument}
  {arg? : Option Argument} {i : Instruction} {pre post rest : Text} {ls : List Lexeme} {e : Place}
  {name : String}

/-! ## Symbols -/

/-- The symbol can be typed as one word, and only a label may have the name of a constant. -/
structure Symbol.IsName (table : InstructionTable) (s : Symbol) : Prop where
  name : LogicEditor.IsName s.name.toList
  constant : s.kind ≠ .label → table.isConstant s.name = false

/-- What lines mention are names, so symbols are. -/
theorem Ledger.Describes.isName {L : Ledger} (H : L.Describes s) (hs : s.name ∈ L.names)
    (hL : ∀ id, ∀ m ∈ L.mentions id, m.IsName table) : s.IsName table := by
  obtain ⟨k, id, role, hrole, hm⟩ := hs
  refine ⟨(hL id _ hm).name, fun hkind => (hL id _ hm).constant ?_⟩
  have hlabel : ¬L.Has s.name .label := by
    have := H.kind
    cases hk : s.kind with
    | label => exact absurd hk hkind
    | «variable» | implicit =>
      rw [hk] at this
      exact this.1
  rintro rfl
  exact hlabel ⟨id, .labelDef, rfl, hm⟩

/-! ## Misread offers -/

/-- Behind a text the name is taken for something else than it is offered as: an opcode or a choice
goes on a word there, or a label has the name of a constant. -/
def CandidateKind.Misread (table : InstructionTable) (pre : Text) (name : String) :
    CandidateKind → Prop
  | .opcode | .constant => pre.getLast? = some '"'
  | .label => table.isConstant name = true
  | .opcodeName | .variable | .implicit | .builtin => False

/-! ## Words past the first -/

/-- Behind a text, in a word that fills an argument or none, the name is a fragment. It has the
category of the offer, unless the offer is misread. -/
structure Offer.Suits (table : InstructionTable) (arg? : Option Argument) (pre : Text) (o : Offer) :
    Prop where
  fragment : IsFragment o.name.toList
  kind : (classify table arg? o.name.toList).1 = o.kind.tokenKind ↔ ¬o.kind.Misread table pre o.name

/-- A symbol is a name, unless it is a label and a constant. -/
theorem suits_ofSymbol (H : s.IsName table) (harg : ∀ a ∈ arg?, a.kind ≠ .constant) :
    (Offer.ofSymbol s).Suits table arg? pre where
  fragment := H.name.1
  kind := by
    show _ = (CandidateKind.ofSymbol s.kind).tokenKind ↔
      ¬(CandidateKind.ofSymbol s.kind).Misread table pre s.name
    rw [Offer.ofSymbol, fst_classify H.name.2 harg, String.ofList_toList]
    cases hk : s.kind with
    | label =>
      show _ = TokenKind.identifier ↔ ¬table.isConstant s.name = true
      split <;> simp [*]
    | «variable» | implicit =>
      rw [H.constant (by simp [hk])]
      exact iff_of_true rfl not_false

theorem suits_ofBuiltin (R : table.Regular) {b : String} (hb : b ∈ table.builtins) :
    (Offer.ofBuiltin b).Suits table arg? pre where
  fragment := (R.builtin b hb).1
  kind := by
    rw [Offer.ofBuiltin, classify_of_isBuiltin (R.builtin b hb).2]
    exact iff_of_true rfl not_false

theorem kind_of_isWord (h : table.IsWord name) :
    (classify table none name.toList).1 = .identifier := by
  have harg : ∀ a ∈ (none : Option Argument), a.kind ≠ .constant :=
    fun a ha => absurd ha (Option.not_mem_none a)
  rw [fst_classify h.1.2 harg, String.ofList_toList, h.2, if_neg Bool.false_ne_true]

theorem suits_opcodeName (R : table.Regular) (hi : i ∈ table.opcodes) :
    (Offer.ofInstruction .opcodeName i).Suits table none pre where
  fragment := (R.opcode i hi).1.1
  kind := iff_of_true (kind_of_isWord (R.opcode i hi)) not_false

/-- A choice is read as one only if it starts its word. -/
theorem suits_ofChoice (h : table.IsWord name) (hk : a.kind = .constant) (hc : name ∈ a.choices)
    (harg : (pre.getLast? = some '"' ∧ arg? = none) ∨ (pre.getLast? ≠ some '"' ∧ arg? = some a)) :
    (Offer.ofChoice name).Suits table arg? pre where
  fragment := h.1.1
  kind := by
    rcases harg with ⟨hglued, rfl⟩ | ⟨hfree, rfl⟩
    · refine iff_of_false (fun h' => ?_) (not_not_intro hglued)
      cases (kind_of_isWord h).symm.trans h'
    · have haccepts : a.accepts name = true := by simp [Argument.accepts, hk, hc]
      refine iff_of_true ?_ hfree
      rw [Offer.ofChoice, classify_some h.1.2, if_pos hk, String.ofList_toList, haccepts, if_pos rfl]
      rfl

/-- The offers for an argument, in a word that starts there or goes on. -/
theorem suits_of_mem_argumentOffers (R : table.Regular) (hs : ∀ s ∈ symbols, s.IsName table)
    (hi : i ∈ table.opcodes) (ha : a ∈ i.arguments)
    (ho : o ∈ CompletionSlot.argumentOffers table symbols a)
    (harg : (pre.getLast? = some '"' ∧ arg? = none) ∨ (pre.getLast? ≠ some '"' ∧ arg? = some a)) :
    o.Suits table arg? pre := by
  have symbol (h : a.kind ≠ .constant) {p : Symbol → Bool}
      (ho : o ∈ (symbols.filter p).map .ofSymbol) : o.Suits table arg? pre := by
    obtain ⟨s, hmem, rfl⟩ := List.mem_map.1 ho
    refine suits_ofSymbol (hs s (List.mem_of_mem_filter hmem)) fun b hb => ?_
    rcases harg with ⟨-, rfl⟩ | ⟨-, rfl⟩
    · cases hb
    · cases hb
      exact h
  rw [CompletionSlot.argumentOffers] at ho
  cases hk : a.kind with
  | label | output =>
    simp only [hk] at ho
    exact symbol (by simp [hk]) ho
  | value =>
    simp only [hk] at ho
    rcases List.mem_append.1 ho with ho | ho
    · exact symbol (by simp [hk]) ho
    · obtain ⟨b, hb, rfl⟩ := List.mem_map.1 ho
      exact suits_ofBuiltin R hb
  | constant =>
    simp only [hk] at ho
    obtain ⟨c, hc, rfl⟩ := List.mem_map.1 ho
    exact suits_ofChoice (R.choice i hi a ha c hc) hk hc harg

/-- The offers for a word that fills no argument. -/
theorem suits_of_mem_anywhere (R : table.Regular) (hs : ∀ s ∈ symbols, s.IsName table)
    (ho : o ∈ CompletionSlot.offers table symbols .anywhere) : o.Suits table none pre := by
  rcases List.mem_append.1 ho with ho | ho
  · obtain ⟨s, hmem, rfl⟩ := List.mem_map.1 ho
    exact suits_ofSymbol (hs s hmem) fun a ha => absurd ha (Option.not_mem_none a)
  · obtain ⟨i, hi, rfl⟩ := List.mem_map.1 ho
    exact suits_opcodeName R hi

/-! ## Tokens of offers -/

theorem mem_opcodes_of_lineOpcode? {t : Text} (h : lineOpcode? table t = some i) :
    i ∈ table.opcodes := by
  obtain ⟨l, -, hi⟩ := Option.bind_eq_some_iff.1 h
  exact (InstructionTable.mem_of_lookup (opcode?_eq_some.1 hi).2.2).1

/-- The token of a word that is not the head of its line. -/
theorem exists_plainToken {w : Text} {opcode? : Option Instruction} {kind : TokenKind} {p : Prop}
    (hhead : e.word = 0 → e.inWord = true)
    (hkind : (classify table (if e.inWord then none else opcode?.bind (·.argumentOfWord? e.word))
      w).1 = kind ↔ p) :
    ∃ u, (e.lexeme .fragment w).tokens table opcode? = [u] ∧ u.span = ⟨e.col, e.col + w.length⟩ ∧
      (u.kind = kind ↔ p) := by
  have hnot : (e.lexeme .fragment w).isHead = false := by
    cases hin : e.inWord <;> simp_all [isHead, Place.lexeme]
  have harg : (e.lexeme .fragment w).argument? opcode? =
      if e.inWord then none else opcode?.bind (·.argumentOfWord? e.word) := by
    cases hin : e.inWord <;> simp [Lexeme.argument?, Place.lexeme, hin]
  refine ⟨_, tokens_of_isHead_eq_false rfl hnot, rfl, ?_⟩
  rw [← harg] at hkind
  exact hkind

/-- The opcodes that are offered for a first word. -/
theorem exists_token_of_opcode (R : table.Regular) (S : Site pre post ls e) (hword : e.word = 0)
    (hi : i ∈ table.opcodes) (opcode? : Option Instruction) :
    ∃ u, (e.lexeme .fragment i.name.toList).tokens table opcode? = [u] ∧
      u.span = ⟨e.col, e.col + i.name.toList.length⟩ ∧
      (u.kind = .keyword ↔ ¬pre.getLast? = some '"') := by
  rw [← S.inWord_iff]
  cases hin : e.inWord with
  | false =>
    have hhead : (e.lexeme .fragment i.name.toList).isHead = true := by
      simp [isHead, Place.lexeme, hword, hin]
    refine ⟨_, tokens_of_isHead rfl hhead (R.unlabelled i hi) ?_, rfl,
      iff_of_true rfl Bool.false_ne_true⟩
    show (table.lookup (String.ofList i.name.toList)).isSome = true
    rw [String.ofList_toList]
    exact InstructionTable.isSome_lookup hi
  | true =>
    refine exists_plainToken (fun _ => hin) ?_
    rw [hin, if_pos rfl, kind_of_isWord (R.opcode i hi)]
    exact iff_of_false (by decide) (not_not_intro rfl)

/-- What is offered at a site is read as one token there. It has the category of the offer, unless the
offer is misread. -/
theorem exists_token_of_offer (R : table.Regular) (S : Site pre post ls e)
    (hs : ∀ s ∈ symbols, s.IsName table)
    (ho : o ∈ (CompletionContext.slotOfWord table (pre ++ rest) (tokenize table (pre ++ rest))
      e.word).offers table symbols) :
    IsFragment o.name.toList ∧ ∃ u,
      (e.lexeme .fragment o.name.toList).tokens table
        (lineOpcode? table (pre ++ (o.name.toList ++ post))) = [u] ∧
      u.span = ⟨e.col, e.col + o.name.toList.length⟩ ∧
      (u.kind = o.kind.tokenKind ↔ ¬o.kind.Misread table pre o.name) := by
  rw [CompletionContext.slotOfWord] at ho
  by_cases hword : e.word = 0
  · rw [if_pos hword] at ho
    obtain ⟨i, hi, rfl⟩ := List.mem_map.1 ho
    exact ⟨(R.opcode i hi).1.1, exists_token_of_opcode R S hword hi _⟩
  · -- the new word does not change the opcode, so the slot is still what it was
    rw [if_neg hword, CompletionContext.instruction?_tokenize R] at ho
    rw [S.lineOpcode?_congr (v := o.name.toList ++ post) (w := rest) hword]
    have hhead : e.word = 0 → e.inWord = true := fun h => absurd h hword
    cases harg : (lineOpcode? table (pre ++ rest)).bind (·.argumentOfWord? e.word) with
    | none =>
      rw [harg] at ho
      have H : o.Suits table none pre := suits_of_mem_anywhere R hs ho
      refine ⟨H.fragment, exists_plainToken hhead ?_⟩
      rw [harg, ite_self]
      exact H.kind
    | some a =>
      rw [harg] at ho
      obtain ⟨i, hi, ha⟩ := Option.bind_eq_some_iff.1 harg
      have hmem := mem_opcodes_of_lineOpcode? hi
      have hslot : (pre.getLast? = some '"' ∧ (if e.inWord then none else some a) = none) ∨
          (pre.getLast? ≠ some '"' ∧ (if e.inWord then none else some a) = some a) := by
        rw [Ne, ← S.inWord_iff]
        cases e.inWord <;> simp
      have H := suits_of_mem_argumentOffers R hs hmem (Instruction.mem_of_argumentOfWord? ha) ho hslot
      refine ⟨H.fragment, exists_plainToken hhead ?_⟩
      rw [harg]
      exact H.kind

/-! ## Tokens of candidates -/

section
variable {x : SymbolIndex} {t : Text} {tokens : List Token} {p : Position} {limit : Nat}
  {c : Candidate}

/-- The candidates before they are ranked. -/
def candidates (table : InstructionTable) (x : SymbolIndex) (t : Text) (tokens : List Token)
    (p : Position) : List Candidate :=
  let context := CompletionContext.ofLine table t tokens p.col
  let typed := t.slice context.start p.col
  ((context.slot.offers table x.all).filter (·.completes typed)).map
    (·.toCandidate typed (.onLine p.line context.start p.col))

theorem completions_eq (hcol : p.col ≤ t.length) : completions table x t tokens p limit =
    (Candidate.distinct ((candidates table x t tokens p).mergeSort (Candidate.ranked
      (CompletionContext.ofLine table t tokens p.col).slot))).take limit := by
  rw [completions, Nat.min_eq_left hcol]
  rfl

/-- If all names differ and there is room, ranking leaves no candidate out. -/
theorem mem_completions (hcol : p.col ≤ t.length)
    (hnodup : ((candidates table x t tokens p).map (·.text)).Nodup)
    (hlimit : (candidates table x t tokens p).length ≤ limit) :
    c ∈ completions table x t tokens p limit ↔ c ∈ candidates table x t tokens p := by
  have hperm := List.mergeSort_perm (candidates table x t tokens p)
    (Candidate.ranked (CompletionContext.ofLine table t tokens p.col).slot)
  rw [completions_eq hcol, Candidate.distinct_eq_self ((hperm.map _).nodup_iff.2 hnodup),
    List.take_of_length_le (hperm.length_eq ▸ hlimit), hperm.mem_iff]

/-- A candidate is an offer for the slot at the position that goes on with the typed word, and replaces
the word up to there. -/
theorem exists_offer (hcol : p.col ≤ t.length) (hc : c ∈ completions table x t tokens p limit) :
    ∃ o ∈ (CompletionContext.ofLine table t tokens p.col).slot.offers table x.all,
      o.completes (t.slice (CompletionContext.ofLine table t tokens p.col).start p.col) = true ∧
      c = o.toCandidate (t.slice (CompletionContext.ofLine table t tokens p.col).start p.col)
        (.onLine p.line (CompletionContext.ofLine table t tokens p.col).start p.col) := by
  have H := isBest_offers table x t tokens p limit
  simp only [Nat.min_eq_left hcol] at H
  obtain ⟨o, ho, hcontinues, rfl⟩ := H.offered c hc
  exact ⟨o, ho, Offer.completes_iff.2 hcontinues, rfl⟩

/-- Where the name of a candidate takes the place of the typed word, one token starts. It is the name,
and has the category of the candidate unless the candidate is misread. -/
theorem exists_token_of_candidate (R : table.Regular) (hs : ∀ s ∈ x.all, s.IsName table)
    (hcol : p.col ≤ t.length) (hspace : ∀ c, t[p.col]? = some c → Text.isSpace c = true)
    (hc : c ∈ completions table x t (tokenize table t) p limit) :
    ∃ start ≤ p.col, c.replace = .onLine p.line start p.col ∧ IsFragment c.text.toList ∧
      ∃ u ∈ tokenize table (t.take start ++ (c.text.toList ++ t.drop p.col)),
        u.span = ⟨start, start + c.text.length⟩ ∧
        (∀ v ∈ tokenize table (t.take start ++ (c.text.toList ++ t.drop p.col)),
          v.span.start = start → v = u) ∧
        (u.kind = c.kind.tokenKind ↔ ¬c.kind.Misread table (t.take start) c.text) := by
  obtain ⟨o, ho, -, rfl⟩ := exists_offer hcol hc
  rcases CompletionContext.exists_site table hcol hspace with h | ⟨ls, e, hle, S, h⟩
  · rw [h] at ho
    cases ho
  · rw [h] at ho ⊢
    have ho' : o ∈ (CompletionContext.slotOfWord table (t.take e.col ++ t.drop e.col)
        (tokenize table (t.take e.col ++ t.drop e.col)) e.word).offers table x.all := by
      rwa [List.take_append_drop]
    obtain ⟨hfragment, u, hu, hspan, hiff⟩ := exists_token_of_offer R S hs ho'
    rw [← String.length_toList]
    refine ⟨e.col, hle, rfl, hfragment, u, ?_, hspan, fun v hv hstart => ?_, hiff⟩
    · exact S.mem_tokenize hfragment (hu ▸ List.mem_singleton_self u)
    · exact List.mem_singleton.1 (hu ▸ S.mem_tokens hfragment hv hstart)

end

end LogicEditor
