import LogicEditor.Proofs.Completion.Offer
import LogicEditor.Proofs.Language.Role

/-!
# The slot of a name

A name gets its role while the line is read, from the argument that its word fills. Completion reads
the argument off the finished tokens. At the end of a name the two agree, whatever the table: the token
at the cursor is the name itself (`CompletionContext.tokenAt?_eq`), and the opcode and the word count
are those it was read with (`CompletionContext.ofLine_stop`). So what is offered there could have the
role of the name (`completions_stop`).
-/

namespace LogicEditor

open Lexeme

variable {table : InstructionTable} {line : Text} {us : List Token} {u : Token} {i : Instruction}
  {a : Argument} {role : SymbolRole} {symbols : List Symbol} {o : Offer} {n col : Nat}

/-! ## The context at the end of a name -/

/-- The argument that a name fills, if it declares no label. -/
theorem exists_argument_of_name (hu : u ∈ tokenize table line) (hrole : u.role = some role)
    (hne : role ≠ .labelDef) : ∃ i a, lineOpcode? table line = some i ∧
      i.argumentOfWord? u.word = some a ∧ a.kind.role? = some role ∧ u.kind = .identifier := by
  obtain ⟨l, -, -, ⟨name, -, -, rfl, -⟩ | rfl⟩ := exists_origin_of_role hu hrole
  · exact absurd rfl hne
  · obtain ⟨a, ha, hkind⟩ := exists_argument_of_role hrole
    obtain ⟨-, i, hi, harg⟩ := argument?_eq_some.1 ha
    exact ⟨i, a, hi, harg, hkind, fst_classify_of_role hrole⟩

namespace CompletionContext

/-- A cursor in a token or at its end is in no token before it. -/
theorem tokenAt?_eq (P : Partition line us) (hu : u ∈ us) (hstart : u.span.start < col)
    (hstop : col ≤ u.span.stop) : tokenAt? us col = some u := by
  obtain ⟨before, after, rfl⟩ := List.append_of_mem hu
  refine List.find?_eq_some_iff_append.2 ⟨?_, before, after, rfl, fun v hv => ?_⟩
  · simp [hstart, hstop]
  · have hordered := (List.pairwise_append.1 P.ordered).2.2 v hv u List.mem_cons_self
    have hlt : v.span.stop < col := Nat.lt_of_le_of_lt hordered.2 hstart
    simp [Nat.not_le.2 hlt]

theorem slotOfWord_of_argument (hi : lineOpcode? table line = some i)
    (ha : i.argumentOfWord? n = some a) :
    slotOfWord table line (tokenize table line) n = .argument a := by
  have hn : n ≠ 0 := by
    rintro rfl
    cases ha
  rw [slotOfWord, if_neg hn, instruction?_of_lineOpcode? hi, Option.bind_some, ha]

/-- In a token that fills an argument the slot is the argument, and the word starts with the token. -/
theorem ofLine_of_argument (hu : u ∈ tokenize table line) (hstart : u.span.start < col)
    (hstop : col ≤ u.span.stop) (hopen : isClosed u.kind = false)
    (hi : lineOpcode? table line = some i) (ha : i.argumentOfWord? u.word = some a) :
    ofLine table line (tokenize table line) col = ⟨.argument a, u.span.start⟩ := by
  rw [ofLine, tokenAt?_eq (tiles_tokenize table line).partition hu hstart hstop]
  simp only [hopen, Bool.false_eq_true, if_false, slotOfWord_of_argument hi ha]

/-- The slot at the end of a name is the argument that gave the name its role. -/
theorem ofLine_stop (hu : u ∈ tokenize table line) (hrole : u.role = some role)
    (hne : role ≠ .labelDef) : ∃ a, a.kind.role? = some role ∧
      ofLine table line (tokenize table line) u.span.stop = ⟨.argument a, u.span.start⟩ := by
  obtain ⟨i, a, hi, ha, hkind, hidentifier⟩ := exists_argument_of_name hu hrole hne
  have hpos := ((tiles_tokenize table line).partition.inside u hu).1
  exact ⟨a, hkind, ofLine_of_argument hu hpos (Nat.le_refl _) (hidentifier ▸ rfl) hi ha⟩

end CompletionContext

/-! ## Offers in the place of a name -/

/-- The candidate is a name that could take the place of one with the role: a label for a jump target,
another symbol for a variable, and where a variable is read also a built-in one. -/
inductive Candidate.SuitsRole (table : InstructionTable) (symbols : List Symbol) (c : Candidate) :
    SymbolRole → Prop
  | target {s : Symbol} (hs : s ∈ symbols) (hlabel : s.kind = .label) (htext : c.text = s.name)
      (hkind : c.kind = .label) : SuitsRole table symbols c .labelRef
  | assigned {s : Symbol} (hs : s ∈ symbols) (hlabel : s.kind ≠ .label) (htext : c.text = s.name)
      (hkind : c.kind = .ofSymbol s.kind) : SuitsRole table symbols c .variableDef
  | read {s : Symbol} (hs : s ∈ symbols) (hlabel : s.kind ≠ .label) (htext : c.text = s.name)
      (hkind : c.kind = .ofSymbol s.kind) : SuitsRole table symbols c .variableRef
  | builtin (htext : c.text ∈ table.builtins) (hkind : c.kind = .builtin) :
    SuitsRole table symbols c .variableRef

theorem suitsRole_of_mem_argumentOffers (typed : Text) (replace : Range)
    (hkind : a.kind.role? = some role) (ho : o ∈ CompletionSlot.argumentOffers table symbols a) :
    (o.toCandidate typed replace).SuitsRole table symbols role := by
  have symbol {p : Symbol → Bool} (ho : o ∈ (symbols.filter p).map .ofSymbol) :
      ∃ s ∈ symbols, p s = true ∧ o = .ofSymbol s := by
    obtain ⟨s, hs, rfl⟩ := List.mem_map.1 ho
    obtain ⟨hs, hp⟩ := List.mem_filter.1 hs
    exact ⟨s, hs, hp, rfl⟩
  rw [CompletionSlot.argumentOffers] at ho
  cases hk : a.kind with
  | label =>
    rw [hk] at hkind ho
    cases hkind
    obtain ⟨s, hs, hp, rfl⟩ := symbol ho
    have hlabel : s.kind = .label := beq_iff_eq.1 hp
    exact .target hs hlabel rfl (congrArg CandidateKind.ofSymbol hlabel)
  | output =>
    rw [hk] at hkind ho
    cases hkind
    obtain ⟨s, hs, hp, rfl⟩ := symbol ho
    exact .assigned hs (bne_iff_ne.1 hp) rfl rfl
  | value =>
    rw [hk] at hkind ho
    cases hkind
    rcases List.mem_append.1 ho with ho | ho
    · obtain ⟨s, hs, hp, rfl⟩ := symbol ho
      exact .read hs (bne_iff_ne.1 hp) rfl rfl
    · obtain ⟨b, hb, rfl⟩ := List.mem_map.1 ho
      exact .builtin hb rfl
  | constant =>
    rw [hk] at hkind
    cases hkind

/-- At the end of a name that declares no label, the name is the word to complete, the slot is the
argument that the name fills, and only names that suit its role are offered. -/
theorem completions_stop (hu : u ∈ tokenize table line) (hrole : u.role = some role)
    (hne : role ≠ .labelDef) : ∃ a, a.kind.role? = some role ∧
      CompletionContext.ofLine table line (tokenize table line) u.span.stop =
        ⟨.argument a, u.span.start⟩ ∧
      line.slice u.span.start u.span.stop = u.text line ∧
      ∀ (x : SymbolIndex) (n limit : Nat),
        ∀ c ∈ completions table x line (tokenize table line) ⟨n, u.span.stop⟩ limit,
          c.SuitsRole table x.all role ∧ ∃ o : Offer, o.completes (u.text line) = true ∧
            c = o.toCandidate (u.text line) (.onLine n u.span.start u.span.stop) := by
  obtain ⟨a, hkind, hcontext⟩ := CompletionContext.ofLine_stop hu hrole hne
  refine ⟨a, hkind, hcontext, rfl, fun x n limit c hc => ?_⟩
  have hstop : u.span.stop ≤ line.length := ((tiles_tokenize table line).partition.inside u hu).2
  obtain ⟨o, ho, hcompletes, rfl⟩ := exists_offer (p := ⟨n, u.span.stop⟩) hstop hc
  rw [hcontext] at ho hcompletes ⊢
  exact ⟨suitsRole_of_mem_argumentOffers _ _ hkind ho, o, hcompletes, rfl⟩

/-- A variadic opcode repeats its last argument, for the lexer and for completion. -/
theorem completions_stop_repeated :
    let line := "draw rect x \"a\" total".toList
    let u : Token := { span := ⟨16, 21⟩, kind := .identifier, role := some .variableRef, word := 4 }
    u ∈ tokenize .stock line ∧ SymbolRole.variableRef ≠ .labelDef ∧
      ∃ a : Argument, a.kind.role? = some .variableRef ∧
        CompletionContext.ofLine .stock line (tokenize .stock line) 21 = ⟨.argument a, 16⟩ ∧
        u.text line = "total".toList ∧
        ∀ (x : SymbolIndex) (n limit : Nat),
          ∀ c ∈ completions .stock x line (tokenize .stock line) ⟨n, 21⟩ limit,
            c.SuitsRole .stock x.all .variableRef := by
  intro line u
  have hu : u ∈ tokenize .stock line := by decide +kernel
  have hne : SymbolRole.variableRef ≠ .labelDef := by decide
  obtain ⟨a, hkind, hcontext, -, hoffers⟩ := completions_stop hu rfl hne
  exact ⟨hu, hne, a, hkind, hcontext, rfl, fun x n limit c hc => (hoffers x n limit c hc).1⟩

end LogicEditor
