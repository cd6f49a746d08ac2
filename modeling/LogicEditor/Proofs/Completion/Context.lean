import LogicEditor.Completion
import LogicEditor.Proofs.Language.Regular
import LogicEditor.Proofs.Language.Site

/-!
# The context of a cursor

The slot at a cursor is found from tokens, and the tokens from lexemes with the opcode in view. Both
come to the same opcode (`CompletionContext.instruction?_tokenize`) and to the same word: unless the
cursor is in something closed, the word to complete stands at a site, and the slot is that of the word
that starts there (`CompletionContext.exists_site`).
-/

namespace LogicEditor
namespace CompletionContext

open Lexeme

variable {table : InstructionTable} {t : Text} {l : Lexeme} {u : Token} {i : Instruction} {col n : Nat}

/-! ## The opcode of a line -/

/-- In a line without an opcode only constants are keywords. -/
theorem isConstant_of_keyword (h : lineOpcode? table t = none) (hu : u ∈ tokenize table t)
    (hkeyword : u.kind = .keyword) : table.isConstant (String.ofList (u.text t)) = true := by
  rw [tokenize, List.mem_flatMap] at hu
  obtain ⟨l, hl, hu⟩ := hu
  rw [h] at hu
  have H := tokens_tokens table none l
  generalize l.tokens table none = us at hu H
  cases H with
  | comment | string =>
    obtain rfl := List.mem_singleton.1 hu
    cases hkeyword
  | label =>
    simp only [labelTokens, List.mem_cons, List.not_mem_nil, or_false] at hu
    rcases hu with rfl | rfl <;> cases hkeyword
  | opcode _ hhead hi =>
    rw [lineOpcode?, head?_eq_of_isHead hl hhead, Option.bind_some, hi] at h
    cases h
  | plain hk =>
    obtain rfl := List.mem_singleton.1 hu
    have htext : (l.plainToken table none).text t = l.text := text_toToken hl _ _
    have hnone : l.argument? none = none := by
      rw [Lexeme.argument?]
      split <;> rfl
    have hclass : (classify table (l.argument? none) l.text).1 = .keyword := hkeyword
    rw [hnone] at hclass
    rw [htext]
    exact isConstant_of_classify hclass

/-- Completion finds the opcode of a line again. -/
theorem instruction?_of_lineOpcode? (h : lineOpcode? table t = some i) :
    instruction? table t (tokenize table t) = some i := by
  obtain ⟨l, us, hl, hk, hword, hlookup, hus⟩ := exists_cons_of_lineOpcode? h
  rw [instruction?, hus, List.find?_cons_of_pos (by simp [toToken, hword]), Option.bind_some,
    text_toToken hl, hlookup]

/-- The keyword of the first word that completion goes by is the opcode of the line. -/
theorem instruction?_tokenize (R : table.Regular) (t : Text) :
    instruction? table t (tokenize table t) = lineOpcode? table t := by
  cases h : lineOpcode? table t with
  | some i => exact instruction?_of_lineOpcode? h
  | none =>
    rw [instruction?, Option.bind_eq_none_iff]
    intro u hu
    have hkeyword := List.find?_some hu
    rw [Bool.and_eq_true, beq_iff_eq, beq_iff_eq] at hkeyword
    exact R.lookup_eq_none (isConstant_of_keyword h (List.mem_of_find?_eq_some hu) hkeyword.2)

/-! ## The word at a column -/

theorem foldl_max_eq {ns : List Nat} (hle : ∀ m ∈ ns, m ≤ n) (hmem : n ∈ 0 :: ns) :
    ns.foldl max 0 = n := by
  have hmax : (0 :: ns).max? = some n :=
    List.max?_eq_some_iff.2 ⟨hmem, List.forall_mem_cons.2 ⟨Nat.zero_le n, hle⟩⟩
  rw [List.max?_cons'] at hmax
  exact Option.some.inj hmax

/-- In a gap the next word is counted right. -/
theorem wordAt_tokenize (table : InstructionTable) {pre : Text} {ls : List Lexeme} {e : Place}
    (H : Reads .origin pre ls e) (post : Text) :
    wordAt (tokenize table (pre ++ post)) e.col = e.next := by
  obtain ⟨-, hnil, hlt, hlast⟩ := H.words
  have hscan : Lexeme.ofLine (pre ++ post) = ls ++ e.scan post := H.scan post
  refine foldl_max_eq (fun m hm => ?_) ?_
  · obtain ⟨u, hu, rfl⟩ := List.mem_map.1 hm
    rw [List.mem_filter, decide_eq_true_eq, tokenize, List.mem_flatMap] at hu
    obtain ⟨⟨l, hl, hu⟩, hstop⟩ := hu
    have hwithin := within_of_mem (text_ne_nil hl) hu
    rw [hscan] at hl
    rcases List.mem_append.1 hl with hl | hl
    · have := hlt l hl
      omega
    · have := (follows_of_mem hl).start
      omega
  · by_cases hls : ls = []
    · rw [hnil hls]
      exact List.mem_cons_self
    · obtain ⟨l, hl, hword⟩ := hlast hls
      have hmem : l ∈ Lexeme.ofLine (pre ++ post) := hscan ▸ List.mem_append_left _ hl
      have hpos := List.length_pos_iff.2 (text_ne_nil hmem)
      obtain ⟨u, hu, -⟩ := exists_token_at table (lineOpcode? table (pre ++ post))
        (l := l) (Nat.lt_add_of_pos_right hpos) (Nat.le_refl _)
      have hwithin := within_of_mem (text_ne_nil hmem) hu
      have hstop := H.stop_le hl
      refine List.mem_cons_of_mem _ (List.mem_map.2 ⟨u, List.mem_filter.2 ⟨?_, ?_⟩, ?_⟩)
      · exact List.mem_flatMap.2 ⟨l, hmem, hu⟩
      · exact decide_eq_true (Nat.le_trans hwithin.2.2.2 hstop)
      · rw [hwithin.1, hword]

/-! ## Sites -/

theorem endsFragment_drop (hspace : ∀ c, t[col]? = some c → Text.isSpace c = true) :
    EndsFragment (t.drop col) := by
  intro c hc
  rw [List.head?_drop] at hc
  simp [isFragmentPart, hspace c hc]

/-- No fragment goes past a column with white space. -/
theorem stop_le_of_isSpace (hspace : ∀ c, t[col]? = some c → Text.isSpace c = true)
    (hl : l ∈ Lexeme.ofLine t) (hk : l.kind = .fragment) (h : l.start ≤ col) : l.stop ≤ col := by
  obtain ⟨pre, post, ht, hpre, hw⟩ := exists_split_of_fragment hl hk
  refine Nat.not_lt.1 fun hlt => ?_
  obtain ⟨n, rfl⟩ := Nat.exists_eq_add_of_le h
  have hn : n < l.text.length := Nat.lt_of_add_lt_add_left hlt
  have hc : t[l.start + n]? = some l.text[n] := by
    rw [ht, ← hpre, List.getElem?_append_right (Nat.le_add_right _ _), Nat.add_sub_cancel_left,
      List.getElem?_append_left hn, List.getElem?_eq_getElem hn]
  have hpart := hw.2 _ (List.getElem_mem hn)
  rw [isFragmentPart_iff, hspace _ hc] at hpart
  cases hpart.1

theorem site_of_fragment (hspace : ∀ c, t[col]? = some c → Text.isSpace c = true)
    (hl : l ∈ Lexeme.ofLine t) (hk : l.kind = .fragment) (h1 : l.start < col) (h2 : col ≤ l.stop) :
    ∃ ls, Site (t.take l.start) (t.drop col) ls ⟨l.start, l.word, !l.isFirst⟩ := by
  have hstop : l.stop = col := Nat.le_antisymm (stop_le_of_isSpace hspace hl hk (Nat.le_of_lt h1)) h2
  obtain ⟨pre, post, ls, rfl, H, -⟩ :=
    exists_reads_of_fragment (show l ∈ Place.origin.scan t from hl) hk
  have hpre : l.start = pre.length := H.col.trans (Nat.zero_add _)
  refine ⟨ls, ?_, endsFragment_drop hspace⟩
  rwa [hpre, List.take_left, ← hpre]

theorem site_of_gap (table : InstructionTable) (hcol : col ≤ t.length)
    (hspace : ∀ c, t[col]? = some c → Text.isSpace c = true)
    (hgap : ∀ l ∈ Lexeme.ofLine t, l.start < col → l.stop < col) :
    ∃ ls e, Site (t.take col) (t.drop col) ls e ∧ e.col = col ∧
      wordAt (tokenize table t) col = e.word := by
  obtain ⟨ls, e, H, hin⟩ := exists_reads_of_gap (s := .origin) hcol (by
    rw [show Place.origin.col = 0 from rfl, Nat.zero_add]
    exact hgap)
  have S : Site (t.take col) (t.drop col) ls e := ⟨H, endsFragment_drop hspace⟩
  have hout : e.inWord = false := Bool.eq_false_iff.2 fun h => Bool.false_ne_true (hin h).1
  have he : e.col = col := S.col_eq.trans (List.length_take_of_le hcol)
  have hword := wordAt_tokenize table H (t.drop col)
  rw [List.take_append_drop, he, Place.next, hout, if_neg Bool.false_ne_true] at hword
  exact ⟨ls, e, S, he, hword⟩

/-- The word to complete stands at a site, and the slot is that of the word which starts there. -/
theorem exists_site (table : InstructionTable) (hcol : col ≤ t.length)
    (hspace : ∀ c, t[col]? = some c → Text.isSpace c = true) :
    (ofLine table t (tokenize table t) col).slot = .nothing ∨
    ∃ ls e, e.col ≤ col ∧ Site (t.take e.col) (t.drop col) ls e ∧
      ofLine table t (tokenize table t) col =
        ⟨slotOfWord table t (tokenize table t) e.word, e.col⟩ := by
  rw [ofLine]
  cases hu : tokenAt? (tokenize table t) col with
  | some u =>
    have hat := List.find?_some hu
    have hmem := List.mem_of_find?_eq_some hu
    rw [Bool.and_eq_true, decide_eq_true_eq, decide_eq_true_eq] at hat
    rw [tokenize, List.mem_flatMap] at hmem
    obtain ⟨l, hl, hmem⟩ := hmem
    simp only []
    split
    · exact .inl rfl
    rename_i hopen
    refine .inr ?_
    have H := tokens_tokens table (lineOpcode? table t) l
    generalize l.tokens table (lineOpcode? table t) = us at hmem H
    cases H with
    | comment | string =>
      obtain rfl := List.mem_singleton.1 hmem
      exact absurd rfl hopen
    | opcode hk | plain hk =>
      obtain rfl := List.mem_singleton.1 hmem
      obtain ⟨ls, S⟩ := site_of_fragment hspace hl hk hat.1 hat.2
      exact ⟨ls, ⟨l.start, l.word, !l.isFirst⟩, Nat.le_of_lt hat.1, S, rfl⟩
    | label hk _ hname =>
      simp only [labelTokens, List.mem_cons, List.not_mem_nil, or_false] at hmem
      rcases hmem with rfl | rfl
      · -- the colon behind the name is no white space
        have hstop := stop_le_of_isSpace hspace hl hk (Nat.le_of_lt hat.1)
        have hlabel := (length_of_labelName? hname).2
        have : col ≤ l.stop - 1 := hat.2
        omega
      · exact absurd rfl hopen
  | none =>
    refine .inr ?_
    obtain ⟨ls, e, S, rfl, hword⟩ := site_of_gap table hcol hspace fun l hl h1 => by
      refine Nat.not_le.1 fun h2 => ?_
      obtain ⟨u, hmem, hbefore, hafter⟩ :=
        exists_token_at table (lineOpcode? table t) h1 h2
      have := List.find?_eq_none.1 hu u (List.mem_flatMap.2 ⟨l, hl, hmem⟩)
      simp [hbefore, hafter] at this
    exact ⟨ls, e, Nat.le_refl _, S, by rw [hword]⟩

end CompletionContext
end LogicEditor
