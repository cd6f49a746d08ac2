import LogicEditor.Proofs.Language.Classify
import LogicEditor.Proofs.Language.Token
import LogicEditor.Symbol.Basic

/-!
# Tokens of a line

Where the fragments of a line stand in it, and what follows for its tokens: the names that a line
mentions can be typed as one word each (`Mention.IsName`).
-/

namespace LogicEditor

open Lexeme Word

variable {table : InstructionTable} {t pre w post : Text} {l : Lexeme} {u : Token} {m : Mention}
  {i : Instruction}

/-! ## Texts of tokens -/

theorem Text.slice_append : (pre ++ (w ++ post)).slice pre.length (pre.length + w.length) = w := by
  rw [Text.slice, List.drop_left, Nat.add_sub_cancel_left, List.take_left]

namespace Lexeme

theorem exists_split_of_fragment (h : l ∈ ofLine t) (hk : l.kind = .fragment) :
    ∃ pre post, t = pre ++ (l.text ++ post) ∧ pre.length = l.start ∧ IsFragment l.text := by
  obtain ⟨pre, post, ls, ht, H, hl, -⟩ :=
    exists_reads_of_fragment (show l ∈ Place.origin.scan t from h) hk
  exact ⟨pre, post, ht, (Nat.zero_add _).symm.trans H.col.symm, hl⟩

/-- The text of a token that spans a lexeme. -/
theorem text_toToken (h : l ∈ ofLine t) (kind : TokenKind) (role : Option SymbolRole) :
    (l.toToken kind role).text t = l.text := by
  obtain ⟨pre, post, rfl, hpre⟩ := exists_split_of_mem (show l ∈ Place.origin.scan t from h)
  have hpre : l.start = pre.length := hpre.trans (Nat.zero_add _)
  rw [Token.text, Text.sliceSpan, toToken, span, stop, hpre]
  exact Text.slice_append

theorem text_ne_nil (h : l ∈ ofLine t) : l.text ≠ [] :=
  (follows_of_mem (show l ∈ Place.origin.scan t from h)).text

/-! ## The opcode of a line -/

/-- Only the first lexeme of a line can be its head. -/
theorem head?_eq_of_isHead (hl : l ∈ Lexeme.ofLine t) (h : l.isHead = true) :
    (Lexeme.ofLine t).head? = some l := by
  rw [isHead, Bool.and_eq_true, Bool.and_eq_true, beq_iff_eq] at h
  have hpairwise : (Lexeme.ofLine t).Pairwise _ := pairwise_scan .origin t
  cases hls : Lexeme.ofLine t with
  | nil =>
    rw [hls] at hl
    cases hl
  | cons first ls =>
    rw [hls] at hl hpairwise
    rcases List.mem_cons.1 hl with rfl | hl
    · rfl
    · have := (List.rel_of_pairwise_cons hpairwise hl).2 h.2
      have : l.word = 0 := by simpa using h.1.2
      omega

end Lexeme

/-- The lexeme that names the opcode starts the tokens of its line. -/
theorem exists_cons_of_lineOpcode? (h : lineOpcode? table t = some i) : ∃ l us,
    l ∈ Lexeme.ofLine t ∧ l.kind = .fragment ∧ l.word = 0 ∧
      table.lookup (String.ofList l.text) = some i ∧
      tokenize table t = l.toToken .keyword :: us := by
  obtain ⟨l, hl, hi⟩ := Option.bind_eq_some_iff.1 h
  obtain ⟨ls, hls⟩ := List.head?_eq_some_iff.1 hl
  obtain ⟨hhead, hlabel, hlookup⟩ := opcode?_eq_some.1 hi
  rw [isHead, Bool.and_eq_true, Bool.and_eq_true, beq_iff_eq, beq_iff_eq] at hhead
  have hkeyword : l.tokens table (some i) = [l.toToken .keyword] := by
    simp [tokens, hhead.1.1, hlabel, hi]
  refine ⟨l, ls.flatMap (·.tokens table (some i)), List.mem_of_mem_head? hl, hhead.1.1, hhead.1.2,
    hlookup, ?_⟩
  rw [tokenize, h, hls, List.flatMap_cons, hkeyword, List.singleton_append]

/-! ## Names -/

/-- A text that can be typed as one word, without a fixed category. -/
def IsName (w : Text) : Prop := IsFragment w ∧ isPlain w = true

/-- A declared label is a name. -/
theorem isName_of_labelName? {name : Text} (hl : l ∈ ofLine t) (hk : l.kind = .fragment)
    (h : l.labelName? = some name) : IsName name ∧ t.slice l.start (l.stop - 1) = name := by
  obtain ⟨htext, hid⟩ := labelName?_eq_some.1 h
  obtain ⟨hpos, hstop⟩ := length_of_labelName? h
  obtain ⟨pre, post, rfl, hpre, hfrag⟩ := exists_split_of_fragment hl hk
  refine ⟨⟨⟨List.length_pos_iff.1 hpos, fun c hc => ?_⟩, isPlain_of_isIdentifier hid⟩, ?_⟩
  · exact hfrag.2 c (htext ▸ List.mem_append_left _ hc)
  · rw [hstop, Nat.add_sub_cancel, ← hpre, htext, List.append_assoc, Text.slice_append]

/-- What a mention contributes: a name, which is no constant unless a label is declared. -/
structure Mention.IsName (table : InstructionTable) (m : Mention) : Prop where
  name : LogicEditor.IsName m.name.toList
  constant : m.role ≠ .labelDef → table.isConstant m.name = false

theorem isName_of_mem_mentionsOf (h : m ∈ mentionsOf t (tokenize table t)) : m.IsName table := by
  rw [mentionsOf, List.mem_filterMap] at h
  obtain ⟨u, hu, hm⟩ := h
  rw [tokenize, List.mem_flatMap] at hu
  obtain ⟨l, hl, hu⟩ := hu
  obtain ⟨role, hrole, rfl⟩ : ∃ role, u.role = some role ∧ m = ⟨String.ofList (u.text t), role⟩ := by
    rw [Token.mention?] at hm
    split at hm
    · rename_i role hrole
      split at hm
      · cases hm
      · exact ⟨role, hrole, (Option.some.inj hm).symm⟩
    · cases hm
  have H := tokens_tokens table (lineOpcode? table t) l
  generalize l.tokens table (lineOpcode? table t) = us at hu H
  cases H with
  | comment | string | opcode =>
    obtain rfl := List.mem_singleton.1 hu
    cases hrole
  | label hk _ hname =>
    simp only [labelTokens, List.mem_cons, List.not_mem_nil, or_false] at hu
    rcases hu with rfl | rfl
    · obtain ⟨hisname, htext⟩ := isName_of_labelName? hl hk hname
      cases hrole
      refine ⟨?_, fun h => absurd rfl h⟩
      rw [← htext] at hisname
      rw [String.toList_ofList]
      exact hisname
    · cases hrole
  | plain hk =>
    obtain rfl := List.mem_singleton.1 hu
    have htext : (l.plainToken table (lineOpcode? table t)).text t = l.text := text_toToken hl _ _
    obtain ⟨-, -, -, -, hfrag⟩ := exists_split_of_fragment hl hk
    obtain ⟨hplain, hconstant, -⟩ := classify_eq_some_role hrole
    rw [htext]
    refine ⟨?_, fun _ => hconstant⟩
    rw [String.toList_ofList]
    exact ⟨hfrag, hplain⟩

end LogicEditor
