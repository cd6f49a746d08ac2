import LogicEditor.Language.Tokenize
import LogicEditor.Proofs.Language.Lexeme

/-!
# Tokens of a lexeme

A lexeme has one token, or two if it declares a label. They lie in its span, belong to its word, and
leave no column of it out.
-/

namespace LogicEditor
namespace Lexeme

variable {table : InstructionTable} {opcode? : Option Instruction} {l : Lexeme} {u : Token}
  {t name w : Text} {col : Nat}

/-! ## Label declarations -/

theorem beforeLast?_eq_some {c : Char} : Text.beforeLast? c t = some w ↔ t = w ++ [c] := by
  rw [Text.beforeLast?]
  constructor
  · intro h
    split at h
    · rename_i hlast
      obtain ⟨u, rfl⟩ := List.getLast?_eq_some_iff.1 hlast
      rw [List.dropLast_concat] at h
      cases h
      rfl
    · cases h
  · rintro rfl
    rw [if_pos List.getLast?_concat, List.dropLast_concat]

theorem labelName?_eq_some :
    l.labelName? = some name ↔ l.text = name ++ [':'] ∧ Word.isIdentifier name = true := by
  rw [labelName?, Option.filter_eq_some_iff, beforeLast?_eq_some]

theorem length_of_labelName? (h : l.labelName? = some name) :
    0 < name.length ∧ l.stop = l.start + name.length + 1 := by
  obtain ⟨htext, hname⟩ := labelName?_eq_some.1 h
  refine ⟨?_, by rw [stop, htext, List.length_append]; rfl⟩
  cases name with
  | nil => cases hname
  | cons => exact Nat.succ_pos _

theorem opcode?_eq_some {i : Instruction} : l.opcode? table = some i ↔
    l.isHead = true ∧ l.labelName? = none ∧ table.lookup (String.ofList l.text) = some i := by
  rw [Lexeme.opcode?, Option.ite_none_right_eq_some, Bool.and_eq_true, Option.isNone_iff_eq_none,
    and_assoc]

/-! ## The tokens of one lexeme -/

/-- The ways in which a lexeme has tokens. -/
inductive Tokens (table : InstructionTable) (opcode? : Option Instruction) (l : Lexeme) :
    List Token → Prop
  | comment (h : l.kind = .comment) : Tokens table opcode? l [l.toToken .comment]
  | string (h : l.kind = .string) : Tokens table opcode? l [l.toToken .string]
  | label {name : Text} (h : l.kind = .fragment) (head : l.isHead = true)
      (hname : l.labelName? = some name) : Tokens table opcode? l l.labelTokens
  | opcode {i : Instruction} (h : l.kind = .fragment) (head : l.isHead = true)
      (hi : l.opcode? table = some i) : Tokens table opcode? l [l.toToken .keyword]
  | plain (h : l.kind = .fragment) (hi : l.opcode? table = none) :
    Tokens table opcode? l [l.plainToken table opcode?]

theorem tokens_tokens (table : InstructionTable) (opcode? : Option Instruction) (l : Lexeme) :
    Tokens table opcode? l (l.tokens table opcode?) := by
  rw [tokens]
  cases hk : l.kind with
  | comment => exact .comment hk
  | string => exact .string hk
  | fragment =>
    simp only []
    split
    · rename_i h
      rw [Bool.and_eq_true, Option.isSome_iff_exists] at h
      obtain ⟨hhead, name, hname⟩ := h
      exact .label hk hhead hname
    · cases hi : l.opcode? table with
      | none =>
        rw [if_neg (by simp)]
        exact .plain hk hi
      | some i =>
        rw [if_pos Option.isSome_some]
        exact .opcode hk (opcode?_eq_some.1 hi).1 hi

/-- A token lies in its lexeme. -/
theorem within_of_mem (ht : l.text ≠ []) (h : u ∈ l.tokens table opcode?) :
    u.word = l.word ∧ l.start ≤ u.span.start ∧ u.span.start < u.span.stop ∧ u.span.stop ≤ l.stop := by
  have whole (kind : TokenKind) (role : Option SymbolRole) (hu : u ∈ [l.toToken kind role]) :
      u.word = l.word ∧ l.start ≤ u.span.start ∧ u.span.start < u.span.stop ∧
        u.span.stop ≤ l.stop := by
    obtain rfl := List.mem_singleton.1 hu
    exact ⟨rfl, Nat.le_refl _, Nat.lt_add_of_pos_right (List.length_pos_iff.2 ht), Nat.le_refl _⟩
  have H := tokens_tokens table opcode? l
  generalize l.tokens table opcode? = us at h H
  cases H with
  | comment | string | opcode | plain => exact whole _ _ h
  | label _ _ hname =>
    obtain ⟨hpos, hstop⟩ := length_of_labelName? hname
    simp only [labelTokens, List.mem_cons, List.not_mem_nil, or_false] at h
    rcases h with rfl | rfl
    · exact ⟨rfl, Nat.le_refl _, by show l.start < l.stop - 1; omega, Nat.sub_le _ _⟩
    · refine ⟨rfl, ?_, ?_, Nat.le_refl _⟩
      · show l.start ≤ l.stop - 1
        omega
      · show l.stop - 1 < l.stop
        omega

/-- No column of a lexeme is left out. -/
theorem exists_token_at (table : InstructionTable) (opcode? : Option Instruction)
    (h1 : l.start < col) (h2 : col ≤ l.stop) :
    ∃ u ∈ l.tokens table opcode?, u.span.start < col ∧ col ≤ u.span.stop := by
  have H := tokens_tokens table opcode? l
  generalize l.tokens table opcode? = us at H
  cases H with
  | comment | string | opcode | plain => exact ⟨_, List.mem_singleton.2 rfl, h1, h2⟩
  | label _ _ hname =>
    by_cases hcol : col ≤ l.stop - 1
    · exact ⟨_, List.mem_cons_self, h1, hcol⟩
    · exact ⟨_, List.mem_cons_of_mem _ List.mem_cons_self, Nat.not_le.1 hcol, h2⟩

end Lexeme
end LogicEditor
