import LogicEditor.Language.Stock
import LogicEditor.Proofs.Language.Line

/-!
# Lines that go on

A line is read from left to right, and what is written behind it changes none of its tokens, as long
as none of them goes on there. A comment and a string without closing quote always go on
(`Lexeme.IsClosed` leaves them out), and a fragment goes on unless white space, a comment mark or a
quote comes next. The lexemes are kept by induction on the scan (`Lexeme.exists_scan_append`), the
tokens because the first lexeme alone tells the opcode (`tokenize_append_eq`).
-/

namespace LogicEditor

open Lexeme

variable {table : InstructionTable} {line rest t : Text} {s : Place} {l : Lexeme} {ls : List Lexeme}

namespace Lexeme

/-! ## Lexemes -/

/-- A string with both of its quotes. -/
def IsQuoted (t : Text) : Prop := ∃ body, t = quoted body

instance (t : Text) : Decidable (IsQuoted t) :=
  decidable_of_iff (t = quoted (t.drop 1).dropLast) (by
    constructor
    · intro h
      exact ⟨_, h⟩
    · rintro ⟨body, rfl⟩
      rw [quoted, List.drop_one, List.tail_cons, List.dropLast_concat]
      rfl)

/-- The lexeme has an end of its own, and not just that of its line. -/
structure IsClosed (l : Lexeme) : Prop where
  comment : l.kind ≠ .comment
  string : l.kind = .string → IsQuoted l.text

theorem EndsFragment.append (ht : EndsFragment t) (hrest : EndsFragment rest) :
    EndsFragment (t ++ rest) := by
  cases t with
  | nil => exact hrest
  | cons c t => exact endsFragment_cons (ht c rfl)

theorem not_isQuoted {body : Text} (hb : '"' ∉ body) : ¬IsQuoted ('"' :: body) := by
  rintro ⟨inner, h⟩
  obtain rfl : body = inner ++ ['"'] := (List.cons.inj h).2
  exact hb (List.mem_append_right _ List.mem_cons_self)

/-- Behind closed lexemes scanning goes on at the end of their text. -/
theorem exists_scan_append (hrest : EndsFragment rest) (h : ∀ l ∈ s.scan t, l.IsClosed) :
    ∃ e : Place, e.col = s.col + t.length ∧ s.scan (t ++ rest) = s.scan t ++ e.scan rest := by
  induction t using scan_induction generalizing s with
  | nil =>
    refine ⟨s, rfl, ?_⟩
    rw [Place.scan_nil]
    rfl
  | space c t hc ih =>
    rw [Place.scan_space hc] at h
    obtain ⟨e, he, hscan⟩ := ih h
    refine ⟨e, ?_, ?_⟩
    · rw [he, List.length_cons, Nat.add_assoc, Nat.add_comm 1]
    · rw [List.cons_append, Place.scan_space hc, Place.scan_space hc, hscan]
  | comment t =>
    rw [Place.scan_comment] at h
    exact absurd rfl (h _ List.mem_cons_self).comment
  | unclosed body hb =>
    rw [Place.scan_unclosed hb] at h
    exact absurd ((h _ List.mem_cons_self).string rfl) (not_isQuoted hb)
  | string body t hb ih =>
    rw [Place.scan_string hb] at h
    obtain ⟨e, he, hscan⟩ := ih fun l hl => h l (List.mem_cons_of_mem _ hl)
    refine ⟨e, ?_, ?_⟩
    · rw [he, Place.after, List.length_append, Nat.add_assoc]
    · rw [List.append_assoc, Place.scan_string hb, Place.scan_string hb, hscan, List.cons_append]
  | fragment w t hw ht ih =>
    rw [Place.scan_fragment hw ht] at h
    obtain ⟨e, he, hscan⟩ := ih fun l hl => h l (List.mem_cons_of_mem _ hl)
    refine ⟨e, ?_, ?_⟩
    · rw [he, Place.after, List.length_append, Nat.add_assoc]
    · rw [List.append_assoc, Place.scan_fragment hw (ht.append hrest), Place.scan_fragment hw ht,
        hscan, List.cons_append]

end Lexeme

/-! ## Tokens -/

/-- A line is closed if its tokens are. -/
theorem isClosed_of_tokens (hcomment : ∀ u ∈ tokenize table line, u.kind ≠ .comment)
    (hstring : ∀ u ∈ tokenize table line, u.kind = .string → IsQuoted (u.text line))
    (hl : l ∈ ofLine line) : l.IsClosed where
  comment hk := by
    have htokens : l.tokens table (lineOpcode? table line) = [l.toToken .comment] := by
      rw [tokens, hk]
    exact hcomment _ (List.mem_flatMap.2 ⟨l, hl, htokens ▸ List.mem_cons_self⟩) rfl
  string hk := by
    have htokens : l.tokens table (lineOpcode? table line) = [l.toToken .string] := by
      rw [tokens, hk]
    have := hstring _ (List.mem_flatMap.2 ⟨l, hl, htokens ▸ List.mem_cons_self⟩) rfl
    rwa [text_toToken hl] at this

/-- Lexemes behind those of a line do not change the tokens of the line. -/
theorem tokenize_append_eq (h : ofLine (line ++ rest) = ofLine line ++ ls) :
    tokenize table (line ++ rest) =
      tokenize table line ++ ls.flatMap (·.tokens table (lineOpcode? table (line ++ rest))) := by
  rw [tokenize, h, List.flatMap_append, tokenize]
  congr 1
  cases hls : ofLine line with
  | nil => rfl
  | cons first others =>
    rw [lineOpcode?, lineOpcode?, h, hls, List.cons_append, List.head?_cons, List.head?_cons]

/-- What is written behind a line leaves its tokens as they are, and its own tokens stand behind the
line. -/
theorem exists_tokenize_append (hcomment : ∀ u ∈ tokenize table line, u.kind ≠ .comment)
    (hstring : ∀ u ∈ tokenize table line, u.kind = .string → IsQuoted (u.text line))
    (hrest : ∀ c, rest.head? = some c → Text.isSpace c = true ∨ c = commentMark ∨ c = '"') :
    ∃ us, tokenize table (line ++ rest) = tokenize table line ++ us ∧
      ∀ u ∈ us, line.length ≤ u.span.start := by
  have hends : EndsFragment rest := by
    intro c hc
    refine Bool.eq_false_iff.2 fun hpart => ?_
    obtain ⟨hspace, hmark, hquote⟩ := isFragmentPart_iff.1 hpart
    rcases hrest c hc with h | h | h
    · exact Bool.false_ne_true (hspace.symm.trans h)
    · exact hmark h
    · exact hquote h
  obtain ⟨e, hcol, hscan⟩ := exists_scan_append (s := .origin) hends
    fun l hl => isClosed_of_tokens hcomment hstring hl
  refine ⟨_, tokenize_append_eq hscan, fun u hu => ?_⟩
  obtain ⟨l, hl, hu⟩ := List.mem_flatMap.1 hu
  have hfollows := follows_of_mem hl
  calc line.length
    _ = e.col := (hcol.trans (Nat.zero_add _)).symm
    _ ≤ l.start := hfollows.start
    _ ≤ u.span.start := (within_of_mem hfollows.text hu).2.1

/-- Neither a comment mark in a string nor a word that goes on behind it is in the way. -/
theorem exists_tokenize_append_glued :
    let line := "print \"a # b\"c".toList
    let rest := "\"d\" # e".toList
    (∀ u ∈ tokenize .stock line, u.kind ≠ .comment) ∧
    (∀ u ∈ tokenize .stock line, u.kind = .string → IsQuoted (u.text line)) ∧
    (∀ c, rest.head? = some c → Text.isSpace c = true ∨ c = commentMark ∨ c = '"') ∧
    ∃ us, tokenize .stock (line ++ rest) = tokenize .stock line ++ us ∧
      ∀ u ∈ us, line.length ≤ u.span.start := by
  intro line rest
  have hcomment : ∀ u ∈ tokenize .stock line, u.kind ≠ .comment := by decide +kernel
  have hstring : ∀ u ∈ tokenize .stock line, u.kind = .string → IsQuoted (u.text line) := by
    decide +kernel
  have hrest : ∀ c, rest.head? = some c → Text.isSpace c = true ∨ c = commentMark ∨ c = '"' := by
    rintro c ⟨⟩
    exact .inr (.inr rfl)
  exact ⟨hcomment, hstring, hrest, exists_tokenize_append hcomment hstring hrest⟩

end LogicEditor
