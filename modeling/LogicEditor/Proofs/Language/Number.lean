import Mathlib.Data.List.TakeWhile
import LogicEditor.Language.Word

/-!
# Numbers

How numbers are spelled, as a grammar: after at most one minus sign a number is hexadecimal digits
behind `0x`, binary digits behind `0b`, or a decimal mantissa with or without an exponent
(`Word.Number`). The recogniser cuts a word at the first exponent mark and at the first point; that
these cuts find the parts of the grammar, and that no decimal number is taken for one with a base in
front, is `Word.isUnsigned_iff`. So numbers are recognised exactly (`Word.isNumber_iff`).
-/

namespace LogicEditor
namespace Word

open Text (isDigit isHexDigit)

/-! ## The grammar -/

/-- The base that digits are read in. -/
inductive Base
  | binary
  | decimal
  | hexadecimal

/-- The digits of a base, of ASCII only. -/
def Base.digits : Base → List Char
  | .binary => ['0', '1']
  | .decimal => ['0', '1', '2', '3', '4', '5', '6', '7', '8', '9']
  | .hexadecimal => ['0', '1', '2', '3', '4', '5', '6', '7', '8', '9', 'a', 'b', 'c', 'd', 'e', 'f',
      'A', 'B', 'C', 'D', 'E', 'F']

/-- One or more digits of a base. -/
structure Digits (b : Base) (t : Text) : Prop where
  ne_nil : t ≠ []
  mem : ∀ c ∈ t, c ∈ b.digits

/-- A text of the form, with at most one minus sign before it. -/
inductive Signed (P : Text → Prop) : Text → Prop
  | plain {t : Text} (h : P t) : Signed P t
  | minus {t : Text} (h : P t) : Signed P ('-' :: t)

inductive Mantissa : Text → Prop
  | whole {t : Text} (h : Digits .decimal t) : Mantissa t
  | point {t part : Text} (h : Digits .decimal t) (hpart : ∀ c ∈ part, c ∈ Base.decimal.digits) :
    Mantissa (t ++ '.' :: part)
  | fraction {part : Text} (h : Digits .decimal part) : Mantissa ('.' :: part)

inductive Exponent : Text → Prop
  | lower {t : Text} (h : Signed (Digits .decimal) t) : Exponent ('e' :: t)
  | upper {t : Text} (h : Signed (Digits .decimal) t) : Exponent ('E' :: t)

inductive Unsigned : Text → Prop
  | hexadecimal {t : Text} (h : Digits .hexadecimal t) : Unsigned ('0' :: 'x' :: t)
  | binary {t : Text} (h : Digits .binary t) : Unsigned ('0' :: 'b' :: t)
  | mantissa {m : Text} (h : Mantissa m) : Unsigned m
  | exponent {m e : Text} (h : Mantissa m) (he : Exponent e) : Unsigned (m ++ e)

/-- The spelling of a number. -/
def Number (t : Text) : Prop := Signed Unsigned t

variable {t m : Text} {c : Char} {b : Base} {P : Text → Prop}

/-! ## Digits -/

theorem of_toNat_lt {p : Char → Prop} {n : Nat} (h : ∀ k < n, p (Char.ofNat k)) (hc : c.toNat < n) :
    p c := by
  have := h c.toNat hc
  rwa [Char.ofNat_toNat] at this

theorem isDigit_iff : isDigit c = true ↔ c ∈ Base.decimal.digits := by
  constructor
  · intro h
    have hc : c.toNat < 58 := by
      rw [isDigit, Bool.and_eq_true, decide_eq_true_eq, decide_eq_true_eq] at h
      exact Nat.lt_of_le_of_lt h.2 (by decide)
    revert h
    exact of_toNat_lt (p := fun c => isDigit c = true → c ∈ Base.decimal.digits) (by decide) hc
  · have hall : Base.decimal.digits.all isDigit = true := by decide
    exact List.all_eq_true.1 hall c

theorem isHexDigit_iff : isHexDigit c = true ↔ c ∈ Base.hexadecimal.digits := by
  constructor
  · intro h
    have hc : c.toNat < 103 := by
      simp only [isHexDigit, isDigit, Bool.or_eq_true, Bool.and_eq_true, decide_eq_true_eq] at h
      rcases h with (⟨-, h⟩ | ⟨-, h⟩) | ⟨-, h⟩
      · exact Nat.lt_of_le_of_lt h (by decide)
      · exact Nat.lt_of_le_of_lt h (by decide)
      · exact Nat.lt_of_le_of_lt h (by decide)
    revert h
    exact of_toNat_lt (p := fun c => isHexDigit c = true → c ∈ Base.hexadecimal.digits)
      (by decide +kernel) hc
  · have hall : Base.hexadecimal.digits.all isHexDigit = true := by decide
    exact List.all_eq_true.1 hall c

theorem isBinaryDigit_iff : (c == '0' || c == '1') = true ↔ c ∈ Base.binary.digits := by
  simp [Base.digits]

/-- A test for one or more characters accepts digits, if it does so for each character. -/
theorem digits_iff {p : Char → Bool} (hp : ∀ c, p c = true ↔ c ∈ b.digits) :
    (!t.isEmpty && t.all p) = true ↔ Digits b t := by
  rw [Bool.and_eq_true, Bool.not_eq_true', List.isEmpty_eq_false_iff, List.all_eq_true]
  constructor
  · rintro ⟨hne, hall⟩
    exact ⟨hne, fun c hc => (hp c).1 (hall c hc)⟩
  · rintro ⟨hne, hmem⟩
    exact ⟨hne, fun c hc => (hp c).2 (hmem c hc)⟩

theorem isDigits_iff : isDigits t = true ↔ Digits .decimal t := digits_iff fun _ => isDigit_iff

theorem all_isDigit_iff : t.all isDigit = true ↔ ∀ c ∈ t, c ∈ Base.decimal.digits := by
  simp only [List.all_eq_true, isDigit_iff]

/-! ## Signs -/

/-- Where no minus sign belongs to the form itself, one is dropped. -/
theorem signed_iff (hP : ∀ t, ¬P ('-' :: t)) : Signed P t ↔ P (dropMinus t) := by
  constructor
  · intro h
    cases h with
    | plain h =>
      rw [dropMinus.eq_def]
      split
      · exact absurd h (hP _)
      · exact h
    | minus h => exact h
  · intro h
    rw [dropMinus.eq_def] at h
    split at h
    · exact .minus h
    · exact .plain h

theorem not_digits_minus (t : Text) : ¬Digits .decimal ('-' :: t) := by
  intro h
  exact absurd (h.mem _ List.mem_cons_self) (by decide)

/-! ## Mantissas -/

theorem forall_ne_of_not_mem (h : '.' ∉ t) : ∀ c ∈ t, (c != '.') = true := by
  intro c hc
  exact bne_iff_ne.2 fun heq => h (heq ▸ hc)

theorem isMantissa_of_not_mem (h : '.' ∉ t) : isMantissa t = isDigits t := by
  have hne := forall_ne_of_not_mem h
  rw [isMantissa, List.takeWhile_eq_self_iff.2 hne, List.dropWhile_eq_nil_iff.2 hne]

theorem isMantissa_append (part : Text) (h : '.' ∉ t) : isMantissa (t ++ '.' :: part) =
    (t.all isDigit && part.all isDigit && !(t.isEmpty && part.isEmpty)) := by
  have hne := forall_ne_of_not_mem h
  rw [isMantissa, Text.takeWhile_append_cons hne rfl, Text.dropWhile_append_cons hne rfl]

theorem not_mem_of_digits (h : ∀ c ∈ t, c ∈ Base.decimal.digits) (hc : c ∉ Base.decimal.digits) :
    c ∉ t := fun hmem => hc (h c hmem)

theorem isMantissa_iff : isMantissa t = true ↔ Mantissa t := by
  constructor
  · intro h
    by_cases hpoint : '.' ∈ t
    · obtain ⟨t, part, rfl, hfirst⟩ := List.eq_append_cons_of_mem hpoint
      rw [isMantissa_append part hfirst, Bool.and_eq_true, Bool.and_eq_true, all_isDigit_iff,
        all_isDigit_iff] at h
      obtain ⟨⟨ht, hpart⟩, hne⟩ := h
      cases t with
      | nil =>
        have : part ≠ [] := by simpa using hne
        exact .fraction ⟨this, hpart⟩
      | cons => exact .point ⟨List.cons_ne_nil _ _, ht⟩ hpart
    · rw [isMantissa_of_not_mem hpoint, isDigits_iff] at h
      exact .whole h
  · intro h
    cases h with
    | whole h =>
      rw [isMantissa_of_not_mem (not_mem_of_digits h.mem (by decide))]
      exact isDigits_iff.2 h
    | point h hpart =>
      rw [isMantissa_append _ (not_mem_of_digits h.mem (by decide)), all_isDigit_iff.2 h.mem,
        all_isDigit_iff.2 hpart, List.isEmpty_eq_false_iff.2 h.ne_nil]
      rfl
    | fraction h =>
      rw [← List.nil_append (_ :: _), isMantissa_append _ List.not_mem_nil,
        all_isDigit_iff.2 h.mem, List.isEmpty_eq_false_iff.2 h.ne_nil]
      rfl

/-! ## Exponents -/

theorem Mantissa.ne_nil (h : Mantissa t) : t ≠ [] := by
  cases h with
  | whole h => exact h.ne_nil
  | point | fraction => simp

theorem Mantissa.mem (h : Mantissa t) (hc : c ∈ t) : c = '.' ∨ c ∈ Base.decimal.digits := by
  cases h with
  | whole h => exact .inr (h.mem c hc)
  | point h hpart =>
    rcases List.mem_append.1 hc with hc | hc
    · exact .inr (h.mem c hc)
    · rcases List.mem_cons.1 hc with hc | hc
      · exact .inl hc
      · exact .inr (hpart c hc)
  | fraction h =>
    rcases List.mem_cons.1 hc with hc | hc
    · exact .inl hc
    · exact .inr (h.mem c hc)

theorem Mantissa.isExponentMark (h : Mantissa m) : ∀ c ∈ m, (!isExponentMark c) = true := by
  intro c hc
  have hall : ('.' :: Base.decimal.digits).all (!Word.isExponentMark ·) = true := by decide
  exact List.all_eq_true.1 hall c (List.mem_cons.2 (h.mem hc))

theorem isDecimal_of_forall (h : ∀ c ∈ t, (!isExponentMark c) = true) :
    isDecimal t = isMantissa t := by
  rw [isDecimal, List.takeWhile_eq_self_iff.2 h, List.dropWhile_eq_nil_iff.2 h, Bool.and_true]

theorem isDecimal_append (h : ∀ c ∈ m, (!isExponentMark c) = true) (hc : isExponentMark c = true) :
    isDecimal (m ++ c :: t) = (isMantissa m && isDigits (dropMinus t)) := by
  have hneg : (!isExponentMark c) = false := by rw [hc]; rfl
  rw [isDecimal, Text.takeWhile_append_cons h hneg, Text.dropWhile_append_cons h hneg]

theorem exponent_iff : Exponent (c :: t) ↔
    isExponentMark c = true ∧ isDigits (dropMinus t) = true := by
  rw [isDigits_iff, ← signed_iff not_digits_minus]
  constructor
  · intro h
    cases h with
    | lower h => exact ⟨rfl, h⟩
    | upper h => exact ⟨rfl, h⟩
  · rintro ⟨hc, h⟩
    rw [isExponentMark, Bool.or_eq_true, beq_iff_eq, beq_iff_eq] at hc
    rcases hc with rfl | rfl
    · exact .lower h
    · exact .upper h

theorem isDecimal_iff :
    isDecimal t = true ↔ Mantissa t ∨ ∃ m e, t = m ++ e ∧ Mantissa m ∧ Exponent e := by
  constructor
  · intro h
    cases hmark : t.find? isExponentMark with
    | none =>
      have hfree : ∀ c ∈ t, (!isExponentMark c) = true := by
        simpa using List.find?_eq_none.1 hmark
      rw [isDecimal_of_forall hfree] at h
      exact .inl (isMantissa_iff.1 h)
    | some c =>
      obtain ⟨hc, m, e, rfl, hfirst⟩ := List.find?_eq_some_iff_append.1 hmark
      rw [isDecimal_append hfirst hc, Bool.and_eq_true] at h
      exact .inr ⟨m, c :: e, rfl, isMantissa_iff.1 h.1, exponent_iff.2 ⟨hc, h.2⟩⟩
  · rintro (h | ⟨m, e, rfl, hm, he⟩)
    · rw [isDecimal_of_forall h.isExponentMark]
      exact isMantissa_iff.2 h
    · cases e with
      | nil => cases he
      | cons c e =>
        obtain ⟨hc, hdigits⟩ := exponent_iff.1 he
        rw [isDecimal_append hm.isExponentMark hc, isMantissa_iff.2 hm, hdigits]
        rfl

/-! ## Numbers -/

/-- The first two characters of a decimal number are none that a sign or a base is written with. -/
theorem head_of_isDecimal (h : isDecimal t = true) : ∃ c rest, t = c :: rest ∧
    c ∈ '.' :: Base.decimal.digits ∧
    ∀ d, rest.head? = some d → d ∈ 'e' :: 'E' :: '.' :: Base.decimal.digits := by
  have next {c : Char} {m : Text} (hm : Mantissa (c :: m)) {d : Char} (hd : m.head? = some d) :
      d ∈ 'e' :: 'E' :: '.' :: Base.decimal.digits := by
    have := hm.mem (List.mem_cons_of_mem _ (List.mem_of_mem_head? hd))
    exact List.mem_cons_of_mem _ (List.mem_cons_of_mem _ (List.mem_cons.2 this))
  have first {c : Char} {m : Text} (hm : Mantissa (c :: m)) : c ∈ '.' :: Base.decimal.digits :=
    List.mem_cons.2 (hm.mem List.mem_cons_self)
  rcases isDecimal_iff.1 h with hm | ⟨m, e, rfl, hm, he⟩
  · obtain ⟨c, m, rfl⟩ := List.exists_cons_of_ne_nil hm.ne_nil
    exact ⟨c, m, rfl, first hm, fun d hd => next hm hd⟩
  · obtain ⟨c, m, rfl⟩ := List.exists_cons_of_ne_nil hm.ne_nil
    refine ⟨c, m ++ e, rfl, first hm, fun d hd => ?_⟩
    cases m with
    | nil => cases he <;> cases hd <;> decide
    | cons => exact next hm hd

theorem isUnsigned_of_isDecimal (h : isDecimal t = true) : isUnsigned t = true := by
  obtain ⟨c, rest, rfl, -, hnext⟩ := head_of_isDecimal h
  rw [isUnsigned.eq_def]
  split
  · rename_i heq
    cases heq
    exact absurd (hnext 'x' rfl) (by decide)
  · rename_i heq
    cases heq
    exact absurd (hnext 'b' rfl) (by decide)
  · exact h

theorem isUnsigned_iff : isUnsigned t = true ↔ Unsigned t := by
  constructor
  · intro h
    rw [isUnsigned.eq_def] at h
    split at h
    · exact .hexadecimal ((digits_iff fun _ => isHexDigit_iff).1 h)
    · exact .binary ((digits_iff fun _ => isBinaryDigit_iff).1 h)
    · rcases isDecimal_iff.1 h with h | ⟨m, e, rfl, hm, he⟩
      · exact .mantissa h
      · exact .exponent hm he
  · intro h
    cases h with
    | hexadecimal h => exact (digits_iff fun _ => isHexDigit_iff).2 h
    | binary h => exact (digits_iff fun _ => isBinaryDigit_iff).2 h
    | mantissa h => exact isUnsigned_of_isDecimal (isDecimal_iff.2 (.inl h))
    | exponent hm he => exact isUnsigned_of_isDecimal (isDecimal_iff.2 (.inr ⟨_, _, rfl, hm, he⟩))

/-- A number without sign starts with a digit or a point. -/
theorem head_of_isUnsigned (h : isUnsigned (c :: t) = true) : c ∈ '.' :: Base.decimal.digits := by
  rw [isUnsigned.eq_def] at h
  split at h
  · rename_i heq
    cases heq
    decide
  · rename_i heq
    cases heq
    decide
  · obtain ⟨d, rest, heq, hd, -⟩ := head_of_isDecimal h
    cases heq
    exact hd

theorem not_unsigned_minus (t : Text) : ¬Unsigned ('-' :: t) := by
  intro h
  exact absurd (head_of_isUnsigned (isUnsigned_iff.2 h)) (by decide)

/-- A word is recognised as a number if and only if it is spelled like one. -/
theorem isNumber_iff : isNumber t = true ↔ Number t := by
  rw [isNumber, isUnsigned_iff]
  exact (signed_iff not_unsigned_minus).symm

end Word
end LogicEditor
