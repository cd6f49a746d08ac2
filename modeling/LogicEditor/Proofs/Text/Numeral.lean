import LogicEditor.Text.Numeral

/-!
# Decimal numbers that are read back

An index is read back from its decimal digits (`Text.index?_toDigits`), and nothing that is read is
beyond the largest index.
-/

namespace LogicEditor
namespace Text

variable {n : Nat} {t : Text} {c : Char}

theorem isDigit_eq (c : Char) : isDigit c = c.isDigit := rfl

theorem isDigit_of_mem_toDigits (h : c ∈ Nat.toDigits 10 n) : isDigit c = true :=
  Nat.isDigit_of_mem_toDigits (by decide) (Nat.le_refl 10) h

theorem toList_toString (n : Nat) : (toString n).toList = Nat.toDigits 10 n := by
  rw [Nat.toString_eq_ofList_toDigits, String.toList_ofList]

theorem decimalValue_toDigits (n : Nat) : decimalValue (Nat.toDigits 10 n) = n := by
  rw [decimalValue]
  exact Nat.ofDigitChars_eq_foldl.symm.trans Nat.ofDigitChars_ten_toDigits

theorem index?_of_digits (hne : t ≠ []) (h : ∀ c ∈ t, isDigit c = true) :
    index? t = if decimalValue t ≤ maxIndex then some (decimalValue t) else none := by
  have hsign : ∀ rest, t ≠ '+' :: rest := by
    rintro rest rfl
    cases h '+' List.mem_cons_self
  have hdigits : (t.isEmpty || !t.all isDigit) = false := by
    rw [List.isEmpty_eq_false_iff.2 hne, List.all_eq_true.2 h]
    rfl
  rw [index?, hdigits, if_neg Bool.false_ne_true]
  exact hsign

/-- An index is read back from its digits. -/
theorem index?_toDigits (h : n ≤ maxIndex) : index? (Nat.toDigits 10 n) = some n := by
  rw [index?_of_digits Nat.toDigits_ne_nil fun _ => isDigit_of_mem_toDigits, decimalValue_toDigits,
    if_pos h]

theorem le_of_index? (h : index? t = some n) : n ≤ maxIndex := by
  unfold index? at h
  extract_lets digits at h
  split at h
  · cases h
  · split at h
    · rename_i hle
      exact Option.some.inj h ▸ hle
    · cases h

end Text
end LogicEditor
