/-! # Runs of characters

A line of a program is a list of characters, and every column, offset and length counts list
members. This file holds what the rest of the library needs of such lists: the largest index, moving
an index by a signed distance, cutting out a column range and splitting at separators. -/

namespace LogicEditor

/-- A run of characters. -/
abbrev Text := List Char

/-- The largest line number or column. -/
def maxIndex : Nat := 18446744073709551615

/-- The index `d` away from `n`, held between `0` and `maxIndex`. -/
def moveIndex (n : Nat) (d : Int) : Nat := (min (n + d) maxIndex).toNat

namespace Text

/-- The characters in columns `start` up to but not including `stop`; columns past the end are
ignored, and a backward range is empty. -/
def slice (t : Text) (start stop : Nat) : Text := (t.drop start).take (stop - start)

theorem length_dropWhile_le (p : Char → Bool) (t : Text) : (t.dropWhile p).length ≤ t.length :=
  (List.dropWhile_sublist p).length_le

section
variable {p : Char → Bool} {t : Text} {c : Char}

theorem takeWhile_append_cons (h : ∀ d ∈ t, p d = true) (hc : p c = false) (rest : Text) :
    (t ++ c :: rest).takeWhile p = t := by
  rw [List.takeWhile_append_of_pos h, List.takeWhile_cons_of_neg (Bool.eq_false_iff.1 hc),
    List.append_nil]

theorem dropWhile_append_cons (h : ∀ d ∈ t, p d = true) (hc : p c = false) (rest : Text) :
    (t ++ c :: rest).dropWhile p = c :: rest := by
  rw [List.dropWhile_append_of_pos h, List.dropWhile_cons_of_neg (Bool.eq_false_iff.1 hc)]

end

/-- The maximal runs without separators, in order. None of them is empty. -/
def fields (sep : Char → Bool) (t : Text) : List Text :=
  match h : t.dropWhile sep with
  | [] => []
  | c :: rest =>
    have : (rest.dropWhile fun c => !sep c).length < t.length := by
      have h1 := length_dropWhile_le sep t
      have h2 := length_dropWhile_le (fun c => !sep c) rest
      simp only [h, List.length_cons] at h1
      omega
    (c :: rest.takeWhile fun c => !sep c) :: fields sep (rest.dropWhile fun c => !sep c)
termination_by t.length

/-- The text before the first `sep` and the text after it, if there is one. -/
def cut? (sep : Char) : Text → Option (Text × Text)
  | [] => none
  | c :: t => if c = sep then some ([], t) else (cut? sep t).map fun (a, b) => (c :: a, b)

/-- The text after `lead`, if it starts with `lead`. -/
def afterLead? : (lead t : Text) → Option Text
  | [], t => some t
  | _ :: _, [] => none
  | d :: lead, c :: t => if c = d then afterLead? lead t else none

/-- The text without its last character, if that character is `c`. -/
def beforeLast? (c : Char) (t : Text) : Option Text :=
  if t.getLast? = some c then some t.dropLast else none

end Text
end LogicEditor
