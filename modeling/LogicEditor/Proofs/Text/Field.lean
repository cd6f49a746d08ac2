import Mathlib.Data.List.TakeWhile
import LogicEditor.Text.Basic

/-!
# Words with separators between them

A text of words with one separator between neighbours is split into these words again
(`Text.fields_intercalate`).
-/

namespace LogicEditor
namespace Text

variable {sep : Char → Bool} {s c : Char} {t w rest : Text} {ws : List Text}

theorem fields_of_nil (h : t.dropWhile sep = []) : fields sep t = [] := by
  rw [fields]
  split
  · rfl
  · rename_i h'
    cases h.symm.trans h'

theorem fields_of_cons (h : t.dropWhile sep = c :: rest) : fields sep t =
    (c :: rest.takeWhile fun c => !sep c) :: fields sep (rest.dropWhile fun c => !sep c) := by
  rw [fields]
  split
  · rename_i h'
    cases h.symm.trans h'
  · rename_i h'
    cases h.symm.trans h'
    rfl

theorem fields_nil (sep : Char → Bool) : fields sep [] = [] := fields_of_nil rfl

/-- A separator in front does not matter. -/
theorem fields_sep (hs : sep s = true) (t : Text) : fields sep (s :: t) = fields sep t := by
  have hdrop : (s :: t).dropWhile sep = t.dropWhile sep := List.dropWhile_cons_of_pos hs
  cases h : t.dropWhile sep with
  | nil => rw [fields_of_nil h, fields_of_nil (hdrop.trans h)]
  | cons c rest => rw [fields_of_cons h, fields_of_cons (hdrop.trans h)]

/-- A word ends where the text ends or a separator comes. -/
theorem fields_append (hne : w ≠ []) (hw : ∀ c ∈ w, sep c = false)
    (hrest : ∀ c ∈ rest.head?, sep c = true) : fields sep (w ++ rest) = w :: fields sep rest := by
  obtain ⟨c, w, rfl⟩ := List.exists_cons_of_ne_nil hne
  rw [List.forall_mem_cons] at hw
  have hdrop : (c :: w ++ rest).dropWhile sep = c :: (w ++ rest) :=
    List.dropWhile_cons_of_neg (Bool.eq_false_iff.1 hw.1)
  have hall : ∀ d ∈ w, (!sep d) = true := fun d hd => by rw [hw.2 d hd, Bool.not_false]
  rw [fields_of_cons hdrop]
  cases rest with
  | nil => rw [List.append_nil, List.takeWhile_eq_self_iff.2 hall, List.dropWhile_eq_nil_iff.2 hall]
  | cons s rest =>
    have hs : (!sep s) = false := by rw [hrest s rfl, Bool.not_true]
    rw [takeWhile_append_cons hall hs, dropWhile_append_cons hall hs]

/-- Words are found again behind separators. -/
theorem fields_intercalate (hs : sep s = true)
    (h : ∀ w ∈ ws, w ≠ [] ∧ ∀ c ∈ w, sep c = false) : fields sep ([s].intercalate ws) = ws := by
  induction ws with
  | nil => exact fields_nil sep
  | cons w ws ih =>
    obtain ⟨⟨hne, hw⟩, hws⟩ := List.forall_mem_cons.1 h
    by_cases hlast : ws = []
    · subst hlast
      rw [List.intercalate_singleton]
      have hnil : ∀ c ∈ ([] : Text).head?, sep c = true := fun _ h => nomatch h
      have hword := fields_append hne hw hnil
      rwa [List.append_nil, fields_nil] at hword
    · have hnext : ∀ c ∈ (s :: [s].intercalate ws).head?, sep c = true := by
        rintro c hc
        cases hc
        exact hs
      rw [List.intercalate_cons_of_ne_nil hlast, List.append_assoc, List.singleton_append,
        fields_append hne hw hnext, fields_sep hs, ih hws]

end Text
end LogicEditor
