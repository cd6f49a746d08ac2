import LogicEditor.Language.Tokenize
import LogicEditor.Proofs.Language.Number

/-!
# Classification of words

Which words are told by their characters alone, and what the others mean in an argument. A word that
is no number, built-in variable or operator, and does not start with a digit, is plain
(`Word.isPlain`): all names are, those of labels (`Word.isPlain_of_isIdentifier`) and those of
variables (`Lexeme.classify_eq_some_role`).
-/

namespace LogicEditor

variable {t : Text} {c : Char} {table : InstructionTable} {arg : Argument} {arg? : Option Argument}

/-! ## Plain words -/

namespace Word

/-- Whether the category of the word depends on its place in the line. -/
def isPlain (t : Text) : Bool :=
  !isNumber t && !isBuiltin t && !isOperator t && !startsWithDigit t

theorem isPlain_iff : isPlain t = true ↔ isNumber t = false ∧ isBuiltin t = false ∧
    isOperator t = false ∧ startsWithDigit t = false := by
  simp [isPlain, and_assoc]

/-- A number starts with a minus sign, a digit or a point. -/
theorem isNumber_eq_false (hm : c ≠ '-') (hd : Text.isDigit c = false) (hp : c ≠ '.') :
    isNumber (c :: t) = false := by
  refine Bool.eq_false_iff.2 fun h => ?_
  rw [isNumber, dropMinus.eq_def] at h
  split at h
  · rename_i heq
    cases heq
    exact hm rfl
  · rcases List.mem_cons.1 (head_of_isUnsigned h) with hc | hc
    · exact hp hc
    · exact Bool.false_ne_true (hd.symm.trans (isDigit_iff.2 hc))

theorem isNumber_of_isBuiltin (h : isBuiltin t = true) : isNumber t = false := by
  rw [isBuiltin.eq_def] at h
  split at h
  · exact isNumber_eq_false (by decide) (by decide) (by decide)
  · cases h

theorem isPlain_of_isIdentifier (h : isIdentifier t = true) : isPlain t = true := by
  cases t with
  | nil => cases h
  | cons c t =>
    rw [isIdentifier, Bool.and_eq_true] at h
    have hstart := h.1
    simp only [isNameStart, Bool.and_eq_true, Bool.not_eq_true', bne_iff_ne] at hstart
    obtain ⟨⟨⟨hdigit, -⟩, hat⟩, hpunct⟩ := hstart
    have hnot (d : Char) (hd : Text.isPunct d = true) : c ≠ d := by
      rintro rfl
      rw [hd] at hpunct
      cases hpunct
    refine isPlain_iff.2 ⟨isNumber_eq_false (hnot _ (by decide)) hdigit (hnot _ (by decide)), ?_, ?_,
      hdigit⟩
    · rw [isBuiltin.eq_def]
      split
      · rename_i heq
        cases heq
        exact absurd rfl hat
      · rfl
    · simp [isOperator, hpunct]

end Word

/-! ## Words in arguments -/

namespace Lexeme

open Word

theorem classify_none (h : isPlain t = true) : classify table none t =
    if table.isConstant (String.ofList t) then (.keyword, none) else (.identifier, none) := by
  obtain ⟨h1, h2, h3, h4⟩ := isPlain_iff.1 h
  simp only [classify, h1, h2, h3, h4, Bool.false_eq_true, if_false]

theorem classify_some (h : isPlain t = true) : classify table (some arg) t =
    if arg.kind = .constant then
      (if arg.accepts (String.ofList t) then .keyword else .unknown, none)
    else if table.isConstant (String.ofList t) then (.keyword, none)
    else (.identifier, some (roleIn arg.kind)) := by
  obtain ⟨h1, h2, h3, h4⟩ := isPlain_iff.1 h
  simp only [classify, h1, h2, h3, h4, Bool.false_eq_true, if_false]

/-- A word that need not be one of some choices is a constant or a name. -/
theorem fst_classify (h : isPlain t = true) (harg : ∀ arg ∈ arg?, arg.kind ≠ .constant) :
    (classify table arg? t).1 =
      if table.isConstant (String.ofList t) then .keyword else .identifier := by
  cases arg? with
  | none =>
    rw [classify_none h]
    split <;> rfl
  | some arg =>
    rw [classify_some h, if_neg (harg arg rfl)]
    split <;> rfl

theorem classify_of_isBuiltin (h : isBuiltin t = true) :
    classify table arg? t = (.builtin, none) := by
  simp only [classify, isNumber_of_isBuiltin h, h, Bool.false_eq_true, if_false, if_true]

theorem classify_of_not_isPlain (h : isPlain t = false) :
    (classify table arg? t).1 ≠ .keyword ∧ (classify table arg? t).2 = none := by
  by_cases h1 : isNumber t
  · simp [classify, h1]
  by_cases h2 : isBuiltin t
  · simp [classify, h1, h2]
  by_cases h3 : isOperator t
  · simp [classify, h1, h2, h3]
  by_cases h4 : startsWithDigit t
  · simp [classify, h1, h2, h3, h4]
  · simp [isPlain, h1, h2, h3, h4] at h

/-- A word with a role is an identifier, and no constant. -/
theorem classify_eq_some_role {role : SymbolRole} (h : (classify table arg? t).2 = some role) :
    isPlain t = true ∧ table.isConstant (String.ofList t) = false ∧ role ≠ .labelDef := by
  cases hplain : isPlain t with
  | false =>
    rw [(classify_of_not_isPlain hplain).2] at h
    cases h
  | true =>
    cases arg? with
    | none =>
      rw [classify_none hplain] at h
      split at h <;> cases h
    | some arg =>
      rw [classify_some hplain] at h
      split at h
      · cases h
      · split at h
        · cases h
        · rename_i hconstant
          cases h
          refine ⟨rfl, Bool.eq_false_iff.2 hconstant, ?_⟩
          cases arg.kind <;> exact fun h => nomatch h

theorem isConstant_of_classify (h : (classify table none t).1 = .keyword) :
    table.isConstant (String.ofList t) = true := by
  cases hplain : isPlain t with
  | false => exact absurd h (classify_of_not_isPlain hplain).1
  | true =>
    rw [classify_none hplain] at h
    split at h
    · assumption
    · cases h

/-- No fragment is taken for a comment. -/
theorem fst_classify_ne_comment : (classify table arg? t).1 ≠ .comment := by
  fun_cases classify table arg? t with
  | case5 => split <;> simp
  | _ => simp

theorem fst_classify_of_role {role : SymbolRole} (h : (classify table arg? t).2 = some role) :
    (classify table arg? t).1 = .identifier := by
  revert h
  fun_cases classify table arg? t <;> simp

/-- An identifier has the role of the argument that it fills. -/
theorem snd_classify_of_identifier (h : (classify table arg? t).1 = .identifier) :
    (classify table arg? t).2 = arg?.map (roleIn ·.kind) ∧ ∀ arg ∈ arg?, arg.kind ≠ .constant := by
  revert h
  fun_cases classify table arg? t with
  | case5 => split <;> simp
  | case7 _ _ _ _ _ arg hkind => simpa using hkind
  | _ => simp

end Lexeme
end LogicEditor
