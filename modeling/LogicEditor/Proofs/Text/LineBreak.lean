import LogicEditor.Text.LineBreak

/-!
# Splitting and joining lines

`Text.lines` and `Text.joinLines` are inverse on lists of lines without breaks (`lines_joinLines`),
whatever the style of the breaks. A joined text around one line is that line between the lines above
it, each with a break after it (`terminated`), and the lines below it, each with a break before it
(`preceded`); this is how a position in a line becomes an offset in the whole text.
-/

namespace LogicEditor

namespace Text

/-! ## Texts without breaks -/

@[simp] theorem hasBreak_nil : hasBreak [] = false := rfl

@[simp] theorem hasBreak_cons {c : Char} {t : Text} :
    hasBreak (c :: t) = (isBreakChar c || hasBreak t) := rfl

@[simp] theorem hasBreak_append {s t : Text} : hasBreak (s ++ t) = (hasBreak s || hasBreak t) :=
  List.any_append

theorem hasBreak_of_sublist {s t : Text} (h : s.Sublist t) (ht : hasBreak t = false) :
    hasBreak s = false := by
  simp only [hasBreak, List.any_eq_false] at ht ⊢
  exact fun c hc => ht c (h.subset hc)

theorem hasBreak_take {t : Text} (ht : hasBreak t = false) (n : Nat) :
    hasBreak (t.take n) = false :=
  hasBreak_of_sublist (List.take_sublist n t) ht

theorem hasBreak_drop {t : Text} (ht : hasBreak t = false) (n : Nat) :
    hasBreak (t.drop n) = false :=
  hasBreak_of_sublist (List.drop_sublist n t) ht

/-! ## The lines of a text -/

theorem consLine_ne_nil {c : Char} {ls : List Text} : consLine c ls ≠ [] := by
  cases ls <;> simp [consLine]

theorem lines_cons_of_not_break {c : Char} {t : Text} (h : isBreakChar c = false) :
    lines (c :: t) = consLine c (lines t) := by
  have hc : c ≠ '\r' := by rintro rfl; simp [isBreakChar] at h
  rw [lines]
  · simp [h]
  · rintro t rfl; exact absurd rfl hc

theorem lines_ne_nil (t : Text) : lines t ≠ [] := by
  fun_cases lines t with
  | case4 => exact consLine_ne_nil
  | _ => simp

theorem hasBreak_of_mem_lines {t l : Text} (h : l ∈ lines t) : hasBreak l = false := by
  fun_induction lines t generalizing l with
  | case1 => simp_all
  | case2 t ih | case3 c t _ _ ih =>
    rcases List.mem_cons.1 h with rfl | h
    · rfl
    · exact ih h
  | case4 c t _ hc ih =>
    cases hls : lines t with
    | nil => exact absurd hls (lines_ne_nil t)
    | cons m ms =>
      rw [hls] at h ih
      rcases List.mem_cons.1 h with rfl | h
      · simp [ih List.mem_cons_self, hc]
      · exact ih (List.mem_cons_of_mem _ h)

/-- A text without breaks is its only line. -/
theorem lines_of_not_hasBreak {t : Text} (h : hasBreak t = false) : lines t = [t] := by
  induction t with
  | nil => rfl
  | cons c t ih =>
    rw [hasBreak_cons, Bool.or_eq_false_iff] at h
    rw [lines_cons_of_not_break h.1, ih h.2, consLine]

/-- Only a text without breaks is its only line. -/
theorem eq_of_lines_eq_singleton {t l : Text} (h : lines t = [l]) : t = l := by
  fun_induction lines t generalizing l with
  | case1 => simpa using h
  | case2 t | case3 c t => exact absurd (List.cons.inj h).2 (lines_ne_nil t)
  | case4 c t _ _ ih =>
    cases hls : lines t with
    | nil => exact absurd hls (lines_ne_nil t)
    | cons m ms =>
      rw [hls, consLine, List.cons.injEq] at h
      obtain ⟨rfl, rfl⟩ := h
      rw [ih hls]

/-! ## Joined lines -/

/-- The lines, each with a break after it. -/
def terminated (e : LineEnding) (ls : List Text) : Text := ls.flatMap (· ++ e.text)

/-- The lines, each with a break before it. -/
def preceded (e : LineEnding) (ls : List Text) : Text := ls.flatMap (e.text ++ ·)

section
variable {e : LineEnding} {l : Text} {ls ms : List Text}

@[simp] theorem terminated_nil : terminated e [] = [] := rfl

@[simp] theorem terminated_cons : terminated e (l :: ls) = l ++ e.text ++ terminated e ls := rfl

@[simp] theorem terminated_append :
    terminated e (ls ++ ms) = terminated e ls ++ terminated e ms := List.flatMap_append

@[simp] theorem preceded_nil : preceded e [] = [] := rfl

@[simp] theorem preceded_cons : preceded e (l :: ls) = e.text ++ l ++ preceded e ls := rfl

@[simp] theorem preceded_append :
    preceded e (ls ++ ms) = preceded e ls ++ preceded e ms := List.flatMap_append

theorem joinLines_cons : joinLines e (l :: ls) = l ++ preceded e ls := by
  induction ls generalizing l with
  | nil => simp [joinLines]
  | cons m ls ih =>
    rw [joinLines, List.intercalate_cons_cons, ← joinLines, ih]
    simp [List.append_assoc]

/-- A break after each line but the last is a break before each line but the first. -/
theorem terminated_append_joinLines (h : ms ≠ []) :
    terminated e ls ++ joinLines e ms = joinLines e (ls ++ ms) := by
  induction ls with
  | nil => rfl
  | cons l ls ih =>
    rw [terminated_cons, List.append_assoc, ih, List.append_assoc, List.cons_append]
    rw [joinLines, joinLines, List.intercalate_cons_of_ne_nil (by simp [h]), List.append_assoc]

/-- A joined text around one of its lines. -/
theorem joinLines_around :
    joinLines e (ls ++ l :: ms) = terminated e ls ++ (l ++ preceded e ms) := by
  rw [← terminated_append_joinLines (by simp), joinLines_cons]

/-- A joined text around a block of its lines. -/
theorem joinLines_block {ks : List Text} (h : ms ≠ []) :
    joinLines e (ls ++ ms ++ ks) = terminated e ls ++ joinLines e ms ++ preceded e ks := by
  obtain ⟨m, ms, rfl⟩ := List.exists_cons_of_ne_nil h
  rw [List.append_assoc, List.cons_append, joinLines_around, preceded_append, joinLines_cons]
  simp

theorem joinLines_append (hl : ls ≠ []) (hm : ms ≠ []) :
    joinLines e (ls ++ ms) = joinLines e ls ++ e.text ++ joinLines e ms := by
  obtain ⟨l, ls, rfl⟩ := List.exists_cons_of_ne_nil hl
  obtain ⟨m, ms, rfl⟩ := List.exists_cons_of_ne_nil hm
  simp [joinLines_cons]

/-- Lines with a break before each are the joined lines with one more break. -/
theorem preceded_eq_joinLines (h : ls ≠ []) : preceded e ls = e.text ++ joinLines e ls := by
  obtain ⟨l, ls, rfl⟩ := List.exists_cons_of_ne_nil h
  simp [joinLines_cons]

/-- A line up to its break. A carriage return is a break of its own only if no line feed follows. -/
theorem lines_append_break {t : Text} (hl : hasBreak l = false)
    (ht : e = .cr → t.head? ≠ some '\n') : lines (l ++ (e.text ++ t)) = l :: lines t := by
  induction l with
  | nil =>
    cases e with
    | lf => simp [LineEnding.text, lines, isBreakChar]
    | crlf => simp [LineEnding.text, lines]
    | cr =>
      have := ht rfl
      rw [LineEnding.text, List.nil_append, List.singleton_append, lines]
      · simp [isBreakChar]
      · rintro u - rfl; simp at this
  | cons c l ih =>
    rw [hasBreak_cons, Bool.or_eq_false_iff] at hl
    rw [List.cons_append, lines_cons_of_not_break hl.1, ih hl.2, consLine]

/-- Behind a carriage return, joined lines do not go on with a line feed. -/
theorem head?_joinLines (hc : ∀ l ∈ ls, hasBreak l = false) (he : e = .cr) :
    (joinLines e ls).head? ≠ some '\n' := by
  subst he
  match ls with
  | [] => simp [joinLines]
  | [] :: [] => simp [joinLines]
  | [] :: m :: ls => simp [joinLines_cons, LineEnding.text]
  | (c :: l) :: ls =>
    have hl := hc (c :: l) List.mem_cons_self
    rw [hasBreak_cons, Bool.or_eq_false_iff] at hl
    rw [joinLines_cons, List.cons_append, List.head?_cons, ne_eq, Option.some.injEq]
    rintro rfl
    simp [isBreakChar] at hl

/-- What is joined from lines without breaks splits into the same lines. -/
theorem lines_joinLines (h : ls ≠ []) (hc : ∀ l ∈ ls, hasBreak l = false) :
    lines (joinLines e ls) = ls := by
  induction ls with
  | nil => exact absurd rfl h
  | cons l ls ih =>
    have hl := hc l List.mem_cons_self
    have hls : ∀ m ∈ ls, hasBreak m = false := fun m hm => hc m (List.mem_cons_of_mem _ hm)
    cases ls with
    | nil => simpa [joinLines] using lines_of_not_hasBreak hl
    | cons m ls =>
      rw [joinLines_cons, preceded_eq_joinLines (by simp), lines_append_break hl (head?_joinLines hls),
        ih (by simp) hls]

end

/-! ## Breaks of one style -/

/-- The text with all its breaks turned into one style. -/
def withBreaks (e : LineEnding) : Text → Text
  | [] => []
  | '\r' :: '\n' :: t => e.text ++ withBreaks e t
  | c :: t => if isBreakChar c then e.text ++ withBreaks e t else c :: withBreaks e t

theorem joinLines_consLine {e : LineEnding} {c : Char} {ls : List Text} :
    joinLines e (consLine c ls) = c :: joinLines e ls := by
  cases ls with
  | nil => rfl
  | cons l ls => rw [consLine, joinLines_cons, joinLines_cons, List.cons_append]

/-- Splitting a text and joining its lines turns its breaks into one style. -/
theorem joinLines_lines (e : LineEnding) (t : Text) : joinLines e (lines t) = withBreaks e t := by
  fun_induction withBreaks e t with
  | case1 => rfl
  | case2 t ih =>
    rw [lines, joinLines_cons, List.nil_append, preceded_eq_joinLines (lines_ne_nil t), ih]
  | case3 c t h hc ih =>
    rw [lines, if_pos hc, joinLines_cons, List.nil_append, preceded_eq_joinLines (lines_ne_nil t), ih]
    exact h
  | case4 c t _ hc ih =>
    rw [lines_cons_of_not_break (Bool.eq_false_iff.2 hc), joinLines_consLine, ih]

/-! ## Lines put in the middle of a line -/

/-- The lines of a text with a text in front of the first and another one behind the last. -/
def flank (front : Text) (ls : List Text) (back : Text) : List Text :=
  match ls with
  | [] => [front ++ back]
  | [l] => [front ++ l ++ back]
  | l :: ls => (front ++ l) :: (ls.dropLast ++ [ls.getLastD [] ++ back])

section
variable {e : LineEnding} {front back : Text} {ls : List Text}

theorem dropLast_append_getLastD (h : ls ≠ []) : ls.dropLast ++ [ls.getLastD []] = ls := by
  rw [List.getLastD_eq_getLast?, List.getLast?_eq_some_getLast h, Option.getD_some,
    List.dropLast_concat_getLast]

theorem getLastD_mem (h : ls ≠ []) : ls.getLastD [] ∈ ls := by
  have : ls.getLastD [] ∈ ls.dropLast ++ [ls.getLastD []] :=
    List.mem_append_right _ List.mem_cons_self
  rwa [dropLast_append_getLastD h] at this

/-- The last line stands behind all others and their breaks. -/
theorem joinLines_eq_terminated_append (h : ls ≠ []) :
    joinLines e ls = terminated e ls.dropLast ++ ls.getLastD [] := by
  have := @terminated_append_joinLines e ls.dropLast _ (List.cons_ne_nil (ls.getLastD []) [])
  rw [dropLast_append_getLastD h] at this
  simpa [joinLines] using this.symm

theorem flank_cons_cons {l m : Text} : flank front (l :: m :: ls) back =
    (front ++ l) :: ((m :: ls).dropLast ++ [(m :: ls).getLastD [] ++ back]) := rfl

theorem flank_nil (h : ls ≠ []) : flank [] ls [] = ls := by
  match ls with
  | [_] => simp [flank]
  | _ :: m :: ls =>
    rw [flank_cons_cons, List.nil_append, List.append_nil,
      dropLast_append_getLastD (List.cons_ne_nil m ls)]

theorem length_flank (h : ls ≠ []) : (flank front ls back).length = ls.length := by
  match ls with
  | [_] => rfl
  | _ :: _ :: _ => simp [flank]

theorem joinLines_flank (h : ls ≠ []) :
    joinLines e (flank front ls back) = front ++ joinLines e ls ++ back := by
  match ls with
  | [l] => simp [flank, joinLines]
  | l :: m :: ls =>
    have hne : m :: ls ≠ [] := by simp
    have hlast : joinLines e ((m :: ls).dropLast ++ [(m :: ls).getLastD [] ++ back]) =
        joinLines e (m :: ls) ++ back := by
      conv => rhs; rw [← dropLast_append_getLastD hne]
      simp [joinLines_around]
    rw [flank_cons_cons, joinLines_cons, preceded_eq_joinLines (by simp), hlast]
    simp [joinLines_cons]

end

end Text
end LogicEditor
