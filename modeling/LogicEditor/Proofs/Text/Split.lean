import LogicEditor.Proofs.Text.Weld

/-!
# Lines and the breaks between them

`Text.Splits` reads a text as lines with breaks of any styles between them. There is one such reading
of every text (`Text.exists_splits`, `Text.Splits.breaks_unique`): its lines are those of `Text.lines`,
and its first break is the one that `LineEnding.detect` finds. Joined by line feeds, texts are split
one by one, save that a carriage return at the end of a text is lost on the line feed behind it
(`Text.lines_joinLines_lf`).
-/

namespace LogicEditor
namespace Text

/-- The text consists of the lines `ls` with the breaks `es` between them. A carriage return is a break
of its own only if no line feed follows. -/
inductive Splits : Text → List LineEnding → List Text → Prop
  | last {l : Text} (hl : l.hasBreak = false) : Splits l [] [l]
  | line {l t : Text} {e : LineEnding} {es : List LineEnding} {ls : List Text}
      (hl : l.hasBreak = false) (he : e = .cr → t.head? ≠ some '\n') (h : Splits t es ls) :
    Splits (l ++ (e.text ++ t)) (e :: es) (l :: ls)

section
variable {t l : Text} {e e' : LineEnding} {es es' : List LineEnding} {ls ls' : List Text}

/-! ## One reading of a text -/

theorem Splits.lines_eq (H : Splits t es ls) : lines t = ls := by
  induction H with
  | last hl => exact lines_of_not_hasBreak hl
  | line hl he _ ih => rw [lines_append_break hl he, ih]

theorem Splits.length_eq (H : Splits t es ls) : ls.length = es.length + 1 := by
  induction H with
  | last => rfl
  | line _ _ _ ih => rw [List.length_cons, ih, List.length_cons]

/-- Behind a character that is no break, the first line goes on. -/
theorem Splits.cons {c : Char} (hc : isBreakChar c = false) (H : Splits t es ls) :
    Splits (c :: t) es (consLine c ls) := by
  cases H with
  | last hl => exact .last (by rw [hasBreak_cons, hc, hl]; rfl)
  | line hl he h => exact .line (l := c :: _) (by rw [hasBreak_cons, hc, hl]; rfl) he h

/-- A text that starts with a break starts with an empty line. -/
theorem Splits.cons_break (e : LineEnding) (he : e = .cr → t.head? ≠ some '\n')
    (H : Splits t es ls) : Splits (e.text ++ t) (e :: es) ([] :: ls) := .line (l := []) rfl he H

theorem exists_splits (t : Text) : ∃ es, Splits t es (lines t) := by
  fun_induction lines t with
  | case1 => exact ⟨[], .last rfl⟩
  | case2 t ih =>
    obtain ⟨es, h⟩ := ih
    exact ⟨.crlf :: es, h.cons_break .crlf (by simp)⟩
  | case3 c t hpair hc ih =>
    obtain ⟨es, h⟩ := ih
    have hcs : c = '\n' ∨ c = '\r' := by simpa [isBreakChar] using hc
    rcases hcs with rfl | rfl
    · exact ⟨.lf :: es, h.cons_break .lf (by simp)⟩
    · refine ⟨.cr :: es, h.cons_break .cr fun _ hn => ?_⟩
      obtain ⟨u, rfl⟩ := List.head?_eq_some_iff.1 hn
      exact hpair u rfl rfl
  | case4 c t _ hc ih =>
    obtain ⟨es, h⟩ := ih
    exact ⟨es, h.cons (Bool.eq_false_iff.2 hc)⟩

/-- The same characters cannot be read as two breaks. -/
theorem break_unique {u : Text} (he : e = .cr → t.head? ≠ some '\n')
    (he' : e' = .cr → u.head? ≠ some '\n') (h : e.text ++ t = e'.text ++ u) : e = e' ∧ t = u := by
  cases e <;> cases e' <;> grind [LineEnding.text]

/-- There is only one reading of a text. -/
theorem Splits.breaks_unique (H : Splits t es ls) (H' : Splits t es' ls') : es = es' := by
  obtain rfl : ls = ls' := H.lines_eq.symm.trans H'.lines_eq
  induction H generalizing es' with
  | last =>
    have := H'.length_eq
    exact (List.length_eq_zero_iff.1 (by simpa using this.symm)).symm
  | @line l t e es ls hl he h ih =>
    generalize hu : l ++ (e.text ++ t) = u at H'
    cases H' with
    | last => exact absurd h.length_eq (by simp)
    | line _ he' h' =>
      obtain ⟨rfl, rfl⟩ := break_unique he he' (List.append_cancel_left hu)
      rw [ih h']

/-! ## The first break -/

theorem detect_of_not_hasBreak (h : hasBreak t = false) : LineEnding.detect t = .lf := by
  fun_induction LineEnding.detect t with
  | case1 => rfl
  | case2 | case3 | case4 => simp [isBreakChar] at h
  | case5 c t _ _ _ ih =>
    rw [hasBreak_cons, Bool.or_eq_false_iff] at h
    exact ih h.2

theorem detect_append_break (hl : hasBreak l = false) (he : e = .cr → t.head? ≠ some '\n') :
    LineEnding.detect (l ++ (e.text ++ t)) = e := by
  induction l with
  | nil =>
    cases e with
    | lf | crlf => rfl
    | cr =>
      cases t with
      | nil => rfl
      | cons c t =>
        have hc : c ≠ '\n' := by simpa using he rfl
        simp [LineEnding.text, LineEnding.detect, hc]
  | cons c l ih =>
    rw [hasBreak_cons, Bool.or_eq_false_iff] at hl
    have hc : c ≠ '\n' ∧ c ≠ '\r' := by simpa [isBreakChar] using hl.1
    rw [List.cons_append, LineEnding.detect, ih hl.2]
    · exact hc.1
    · rintro _ rfl; exact absurd rfl hc.2
    · exact hc.2

theorem Splits.detect_eq (H : Splits t es ls) : LineEnding.detect t = es.headD .lf := by
  cases H with
  | last hl => exact detect_of_not_hasBreak hl
  | line hl he => exact detect_append_break hl he

/-! ## Breaks of one style -/

/-- Lines joined by one break are read as these lines with this break. -/
theorem splits_joinLines (h : ls ≠ []) (hc : ∀ l ∈ ls, hasBreak l = false) :
    Splits (joinLines e ls) (List.replicate (ls.length - 1) e) ls := by
  induction ls with
  | nil => exact absurd rfl h
  | cons l ls ih =>
    rw [List.forall_mem_cons] at hc
    by_cases hls : ls = []
    · subst hls
      simpa [joinLines] using Splits.last hc.1
    · have hlen : (l :: ls).length - 1 = ls.length - 1 + 1 := by
        have := List.length_pos_iff.2 hls
        rw [List.length_cons]
        omega
      rw [joinLines_cons, preceded_eq_joinLines hls, hlen, List.replicate_succ]
      exact .line hc.1 (head?_joinLines hc.2) (ih hls hc.2)

/-- A text whose breaks are all of one style is its lines joined by that break. -/
theorem Splits.eq_joinLines (H : Splits t es ls) (h : ∀ x ∈ es, x = e) : t = joinLines e ls := by
  induction H with
  | last => simp [joinLines]
  | line _ _ hs ih =>
    obtain ⟨rfl, h⟩ := List.forall_mem_cons.1 h
    rw [joinLines_cons, preceded_eq_joinLines (hs.lines_eq ▸ lines_ne_nil _), ← ih h]

/-! ## Texts joined by line feeds -/

/-- The text without a carriage return at its end. -/
def dropReturn (t : Text) : Text := (beforeLast? '\r' t).getD t

theorem dropReturn_of_getLast?_ne (h : t.getLast? ≠ some '\r') : dropReturn t = t := by
  rw [dropReturn, beforeLast?, if_neg h, Option.getD_none]

theorem dropReturn_concat (t : Text) : dropReturn (t ++ ['\r']) = t := by
  rw [dropReturn, beforeLast?, if_pos List.getLast?_concat, Option.getD_some, List.dropLast_concat]

theorem weld_nil_cons (h : ls ≠ []) : weld ls ([] :: ls') = ls ++ ls' := by
  rw [weld_cons_right h, List.append_nil, dropLast_append_getLastD h]

/-- A carriage return is no part of a break before it. -/
theorem not_meet_return (u v : Text) : ¬Meet u ('\r' :: v) := by simp [Meet]

/-- A line feed behind a text ends its last line; a carriage return before it is part of the break. -/
theorem lines_append_lf (u v : Text) :
    lines (u ++ '\n' :: v) = lines (dropReturn u) ++ lines v := by
  by_cases h : u.getLast? = some '\r'
  · obtain ⟨w, rfl⟩ := List.getLast?_eq_some_iff.1 h
    have hpair : lines ('\r' :: '\n' :: v) = [] :: lines v := by rw [lines]
    rw [dropReturn_concat, List.append_assoc, List.singleton_append,
      lines_append (not_meet_return w _), hpair, weld_nil_cons (lines_ne_nil w)]
  · have hlf : lines ('\n' :: v) = [] :: lines v := by simp [lines, isBreakChar]
    rw [dropReturn_of_getLast?_ne h, lines_append fun h' => h h'.1, hlf,
      weld_nil_cons (lines_ne_nil u)]

/-- Texts joined by line feeds have the lines of each of them, but a carriage return at the end of any
but the last is lost. -/
theorem lines_joinLines_lf (h : ls ≠ []) : lines (joinLines .lf ls) =
    (ls.dropLast.map dropReturn).flatMap lines ++ lines (ls.getLastD []) := by
  induction ls with
  | nil => exact absurd rfl h
  | cons l ls ih =>
    by_cases hls : ls = []
    · subst hls
      simp [joinLines]
    · have hlast : (l :: ls).getLastD [] = ls.getLastD [] := by
        simp [List.getLastD_eq_getLast?, List.getLast?_cons, List.getLast?_eq_some_getLast hls]
      rw [joinLines_cons, preceded_eq_joinLines hls, LineEnding.text, List.singleton_append,
        lines_append_lf, ih hls, hlast, List.dropLast_cons_of_ne_nil hls, List.map_cons,
        List.flatMap_cons, List.append_assoc]

/-- Every carriage return that is lost at the end of a text takes an empty line with it. -/
theorem length_flatMap_dropReturn (ls : List Text) : ((ls.map dropReturn).flatMap lines).length +
    ls.countP (fun t => t.getLast? == some '\r') = (ls.flatMap lines).length := by
  induction ls with
  | nil => rfl
  | cons l ls ih =>
    rw [List.map_cons, List.flatMap_cons, List.length_append, List.countP_cons, List.flatMap_cons,
      List.length_append, ← ih]
    by_cases h : l.getLast? = some '\r'
    · obtain ⟨w, rfl⟩ := List.getLast?_eq_some_iff.1 h
      have hw : lines (w ++ ['\r']) = weld (lines w) [[], []] := lines_append (not_meet_return w [])
      rw [dropReturn_concat, hw, weld_nil_cons (lines_ne_nil w), List.length_append, if_pos (by simp),
        List.length_singleton]
      omega
    · rw [dropReturn_of_getLast?_ne h, if_neg (by simpa using h)]
      omega

theorem flatMap_dropReturn_eq_iff : (ls.map dropReturn).flatMap lines = ls.flatMap lines ↔
    ∀ t ∈ ls, t.getLast? ≠ some '\r' := by
  constructor
  · intro heq t ht hr
    have hlen := length_flatMap_dropReturn ls
    rw [heq, Nat.add_eq_left, List.countP_eq_zero] at hlen
    exact hlen t ht (by rw [hr]; rfl)
  · intro h
    rw [List.map_congr_left fun t ht => dropReturn_of_getLast?_ne (h t ht), List.map_id']

end

end Text
end LogicEditor
