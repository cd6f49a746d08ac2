import LogicEditor.Proofs.Text.LineBreak

/-!
# Ropes

A rope is a long text kept in pieces, so that it can be changed anywhere and knows where its lines
start. `Rope` names the operations that a buffer needs of ropes, and `LawfulRope` says what they do
as long as their indices are in range; out of range nothing is assumed of them.

A rope breaks its text into lines by itself, at the same breaks as `Text.lines`, and leaves each
break with the line before it (`Text.brokenLines`). On joined lines both ways agree
(`Text.brokenLines_joinLines`). What matters is that no line feed follows a break that is a mere
carriage return, as the rope would take the two for one break.
-/

namespace LogicEditor
namespace Text

variable {e : LineEnding} {l t : Text} {ls ms : List Text} {i : Nat}

/-! ## Lines with their breaks -/

/-- The lines of a text, each with the break behind it. -/
def brokenLines : Text → List Text
  | [] => [[]]
  | '\r' :: '\n' :: t => ['\r', '\n'] :: brokenLines t
  | c :: t => if isBreakChar c then [c] :: brokenLines t else consLine c (brokenLines t)

/-- The number of characters of a line before its break. -/
def bodyLength (l : Text) : Nat :=
  match l.reverse with
  | [] => 0
  | '\n' :: '\r' :: body => body.length
  | c :: body => if isBreakChar c then body.length else body.length + 1

theorem brokenLines_cons_of_not_break {c : Char} (h : isBreakChar c = false) :
    brokenLines (c :: t) = consLine c (brokenLines t) := by
  have hc : c ≠ '\r' := by rintro rfl; simp [isBreakChar] at h
  rw [brokenLines]
  · simp [h]
  · rintro t rfl
    exact absurd rfl hc

theorem brokenLines_of_not_hasBreak (h : hasBreak t = false) : brokenLines t = [t] := by
  induction t with
  | nil => rfl
  | cons c t ih =>
    rw [hasBreak_cons, Bool.or_eq_false_iff] at h
    rw [brokenLines_cons_of_not_break h.1, ih h.2, consLine]

/-- A line with its break. A carriage return is a break of its own only if no line feed follows. -/
theorem brokenLines_append_break (hl : hasBreak l = false) (ht : e = .cr → t.head? ≠ some '\n') :
    brokenLines (l ++ (e.text ++ t)) = (l ++ e.text) :: brokenLines t := by
  induction l with
  | nil =>
    cases e with
    | lf => simp [LineEnding.text, brokenLines, isBreakChar]
    | crlf => simp [LineEnding.text, brokenLines]
    | cr =>
      have hnext := ht rfl
      rw [LineEnding.text, List.nil_append, List.singleton_append, brokenLines]
      · simp [isBreakChar]
      · rintro u - rfl
        simp at hnext
  | cons c l ih =>
    rw [hasBreak_cons, Bool.or_eq_false_iff] at hl
    rw [List.cons_append, brokenLines_cons_of_not_break hl.1, ih hl.2, consLine, List.cons_append]

/-- Joined lines break into the same lines, each but the last with its break. -/
theorem brokenLines_joinLines (h : ls ≠ []) (hc : ∀ l ∈ ls, hasBreak l = false) :
    brokenLines (joinLines e ls) = ls.dropLast.map (· ++ e.text) ++ [ls.getLastD []] := by
  induction ls with
  | nil => exact absurd rfl h
  | cons l ls ih =>
    have hl := hc l List.mem_cons_self
    have hls : ∀ m ∈ ls, hasBreak m = false := fun m hm => hc m (List.mem_cons_of_mem _ hm)
    cases ls with
    | nil => simpa [joinLines] using brokenLines_of_not_hasBreak hl
    | cons m ls =>
      rw [joinLines_cons, preceded_eq_joinLines (List.cons_ne_nil m ls),
        brokenLines_append_break hl (head?_joinLines hls), ih (List.cons_ne_nil m ls) hls]
      rfl

theorem bodyLength_of_not_hasBreak (h : hasBreak l = false) : bodyLength l = l.length := by
  rw [hasBreak, ← List.any_reverse] at h
  rw [bodyLength, ← List.length_reverse]
  cases hr : l.reverse with
  | nil => rfl
  | cons c body =>
    rw [hr, List.any_cons, Bool.or_eq_false_iff] at h
    have hc : c ≠ '\n' := by
      rintro rfl
      simp [isBreakChar] at h
    simp [hc, h.1]

theorem bodyLength_append_break (h : hasBreak l = false) : bodyLength (l ++ e.text) = l.length := by
  rw [bodyLength, List.reverse_append]
  cases e with
  | lf =>
    -- before a line feed, a carriage return would be part of the break
    rw [hasBreak, ← List.any_reverse] at h
    rw [← List.length_reverse]
    cases hr : l.reverse with
    | nil => rfl
    | cons c body =>
      rw [hr, List.any_cons, Bool.or_eq_false_iff] at h
      have hc : c ≠ '\r' := by
        rintro rfl
        simp [isBreakChar] at h
      simp [LineEnding.text, isBreakChar, hc]
  | crlf => simp [LineEnding.text]
  | cr => simp [LineEnding.text, isBreakChar]

section
variable (h : ls ≠ []) (hc : ∀ l ∈ ls, hasBreak l = false)
include h hc

theorem length_brokenLines_joinLines : (brokenLines (joinLines e ls)).length = ls.length := by
  have hpos := List.length_pos_iff.2 h
  rw [brokenLines_joinLines h hc, List.length_append, List.length_map, List.length_dropLast,
    List.length_singleton]
  omega

/-- A line starts behind all lines above it and their breaks. -/
theorem flatten_take_brokenLines (hi : i < ls.length) :
    ((brokenLines (joinLines e ls)).take i).flatten = terminated e (ls.take i) := by
  rw [brokenLines_joinLines h hc, List.take_append_of_le_length
    (by rw [List.length_map, List.length_dropLast]; omega), ← List.map_take, List.dropLast_eq_take,
    List.take_take, Nat.min_eq_left (by omega), terminated, List.flatMap_def]

theorem bodyLength_brokenLines (hi : i < ls.length) (hb : i < (brokenLines (joinLines e ls)).length) :
    bodyLength (brokenLines (joinLines e ls))[i] = ls[i].length := by
  have hclean : hasBreak ls[i] = false := hc _ (List.getElem_mem hi)
  simp only [brokenLines_joinLines h hc]
  by_cases hlast : i < ls.dropLast.length
  · rw [List.getElem_append_left (by rwa [List.length_map]), List.getElem_map, List.getElem_dropLast,
      bodyLength_append_break hclean]
  · have hlen : i = ls.length - 1 := by
      rw [List.length_dropLast] at hlast
      omega
    have hget : ls.getLastD [] = ls[i] := by
      rw [List.getLastD_eq_getLast?, List.getLast?_eq_getElem?, ← hlen, List.getElem?_eq_getElem hi,
        Option.getD_some]
    rw [List.getElem_append_right (by rw [List.length_map]; omega), List.getElem_singleton, hget,
      bodyLength_of_not_hasBreak hclean]

end

end Text

/-! ## Ropes -/

open Text

/-- The operations of ropes. All indices count characters, those of lines excepted. -/
class Rope (R : Type) where
  ofText : Text → R
  text : R → Text
  /-- The number of characters. -/
  length : R → Nat
  lineCount : R → Nat
  /-- The number of characters before a line. -/
  lineStart : R → Nat → Nat
  /-- A line, with its break. -/
  line : R → Nat → Text
  /-- The characters from one index up to but not including another. -/
  slice : R → Nat → Nat → Text
  insert : R → Nat → Text → R
  /-- Takes away the characters from one index up to but not including another. -/
  remove : R → Nat → Nat → R

/-- Ropes whose operations do on the text what they say, where their indices are in range. -/
class LawfulRope (R : Type) [Rope R] : Prop where
  text_ofText (t : Text) : Rope.text (Rope.ofText t : R) = t
  length_eq (r : R) : Rope.length r = (Rope.text r).length
  lineCount_eq (r : R) : Rope.lineCount r = (brokenLines (Rope.text r)).length
  lineStart_eq (r : R) {i : Nat} (h : i ≤ (brokenLines (Rope.text r)).length) :
    Rope.lineStart r i = ((brokenLines (Rope.text r)).take i).flatten.length
  line_eq (r : R) {i : Nat} (h : i < (brokenLines (Rope.text r)).length) :
    Rope.line r i = (brokenLines (Rope.text r))[i]
  slice_eq (r : R) {i j : Nat} (h : i ≤ j) (hj : j ≤ (Rope.text r).length) :
    Rope.slice r i j = ((Rope.text r).take j).drop i
  text_insert (r : R) {i : Nat} (t : Text) (h : i ≤ (Rope.text r).length) :
    Rope.text (Rope.insert r i t) = (Rope.text r).take i ++ t ++ (Rope.text r).drop i
  text_remove (r : R) {i j : Nat} (h : i ≤ j) (hj : j ≤ (Rope.text r).length) :
    Rope.text (Rope.remove r i j) = (Rope.text r).take i ++ (Rope.text r).drop j

/-- The rope of a single piece. -/
instance : Rope Text where
  ofText t := t
  text t := t
  length t := t.length
  lineCount t := (brokenLines t).length
  lineStart t i := ((brokenLines t).take i).flatten.length
  line t i := (brokenLines t)[i]?.getD []
  slice t i j := (t.take j).drop i
  insert t i u := t.take i ++ u ++ t.drop i
  remove t i j := t.take i ++ t.drop j

instance : LawfulRope Text where
  text_ofText _ := rfl
  length_eq _ := rfl
  lineCount_eq _ := rfl
  lineStart_eq _ _ _ := rfl
  line_eq _ _ h := congrArg (Option.getD · []) (List.getElem?_eq_getElem h)
  slice_eq _ _ _ _ _ := rfl
  text_insert _ _ _ _ := rfl
  text_remove _ _ _ _ _ := rfl

end LogicEditor
