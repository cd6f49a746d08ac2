import LogicEditor.Proofs.Search.Literal
import LogicEditor.Proofs.Search.Match

/-!
# The next match

A search looks at the rest of the line it starts on, then at the lines on one side of it, and with
wrapping at those on the other side and at the line itself once more. Together these are all matches
of the buffer, in two parts; so the next match is the first one of the second part, or else the first
one of all (`head?_around`). Backward the same holds of the list read from its end
(`getLast?_around`). Together they say which match a search finds, with any lawful engine
(`Buffer.find_cyclic`).
-/

namespace LogicEditor

/-! ## Lists searched from the middle -/

/-- A list that is searched from its middle on, and then from its start. The part in between belongs
to both sides of the middle, and `p` says what comes behind it. -/
theorem head?_around {α : Type} {p q : α → Bool} {xs ys zs : List α} (wrap : Bool)
    (hxs : ∀ x ∈ xs, p x = false) (hys : ∀ y ∈ ys, q y = !p y) (hzs : ∀ z ∈ zs, p z = true) :
    (ys.filter p).head?.or
        (zs.head?.or (if wrap then xs.head?.or (ys.filter q).head? else none)) =
      ((xs ++ (ys ++ zs)).filter p).head?.or (if wrap then (xs ++ (ys ++ zs)).head? else none) := by
  have hxs : xs.filter p = [] := List.filter_eq_nil_iff.2 fun x hx => Bool.eq_false_iff.1 (hxs x hx)
  rw [List.filter_append, List.filter_append, hxs, List.filter_eq_self.2 hzs, List.nil_append,
    List.head?_append, List.head?_append, List.head?_append, ← Option.or_assoc]
  cases h : (ys.filter p).head?.or zs.head? with
  | some x => rfl
  | none =>
    -- Nothing lies behind the middle, so all of `ys` lies before it.
    obtain ⟨hnone, hzs⟩ := Option.or_eq_none_iff.1 h
    rw [List.head?_eq_none_iff, List.filter_eq_nil_iff] at hnone
    have hall : ys.filter q = ys := List.filter_eq_self.2 fun y hy => by
      rw [hys y hy, Bool.eq_false_iff.2 (hnone y hy), Bool.not_false]
    rw [hall, hzs, Option.or_none]

/-- The same from the middle backward. -/
theorem getLast?_around {α : Type} {p q : α → Bool} {xs ys zs : List α} (wrap : Bool)
    (hxs : ∀ x ∈ xs, p x = true) (hys : ∀ y ∈ ys, q y = !p y) (hzs : ∀ z ∈ zs, p z = false) :
    (ys.filter p).getLast?.or
        (xs.getLast?.or (if wrap then zs.getLast?.or (ys.filter q).getLast? else none)) =
      ((xs ++ (ys ++ zs)).filter p).getLast?.or
        (if wrap then (xs ++ (ys ++ zs)).getLast? else none) := by
  have hreverse : (xs ++ (ys ++ zs)).reverse = zs.reverse ++ (ys.reverse ++ xs.reverse) := by
    rw [List.reverse_append, List.reverse_append, List.append_assoc]
  simp only [List.getLast?_eq_head?_reverse, ← List.filter_reverse, hreverse]
  exact head?_around wrap (fun z hz => hzs z (List.mem_reverse.1 hz))
    (fun y hy => hys y (List.mem_reverse.1 hy)) (fun x hx => hxs x (List.mem_reverse.1 hx))

/-! ## Positions on a line -/

namespace Position

variable {p q : Position}

theorem not_lt_of_lt (h : p < q) : ¬ q < p := by
  rintro (h' | h') <;> rcases h with h | h <;> omega

theorem lt_iff_col (h : p.line = q.line) : p < q ↔ p.col < q.col :=
  ⟨fun hlt => hlt.elim (fun hlt => absurd h (Nat.ne_of_lt hlt)) And.right, fun hlt => .inr ⟨h, hlt⟩⟩

end Position

namespace Buffer

variable {R : Type} [Engine R] {b : Buffer} {m : Matcher R} {x : Match} {pattern : Text}
  {flags : SearchFlags} {start : Position} {line : Nat} {lines : List Nat}

/-! ## Matches around a line -/

theorem matchesIn_split (h : line < b.lineCount) : b.matchesIn m (List.range b.lineCount) =
    b.matchesIn m (List.range line) ++ (m.matchesOn line (b.lineText line) ++
      b.matchesIn m (List.range' (line + 1) (b.lineCount - (line + 1)))) := by
  have hcount : line + (b.lineCount - (line + 1) + 1) = b.lineCount := by omega
  have hlines := List.range'_append_1 (s := 0) (m := line) (n := b.lineCount - (line + 1) + 1)
  rw [Nat.zero_add, hcount, List.range'_succ, ← List.range_eq_range', ← List.range_eq_range'] at hlines
  rw [← hlines, matchesIn, List.flatMap_append, List.flatMap_cons]
  rfl

section
variable [LawfulEngine R]

theorem lt_start_of_mem_below {n : Nat} (h : x ∈ b.matchesIn m (List.range' (start.line + 1) n)) :
    start < x.start := .inl (List.mem_range'_1.1 (mem_matchesIn h).1).1

theorem start_lt_of_mem_above (h : x ∈ b.matchesIn m (List.range start.line)) : x.start < start :=
  .inl (List.mem_range.1 (mem_matchesIn h).1)

end

theorem findSome?_forward : lines.findSome? (b.matchOn? m .forward fun _ => true) =
    (b.matchesIn m lines).head? := by
  have hline (line : Nat) : b.matchOn? m .forward (fun _ => true) line =
      (m.matchesOn line (b.lineText line)).head? :=
    congrArg List.head? (List.filter_eq_self.2 fun _ _ => rfl)
  rw [funext hline, matchesIn, List.head?_flatMap]

theorem findSome?_backward : lines.reverse.findSome? (b.matchOn? m .backward fun _ => true) =
    (b.matchesIn m lines).getLast? := by
  have hline (line : Nat) : b.matchOn? m .backward (fun _ => true) line =
      (m.matchesOn line (b.lineText line)).getLast? :=
    congrArg List.getLast? (List.filter_eq_self.2 fun _ _ => rfl)
  rw [funext hline, matchesIn, List.getLast?_flatMap]

/-! ## Searches -/

section
variable [LawfulEngine R]

theorem nextMatch?_forward (h : start.line < b.lineCount) (wrap : Bool) :
    b.nextMatch? m wrap start .forward =
      ((b.matchesIn m (List.range b.lineCount)).filter fun x => start < x.start).head?.or
        (if wrap then (b.matchesIn m (List.range b.lineCount)).head? else none) := by
  let above := b.matchesIn m (List.range start.line)
  let here := m.matchesOn start.line (b.lineText start.line)
  let below := b.matchesIn m (List.range' (start.line + 1) (b.lineCount - (start.line + 1)))
  have hnext : b.nextMatch? m wrap start .forward =
      (here.filter fun x => start.col < x.start.col).head?.or (below.head?.or
        (if wrap then above.head?.or (here.filter fun x => x.start.col ≤ start.col).head?
        else none)) := by
    simp only [above, below, Option.or_eq_orElse, ← findSome?_forward]
    rfl
  have hhere : ∀ x ∈ here, decide (start < x.start) = decide (start.col < x.start.col) :=
    fun x hx => decide_eq_decide.2 (Position.lt_iff_col (Matcher.mem_matchesOn hx).1.symm)
  rw [hnext, matchesIn_split h, ← List.filter_congr hhere]
  refine head?_around wrap (fun x hx => ?_) (fun x hx => ?_) fun x hx => ?_
  · exact decide_eq_false (Position.not_lt_of_lt (start_lt_of_mem_above hx))
  · rw [hhere x hx, ← decide_not]
    exact decide_eq_decide.2 Nat.not_lt.symm
  · exact decide_eq_true (lt_start_of_mem_below hx)

theorem nextMatch?_backward (h : start.line < b.lineCount) (wrap : Bool) :
    b.nextMatch? m wrap start .backward =
      ((b.matchesIn m (List.range b.lineCount)).filter fun x => x.start < start).getLast?.or
        (if wrap then (b.matchesIn m (List.range b.lineCount)).getLast? else none) := by
  let above := b.matchesIn m (List.range start.line)
  let here := m.matchesOn start.line (b.lineText start.line)
  let below := b.matchesIn m (List.range' (start.line + 1) (b.lineCount - (start.line + 1)))
  have hnext : b.nextMatch? m wrap start .backward =
      (here.filter fun x => x.start.col < start.col).getLast?.or (above.getLast?.or
        (if wrap then below.getLast?.or (here.filter fun x => start.col ≤ x.start.col).getLast?
        else none)) := by
    simp only [above, below, Option.or_eq_orElse, ← findSome?_backward]
    rfl
  have hhere : ∀ x ∈ here, decide (x.start < start) = decide (x.start.col < start.col) :=
    fun x hx => decide_eq_decide.2 (Position.lt_iff_col (Matcher.mem_matchesOn hx).1)
  rw [hnext, matchesIn_split h, ← List.filter_congr hhere]
  refine getLast?_around wrap (fun x hx => ?_) (fun x hx => ?_) fun x hx => ?_
  · exact decide_eq_true (start_lt_of_mem_above hx)
  · rw [hhere x hx, ← decide_not]
    exact decide_eq_decide.2 Nat.not_lt.symm
  · exact decide_eq_false (Position.not_lt_of_lt (lt_start_of_mem_below hx))

end

theorem find_eq (hp : pattern ≠ []) (hm : Matcher.make pattern flags = .ok m)
    (h : start.line < b.lineCount) (d : SearchDirection) :
    b.find pattern start d flags R = .ok (b.nextMatch? m flags.wrap start d) := by
  rw [find, lineError?_eq_none.2 h, hm]
  simp only [List.isEmpty_eq_false_iff.2 hp]
  rfl

/-- A search finds the match that follows its start in the list of all matches, or goes on from the
other end of the list. -/
theorem find_cyclic [LawfulEngine R] (b : Buffer) (hp : pattern ≠ [])
    (hm : (Matcher.make pattern flags : Except EditError (Matcher R)) = .ok m)
    (h : start.line < b.lineCount) : ∃ xs : List Match,
      b.findAll pattern 0 b.lineCount flags R = .ok xs ∧ b.InOrder xs ∧
      b.find pattern start .forward flags R = .ok
        ((xs.filter fun x => start < x.start).head?.or (if flags.wrap then xs.head? else none)) ∧
      b.find pattern start .backward flags R = .ok
        ((xs.filter fun x => x.start < start).getLast?.or
          (if flags.wrap then xs.getLast? else none)) := by
  refine ⟨_, findAll_eq hp hm, b.inOrder_matchesIn m, ?_, ?_⟩
  · rw [find_eq hp hm h, nextMatch?_forward h]
  · rw [find_eq hp hm h, nextMatch?_backward h]

/-- A search that starts at the only match wraps around and comes back to it. -/
theorem find_cyclic_alone :
    let b := ofText "b\nba".toList
    let flags : SearchFlags := { caseSensitive := true, wrap := true }
    b.InOrder [⟨⟨1, 1⟩, 1⟩] ∧
      b.find ['a'] ⟨1, 1⟩ .forward flags = .ok (some ⟨⟨1, 1⟩, 1⟩) ∧
      b.find ['a'] ⟨1, 1⟩ .backward flags = .ok (some ⟨⟨1, 1⟩, 1⟩) := by
  intro b flags
  obtain ⟨m, hm⟩ : ∃ m : Matcher Pattern.Program, Matcher.make ['a'] flags = .ok m :=
    Matcher.exists_make (by decide +kernel)
  have hall : (b.findAll ['a'] 0 b.lineCount flags).toOption = some [⟨⟨1, 1⟩, 1⟩] := by
    decide +kernel
  have hstart : (⟨1, 1⟩ : Position).line < b.lineCount := by decide +kernel
  obtain ⟨xs, hxs, H⟩ := find_cyclic b (List.cons_ne_nil 'a' []) hm hstart
  rw [hxs] at hall
  cases hall
  exact H

end Buffer
end LogicEditor
