import LogicEditor.Proofs.Buffer.LineList
import LogicEditor.Proofs.Search.Replace
import LogicEditor.Proofs.Text.Weld

/-!
# Matches replaced one by one

All matches can also be replaced by as many single replacements, from the last match to the first, so
that the others stay where they are. Each of them splits its text into lines by itself
(`Text.piecewise`), while the replacement of all splits the whole line when it is put together. The two
part ways only at a match that ends where the next one starts, when the replacement starts with a line
feed and ends with a carriage return, as there the two breaks become one
(`replaceAll_eq_replaceEach_iff`).
-/

namespace LogicEditor

open Buffer EditM

variable {R : Type} [Engine R] {m : Matcher R} {new t pattern : Text} {col line start stop : Nat}
  {s : Span} {ss : List Span} {b c : Buffer} {above below ts : List Text} {flags : SearchFlags}

/-- Replaces some matches one by one, from the last to the first. -/
def Edit.replaceEach (new : Text) : List Match → EditM Buffer Unit
  | [] => pure ()
  | x :: xs => do
    replaceEach new xs
    let _ ← replaceMatch x new

/-- The lines of a text with each of some spans replaced by lines of its own. The text starts in
column `col`, and the spans ascend. -/
def Text.piecewise (new : Text) (col : Nat) : List Span → Text → List Text
  | [], t => [t]
  | s :: ss, t =>
    weld [t.take (s.start - col)]
      (weld (lines new) (piecewise new s.stop ss (t.drop (s.stop - col))))

/-- The number of spans that end where a later one starts. -/
def Span.touching : List Span → Nat
  | [] => 0
  | s :: ss => (if ∃ s' ∈ ss, s.stop = s'.start then 1 else 0) + touching ss

/-! ## Lines with spans replaced -/

namespace Text

theorem piecewise_ne_nil (new : Text) (col : Nat) (ss : List Span) (t : Text) :
    piecewise new col ss t ≠ [] := by
  induction ss generalizing col t with
  | nil => exact List.cons_ne_nil t []
  | cons s ss ih => exact weld_ne_nil (weld_ne_nil (ih _ _))

theorem not_meet_of_not_hasBreak {u : Text} (h : t.hasBreak = false) : ¬Meet u t := by
  rintro ⟨-, hn⟩
  obtain ⟨v, rfl⟩ := List.head?_eq_some_iff.1 hn
  cases h

theorem not_meet_append {u v : Text} (h : t.hasBreak = false) (hne : t ≠ []) : ¬Meet u (t ++ v) := by
  obtain ⟨c, t, rfl⟩ := List.exists_cons_of_ne_nil hne
  rintro ⟨-, hn⟩
  rw [List.cons_append, List.head?_cons, Option.some.injEq] at hn
  subst hn
  cases h

/-- Breaks meet behind a replacement if the next one follows at once. -/
theorem meet_replaceSpans_iff (ht : t.hasBreak = false) (H : Span.Ascend col (col + t.length) ss) :
    Meet new (replaceSpans new col ss t) ↔ Meet new new ∧ ∃ s ∈ ss, col = s.start := by
  cases ss with
  | nil =>
    refine iff_of_false (not_meet_of_not_hasBreak ht) ?_
    rintro ⟨-, s, hs, -⟩
    cases hs
  | cons s ss =>
    obtain ⟨⟨hstart, hpos, hstop⟩, H⟩ := H.of_cons
    rw [replaceSpans]
    -- a line feed can only come from the replacement, if nothing stands before it
    by_cases hcol : col = s.start
    · rw [and_iff_left ⟨s, List.mem_cons_self, hcol⟩, hcol, Nat.sub_self, List.take_zero,
        List.nil_append]
      refine and_congr_right fun hr => ?_
      obtain ⟨u, rfl⟩ := List.getLast?_eq_some_iff.1 hr
      cases u <;> exact Iff.rfl
    · refine iff_of_false (not_meet_append (hasBreak_take ht _) ?_) ?_
      · rw [← List.length_pos_iff, List.length_take]
        omega
      · rintro ⟨-, s', hs', hcol'⟩
        rcases List.mem_cons.1 hs' with rfl | hs'
        · exact hcol hcol'
        · have := (H.bounds s' hs').1
          omega

/-- The lines of a text with the first span replaced. -/
theorem lines_replaceSpans_cons (ht : t.hasBreak = false) : lines (replaceSpans new col (s :: ss) t) =
    weld [t.take (s.start - col)]
      (lines (new ++ replaceSpans new s.stop ss (t.drop (s.stop - col)))) := by
  have hfront : hasBreak (t.take (s.start - col)) = false := hasBreak_take ht _
  rw [replaceSpans, lines_append, lines_of_not_hasBreak hfront]
  rintro ⟨hr, -⟩
  obtain ⟨u, hu⟩ := List.getLast?_eq_some_iff.1 hr
  rw [hu, hasBreak_append, Bool.or_eq_false_iff] at hfront
  cases hfront.2

/-- Lines are split alike, whether each replacement is split by itself or all of them together. -/
theorem piecewise_eq (ht : t.hasBreak = false) (H : Span.Ascend col (col + t.length) ss)
    (h : Meet new new → ss.Pairwise fun s s' => s.stop ≠ s'.start) :
    piecewise new col ss t = lines (replaceSpans new col ss t) := by
  induction ss generalizing col t with
  | nil => exact (lines_of_not_hasBreak ht).symm
  | cons s ss ih =>
    have hdrop : hasBreak (t.drop (s.stop - col)) = false := hasBreak_drop ht _
    have H := H.behind
    have hapart : ¬Meet new (replaceSpans new s.stop ss (t.drop (s.stop - col))) := by
      rw [meet_replaceSpans_iff hdrop H]
      rintro ⟨hmeet, s', hs', heq⟩
      exact List.rel_of_pairwise_cons (h hmeet) hs' heq
    rw [lines_replaceSpans_cons ht, piecewise, lines_append hapart,
      ih hdrop H fun hmeet => (h hmeet).of_cons]

/-- Where replacements touch and their breaks meet, each replacement by itself makes one line more. -/
theorem length_piecewise (ht : t.hasBreak = false) (H : Span.Ascend col (col + t.length) ss)
    (h : Meet new new) : (piecewise new col ss t).length =
      (lines (replaceSpans new col ss t)).length + Span.touching ss := by
  induction ss generalizing col t with
  | nil =>
    rw [piecewise, replaceSpans, lines_of_not_hasBreak ht]
    rfl
  | cons s ss ih =>
    have hdrop : hasBreak (t.drop (s.stop - col)) = false := hasBreak_drop ht _
    have H := H.behind
    have hrest := ih hdrop H
    have hmeet := (meet_replaceSpans_iff hdrop H).trans (and_iff_right h)
    have hpiece := length_weld (lines_ne_nil new)
      (piecewise_ne_nil new s.stop ss (t.drop (s.stop - col)))
    have hfront (ls : List Text) (hls : ls ≠ []) :
        (weld [t.take (s.start - col)] ls).length = ls.length := by
      have := length_weld (List.cons_ne_nil (t.take (s.start - col)) []) hls
      rw [List.length_singleton] at this
      omega
    rw [lines_replaceSpans_cons ht, piecewise, hfront _ (weld_ne_nil (piecewise_ne_nil _ _ _ _)),
      hfront _ (lines_ne_nil _), Span.touching]
    -- the seam behind the replacement loses a break if the next match starts there
    by_cases htouch : ∃ s' ∈ ss, s.stop = s'.start
    · have := length_lines_append (hmeet.2 htouch)
      rw [if_pos htouch]
      omega
    · have hseam := lines_append (mt hmeet.1 htouch)
      have := length_weld (lines_ne_nil new)
        (lines_ne_nil (replaceSpans new s.stop ss (t.drop (s.stop - col))))
      rw [if_neg htouch, hseam]
      omega

end Text

theorem Span.touching_eq_zero_iff :
    touching ss = 0 ↔ ss.Pairwise fun s s' => s.stop ≠ s'.start := by
  induction ss with
  | nil => exact iff_of_true rfl .nil
  | cons s ss ih =>
    rw [touching, Nat.add_eq_zero_iff, ih, List.pairwise_cons]
    refine and_congr_left fun _ => ?_
    by_cases h : ∃ s' ∈ ss, s.stop = s'.start
    · rw [if_pos h]
      obtain ⟨s', hs', heq⟩ := h
      exact iff_of_false Nat.one_ne_zero fun hall => hall s' hs' heq
    · rw [if_neg h]
      exact iff_of_true rfl fun s' hs' heq => h ⟨s', hs', heq⟩

/-! ## One replacement after the other -/

theorem lineText_of_texts (h : b.texts = above ++ t :: below) (hn : above.length = line) :
    b.lineText line = t := by
  rw [lineText, text?_eq, h, ← hn, List.getElem?_append_right (Nat.le_refl _), Nat.sub_self]
  rfl

theorem exists_replaceMatch (h : b.texts = above ++ t :: below) (hn : above.length = line)
    (hle : start ≤ stop) (hstop : stop ≤ t.length) (new : Text) : ∃ p c,
      (Edit.replaceMatch ⟨⟨line, start⟩, stop - start⟩ new).outcome b = (.ok p, c) ∧
      c.texts = above ++ Text.flank (t.take start) (Text.lines new) (t.drop stop) ++ below := by
  have hrange : (⟨⟨line, start⟩, stop - start⟩ : Match).range = .onLine line start stop := by
    rw [Match.range, Nat.add_sub_cancel' hle]
  have hroom : columnOverflows (b.lineText line) (start + (stop - start)) = false :=
    Edit.columnOverflows_of_le (by rwa [lineText_of_texts h hn, Nat.add_sub_cancel' hle])
  obtain ⟨c, hc, -, htexts⟩ := exists_replaceRange_onLine h hn hle hstop new
  refine ⟨afterInsert ⟨line, start⟩ new, c, ?_, htexts⟩
  rw [Edit.outcome_replaceMatch, if_neg (Bool.eq_false_iff.1 hroom), hrange, hc]

theorem outcome_replaceEach_append {xs ys : List Match}
    (h : (Edit.replaceEach new ys).outcome b = (.ok ⟨⟩, c)) :
    (Edit.replaceEach new (xs ++ ys)).outcome b = (Edit.replaceEach new xs).outcome c := by
  induction xs with
  | nil => exact h
  | cons x xs ih =>
    rw [List.cons_append, Edit.replaceEach, Edit.replaceEach, outcome_bind, outcome_bind, ih]

/-- The matches of one line, from the right to the left. What stands left of those that are done is
as it was. -/
theorem exists_replaceEach_line (h : b.texts = above ++ t :: below) (hn : above.length = line)
    (H : Span.Ascend col t.length ss) (hcol : col ≤ t.length) (new : Text) : ∃ c,
      (Edit.replaceEach new (ss.map fun s => ⟨⟨line, s.start⟩, s.length⟩)).outcome b = (.ok ⟨⟩, c) ∧
      c.texts = above ++ Text.weld [t.take col] (Text.piecewise new col ss (t.drop col)) ++ below := by
  induction ss generalizing col with
  | nil =>
    refine ⟨b, rfl, ?_⟩
    rw [Text.piecewise, Text.weld_singleton, List.take_append_drop, h, List.append_assoc]
    rfl
  | cons s ss ih =>
    obtain ⟨⟨hstart, hpos, hstop⟩, H⟩ := H.of_cons
    -- the matches right of this one are done, and it stands where it stood, at the end of the text
    -- that is left of them
    obtain ⟨c, hc, htexts⟩ := ih H hstop
    obtain ⟨u, rest, hrest⟩ :=
      List.exists_cons_of_ne_nil (Text.piecewise_ne_nil new s.stop ss (t.drop s.stop))
    have hlen : (t.take s.stop).length = s.stop := List.length_take_of_le hstop
    have hleft : s.stop ≤ (t.take s.stop ++ u).length := by
      rw [List.length_append, hlen]
      exact Nat.le_add_right _ _
    rw [hrest, Text.weld_singleton, List.append_assoc, List.cons_append] at htexts
    obtain ⟨p, d, hd, htexts⟩ := exists_replaceMatch htexts hn (Nat.le_of_lt hpos) hleft new
    refine ⟨d, ?_, ?_⟩
    · rw [List.map_cons, Edit.replaceEach, outcome_bind_ok hc]
      rw [Span.length, outcome_bind_ok hd]
      rfl
    · have htake : (t.take s.stop ++ u).take s.start = t.take s.start := by
        rw [List.take_append_of_le_length (hlen.symm ▸ Nat.le_of_lt hpos), List.take_take,
          Nat.min_eq_left (Nat.le_of_lt hpos)]
      have hfront : t.take col ++ (t.drop col).take (s.start - col) = t.take s.start := by
        rw [← List.take_add, Nat.add_sub_cancel' hstart]
      have hback : (t.drop col).drop (s.stop - col) = t.drop s.stop := by
        rw [List.drop_drop, Nat.add_sub_cancel' (by omega)]
      rw [htexts, htake, List.drop_left' hlen, Text.piecewise, hback, hrest,
        Text.weld_weld_singleton (Text.weld_ne_nil (List.cons_ne_nil u rest)), hfront,
        ← Text.flank_append (Text.lines_ne_nil new)]
      simp only [List.append_assoc]

/-- The lines of a buffer from one on, from the bottom to the top. The matches are those that the
buffer `b` had when they were looked up. -/
theorem exists_replaceEach_from [LawfulEngine R] (m : Matcher R) (new : Text) (h : b.texts = above ++ ts)
    (hn : above.length = line) : ∃ c,
      (Edit.replaceEach new (b.matchesIn m (List.range' line ts.length))).outcome b = (.ok ⟨⟩, c) ∧
      c.texts = above ++ ts.flatMap fun t => Text.piecewise new 0 (m.lineMatches t) t := by
  induction ts generalizing above line with
  | nil => exact ⟨b, rfl, h⟩
  | cons t ts ih =>
    have htext : b.lineText line = t := lineText_of_texts h hn
    -- what the lines below have become comes in below this one, which keeps its number
    obtain ⟨c, hc, htexts⟩ := ih (h.trans (List.append_cons ..))
      (List.length_append.trans (congrArg (· + 1) hn))
    rw [List.append_assoc, List.singleton_append] at htexts
    obtain ⟨d, hd, hlast⟩ :=
      exists_replaceEach_line htexts hn (m.ascend_lineMatches t) (Nat.zero_le _) new
    refine ⟨d, ?_, ?_⟩
    · rw [List.length_cons, List.range'_succ, matchesIn, List.flatMap_cons, ← matchesIn,
        outcome_replaceEach_append hc, htext]
      exact hd
    · obtain ⟨u, rest, hrest⟩ :=
        List.exists_cons_of_ne_nil (Text.piecewise_ne_nil new 0 (m.lineMatches t) t)
      rw [hlast, List.drop_zero, List.take_zero, List.flatMap_cons, hrest, Text.weld_singleton,
        List.append_assoc]
      rfl

/-! ## All matches -/

section
variable [LawfulEngine R]

theorem pairwise_matchesOn_iff (m : Matcher R) (line : Nat) (t : Text) :
    ((m.matchesOn line t).Pairwise fun x y => x.range.stop ≠ y.range.start) ↔
      (m.lineMatches t).Pairwise fun s s' => s.stop ≠ s'.start := by
  rw [Matcher.matchesOn, List.pairwise_map]
  refine List.Pairwise.iff_of_mem fun {s s'} hs _ => not_congr ?_
  have hle : s.start ≤ s.stop := Nat.le_of_lt ((m.ascend_lineMatches t).bounds s hs).2.1
  rw [Match.range, Match.range, Span.length, Nat.add_sub_cancel' hle]
  exact ⟨fun h => congrArg Position.col h, fun h => congrArg (Position.mk line) h⟩

/-- Matches of different lines stay apart, so whether matches touch is asked line by line. -/
theorem pairwise_matchesIn_iff (b : Buffer) (m : Matcher R) :
    ((b.matchesIn m (List.range b.lineCount)).Pairwise fun x y => x.range.stop ≠ y.range.start) ↔
      ∀ t ∈ b.texts, (m.lineMatches t).Pairwise fun s s' => s.stop ≠ s'.start := by
  have happart : (List.range b.lineCount).Pairwise fun i j => ∀ x ∈ m.matchesOn i (b.lineText i),
      ∀ y ∈ m.matchesOn j (b.lineText j), x.range.stop ≠ y.range.start := by
    refine List.pairwise_lt_range.imp fun {i j} hij x hx y hy heq => ?_
    obtain ⟨rfl, -⟩ := Matcher.mem_matchesOn hx
    obtain ⟨rfl, -⟩ := Matcher.mem_matchesOn hy
    have hline : x.range.stop.line = y.range.start.line := congrArg Position.line heq
    exact Nat.ne_of_lt hij hline
  rw [matchesIn, List.pairwise_flatMap, and_iff_left happart]
  simp only [pairwise_matchesOn_iff]
  rw [← b.map_lineText, List.forall_mem_map]

variable (hc : ∀ t ∈ ts, t.hasBreak = false)
include hc

theorem Text.flatMap_piecewise_eq
    (h : Meet new new → ∀ t ∈ ts, (m.lineMatches t).Pairwise fun s s' => s.stop ≠ s'.start) :
    (ts.flatMap fun t => piecewise new 0 (m.lineMatches t) t) =
      ts.flatMap fun t => lines (m.rewritten new t) := by
  refine List.flatMap_congr fun t ht => ?_
  rw [← m.replaceSpans_eq]
  exact piecewise_eq (hc t ht) (m.ascend_lineMatches_zero t) fun hmeet => h hmeet t ht

/-- Each place where matches touch makes one line more if breaks meet, so lines that are as many have
no such place. -/
theorem Text.length_flatMap_piecewise (h : Meet new new) :
    (ts.flatMap fun t => lines (m.rewritten new t)).length ≤
        (ts.flatMap fun t => piecewise new 0 (m.lineMatches t) t).length ∧
      ((ts.flatMap fun t => lines (m.rewritten new t)).length =
          (ts.flatMap fun t => piecewise new 0 (m.lineMatches t) t).length →
        ∀ t ∈ ts, (m.lineMatches t).Pairwise fun s s' => s.stop ≠ s'.start) := by
  induction ts with
  | nil => exact ⟨Nat.le_refl _, fun _ _ ht => absurd ht List.not_mem_nil⟩
  | cons t ts ih =>
    rw [List.forall_mem_cons] at hc
    obtain ⟨hle, heq⟩ := ih hc.2
    have hline := length_piecewise hc.1 (m.ascend_lineMatches_zero t) h
    rw [m.replaceSpans_eq] at hline
    rw [List.flatMap_cons, List.flatMap_cons, List.length_append, List.length_append, hline,
      List.forall_mem_cons, ← Span.touching_eq_zero_iff]
    exact ⟨by omega, fun hlen => ⟨by omega, heq (by omega)⟩⟩

end

/-- Replacing all matches leaves the same lines as replacing them one by one, from the last to the
first, unless a match ends where another one starts and breaks meet there. -/
theorem replaceAll_eq_replaceEach_iff [LawfulEngine R] (hb : b.Lived) (hp : pattern ≠ [])
    (hm : Matcher.make pattern flags = .ok m) (new : Text) : ∃ xs c d,
      b.findAll pattern 0 b.lineCount flags R = .ok xs ∧
      (Edit.replaceAll pattern new flags false R).outcome b = (.ok xs.length, c) ∧
      (Edit.replaceEach new xs).outcome b = (.ok ⟨⟩, d) ∧
      (c.texts = d.texts ↔
        (Text.Meet new new → xs.Pairwise fun x y => x.range.stop ≠ y.range.start)) := by
  have W := hb.wellFormed
  obtain ⟨n, c, hall, H⟩ := exists_sweep m new (List.nil_append b.lines).symm rfl (Nat.le_refl _)
  have hswept := H.swept rfl rfl fun l hl => W.clean l.text (List.mem_map_of_mem hl)
  have hcount : n = (b.matchesIn m (List.range b.lineCount)).length :=
    hswept.count.trans (length_matchesIn b m).symm
  obtain ⟨d, heach, htexts⟩ := exists_replaceEach_from m new (List.nil_append b.texts).symm rfl
  rw [b.length_texts, List.length_nil, ← List.range_eq_range'] at heach
  refine ⟨_, c, d, findAll_eq hp hm, ?_, heach, ?_⟩
  · rw [outcome_replaceAll_of_make hp hm, ← hcount]
    exact hall
  rw [pairwise_matchesIn_iff, (hswept.allReplaced W).texts, htexts, List.nil_append]
  refine ⟨fun heq hmeet => ?_, fun h => (Text.flatMap_piecewise_eq W.clean h).symm⟩
  exact (Text.length_flatMap_piecewise W.clean hmeet).2 (congrArg List.length heq)

/-- Matches that stay apart can be replaced in either way, also by a text whose breaks would meet. -/
theorem replaceAll_eq_replaceEach_iff_apart :
    let b := Buffer.ofText "aba\nc".toList
    let flags : SearchFlags := { caseSensitive := true }
    let new : Text := "\n\r".toList
    ∃ xs c d, b.findAll ['a'] 0 b.lineCount flags = .ok xs ∧
      (Edit.replaceAll ['a'] new flags).outcome b = (.ok xs.length, c) ∧
      (Edit.replaceEach new xs).outcome b = (.ok ⟨⟩, d) ∧
      c.texts = d.texts ∧ d.texts = [[], [], ['b'], [], [], ['c']] := by
  intro b flags new
  obtain ⟨m, hm⟩ : ∃ m : Matcher Pattern.Program, Matcher.make ['a'] flags = .ok m :=
    Matcher.exists_make (by decide +kernel)
  have hb : b.Lived := ⟨b, .ofText _ (by decide), .refl⟩
  have hfound : (b.findAll ['a'] 0 b.lineCount flags).toOption =
      some [⟨⟨0, 0⟩, 1⟩, ⟨⟨0, 2⟩, 1⟩] := by decide +kernel
  have htexts : ((Edit.replaceEach new [⟨⟨0, 0⟩, 1⟩, ⟨⟨0, 2⟩, 1⟩]).outcome b).2.texts =
      [[], [], ['b'], [], [], ['c']] := by decide +kernel
  obtain ⟨xs, c, d, hxs, hall, heach, heq⟩ :=
    replaceAll_eq_replaceEach_iff hb (List.cons_ne_nil 'a' []) hm new
  rw [hxs] at hfound
  cases hfound
  rw [heach] at htexts
  exact ⟨_, c, d, hxs, hall, heach, heq.2 fun _ => by decide, htexts⟩

/-- Two matches that touch, each replaced by a line feed and a carriage return, make four lines where
they make five one by one. -/
theorem replaceAll_ne_replaceEach :
    let b := Buffer.ofText "aa".toList
    let flags : SearchFlags := { caseSensitive := true }
    let new : Text := "\n\r".toList
    ∃ xs, (b.findAll ['a'] 0 b.lineCount flags).toOption = some xs ∧
      ((Edit.replaceAll ['a'] new flags).outcome b).2.texts = [[], [], [], []] ∧
      ((Edit.replaceEach new xs).outcome b).2.texts = [[], [], [], [], []] :=
  ⟨[⟨⟨0, 0⟩, 1⟩, ⟨⟨0, 1⟩, 1⟩], by decide +kernel, by decide +kernel, by decide +kernel⟩

end LogicEditor
