import LogicEditor.Proofs.Buffer.Selection
import Mathlib.Order.Bounds.Defs
import Mathlib.Order.Bounds.Basic

/-!
# Tab stops

There is a tab stop in every column that is a multiple of the tab width. A tab character takes the
display to the next one, any other character as far as it is wide (`Edit.Shows`, which is what the
display width measures). A tab that is inserted takes the cursor to the next one by spaces, wherever
the text before it ends, as long as the display width of that text is an index and there are not more
spaces than a text can have (`Edit.reachesStop_iff`): no number of a tab is above both the display
width and the tab width (`Edit.le_of_mem_tabNumbers`).
-/

namespace LogicEditor
namespace Edit

open Buffer

variable {b : Buffer} {sel : Selection} {tab w v k n limit : Nat} {c : Char} {t u : Text}

/-! ## Columns -/

/-- The first tab stop behind a column. -/
def NextStop (tab w k : Nat) : Prop := IsLeast {j | tab ∣ j ∧ w < j} k

theorem NextStop.unique (H : NextStop tab w k) (H' : NextStop tab w v) : k = v :=
  IsLeast.unique H H'

theorem nextStop (h : 0 < tab) (w : Nat) : NextStop tab w ((w / tab + 1) * tab) := by
  refine ⟨⟨Nat.dvd_mul_left .., Nat.lt_mul_of_div_lt (Nat.lt_succ_self _) h⟩, ?_⟩
  rintro j ⟨⟨n, rfl⟩, hlt⟩
  have hn : w / tab < n := Nat.div_lt_of_lt_mul hlt
  rw [Nat.mul_comm tab]
  exact Nat.mul_le_mul_right tab hn

/-- The rest of a tab is as wide as what is missing to the next tab stop. -/
theorem nextStop_add (h : 0 < tab) (w : Nat) : NextStop tab w (w + (tab - w % tab)) := by
  have hmod := Nat.mod_lt w h
  have hdiv : w / tab * tab + w % tab = w := Nat.div_add_mod' w tab
  have heq : w + (tab - w % tab) = (w / tab + 1) * tab := by
    rw [Nat.succ_mul]
    omega
  exact heq ▸ nextStop h w

/-- A text that starts in display column `w` ends in display column `v`. -/
inductive Shows (tab : Nat) : (w : Nat) → Text → (v : Nat) → Prop
  | nil {w : Nat} : Shows tab w [] w
  | tab {w k v : Nat} {t : Text} (stop : NextStop tab w k) (rest : Shows tab k t v) :
    Shows tab w ('\t' :: t) v
  | char {w v : Nat} {c : Char} {t : Text} (char : c ≠ '\t')
    (rest : Shows tab (w + Text.charWidth c) t v) : Shows tab w (c :: t) v

theorem shows_iff_foldl (h : 0 < tab) : Shows tab w t v ↔ v = t.foldl (advance tab) w := by
  induction t generalizing w with
  | nil =>
    refine ⟨fun H => ?_, fun H => H ▸ .nil⟩
    cases H
    rfl
  | cons c t ih =>
    rw [List.foldl_cons, ← ih]
    constructor
    · intro H
      cases H with
      | tab stop rest =>
        rw [advance, if_pos rfl, ← stop.unique (nextStop h w)]
        exact rest
      | char hc rest => rwa [advance, if_neg hc]
    · intro H
      by_cases hc : c = '\t'
      · subst hc
        rw [advance, if_pos rfl] at H
        exact .tab (nextStop h w) H
      · rw [advance, if_neg hc] at H
        exact .char hc H

/-- The display width of a text is the column in which it ends. -/
theorem shows_iff (h : 0 < tab) : Shows tab 0 t v ↔ v = displayWidth tab t := shows_iff_foldl h

theorem displayWidth_append (tab : Nat) (t u : Text) :
    displayWidth tab (t ++ u) = u.foldl (advance tab) (displayWidth tab t) := List.foldl_append

theorem advance_space (tab w : Nat) : advance tab w ' ' = w + 1 := rfl

theorem foldl_advance_spaces (tab w n : Nat) :
    (List.replicate n ' ').foldl (advance tab) w = w + n := by
  induction n generalizing w with
  | zero => rfl
  | succ n ih => rw [List.replicate_succ, List.foldl_cons, ih, advance_space, Nat.succ_add_eq_add_succ]

/-- Control characters take no room. -/
theorem charWidth_control (h : c.toNat < 32 ∨ 127 ≤ c.toNat ∧ c.toNat < 160) :
    Text.charWidth c = 0 := by
  rw [Text.charWidth]
  rcases h with h | ⟨h, h'⟩
  · exact if_pos h
  · simp only [if_neg (show ¬c.toNat < 32 by omega), if_neg (show ¬c.toNat < 127 by omega)]
    exact if_pos h'

/-! ## The numbers of a tab -/

theorem le_advance (h : 0 < tab) (w : Nat) (c : Char) : w ≤ advance tab w c := by
  rw [advance]
  split
  · exact (nextStop h w).1.2.le
  · exact Nat.le_add_right ..

theorem le_foldl_advance (h : 0 < tab) (w : Nat) (t : Text) : w ≤ t.foldl (advance tab) w := by
  induction t generalizing w with
  | nil => exact Nat.le_refl w
  | cons c t ih => exact Nat.le_trans (le_advance h w c) (ih _)

theorem le_of_mem_advanceNumbers (h : 0 < tab) (hn : n ∈ advanceNumbers tab w c) :
    n ≤ advance tab w c := by
  have hmul : w / tab + 1 ≤ (w / tab + 1) * tab := Nat.le_mul_of_pos_right _ h
  rw [advanceNumbers] at hn
  rw [advance]
  split at hn <;> rename_i hc
  · rw [if_pos hc]
    simp only [List.mem_cons, List.not_mem_nil, or_false] at hn
    omega
  · rw [if_neg hc]
    simp only [List.mem_cons, List.not_mem_nil, or_false] at hn
    omega

theorem le_of_mem_widthNumbers (h : 0 < tab) (hn : n ∈ widthNumbers tab w t) :
    n ≤ t.foldl (advance tab) w := by
  induction t generalizing w with
  | nil => cases hn
  | cons c t ih =>
    rcases List.mem_append.1 hn with hn | hn
    · exact Nat.le_trans (le_of_mem_advanceNumbers h hn) (le_foldl_advance h _ t)
    · exact ih hn

theorem advance_mem_advanceNumbers (tab w : Nat) (c : Char) :
    advance tab w c ∈ advanceNumbers tab w c := by
  rw [advance, advanceNumbers]
  split <;> simp

/-- The width where a text ends is computed last, if it has any characters. -/
theorem foldl_mem_widthNumbers (tab w : Nat) (hne : t ≠ []) :
    t.foldl (advance tab) w ∈ widthNumbers tab w t := by
  induction t generalizing w with
  | nil => exact absurd rfl hne
  | cons c t ih =>
    rw [widthNumbers, List.mem_append]
    by_cases ht : t = []
    · subst ht
      exact .inl (advance_mem_advanceNumbers tab w c)
    · exact .inr (ih _ ht)

/-- None of the numbers is above both the display width and the tab width. -/
theorem le_of_mem_tabNumbers (h : 0 < tab) (hn : n ∈ tabNumbers tab t) :
    n ≤ max (displayWidth tab t) tab := by
  rw [tabNumbers, List.mem_append] at hn
  rcases hn with hn | hn
  · exact Nat.le_trans (le_of_mem_widthNumbers h hn) (Nat.le_max_left ..)
  · have hmod := Nat.mod_lt (displayWidth tab t) h
    simp only [List.mem_cons, List.not_mem_nil, or_false] at hn
    omega

theorem forall_tabNumbers_le (h : 0 < tab) (hle : tab ≤ limit) :
    (∀ n ∈ tabNumbers tab t, n ≤ limit) ↔ displayWidth tab t ≤ limit := by
  constructor
  · intro H
    by_cases ht : t = []
    · subst ht
      exact Nat.zero_le limit
    · exact H _ (List.mem_append_left _ (foldl_mem_widthNumbers tab 0 ht))
  · intro H n hn
    exact Nat.le_trans (le_of_mem_tabNumbers h hn) (Nat.max_le.2 ⟨H, hle⟩)

/-- A number of a tab is no index if and only if the display width of the text before it is none. -/
theorem exists_lt_mem_tabNumbers (htab : tab ≤ maxIndex) :
    (∃ n ∈ tabNumbers (max tab 1) t, maxIndex < n) ↔ maxIndex < displayWidth (max tab 1) t := by
  have hiff := forall_tabNumbers_le (t := t) (Nat.le_max_right tab 1)
    (Nat.max_le.2 ⟨htab, by decide⟩)
  rw [← Nat.not_le, ← hiff]
  simp only [not_forall, Nat.not_le, exists_prop]

theorem not_tabStops_iff (htab : tab ≤ maxIndex) : ¬TabStops (max tab 1) t ↔
    displayWidth (max tab 1) t ≤ maxIndex ∧ spacesBehind (max tab 1) t ≤ maxSpaces := by
  rw [TabStops, exists_lt_mem_tabNumbers htab, not_or, Nat.not_lt, Nat.not_lt]

/-! ## Spaces in place of a selection -/

/-- A range that is taken out leaves one of the lines that it touches. -/
theorem exists_withoutRange {r : Range} (hs : b.positionError? r.start = none)
    (he : b.positionError? r.stop = none) (hle : r.start.line ≤ r.stop.line) :
    ∃ l m : Line, b.lines[r.start.line]? = some l ∧ r.start.col ≤ l.text.length ∧ m.id = l.id ∧
      m.text = l.text.take r.start.col ++ (b.lineText r.stop.line).drop r.stop.col ∧
      (b.withoutRange r).lines =
        b.lines.take r.start.line ++ m :: b.lines.drop (r.stop.line + 1) := by
  obtain ⟨above, first, rest, h1, h2, h3⟩ := exists_position hs
  obtain ⟨upper, last, below, h4, h5, -⟩ := exists_position he
  have htake : b.lines.take r.start.line = above := by rw [h1, ← h2, List.take_left]
  have hdrop : b.lines.drop (r.stop.line + 1) = below := by
    rw [h4, ← h5, List.drop_length_add_append]
    rfl
  rw [lineText_split h4 h5, htake, hdrop]
  rw [withoutRange]
  split
  · rename_i hempty
    rw [Range.isEmpty, beq_iff_eq] at hempty
    obtain ⟨rfl, hrest⟩ : above = upper ∧ first :: rest = last :: below :=
      List.append_inj (h1.symm.trans h4) (by rw [h2, h5, hempty])
    rw [List.cons.injEq] at hrest
    refine ⟨first, first, getElem?_split h1 h2, h3, rfl, ?_, ?_⟩
    · rw [← hrest.1, hempty, List.take_append_drop]
    · rw [h1, hrest.2]
  · let joined : Line :=
      { id := first.id, text := first.text.take r.start.col ++ last.text.drop r.stop.col }
    exact ⟨first, joined, getElem?_split h1 h2, h3, rfl, rfl, lines_deletedRange h1 h2 h4 h5 hle⟩

/-- A text without breaks goes into its line. -/
theorem withText_of_not_hasBreak {p : Position} {above below : List Line} {l : Line}
    (h : b.lines = above ++ l :: below) (hn : above.length = p.line) (ht : t.hasBreak = false)
    (hne : t ≠ []) : b.withText p t = ({ b with lines := above ++
      ({ id := l.id, text := l.text.take p.col ++ t ++ l.text.drop p.col } : Line) :: below }.record
        [.edited l.id]).markModified := by
  rw [withText, if_neg (mt List.isEmpty_iff.1 hne),
    insertedText_of_lines_singleton (Text.lines_of_not_hasBreak ht), lineText_split h hn,
    editLine_split h hn]

theorem hasBreak_spaces (n : Nat) : Text.hasBreak (List.replicate n ' ') = false := by
  induction n with
  | zero => rfl
  | succ n ih =>
    rw [List.replicate_succ, Text.hasBreak_cons, ih]
    rfl

/-- What a tab does that reaches a tab stop. It takes the selected text out and puts `n` spaces in at
the start of the selection, which is in line `l`, up to the first tab stop behind the text before it.
All other lines stay, and so do the handles of the lines, the breaks and the handle for the next new
line. -/
structure ReachesStop (tab : Nat) (b : Buffer) (sel : Selection) (n : Nat) (c : Buffer) (l : Line) :
    Prop where
  outcome : (insertTab tab sel).outcome b =
    (.ok (.caret ⟨sel.range.start.line, sel.range.start.col + n⟩), c)
  line : b.lines[sel.range.start.line]? = some l
  lines : c.lines = b.lines.take sel.range.start.line ++
    ({ id := l.id
       text := l.text.take sel.range.start.col ++ List.replicate n ' ' ++
        (b.lineText sel.range.stop.line).drop sel.range.stop.col } : Line) ::
      b.lines.drop (sel.range.stop.line + 1)
  ending : c.ending = b.ending
  nextId : c.nextId = b.nextId
  stop : NextStop (max tab 1) (displayWidth (max tab 1) (l.text.take sel.range.start.col))
    (displayWidth (max tab 1) ((c.lineText sel.range.start.line).take (sel.range.start.col + n)))

section
variable (H : b.Holds sel)
include H

theorem exists_reachesStop (hroom : ¬TabStops (max tab 1) (textBefore b sel.range.start)) :
    ∃ n c l, ReachesStop tab b sel n c l := by
  obtain ⟨hs, he⟩ := holds_range.1 H
  obtain ⟨l, m, hl, hcol, hid, htext, hlines⟩ := exists_withoutRange hs he sel.start_line_le
  have hpos : 0 < max tab 1 := Nat.le_max_right tab 1
  have habove : (b.lines.take sel.range.start.line).length = sel.range.start.line :=
    List.length_take_of_le (Nat.le_of_lt (lt_lineCount hs))
  have hlen : (l.text.take sel.range.start.col).length = sel.range.start.col :=
    List.length_take_of_le hcol
  have hbefore : m.text.take sel.range.start.col = l.text.take sel.range.start.col := by
    rw [htext, List.take_left' hlen]
  have hafter : m.text.drop sel.range.start.col =
      (b.lineText sel.range.stop.line).drop sel.range.stop.col := by
    rw [htext, List.drop_left' hlen]
  obtain ⟨n, hn⟩ : ∃ n, n = spacesBehind (max tab 1) (l.text.take sel.range.start.col) := ⟨_, rfl⟩
  have hspaces : tabSpaces tab b sel.range.start = List.replicate n ' ' := by
    rw [tabSpaces, textBefore, lineText_of_getElem? hl, hn]
  have hne : List.replicate n ' ' ≠ [] := by
    have := Nat.sub_pos_of_lt (Nat.mod_lt (displayWidth (max tab 1)
      (l.text.take sel.range.start.col)) hpos)
    rw [Ne, List.replicate_eq_nil_iff, hn, spacesBehind]
    exact this.ne'
  have hc := withText_of_not_hasBreak hlines habove (hasBreak_spaces n) hne
  rw [hid, hbefore, hafter] at hc
  have hcaret := afterInsert_of_not_hasBreak (hasBreak_spaces n) sel.range.start
  rw [List.length_replicate] at hcaret
  refine ⟨n, _, l, ⟨?_, hl, congrArg Buffer.lines hc, ?_, ?_, ?_⟩⟩
  · rw [outcome_insertTab tab hs he, if_neg hroom, ← hcaret, ← hspaces]
    rfl
  · rw [ending_withText, ending_withoutRange]
  · rw [hc]
    exact nextId_withoutRange b sel.range
  · have hwidth : (l.text.take sel.range.start.col ++ List.replicate n ' ').length =
        sel.range.start.col + n := by
      rw [List.length_append, hlen, List.length_replicate]
    rw [lineText_split (congrArg Buffer.lines hc) habove, List.take_left' hwidth,
      displayWidth_append, foldl_advance_spaces, hn]
    exact nextStop_add hpos _

/-- A tab reaches the next tab stop if and only if the display width of the text before it is an index
and no text would be longer than the spaces it takes. Else the program stops. -/
theorem reachesStop_iff (htab : tab ≤ maxIndex) :
    ((∃ n c l, ReachesStop tab b sel n c l) ↔
      displayWidth (max tab 1) (textBefore b sel.range.start) ≤ maxIndex ∧
        spacesBehind (max tab 1) (textBefore b sel.range.start) ≤ maxSpaces) ∧
    ((¬∃ n c l, ReachesStop tab b sel n c l) →
      (insertTab tab sel).outcome b = (.error .overflow, b)) ∧
    (∀ t w, Shows (max tab 1) 0 t w ↔ w = displayWidth (max tab 1) t) ∧
    Text.charWidth ' ' = 1 ∧
    ∀ x : Char, x.toNat < 32 ∨ 127 ≤ x.toNat ∧ x.toNat < 160 → Text.charWidth x = 0 := by
  obtain ⟨hs, he⟩ := holds_range.1 H
  have hstops (h : TabStops (max tab 1) (textBefore b sel.range.start)) :
      (insertTab tab sel).outcome b = (.error .overflow, b) := by
    rw [outcome_insertTab tab hs he, if_pos h]
  have hiff : (∃ n c l, ReachesStop tab b sel n c l) ↔
      ¬TabStops (max tab 1) (textBefore b sel.range.start) := by
    refine ⟨?_, exists_reachesStop H⟩
    rintro ⟨n, c, l, hreach⟩ h
    cases (hstops h).symm.trans hreach.outcome
  exact ⟨hiff.trans (not_tabStops_iff htab), fun h => hstops (not_not.1 (mt hiff.2 h)),
    fun t w => shows_iff (Nat.le_max_right tab 1), by decide, fun x => charWidth_control⟩

end

/-- A character of three columns after a tab, in the first of three selected lines. -/
theorem reachesStop_iff_wide :
    let b := Buffer.ofText "\t\u17d8a\nb\ncd".toList
    let sel : Selection := ⟨⟨2, 1⟩, ⟨0, 2⟩⟩
    b.Holds sel ∧ ∃ (n : Nat) (c : Buffer),
      (insertTab 4 sel).outcome b = (.ok (.caret ⟨0, 2 + n⟩), c) ∧
      c.texts = ["\t\u17d8".toList ++ List.replicate n ' ' ++ ['d']] ∧
      NextStop 4 7 (displayWidth 4 ((c.lineText 0).take (2 + n))) := by
  intro b sel
  have hsel : b.Holds sel := by decide
  have htab : 4 ≤ maxIndex := by decide
  obtain ⟨n, c, l, hreach⟩ := (reachesStop_iff hsel htab).1.2 (by decide)
  obtain rfl : (⟨0, "\t\u17d8a".toList, none⟩ : Line) = l := Option.some.inj hreach.line
  have hwidth : displayWidth 4 "\t\u17d8".toList = 7 := by decide
  exact ⟨hsel, n, c, hreach.outcome, congrArg (List.map Line.text) hreach.lines,
    hwidth ▸ hreach.stop⟩

/-- With tab stops every 2 ^ 63 columns, a tab behind two tab characters is too far right, and one in
an empty line takes too many spaces. -/
theorem not_reachesStop :
    let tab := 9223372036854775808
    let b := Buffer.ofText "\t\t".toList
    let sel (col : Nat) : Selection := .caret ⟨0, col⟩
    b.Holds (sel 2) ∧ (insertTab tab (sel 2)).outcome b = (.error .overflow, b) ∧
      (insertTab tab (sel 0)).outcome (Buffer.ofText []) = (.error .overflow, Buffer.ofText []) := by
  decide

end Edit
end LogicEditor
