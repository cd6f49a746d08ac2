import LogicEditor.Proofs.Buffer.Effect

/-!
# Commands as splices of the whole text

What the commands mean for the whole text of a buffer and for its list of lines. A position stands
for an offset in the whole text (`Buffer.offset`): what is put in or taken out at a position is put
in or taken out at that offset. Commands on lines change the list of lines at one place.
-/

namespace LogicEditor

theorem Position.line_le_of_le {p q : Position} (h : p ≤ q) : p.line ≤ q.line := by
  rcases h with h | ⟨h, -⟩
  · exact Nat.le_of_lt h
  · exact Nat.le_of_eq h

namespace Buffer

open Text

variable {b c : Buffer} {p q : Position} {r : Range} {t : Text} {l : Line}
  {above below old : List Line} {line start stop : Nat}

/-! ## Offsets -/

/-- The number of characters of the whole text before a position. -/
def offset (b : Buffer) (p : Position) : Nat :=
  (terminated b.ending (b.texts.take p.line)).length + p.col

theorem texts_split (h : b.lines = above ++ below) :
    b.texts = above.map Line.text ++ below.map Line.text := by
  rw [texts, h, List.map_append]

theorem contents_split (h : b.lines = above ++ l :: below) : b.contents =
    terminated b.ending (above.map Line.text) ++
      (l.text ++ preceded b.ending (below.map Line.text)) := by
  rw [contents, texts_split h, List.map_cons, joinLines_around]

theorem offset_split (h : b.lines = above ++ below) (hn : above.length = p.line) :
    b.offset p = (terminated b.ending (above.map Line.text)).length + p.col := by
  rw [offset, texts_split h, List.take_left' (by rw [List.length_map, hn])]

theorem take_contents (h : b.lines = above ++ l :: below) (hn : above.length = p.line)
    (hp : p.col ≤ l.text.length) : b.contents.take (b.offset p) =
      terminated b.ending (above.map Line.text) ++ l.text.take p.col := by
  rw [contents_split h, offset_split h hn, List.take_length_add_append,
    List.take_append_of_le_length hp]

theorem drop_contents (h : b.lines = above ++ l :: below) (hn : above.length = p.line)
    (hp : p.col ≤ l.text.length) : b.contents.drop (b.offset p) =
      l.text.drop p.col ++ preceded b.ending (below.map Line.text) := by
  rw [contents_split h, offset_split h hn, List.drop_length_add_append,
    List.drop_append_of_le_length hp]

/-- A buffer around the line of a position. -/
theorem exists_position (hp : b.positionError? p = none) :
    ∃ above l below, b.lines = above ++ l :: below ∧ above.length = p.line ∧
      p.col ≤ l.text.length := by
  obtain ⟨l, hl, hp⟩ := positionError?_eq_none.1 hp
  obtain ⟨above, below, hs, hn⟩ := exists_split hl
  exact ⟨above, l, below, hs, hn, hp⟩

theorem positionError?_split (h : b.lines = above ++ l :: below) (hn : above.length = p.line)
    (hp : p.col ≤ l.text.length) : b.positionError? p = none :=
  positionError?_eq_none.2 ⟨l, by rw [h, ← hn]; simp, hp⟩

/-- Two lines of a buffer, with the lines between them. -/
theorem exists_between {first last : Line} {upper rest : List Line}
    (hs : b.lines = above ++ first :: rest) (he : b.lines = upper ++ last :: below)
    (h : above.length < upper.length) : ∃ mid, upper = above ++ first :: mid := by
  rw [hs] at he
  obtain ⟨w, rfl, hw⟩ | ⟨w, rfl, -⟩ := List.append_eq_append_iff.1 he
  · cases w with
    | nil => simp at h
    | cons x w =>
      rw [List.cons_append, List.cons.injEq] at hw
      exact ⟨w, by rw [hw.1]⟩
  · rw [List.length_append] at h
    omega

theorem offset_le_length (hp : b.positionError? p = none) : b.offset p ≤ b.contents.length := by
  obtain ⟨above, l, below, h1, h2, h3⟩ := exists_position hp
  rw [contents_split h1, offset_split h1 h2, List.length_append, List.length_append]
  omega

/-- What stands on a later line stands behind in the whole text. -/
theorem offset_lt (hp : b.positionError? p = none) (hq : b.positionError? q = none)
    (h : p.line < q.line) : b.offset p < b.offset q := by
  obtain ⟨above, first, rest, h1, h2, h3⟩ := exists_position hp
  obtain ⟨upper, last, below, h4, h5, -⟩ := exists_position hq
  obtain ⟨mid, rfl⟩ := exists_between h1 h4 (by rw [h2, h5]; exact h)
  have hbreak : 0 < b.ending.text.length := by cases b.ending <;> decide
  rw [offset_split h1 h2, offset_split h4 h5, List.map_append, List.map_cons, terminated_append,
    terminated_cons]
  simp only [List.length_append]
  omega

theorem offset_mono (hp : b.positionError? p = none) (hq : b.positionError? q = none) (h : p ≤ q) :
    b.offset p ≤ b.offset q := by
  rcases h with hlt | ⟨heq, hcol⟩
  · exact Nat.le_of_lt (offset_lt hp hq hlt)
  · rw [offset, offset, heq]
    exact Nat.add_le_add_left hcol _

/-- Different positions stand for different offsets. -/
theorem offset_inj (hp : b.positionError? p = none) (hq : b.positionError? q = none)
    (h : b.offset p = b.offset q) : p = q := by
  rcases Nat.lt_trichotomy p.line q.line with hlt | heq | hlt
  · exact absurd h (Nat.ne_of_lt (offset_lt hp hq hlt))
  · rw [offset, offset, heq] at h
    cases p
    exact (Position.mk.injEq ..).mpr ⟨heq, Nat.add_left_cancel h⟩
  · exact absurd h (Nat.ne_of_gt (offset_lt hq hp hlt))

/-! ## Texts put in -/

@[simp] theorem ending_editLine (b : Buffer) (line : Nat) (t : Text) :
    (b.editLine line t).ending = b.ending := by
  rw [editLine]
  split <;> rfl

@[simp] theorem ending_openLines (b : Buffer) (line : Nat) (ts : List Text) :
    (b.openLines line ts).ending = b.ending := by
  rw [openLines]
  split <;> rfl

@[simp] theorem ending_closeLines (b : Buffer) (start stop : Nat) :
    (b.closeLines start stop).ending = b.ending := by
  rw [closeLines]
  split <;> rfl

@[simp] theorem ending_insertedText (b : Buffer) (p : Position) (t : Text) :
    (b.insertedText p t).ending = b.ending := by
  rw [insertedText]
  split <;> simp [markModified]

@[simp] theorem ending_deletedRange (b : Buffer) (r : Range) :
    (b.deletedRange r).ending = b.ending := by
  simp [deletedRange, markModified]

@[simp] theorem ending_withText (b : Buffer) (p : Position) (t : Text) :
    (b.withText p t).ending = b.ending := by
  rw [withText]
  split <;> simp

@[simp] theorem ending_withoutRange (b : Buffer) (r : Range) :
    (b.withoutRange r).ending = b.ending := by
  rw [withoutRange]
  split <;> simp

theorem nextId_closeLines (b : Buffer) (start stop : Nat) :
    (b.closeLines start stop).nextId = b.nextId := by
  rw [closeLines]
  split <;> rfl

theorem nextId_withoutRange (b : Buffer) (r : Range) : (b.withoutRange r).nextId = b.nextId := by
  have hedit : ∀ (b : Buffer) line t, (b.editLine line t).nextId = b.nextId := fun b line t => by
    rw [editLine]
    split <;> rfl
  rw [withoutRange]
  split
  · rfl
  · rw [deletedRange, markModified, hedit, nextId_closeLines]

/-- A text goes in at the offset of its position, with the breaks of the buffer. -/
theorem contents_withText (hp : b.positionError? p = none) (t : Text) :
    (b.withText p t).contents =
      b.contents.take (b.offset p) ++ joinLines b.ending (Text.lines t) ++
        b.contents.drop (b.offset p) := by
  rw [withText]
  cases t with
  | nil => simp [Text.lines, joinLines]
  | cons c t =>
    obtain ⟨above, l, below, hs, hn, hcol⟩ := exists_position hp
    obtain ⟨new, hlines, htexts, -⟩ := insertedText_split hs hn (c :: t)
    have hne : flank (l.text.take p.col) (Text.lines (c :: t)) (l.text.drop p.col) ≠ [] := by
      rw [← List.length_pos_iff, length_flank (lines_ne_nil _), List.length_pos_iff]
      exact lines_ne_nil _
    rw [List.isEmpty_cons, if_neg Bool.false_ne_true, contents, ending_insertedText,
      texts, hlines, List.map_append, List.map_append, htexts, joinLines_block hne,
      joinLines_flank (lines_ne_nil _), take_contents hs hn hcol, drop_contents hs hn hcol]
    simp only [List.append_assoc]

theorem offset_withText (hp : b.positionError? p = none) (t : Text) :
    (b.withText p t).offset p = b.offset p := by
  rw [withText]
  split
  · rfl
  · obtain ⟨above, l, below, hs, hn, -⟩ := exists_position hp
    obtain ⟨new, hlines, -⟩ := insertedText_split hs hn t
    rw [List.append_assoc] at hlines
    rw [offset_split hlines hn, offset_split hs hn, ending_insertedText]

/-- The position that a command returns after it put a text in. -/
def afterInsert (p : Position) (t : Text) : Position := if t.isEmpty then p else afterText p t

theorem afterInsert_of_not_hasBreak (ht : t.hasBreak = false) (p : Position) :
    afterInsert p t = ⟨p.line, p.col + t.length⟩ := by
  rw [afterInsert, afterText, lines_of_not_hasBreak ht]
  cases t <;> rfl

theorem line_afterInsert (p : Position) (t : Text) :
    (afterInsert p t).line = p.line + (t.lines.length - 1) := by
  rw [afterInsert]
  cases t with
  | nil => rfl
  | cons c t =>
    obtain ⟨first, more, h⟩ := List.exists_cons_of_ne_nil (lines_ne_nil (c :: t))
    rw [List.isEmpty_cons, if_neg Bool.false_ne_true, afterText, h]
    cases more <;> rfl

/-- The position after a text that was put in exists, and stands behind its last character. -/
theorem position_afterInsert (hp : b.positionError? p = none) (t : Text) :
    (b.withText p t).positionError? (afterInsert p t) = none ∧
      (b.withText p t).offset (afterInsert p t) =
        b.offset p + (joinLines b.ending (Text.lines t)).length := by
  rw [withText, afterInsert]
  cases t with
  | nil => exact ⟨hp, rfl⟩
  | cons c t =>
    rw [List.isEmpty_cons, if_neg Bool.false_ne_true, if_neg Bool.false_ne_true]
    obtain ⟨above, l, below, hs, hn, hcol⟩ := exists_position hp
    obtain ⟨new, hlines, htexts, -⟩ := insertedText_split hs hn (c :: t)
    obtain ⟨first, more, hls⟩ := List.exists_cons_of_ne_nil (lines_ne_nil (c :: t))
    rw [hls] at htexts
    have hoffset := offset_split hs hn
    cases more with
    | nil =>
      obtain ⟨x, rfl, hx⟩ := List.map_eq_singleton_iff.1 htexts
      rw [List.append_assoc, List.singleton_append] at hlines
      have hafter : afterText p (c :: t) = ⟨p.line, p.col + first.length⟩ := by
        rw [afterText, hls]
      have hn : above.length = (afterText p (c :: t)).line := by rw [hafter, hn]
      rw [offset_split hlines hn, ending_insertedText, hls, hoffset, hafter]
      rw [hafter] at hn
      refine ⟨positionError?_split hlines hn ?_, by simp [joinLines, Nat.add_assoc]⟩
      rw [hx, List.length_append, List.length_append, List.length_take_of_le hcol]
      exact Nat.le_add_right _ _
    | cons m ms =>
      rw [flank_cons_cons, ← List.cons_append] at htexts
      obtain ⟨upper, last, rfl, hupper, hlast⟩ := List.map_eq_append_iff.1 htexts
      obtain ⟨x, rfl, hx⟩ := List.map_eq_singleton_iff.1 hlast
      have hlength : (above ++ upper).length = p.line + (m :: ms).length := by
        have := congrArg List.length hupper
        simp only [List.length_map, List.length_cons, List.length_dropLast] at this
        rw [List.length_append, hn, this, List.length_cons, Nat.add_sub_cancel]
      have hlines : (b.insertedText p (c :: t)).lines = (above ++ upper) ++ x :: below := by
        rw [hlines]
        simp
      have hafter : afterText p (c :: t) =
          ⟨p.line + (m :: ms).length, ((m :: ms).getLastD []).length⟩ := by
        rw [afterText, hls]
      have hlength : (above ++ upper).length = (afterText p (c :: t)).line := by rw [hafter, hlength]
      rw [offset_split hlines hlength, ending_insertedText, hls, hoffset, List.map_append, hupper,
        terminated_append, terminated_cons, joinLines_cons,
        preceded_eq_joinLines (List.cons_ne_nil m ms),
        joinLines_eq_terminated_append (List.cons_ne_nil m ms), hafter]
      rw [hafter] at hlength
      refine ⟨positionError?_split hlines hlength ?_, ?_⟩
      · rw [hx, List.length_append]
        exact Nat.le_add_right _ _
      · simp only [List.length_append, List.length_take_of_le hcol]
        omega

/-! ## Texts taken out -/

theorem lines_closeLines_of_le (h : start ≤ stop) :
    (b.closeLines start stop).lines = b.lines.take start ++ b.lines.drop stop := by
  rw [closeLines]
  split
  · rename_i hnone
    -- no line is taken away, so both places are the same or past the end
    rw [List.isEmpty_iff, List.drop_eq_nil_iff, List.length_take] at hnone
    by_cases hlt : start < stop
    · have hlen : b.lines.length ≤ start := by omega
      rw [List.take_of_length_le hlen, List.drop_of_length_le (by omega), List.append_nil]
    · rw [Nat.le_antisymm h (Nat.not_lt.1 hlt), List.take_append_drop]
  · rfl

section
variable {first last : Line} {upper rest : List Line} (hs : b.lines = above ++ first :: rest)
  (hn : above.length = r.start.line) (he : b.lines = upper ++ last :: below)
  (hm : upper.length = r.stop.line)
include hs hn he hm

/-- The first and the last line of a range that is taken out become one, with the handle of the
first. -/
theorem lines_deletedRange (hle : r.start.line ≤ r.stop.line) : (b.deletedRange r).lines = above ++
    ({ id := first.id, text := first.text.take r.start.col ++ last.text.drop r.stop.col } : Line) ::
      below := by
  have hfirst : b.lineText r.start.line = first.text := lineText_split hs hn
  have hlast : b.lineText r.stop.line = last.text := lineText_split he hm
  have hclose : (b.closeLines (r.start.line + 1) (r.stop.line + 1)).lines =
      above ++ first :: below := by
    rw [lines_closeLines_of_le (Nat.succ_le_succ hle)]
    have htake : b.lines.take (r.start.line + 1) = above ++ [first] := by
      rw [hs, ← hn, List.take_length_add_append]
      rfl
    have hdrop : b.lines.drop (r.stop.line + 1) = below := by
      rw [he, ← hm, List.drop_length_add_append]
      rfl
    rw [htake, hdrop, List.append_assoc, List.singleton_append]
  rw [deletedRange, editLine_split hclose hn, hfirst, hlast]
  rfl

variable (hfirst : r.start.col ≤ first.text.length) (hlast : r.stop.col ≤ last.text.length)
include hfirst hlast

theorem contents_deletedRange_split (hle : r.start.line ≤ r.stop.line) :
    (b.deletedRange r).contents =
      b.contents.take (b.offset r.start) ++ b.contents.drop (b.offset r.stop) := by
  rw [contents_split (lines_deletedRange hs hn he hm hle), ending_deletedRange,
    take_contents hs hn hfirst, drop_contents he hm hlast]
  simp only [List.append_assoc]

theorem textIn_split (hle : r.start ≤ r.stop) :
    b.textIn r = (b.contents.take (b.offset r.stop)).drop (b.offset r.start) := by
  have htextFirst : b.lineText r.start.line = first.text := lineText_split hs hn
  have htextLast : b.lineText r.stop.line = last.text := lineText_split he hm
  rw [take_contents he hm hlast, offset_split hs hn, textIn, htextFirst, htextLast]
  rcases hle with hlt | ⟨heq, hcol⟩
  · rw [if_neg (Nat.ne_of_lt hlt)]
    -- the lines strictly between the first and the last of the range
    obtain ⟨mid, rfl⟩ := exists_between hs he (by rw [hn, hm]; exact hlt)
    have hmid : (b.texts.take r.stop.line).drop (r.start.line + 1) = mid.map Line.text := by
      rw [texts_split he, List.take_left' (by rw [List.length_map, hm]), List.map_append, ← hn,
        ← List.length_map Line.text, List.drop_length_add_append]
      rfl
    rw [hmid, List.map_append, List.map_cons, terminated_append, terminated_cons, List.append_assoc,
      List.drop_length_add_append, List.append_assoc, List.append_assoc,
      List.drop_append_of_le_length hfirst, joinLines_cons, preceded_eq_joinLines (by simp),
      joinLines_around, preceded_nil, List.append_nil]
  · rw [if_pos heq]
    obtain ⟨rfl, hrest⟩ : above = upper ∧ first :: rest = last :: below :=
      List.append_inj (hs.symm.trans he) (by rw [hn, hm, heq])
    rw [List.cons.injEq] at hrest
    rw [List.drop_length_add_append, slice, List.take_drop, hrest.1, Nat.add_sub_cancel' hcol]

end

section
variable (hs : b.positionError? r.start = none) (he : b.positionError? r.stop = none)
  (hle : r.start ≤ r.stop)
include hs he hle

/-- What is in a range goes out of the whole text. -/
theorem contents_withoutRange : (b.withoutRange r).contents =
    b.contents.take (b.offset r.start) ++ b.contents.drop (b.offset r.stop) := by
  rw [withoutRange]
  split
  · rename_i h
    rw [Range.isEmpty, beq_iff_eq] at h
    rw [h, List.take_append_drop]
  · obtain ⟨above, first, rest, h1, h2, h3⟩ := exists_position hs
    obtain ⟨upper, last, below, h4, h5, h6⟩ := exists_position he
    exact contents_deletedRange_split h1 h2 h4 h5 h3 h6 (Position.line_le_of_le hle)

/-- What a command returns that takes a range out. -/
theorem removed_eq_slice : (if r.isEmpty then [] else b.textIn r) =
    (b.contents.take (b.offset r.stop)).drop (b.offset r.start) := by
  split
  · rename_i h
    rw [Range.isEmpty, beq_iff_eq] at h
    rw [h, List.drop_eq_nil_of_le (List.length_take_le _ _)]
  · obtain ⟨above, first, rest, h1, h2, h3⟩ := exists_position hs
    obtain ⟨upper, last, below, h4, h5, h6⟩ := exists_position he
    exact textIn_split h1 h2 h4 h5 h3 h6 hle

theorem offset_withoutRange : (b.withoutRange r).offset r.start = b.offset r.start := by
  rw [withoutRange]
  split
  · rfl
  · obtain ⟨above, first, rest, h1, h2, h3⟩ := exists_position hs
    obtain ⟨upper, last, below, h4, h5, h6⟩ := exists_position he
    have hlines := lines_deletedRange h1 h2 h4 h5 (Position.line_le_of_le hle)
    rw [offset_split hlines h2, offset_split h1 h2, ending_deletedRange]

/-- A text goes in where a range went out. -/
theorem contents_replaced (t : Text) : ((b.withoutRange r).withText r.start t).contents =
    b.contents.take (b.offset r.start) ++ joinLines b.ending (Text.lines t) ++
      b.contents.drop (b.offset r.stop) := by
  have hlen : (b.contents.take (b.offset r.start)).length = b.offset r.start :=
    List.length_take_of_le (offset_le_length hs)
  rw [contents_withText (positionError?_withoutRange hs), contents_withoutRange hs he hle,
    offset_withoutRange hs he hle, ending_withoutRange, List.take_left' hlen, List.drop_left' hlen]

end

/-! ## Lines -/

section
variable (h : b.lines = above ++ l :: below) (hn : above.length = line) (hle : start ≤ stop)
include h hn hle

theorem lines_withoutRange_onLine :
    ∃ k : Line, (b.withoutRange (.onLine line start stop)).lines = above ++ k :: below ∧
      k.text = l.text.take start ++ l.text.drop stop := by
  rw [withoutRange]
  split
  · rename_i hempty
    obtain rfl : start = stop := by simpa [Range.isEmpty, Range.onLine] using hempty
    exact ⟨l, h, (List.take_append_drop start l.text).symm⟩
  · exact ⟨_, lines_deletedRange (r := .onLine line start stop) h hn h hn (Nat.le_refl _), rfl⟩

variable (hstop : stop ≤ l.text.length)
include hstop

/-- A range of one line gives way to the lines of a text. -/
theorem lines_replaced (w : Text) : ∃ new : List Line,
    ((b.withoutRange (.onLine line start stop)).withText ⟨line, start⟩ w).lines =
      above ++ new ++ below ∧
    new.map Line.text = flank (l.text.take start) (Text.lines w) (l.text.drop stop) := by
  obtain ⟨k, hk, htext⟩ := lines_withoutRange_onLine h hn hle
  rw [withText]
  split
  · rename_i hw
    rw [List.isEmpty_iff.1 hw]
    refine ⟨[k], by rw [hk, List.append_assoc, List.singleton_append], ?_⟩
    rw [List.map_singleton, htext, Text.lines, flank, List.append_nil]
  · have hlen : (l.text.take start).length = start :=
      List.length_take_of_le (Nat.le_trans hle hstop)
    obtain ⟨new, hlines, htexts, -⟩ := insertedText_split (p := ⟨line, start⟩) hk hn w
    rw [htext, List.take_left' hlen, List.drop_left' hlen] at htexts
    exact ⟨new, hlines, htexts⟩

end

/-- A line that gets the lines of a text. It keeps its handle, and the further lines are new. -/
structure Replaced (b : Buffer) (above : List Line) (l : Line) (below : List Line) (t : Text)
    (c : Buffer) : Prop where
  exists_lines : ∃ new, c.lines = above ++ new ++ below ∧ new.map Line.text = Text.lines t ∧
    new.map Line.id = l.id :: List.range' b.nextId ((Text.lines t).length - 1)

theorem Replaced.texts_eq (H : Replaced b above l below t c) :
    c.texts = above.map Line.text ++ Text.lines t ++ below.map Line.text := by
  obtain ⟨new, hlines, htexts, -⟩ := H.exists_lines
  rw [texts, hlines, List.map_append, List.map_append, htexts]

theorem Replaced.ids_eq (H : Replaced b above l below t c) :
    c.ids = above.map Line.id ++ (l.id :: List.range' b.nextId ((Text.lines t).length - 1)) ++
      below.map Line.id := by
  obtain ⟨new, hlines, -, hids⟩ := H.exists_lines
  rw [ids, hlines, List.map_append, List.map_append, hids]

/-- Giving a line another text, with breaks or without, puts the lines of the text in its place. -/
theorem replaced_setLine (h : b.lines = above ++ l :: below) (hn : above.length = line) (t : Text) :
    ∃ c, (Edit.setLine line t).outcome b = (.ok ⟨⟩, c) ∧ Replaced b above l below t c := by
  have hlt : line < b.lineCount := lt_lineCount_split h hn
  rw [Edit.outcome_setLine, lineError?_eq_none.2 hlt]
  cases ht : t.hasBreak with
  | false =>
    refine ⟨_, rfl, ⟨[{ id := l.id, text := t }], ?_, ?_, ?_⟩⟩
    · rw [editLine_split h hn, List.append_assoc]
      rfl
    · rw [Text.lines_of_not_hasBreak ht]
      rfl
    · rw [Text.lines_of_not_hasBreak ht]
      rfl
  | true =>
    have hs : b.positionError? ⟨line, 0⟩ = none :=
      positionError?_eq_none_iff.2 ⟨hlt, Nat.zero_le _⟩
    have he : b.positionError? ⟨line, (b.lineText line).length⟩ = none :=
      positionError?_eq_none_iff.2 ⟨hlt, Nat.le_refl _⟩
    have hne : List.isEmpty t = false := by
      cases t with
      | nil => cases ht
      | cons => rfl
    have htext : b.lineText line = l.text := lineText_split h hn
    -- first the line is emptied, and it keeps its handle
    have hempty : ∃ m, (b.withoutRange (.onLine line 0 l.text.length)).lines = above ++ m :: below ∧
        m.text = [] ∧ m.id = l.id := by
      rw [withoutRange]
      split
      · rename_i hr
        rw [Range.isEmpty, beq_iff_eq, Range.onLine, Position.mk.injEq] at hr
        exact ⟨l, h, List.length_eq_zero_iff.1 hr.2.symm, rfl⟩
      · have hlines := lines_deletedRange (r := .onLine line 0 l.text.length) h hn h hn (Nat.le_refl _)
        exact ⟨_, hlines, by simp [Range.onLine], rfl⟩
    obtain ⟨m, hm, hmtext, hmid⟩ := hempty
    obtain ⟨new, hlines, htexts, hids⟩ := insertedText_split (p := ⟨line, 0⟩) hm hn t
    refine ⟨(b.withoutRange (.onLine line 0 l.text.length)).insertedText ⟨line, 0⟩ t, ?_,
      ⟨new, hlines, ?_, ?_⟩⟩
    · rw [if_pos rfl, EditM.outcome_map, Edit.outcome_replaceRange_of_valid t hs he, withText, hne,
        htext]
      rfl
    · rw [htexts, hmtext, List.take_nil, List.drop_nil, flank_nil (lines_ne_nil t)]
    · rw [hids, hmid, nextId_withoutRange]

theorem lines_withLines (hl : line ≤ b.lineCount) (ts : List Text) :
    (b.withLines line ts).lines =
      b.lines.take line ++ freshLines b.nextId (ts.flatMap Text.lines) ++ b.lines.drop line := by
  rw [withLines]
  split
  · rename_i hnone
    rw [List.isEmpty_iff.1 hnone, freshLines, List.append_nil, List.take_append_drop]
  · rename_i hne
    have hs := (List.take_append_drop line b.lines).symm
    rw [openLines_split hs (List.length_take_of_le hl) fun h => hne (by rw [h]; rfl)]
    rfl

theorem lines_withoutLines (h : start < stop) (hs : stop ≤ b.lineCount) :
    (b.withoutLines start stop).lines =
      if start = 0 ∧ stop = b.lineCount then freshLines b.nextId [[]]
      else b.lines.take start ++ b.lines.drop stop := by
  have hclose := lines_closeLines_of_le (b := b) (Nat.le_of_lt h)
  have hnext : (b.closeLines start stop).nextId = b.nextId := nextId_closeLines b start stop
  rw [withoutLines]
  by_cases hall : start = 0 ∧ stop = b.lineCount
  · obtain ⟨rfl, rfl⟩ := hall
    have hnone : (b.closeLines 0 b.lineCount).lines = [] := by
      rw [hclose]
      simp [lineCount]
    rw [hnone]
    simp [markModified, openLines, record, hnone, hnext]
  · have hne : b.lines.take start ++ b.lines.drop stop ≠ [] := by
      rw [← List.length_pos_iff, List.length_append, List.length_take, List.length_drop]
      simp only [lineCount] at hs hall
      omega
    rw [if_neg hall, hclose, if_neg (by simpa using hne)]
    exact hclose

theorem lines_rotateLines {upper lower : List Line} (h : b.lines = above ++ upper ++ lower ++ below)
    {mid : Nat} (hn : above.length = start) (hm : start + upper.length = mid)
    (hs : mid + lower.length = stop) :
    (b.rotateLines start mid stop).lines = above ++ (lower ++ upper) ++ below := by
  rw [rotateLines_split h hn hm hs]
  rfl

end Buffer
end LogicEditor
