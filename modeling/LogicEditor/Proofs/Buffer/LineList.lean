import LogicEditor.Proofs.Buffer.Run
import LogicEditor.Proofs.Buffer.Splice

/-!
# Buffers as lists of lines

What the commands mean, said of a plain list of lines (`LineList`): which commands are accepted
(`Op.Accepts`), and how an accepted one changes the list (`Op.Effect`). Commands on characters splice
the whole text at the offsets of their positions, commands on lines change the list at one place, and
the handles of all other lines stay. `Buffer.Op.run_of_accepts` says that the commands of a buffer do
just that.
-/

namespace LogicEditor

open Text

/-! ## Lists of lines -/

/-- Lines and their handles. -/
structure LineList where
  texts : List Text
  ids : List LineId
  ending : LineEnding
  /-- The handle that the next new line gets. -/
  nextId : LineId
deriving DecidableEq, Repr

namespace LineList

/-- The whole text. -/
def contents (v : LineList) : Text := joinLines v.ending v.texts

/-- The number of characters of the whole text before a position. -/
def offset (v : LineList) (p : Position) : Nat :=
  (terminated v.ending (v.texts.take p.line)).length + p.col

def HasPosition (v : LineList) (p : Position) : Prop :=
  ∃ t, v.texts[p.line]? = some t ∧ p.col ≤ t.length

/-- `w` has a text, with the breaks of the list, in place of a range of `v`. The first line of the
range keeps its handle, its other lines are gone, and those of the text are new. -/
structure Spliced (v w : LineList) (r : Range) (t : Text) : Prop where
  contents : w.contents =
    v.contents.take (v.offset r.start) ++ withBreaks v.ending t ++ v.contents.drop (v.offset r.stop)
  ids : w.ids = v.ids.take (r.start.line + 1) ++ List.range' v.nextId (t.lines.length - 1) ++
    v.ids.drop (r.stop.line + 1)

/-- `q` is the position of `w` just behind a text put in at the position `p` of `v`. -/
structure EndsAt (v w : LineList) (p : Position) (t : Text) (q : Position) : Prop where
  exists_line : w.HasPosition q
  offset : w.offset q = v.offset p + (withBreaks v.ending t).length

/-- A list with two neighbouring blocks exchanged. -/
def exchanged {α : Type} (start mid stop : Nat) (xs : List α) : List α :=
  xs.take start ++ ((xs.take stop).drop mid ++ (xs.take mid).drop start) ++ xs.drop stop

end LineList

namespace Buffer

variable {b c : Buffer} {p : Position} {r : Range} {t : Text} {op : Op} {l : Line}
  {above below : List Line} {line start mid stop : Nat}

def lineList (b : Buffer) : LineList := ⟨b.texts, b.ids, b.ending, b.nextId⟩

/-! ## What commands mean -/

namespace Op

/-- What a command returns. -/
abbrev Result : Op → Type
  | .insertText .. | .replaceRange .. => Position
  | .deleteRange .. => Text
  | .removeLines .. => List Text
  | .setLine .. | .insertLines .. | .rotate .. => Unit

/-- The command, with its result. -/
def run : (op : Op) → EditM Buffer op.Result
  | .insertText p t => Edit.insertText p t
  | .deleteRange r => Edit.deleteRange r
  | .replaceRange r t => Edit.replaceRange r t
  | .setLine line t => Edit.setLine line t
  | .insertLines line ts => Edit.insertLines line ts
  | .removeLines start stop => Edit.removeLines start stop
  | .rotate start mid stop => Edit.rotate start mid stop

/-- A range is not given backwards. -/
def Ordered : Op → Prop
  | .deleteRange r | .replaceRange r _ => r.start ≤ r.stop
  | _ => True

/-- The positions and line numbers of a command are those of a list of lines. -/
def Accepts (v : LineList) : Op → Prop
  | .insertText p _ => v.HasPosition p
  | .deleteRange r | .replaceRange r _ => v.HasPosition r.start ∧ v.HasPosition r.stop
  | .setLine line _ => line < v.texts.length
  | .insertLines line _ => line ≤ v.texts.length
  | .removeLines start stop => start < stop ∧ stop ≤ v.texts.length
  | .rotate start mid stop => start < mid ∧ mid < stop ∧ stop ≤ v.texts.length

/-- How an accepted command leads from a list of lines to another, and what it returns. -/
def Effect (v w : LineList) : (op : Op) → op.Result → Prop
  | .insertText p t, q => v.Spliced w (.point p) t ∧ v.EndsAt w p t q
  | .deleteRange r, removed =>
    v.Spliced w r [] ∧ removed = (v.contents.take (v.offset r.stop)).drop (v.offset r.start)
  | .replaceRange r t, q => v.Spliced w r t ∧ v.EndsAt w r.start t q
  | .setLine line t, _ =>
    w.texts = v.texts.take line ++ t.lines ++ v.texts.drop (line + 1) ∧
    w.ids = v.ids.take (line + 1) ++ List.range' v.nextId (t.lines.length - 1) ++
      v.ids.drop (line + 1)
  | .insertLines line ts, _ =>
    let pieces := ts.flatMap Text.lines
    w.texts = v.texts.take line ++ pieces ++ v.texts.drop line ∧
    w.ids = v.ids.take line ++ List.range' v.nextId pieces.length ++ v.ids.drop line
  | .removeLines start stop, removed =>
    removed = (v.texts.take stop).drop start ∧
    if start = 0 ∧ stop = v.texts.length then w.texts = [[]] ∧ w.ids = [v.nextId]
    else w.texts = v.texts.take start ++ v.texts.drop stop ∧
      w.ids = v.ids.take start ++ v.ids.drop stop
  | .rotate start mid stop, _ =>
    w.texts = LineList.exchanged start mid stop v.texts ∧
    w.ids = LineList.exchanged start mid stop v.ids

end Op

/-! ## Positions and splices -/

theorem hasPosition_lineList : b.lineList.HasPosition p ↔ b.positionError? p = none := by
  simp only [LineList.HasPosition, lineList, texts, List.getElem?_map, Option.map_eq_some_iff,
    positionError?_eq_none]
  constructor
  · rintro ⟨_, ⟨l, hl, rfl⟩, hp⟩
    exact ⟨l, hl, hp⟩
  · rintro ⟨l, hl, hp⟩
    exact ⟨_, ⟨l, hl, rfl⟩, hp⟩

@[simp] theorem withoutRange_point (b : Buffer) (p : Position) : b.withoutRange (.point p) = b := by
  simp [withoutRange, Range.point, Range.isEmpty]

theorem ids_split (h : b.lines = above ++ below) :
    b.ids = above.map Line.id ++ below.map Line.id := by
  rw [ids, h, List.map_append]

theorem length_take_ids (hl : line < b.lineCount) : (b.ids.take (line + 1)).length = line + 1 :=
  List.length_take_of_le (by rwa [length_ids])

theorem ids_withText (hp : b.positionError? p = none) (t : Text) : (b.withText p t).ids =
    b.ids.take (p.line + 1) ++ List.range' b.nextId (t.lines.length - 1) ++
      b.ids.drop (p.line + 1) := by
  rw [withText]
  cases t with
  | nil => simp [Text.lines]
  | cons c t =>
    obtain ⟨above, l, below, hs, hn, -⟩ := exists_position hp
    obtain ⟨new, hlines, -, hids⟩ := insertedText_split hs hn (c :: t)
    have hlen : ((above ++ [l]).map Line.id).length = p.line + 1 := by simp [hn]
    rw [List.append_cons] at hs
    rw [List.isEmpty_cons, if_neg Bool.false_ne_true, ids_split hs, List.take_left' hlen,
      List.drop_left' hlen, ids, hlines, List.map_append, List.map_append, hids]
    simp

section
variable (hs : b.positionError? r.start = none) (he : b.positionError? r.stop = none)
  (hle : r.start ≤ r.stop)
include hs he hle

theorem ids_withoutRange : (b.withoutRange r).ids =
    b.ids.take (r.start.line + 1) ++ b.ids.drop (r.stop.line + 1) := by
  rw [withoutRange]
  split
  · rename_i h
    rw [Range.isEmpty, beq_iff_eq] at h
    rw [h, List.take_append_drop]
  · obtain ⟨above, first, rest, h1, h2, -⟩ := exists_position hs
    obtain ⟨upper, last, below, h4, h5, -⟩ := exists_position he
    have hlines := lines_deletedRange h1 h2 h4 h5 (Position.line_le_of_le hle)
    have hlen : ((above ++ [first]).map Line.id).length = r.start.line + 1 := by simp [h2]
    have hlen' : ((upper ++ [last]).map Line.id).length = r.stop.line + 1 := by simp [h5]
    have htake : b.ids.take (r.start.line + 1) = (above ++ [first]).map Line.id := by
      rw [ids_split (h1.trans (List.append_cons above first rest)), List.take_left' hlen]
    have hdrop : b.ids.drop (r.stop.line + 1) = below.map Line.id := by
      rw [ids_split (h4.trans (List.append_cons upper last below)), List.drop_left' hlen']
    rw [htake, hdrop, ids, hlines]
    simp

/-- Deleting a range and putting a text in at its start is a splice. -/
theorem spliced_replaced (t : Text) :
    b.lineList.Spliced ((b.withoutRange r).withText r.start t).lineList r t where
  contents := by
    rw [← joinLines_lines]
    exact contents_replaced hs he hle t
  ids := by
    have hlt := (positionError?_eq_none_iff.1 hs).1
    have hlen : (b.ids.take (r.start.line + 1)).length = r.start.line + 1 := length_take_ids hlt
    show ((b.withoutRange r).withText r.start t).ids = _
    rw [ids_withText (positionError?_withoutRange hs), ids_withoutRange hs he hle,
      List.take_left' hlen, List.drop_left' hlen, nextId_withoutRange]
    rfl

theorem endsAt_replaced (t : Text) :
    b.lineList.EndsAt ((b.withoutRange r).withText r.start t).lineList r.start t
      (afterInsert r.start t) := by
  obtain ⟨hp, ho⟩ := position_afterInsert (positionError?_withoutRange hs) t
  rw [offset_withoutRange hs he hle, ending_withoutRange, joinLines_lines] at ho
  exact ⟨hasPosition_lineList.2 hp, ho⟩

end

/-- A part of a line gives way to a text. -/
theorem exists_replaceRange_onLine {upper lower : List Text} {u : Text}
    (h : b.texts = upper ++ u :: lower) (hn : upper.length = line) (hle : start ≤ stop)
    (hstop : stop ≤ u.length) (t : Text) :
    ∃ c, (Edit.replaceRange (.onLine line start stop) t).outcome b =
        (.ok (afterInsert ⟨line, start⟩ t), c) ∧
      b.lineList.Spliced c.lineList (.onLine line start stop) t ∧
      c.texts = upper ++ flank (u.take start) (Text.lines t) (u.drop stop) ++ lower := by
  obtain ⟨above, rest, hlines, rfl, hrest⟩ := List.map_eq_append_iff.1 h
  obtain ⟨l, below, rfl, rfl, rfl⟩ := List.map_eq_cons_iff.1 hrest
  rw [List.length_map] at hn
  have hs : b.positionError? ⟨line, start⟩ = none :=
    positionError?_split hlines hn (Nat.le_trans hle hstop)
  have he : b.positionError? ⟨line, stop⟩ = none := positionError?_split hlines hn hstop
  obtain ⟨block, hblock, htexts⟩ := lines_replaced hlines hn hle hstop t
  refine ⟨_, Edit.outcome_replaceRange_of_valid t hs he, spliced_replaced hs he (.inr ⟨rfl, hle⟩) t, ?_⟩
  rw [← htexts, ← List.map_append, ← List.map_append]
  exact congrArg (List.map Line.text) hblock

/-! ## Commands on lines -/

theorem map_exchanged {α β : Type} (f : α → β) (xs : List α) :
    (LineList.exchanged start mid stop xs).map f = LineList.exchanged start mid stop (xs.map f) := by
  simp [LineList.exchanged]

theorem take_ids_succ (hl : b.lines[line]? = some l) :
    b.ids.take (line + 1) = (b.lines.take line).map Line.id ++ [l.id] := by
  rw [List.take_add_one, ids, List.getElem?_map, hl, ← List.map_take]
  rfl

theorem effect_setLine (hl : line < b.lineCount) (t : Text) :
    ∃ c, (Edit.setLine line t).outcome b = (.ok ⟨⟩, c) ∧
      (Op.setLine line t).Effect b.lineList c.lineList ⟨⟩ := by
  have hlt : line < b.lines.length := hl
  have hline := List.getElem?_eq_getElem hlt
  have hs : b.lines = b.lines.take line ++ b.lines[line] :: b.lines.drop (line + 1) := by
    rw [List.getElem_cons_drop, List.take_append_drop]
  obtain ⟨c, hc, hr⟩ := replaced_setLine hs (List.length_take_of_le (Nat.le_of_lt hl)) t
  refine ⟨c, hc, ?_, ?_⟩
  · show c.texts = b.texts.take line ++ _ ++ b.texts.drop (line + 1)
    rw [hr.texts_eq, List.map_take, List.map_drop]
    rfl
  · show c.ids = b.ids.take (line + 1) ++ _ ++ b.ids.drop (line + 1)
    rw [hr.ids_eq, take_ids_succ hline, ids, List.map_drop]
    simp [lineList]

theorem effect_withLines (hl : line ≤ b.lineCount) (ts : List Text) :
    (Op.insertLines line ts).Effect b.lineList (b.withLines line ts).lineList ⟨⟩ := by
  refine ⟨?_, ?_⟩
  · show (b.withLines line ts).texts = b.texts.take line ++ _ ++ b.texts.drop line
    rw [texts, lines_withLines hl]
    simp [texts]
  · show (b.withLines line ts).ids = b.ids.take line ++ _ ++ b.ids.drop line
    rw [ids, lines_withLines hl]
    simp [ids, lineList]

theorem effect_withoutLines (h : start < stop) (hs : stop ≤ b.lineCount) :
    (Op.removeLines start stop).Effect b.lineList (b.withoutLines start stop).lineList
      ((b.texts.take stop).drop start) := by
  have hlines := lines_withoutLines h hs
  have hlength : b.lineList.texts.length = b.lineCount := List.length_map _
  refine ⟨rfl, ?_⟩
  rw [hlength]
  split
  · rename_i hall
    rw [if_pos hall] at hlines
    simp [lineList, texts, ids, hlines, freshLines]
  · rename_i hall
    rw [if_neg hall] at hlines
    simp [lineList, texts, ids, hlines]

theorem effect_rotateLines : (Op.rotate start mid stop).Effect b.lineList
    (b.rotateLines start mid stop).markModified.lineList ⟨⟩ :=
  ⟨map_exchanged Line.text b.lines, map_exchanged Line.id b.lines⟩

/-! ## Commands of buffers -/

namespace Op

theorem accepts_iff : op.Accepts b.lineList ↔
    match op with
    | .insertText p _ => b.positionError? p = none
    | .deleteRange r | .replaceRange r _ =>
      b.positionError? r.start = none ∧ b.positionError? r.stop = none
    | .setLine line _ => line < b.lineCount
    | .insertLines line _ => line ≤ b.lineCount
    | .removeLines start stop => start < stop ∧ stop ≤ b.lineCount
    | .rotate start mid stop => start < mid ∧ mid < stop ∧ stop ≤ b.lineCount := by
  have hlength : b.lineList.texts.length = b.lineCount := List.length_map _
  cases op <;> simp only [Accepts, hasPosition_lineList, hlength]

/-- An accepted command succeeds and does to the list of lines what it should. -/
theorem run_of_accepts (ho : op.Ordered) (ha : op.Accepts b.lineList) :
    ∃ q c, op.run.outcome b = (.ok q, c) ∧ op.Effect b.lineList c.lineList q := by
  rw [accepts_iff] at ha
  cases op with
  | insertText p t =>
    have hle : (Range.point p).start ≤ (Range.point p).stop := .inr ⟨rfl, Nat.le_refl _⟩
    have hsplice := spliced_replaced ha ha hle t
    have hends := endsAt_replaced ha ha hle t
    rw [withoutRange_point] at hsplice hends
    refine ⟨afterInsert p t, b.withText p t, ?_, hsplice, hends⟩
    rw [run, Edit.outcome_insertText, ha]
    rfl
  | deleteRange r =>
    obtain ⟨hs, he⟩ := ha
    refine ⟨_, b.withoutRange r, ?_, spliced_replaced hs he ho [], removed_eq_slice hs he ho⟩
    rw [run, Edit.outcome_deleteRange, hs, he]
  | replaceRange r t =>
    obtain ⟨hs, he⟩ := ha
    exact ⟨_, _, Edit.outcome_replaceRange_of_valid t hs he, spliced_replaced hs he ho t,
      endsAt_replaced hs he ho t⟩
  | setLine line t =>
    obtain ⟨c, hc, h⟩ := effect_setLine ha t
    exact ⟨⟨⟩, c, hc, h⟩
  | insertLines line ts =>
    refine ⟨⟨⟩, b.withLines line ts, ?_, effect_withLines ha ts⟩
    rw [run, Edit.outcome_insertLines, if_pos ha]
  | removeLines start stop =>
    refine ⟨_, b.withoutLines start stop, ?_, effect_withoutLines ha.1 ha.2⟩
    rw [run, Edit.outcome_removeLines, if_pos ha]
  | rotate start mid stop =>
    obtain ⟨hm, hs, hl⟩ := ha
    refine ⟨⟨⟩, (b.rotateLines start mid stop).markModified, ?_, effect_rotateLines⟩
    rw [run, Edit.outcome_rotate, if_neg (Nat.not_lt.2 hl), if_pos ⟨hm, hs⟩]

/-- A command that is not accepted fails and changes nothing. -/
theorem run_of_not_accepts (ha : ¬op.Accepts b.lineList) :
    ∃ e, op.run.outcome b = (.error e, b) := by
  rw [accepts_iff] at ha
  cases op with
  | insertText p t =>
    obtain ⟨e, he⟩ := Option.ne_none_iff_exists'.1 ha
    exact ⟨e, by rw [run, Edit.outcome_insertText, he]⟩
  | deleteRange r =>
    rw [run, Edit.outcome_deleteRange]
    cases hs : b.positionError? r.start with
    | some e => exact ⟨e, rfl⟩
    | none =>
      obtain ⟨e, he⟩ := Option.ne_none_iff_exists'.1 fun h => ha ⟨hs, h⟩
      exact ⟨e, by rw [he]⟩
  | replaceRange r t =>
    rw [run, Edit.outcome_replaceRange]
    cases he : b.positionError? r.stop with
    | some e => exact ⟨e, rfl⟩
    | none =>
      obtain ⟨e, hs⟩ := Option.ne_none_iff_exists'.1 fun h => ha ⟨h, he⟩
      exact ⟨e, by rw [hs]⟩
  | setLine line t => exact ⟨_, by rw [run, Edit.outcome_setLine, lineError?, if_neg ha]⟩
  | insertLines line ts => exact ⟨_, by rw [run, Edit.outcome_insertLines, if_neg ha]⟩
  | removeLines start stop => exact ⟨_, by rw [run, Edit.outcome_removeLines, if_neg ha]⟩
  | rotate start mid stop =>
    rw [run, Edit.outcome_rotate]
    by_cases hl : b.lineCount < stop
    · exact ⟨_, if_pos hl⟩
    · rw [if_neg hl, if_neg fun h => ha ⟨h.1, h.2, Nat.not_lt.1 hl⟩]
      exact ⟨_, rfl⟩

end Op
end Buffer
end LogicEditor
