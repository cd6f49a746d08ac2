import LogicEditor.Proofs.Buffer.Splice
import LogicEditor.Proofs.Rope.Slots

/-!
# Ropes follow lines

`RopeBuffer.Represents` says that a rope buffer has the text, the slots and the log of a buffer. Then
all that it reads off its rope is what the buffer has in its lines, and each of its effects is the
effect that the buffer has. On the rope an effect is a splice at an index; that the index is the right
one rests on the lines being free of breaks (`Text.brokenLines_joinLines`).
-/

namespace LogicEditor
namespace RopeBuffer

open Text

variable {R : Type} [Rope R] [LawfulRope R] {b : RopeBuffer R} {m : Buffer} {p : Position}
  {r : Range} {t : Text} {l : Line} {above below : List Line} {line start mid stop : Nat}

/-- A rope buffer has the text, the slots and the log of a buffer. -/
structure Represents (b : RopeBuffer R) (m : Buffer) : Prop extends Tracks b m where
  text : Rope.text b.rope = m.contents

/-! ## What is read off the rope -/

private theorem filterMap_getElem?_range' {α : Type} (xs : List α) (start count : Nat) :
    (List.range' start count).filterMap (fun i => xs[i]?) = (xs.drop start).take count := by
  induction count generalizing start with
  | zero => simp
  | succ count ih =>
    rw [List.range'_succ, List.filterMap_cons, ih]
    cases h : xs[start]? with
    | none =>
      have hle := List.getElem?_eq_none_iff.1 h
      rw [List.drop_eq_nil_of_le hle, List.drop_eq_nil_of_le (Nat.le_succ_of_le hle)]
      simp
    | some x =>
      obtain ⟨hlt, rfl⟩ := List.getElem?_eq_some_iff.1 h
      rw [List.drop_eq_getElem_cons hlt, List.take_succ_cons]

namespace Represents

variable (H : Represents b m) (W : m.WellFormed)
include H W

omit [LawfulRope R] W in
theorem brokenLines_rope :
    brokenLines (Rope.text b.rope) = brokenLines (joinLines m.ending m.texts) :=
  congrArg brokenLines H.text

omit [LawfulRope R] in
theorem length_brokenLines : (brokenLines (Rope.text b.rope)).length = m.lineCount := by
  rw [H.brokenLines_rope, length_brokenLines_joinLines W.texts_ne_nil W.clean, Buffer.texts,
    List.length_map, Buffer.lineCount]

theorem lineCount_rope : Rope.lineCount b.rope = m.lineCount := by
  rw [LawfulRope.lineCount_eq, H.length_brokenLines W]

theorem lineStart_eq (hl : line < m.lineCount) :
    Rope.lineStart b.rope line = (terminated m.ending (m.texts.take line)).length := by
  have hlt : line < m.texts.length := by rwa [Buffer.texts, List.length_map]
  rw [LawfulRope.lineStart_eq _ (by rw [H.length_brokenLines W]; exact Nat.le_of_lt hl),
    H.brokenLines_rope, flatten_take_brokenLines W.texts_ne_nil W.clean hlt]

theorem index_eq (hp : m.positionError? p = none) : b.index p = m.offset p := by
  rw [index, Buffer.offset, H.lineStart_eq W (Buffer.positionError?_eq_none_iff.1 hp).1]

theorem contentLength_eq (hl : line < m.lineCount) :
    b.contentLength line = (m.lineText line).length := by
  have hlt : line < m.texts.length := by rwa [Buffer.texts, List.length_map]
  have hbroken : line < (brokenLines (joinLines m.ending m.texts)).length := by
    rwa [length_brokenLines_joinLines W.texts_ne_nil W.clean]
  rw [contentLength, LawfulRope.line_eq _ (by rwa [H.length_brokenLines W])]
  simp only [H.brokenLines_rope]
  rw [bodyLength_brokenLines W.texts_ne_nil W.clean hlt hbroken,
    Buffer.lineText_of_getElem? (List.getElem?_eq_getElem hl)]
  simp only [Buffer.texts, List.getElem_map]
  rfl

theorem lineStart_split (hs : m.lines = above ++ below) (hn : above.length = line)
    (hne : below ≠ []) :
    Rope.lineStart b.rope line = (terminated m.ending (above.map Line.text)).length := by
  have hl : line < m.lineCount := by
    have := List.length_pos_iff.2 hne
    rw [Buffer.lineCount, hs, ← hn, List.length_append]
    omega
  rw [H.lineStart_eq W hl, Buffer.texts_split hs, List.take_left' (by rw [List.length_map, hn])]

section
variable (hs : m.lines = above ++ l :: below) (hn : above.length = line)
include hs hn

theorem contentLength_split : b.contentLength line = l.text.length := by
  have hline : m.lines[line]? = some l := by rw [hs, ← hn]; simp
  rw [H.contentLength_eq W (List.getElem?_eq_some_iff.1 hline).1, Buffer.lineText_of_getElem? hline]

theorem slice_line : Rope.slice b.rope (Rope.lineStart b.rope line)
    (Rope.lineStart b.rope line + b.contentLength line) = l.text := by
  have hstart : Rope.lineStart b.rope line = m.offset ⟨line, 0⟩ := by
    rw [H.lineStart_split W hs hn (List.cons_ne_nil l below), Buffer.offset_split hs hn, Nat.add_zero]
  have hstop : m.offset ⟨line, 0⟩ + l.text.length = m.offset ⟨line, l.text.length⟩ := by
    rw [Buffer.offset_split hs hn, Buffer.offset_split hs hn, Nat.add_zero]
  have hle := Buffer.offset_le_length (Buffer.positionError?_split (p := ⟨line, l.text.length⟩) hs hn
    (Nat.le_refl _))
  rw [H.contentLength_split W hs hn, LawfulRope.slice_eq _ (Nat.le_add_right _ _)
    (by rwa [hstart, hstop, H.text]), H.text, hstart, hstop,
    Buffer.take_contents (p := ⟨line, l.text.length⟩) hs hn (Nat.le_refl _), List.take_length,
    Buffer.offset_split hs hn, Nat.add_zero, List.drop_left]

end

/-- A line ends where the joined lines down to it end. -/
theorem lineEnd_eq (hs : m.lines = above ++ below) (hne : above ≠ []) (hn : above.length = stop) :
    Rope.lineStart b.rope (stop - 1) + b.contentLength (stop - 1) =
      (joinLines m.ending (above.map Line.text)).length := by
  obtain ⟨upper, l, rfl⟩ := List.eq_nil_or_concat above |>.resolve_left hne
  rw [List.concat_eq_append, List.append_assoc, List.singleton_append] at hs
  have hupper : upper.length = stop - 1 := by
    rw [← hn, List.concat_eq_append, List.length_append]
    rfl
  rw [H.lineStart_split W hs hupper (List.cons_ne_nil l below),
    H.contentLength_split W hs hupper, List.concat_eq_append, List.map_append, List.map_singleton,
    joinLines_around, preceded_nil, List.append_nil, List.length_append]

theorem text?_eq (line : Nat) : b.text? line = m.texts[line]? := by
  rw [text?, H.lineCount, Buffer.texts, List.getElem?_map]
  split
  · rename_i hl
    obtain ⟨above, l, below, hs, hn⟩ := Buffer.exists_line hl
    have hline : m.lines[line]? = some l := by rw [hs, ← hn]; simp
    rw [hline, Option.map_some]
    exact congrArg some (H.slice_line W hs hn)
  · rename_i hl
    rw [List.getElem?_eq_none (Nat.not_lt.1 hl), Option.map_none]

theorem textsFrom_eq (hs : start ≤ stop) :
    b.textsFrom start stop = (m.texts.take stop).drop start := by
  have htext : b.text? = fun i => m.texts[i]? := funext (H.text?_eq W)
  rw [textsFrom, htext, filterMap_getElem?_range', List.take_drop, Nat.add_sub_cancel' hs]

theorem texts_eq : b.texts = m.texts := by
  rw [texts, H.textsFrom_eq W (Nat.zero_le _), H.lineCount, List.drop_zero]
  exact List.take_of_length_le (Nat.le_of_eq (List.length_map _))

omit [LawfulRope R] W in
theorem lineError?_eq (line : Nat) : b.lineError? line = m.lineError? line := by
  rw [lineError?, Buffer.lineError?, H.lineCount]

theorem positionError?_eq (p : Position) : b.positionError? p = m.positionError? p := by
  rw [positionError?, H.lineError?_eq, Buffer.positionError?, Buffer.lineError?, Buffer.text?]
  by_cases hl : p.line < m.lineCount
  · have hline := List.getElem?_eq_getElem hl
    rw [if_pos hl, hline, H.contentLength_eq W hl, Buffer.lineText_of_getElem? hline, Option.map_some]
    simp only [← Nat.not_lt, ite_not]
  · rw [if_neg hl, List.getElem?_eq_none (Nat.not_lt.1 hl), Option.map_none]

theorem slice_range (hs : m.positionError? r.start = none) (he : m.positionError? r.stop = none)
    (hle : r.start ≤ r.stop) : Rope.slice b.rope (b.index r.start) (b.index r.stop) =
      (m.contents.take (m.offset r.stop)).drop (m.offset r.start) := by
  have hstop := Buffer.offset_le_length he
  rw [H.index_eq W hs, H.index_eq W he, LawfulRope.slice_eq _ (Buffer.offset_mono hs he hle)
    (by rwa [H.text]), H.text]

end Represents

/-! ## Effects -/

section
variable {i j : Nat} {front middle back : Text} {rope : R}

theorem text_insert_split (h : Rope.text rope = front ++ back) (hi : i = front.length)
    (t : Text) : Rope.text (Rope.insert rope i t) = front ++ t ++ back := by
  subst hi
  rw [LawfulRope.text_insert _ _ (by rw [h, List.length_append]; exact Nat.le_add_right _ _), h,
    List.take_left, List.drop_left]

theorem text_remove_split (h : Rope.text rope = front ++ middle ++ back) (hi : i = front.length)
    (hj : j = (front ++ middle).length) : Rope.text (Rope.remove rope i j) = front ++ back := by
  subst hi hj
  have hle : front.length ≤ (front ++ middle).length := by
    rw [List.length_append]
    exact Nat.le_add_right _ _
  have hlen : (front ++ middle).length ≤ (Rope.text rope).length := by
    rw [h]
    simp only [List.length_append]
    omega
  rw [LawfulRope.text_remove _ hle hlen, h, List.drop_left, List.append_assoc, List.take_left]

end

namespace Represents

variable (H : Represents b m) (W : m.WellFormed)
include H W

theorem insertedText (hp : m.positionError? p = none) (ht : t.isEmpty = false) :
    Represents (b.insertedText p t) (m.insertedText p t) := by
  have hwith : m.withText p t = m.insertedText p t := by
    rw [Buffer.withText, ht, if_neg Bool.false_ne_true]
  have hle := Buffer.offset_le_length hp
  refine ⟨?_, ?_⟩
  · have hrope := H.withRope (Rope.insert b.rope (b.index p) (joinLines b.ending t.lines))
    have htouch := hrope.touch p.line
    obtain ⟨first, more, hls⟩ := List.exists_cons_of_ne_nil (lines_ne_nil t)
    by_cases hm : more = []
    · subst hm
      rw [Buffer.insertedText_of_lines_singleton hls]
      rw [hls] at htouch
      rw [RopeBuffer.insertedText, hls]
      exact (htouch _).markModified
    · rw [Buffer.insertedText_of_lines_cons hls hm]
      have hline : p.line + 1 ≤
          (m.editLine p.line ((m.lineText p.line).take p.col ++ first)).lineCount := by
        rw [Buffer.lineCount_editLine]
        exact (Buffer.positionError?_eq_none_iff.1 hp).1
      have hopen := (htouch _).openSlots hline
        (more.dropLast ++ [more.getLastD [] ++ (m.lineText p.line).drop p.col])
      have hlen : (more.dropLast ++ [more.getLastD [] ++ (m.lineText p.line).drop p.col]).length =
          t.lines.length - 1 := by
        have := List.length_pos_iff.2 hm
        rw [hls, List.length_append, List.length_dropLast, List.length_singleton, List.length_cons]
        omega
      rw [hlen] at hopen
      exact hopen.markModified
  · rw [← hwith, Buffer.contents_withText hp]
    simp only [RopeBuffer.insertedText, rope_markModified, rope_openSlots, rope_touch]
    have hsplit : Rope.text b.rope =
        m.contents.take (m.offset p) ++ m.contents.drop (m.offset p) := by
      rw [H.text, List.take_append_drop]
    rw [text_insert_split hsplit (by rw [H.index_eq W hp, List.length_take_of_le hle]), H.ending]

theorem deletedRange (hs : m.positionError? r.start = none) (he : m.positionError? r.stop = none)
    (hle : r.start ≤ r.stop) (hr : r.isEmpty = false) :
    Represents (b.deletedRange r) (m.deletedRange r) := by
  have hwithout : m.withoutRange r = m.deletedRange r := by
    rw [Buffer.withoutRange, hr, if_neg Bool.false_ne_true]
  have hstart := Buffer.offset_le_length hs
  have hmono := Buffer.offset_mono hs he hle
  refine ⟨?_, ?_⟩
  · have hrope := H.withRope (Rope.remove b.rope (b.index r.start) (b.index r.stop))
    have hclose : Tracks _ (m.closeLines (r.start.line + 1) (r.stop.line + 1)) :=
      hrope.closeSlots (Buffer.positionError?_eq_none_iff.1 he).1
    exact (hclose.touch r.start.line _).markModified
  · rw [← hwithout, Buffer.contents_withoutRange hs he hle]
    simp only [RopeBuffer.deletedRange, rope_markModified, rope_touch, rope_closeSlots]
    rw [H.index_eq W hs, H.index_eq W he, LawfulRope.text_remove _ hmono
      (by rw [H.text]; exact Buffer.offset_le_length he), H.text]

theorem editedLine (hl : line < m.lineCount) (t : Text) :
    Represents (b.editedLine line t) (m.editLine line t).markModified := by
  obtain ⟨above, l, below, hs, hn⟩ := Buffer.exists_line hl
  refine ⟨((H.withRope _).touch line t).markModified, ?_⟩
  have hedit : (m.editLine line t).markModified.lines =
      above ++ ({ id := l.id, text := t } : Line) :: below := by
    rw [Buffer.editLine_split hs hn]
    rfl
  have htext : Rope.text b.rope = terminated m.ending (above.map Line.text) ++ l.text ++
      preceded m.ending (below.map Line.text) := by
    rw [H.text, Buffer.contents_split hs, List.append_assoc]
  have hstart := H.lineStart_split W hs hn (List.cons_ne_nil l below)
  have hstop : Rope.lineStart b.rope line + b.contentLength line =
      (terminated m.ending (above.map Line.text) ++ l.text).length := by
    rw [hstart, H.contentLength_split W hs hn, List.length_append]
  simp only [RopeBuffer.editedLine, rope_markModified, rope_touch]
  rw [Buffer.contents_split hedit,
    text_insert_split (text_remove_split htext hstart hstop) hstart]
  simp [Buffer.markModified]

theorem insertedLines (hl : line ≤ m.lineCount) {pieces : List Text} (hne : pieces ≠ []) :
    Represents (b.insertedLines line pieces) (m.openLines line pieces).markModified := by
  obtain ⟨above, below, hs, hn⟩ := Buffer.exists_split_at hl
  refine ⟨((H.withRope _).openSlots hl pieces).markModified, ?_⟩
  have hopen : (m.openLines line pieces).markModified.texts =
      above.map Line.text ++ pieces ++ below.map Line.text := by
    rw [Buffer.openLines_split hs hn hne]
    simp [Buffer.texts, Buffer.markModified, Buffer.record]
  have hending : (m.openLines line pieces).markModified.ending = m.ending :=
    Buffer.ending_openLines m line pieces
  simp only [RopeBuffer.insertedLines, rope_markModified, rope_openSlots]
  rw [Buffer.contents, hopen, hending, H.lineCount, H.ending]
  cases below with
  | nil =>
    have hlast : ¬line < m.lineCount := by
      rw [Buffer.lineCount, hs, ← hn]
      simp
    have habove : above ≠ [] := by
      rintro rfl
      exact W.nonempty hs
    have htext : Rope.text b.rope = joinLines m.ending (above.map Line.text) ++ [] := by
      rw [H.text, Buffer.contents, Buffer.texts_split hs]
      simp
    rw [if_neg hlast, text_insert_split htext (by rw [LawfulRope.length_eq, htext, List.append_nil])]
    simp only [List.map_nil, List.append_nil]
    rw [joinLines_append (by simpa using habove) hne, List.append_assoc]
  | cons l below =>
    have hlt : line < m.lineCount := by
      rw [Buffer.lineCount, hs, ← hn]
      simp
    have htext : Rope.text b.rope = terminated m.ending (above.map Line.text) ++
        joinLines m.ending ((l :: below).map Line.text) := by
      rw [H.text, Buffer.contents, Buffer.texts_split hs, terminated_append_joinLines (by simp)]
    rw [if_pos hlt,
      text_insert_split htext (H.lineStart_split W hs hn (List.cons_ne_nil l below)),
      joinLines_block hne, preceded_eq_joinLines (by simp)]
    simp only [List.append_assoc]

/-- Without all its lines, a buffer has one empty line. -/
theorem removedLines_all :
    Represents (b.removedLines 0 b.lineCount) (m.withoutLines 0 m.lineCount) := by
  rw [RopeBuffer.removedLines, if_pos ⟨rfl, rfl⟩, Buffer.withoutLines, Buffer.closeLines_all W]
  have hremoved : b.slots.map (fun s : Slot => Change.removed s.id) = Buffer.removals m.lines := by
    rw [H.slots, List.map_map]
    rfl
  have hnone : Tracks ({ b with rope := (Rope.ofText [] : R), slots := [] }.record
      (b.slots.map fun s : Slot => Change.removed s.id))
      ({ m with lines := [] }.record (Buffer.removals m.lines)) := by
    rw [hremoved]
    refine Tracks.record ?_ _
    exact ⟨rfl, H.ending, H.nextId, H.log, H.isModified⟩
  refine ⟨(hnone.openSlots (Nat.zero_le _) [[]]).markModified, ?_⟩
  simp [LawfulRope.text_ofText, Buffer.contents, Buffer.texts, Buffer.markModified, Buffer.record,
    Buffer.openLines, Buffer.freshLines, joinLines]

/-- The rope without a block of lines that other lines follow. -/
theorem text_remove_block {old : List Line} (hm : m.lines = above ++ old ++ below)
    (ha : above.length = start) (ho : start + old.length = stop) (hne : below ≠ []) :
    Rope.text (Rope.remove b.rope (Rope.lineStart b.rope start) (Rope.lineStart b.rope stop)) =
      joinLines m.ending (above.map Line.text ++ below.map Line.text) := by
  have hbelow : below.map Line.text ≠ [] := by simpa using hne
  have htext : Rope.text b.rope = terminated m.ending (above.map Line.text) ++
      terminated m.ending (old.map Line.text) ++ joinLines m.ending (below.map Line.text) := by
    rw [H.text, Buffer.contents, Buffer.texts, hm, List.map_append, List.map_append,
      ← terminated_append, terminated_append_joinLines hbelow]
  have hstop := H.lineStart_split W hm (by rw [List.length_append, ha, ho]) hne
  rw [List.map_append, terminated_append] at hstop
  rw [List.append_assoc] at hm
  have hstart := H.lineStart_split W hm ha (by simp [hne])
  rw [text_remove_split htext hstart hstop, terminated_append_joinLines hbelow]

/-- The rope without its last lines. The break between the last line that stays and the first that
goes is taken too. -/
theorem text_remove_tail {old : List Line} (hm : m.lines = above ++ old) (ha : above.length = start)
    (habove : above ≠ []) (hold : old ≠ []) :
    Rope.text (Rope.remove b.rope (Rope.lineStart b.rope (start - 1) + b.contentLength (start - 1))
      (Rope.length b.rope)) = joinLines m.ending (above.map Line.text) := by
  have htext : Rope.text b.rope = joinLines m.ending (above.map Line.text) ++
      (m.ending.text ++ joinLines m.ending (old.map Line.text)) ++ [] := by
    rw [H.text, Buffer.contents, Buffer.texts, hm, List.map_append,
      joinLines_append (by simpa using habove) (by simpa using hold)]
    simp
  have hlength : Rope.length b.rope = (joinLines m.ending (above.map Line.text) ++
      (m.ending.text ++ joinLines m.ending (old.map Line.text))).length := by
    rw [LawfulRope.length_eq, htext, List.append_nil]
  rw [text_remove_split htext (H.lineEnd_eq W hm habove ha) hlength, List.append_nil]

theorem removedLines (hs : start < stop) (hl : stop ≤ m.lineCount) :
    Represents (b.removedLines start stop) (m.withoutLines start stop) := by
  by_cases hall : start = 0 ∧ stop = m.lineCount
  · obtain ⟨rfl, rfl⟩ := hall
    have hnone := H.removedLines_all W
    rwa [H.lineCount] at hnone
  obtain ⟨above, old, below, hm, ha, ho⟩ := Buffer.exists_block (Nat.le_of_lt hs) hl
  have hold : old ≠ [] := List.length_pos_iff.1 (by omega)
  have hcount : m.lineCount = stop + below.length := by
    rw [Buffer.lineCount, hm, List.length_append, List.length_append]
    omega
  have hkeep : above ++ below ≠ [] := by
    rw [← List.length_pos_iff, List.length_append]
    omega
  have hclose : (m.closeLines start stop).lines = above ++ below := by
    rw [Buffer.closeLines_split hm ha ho hold]
    rfl
  have hwithout : m.withoutLines start stop = (m.closeLines start stop).markModified := by
    rw [Buffer.withoutLines, hclose, if_neg (by simpa using hkeep)]
  have hcontents : (m.closeLines start stop).markModified.contents =
      joinLines m.ending (above.map Line.text ++ below.map Line.text) := by
    rw [← List.map_append, ← hclose, Buffer.contents]
    exact congrArg (joinLines · _) (Buffer.ending_closeLines m start stop)
  rw [hwithout, RopeBuffer.removedLines, H.lineCount, if_neg hall]
  refine ⟨((H.withRope _).closeSlots hl).markModified, ?_⟩
  simp only [rope_markModified, rope_closeSlots]
  rw [hcontents]
  split
  · exact H.text_remove_block W hm ha ho (List.length_pos_iff.1 (by omega))
  · obtain rfl : below = [] := List.length_eq_zero_iff.1 (by omega)
    rw [List.append_nil] at hm hkeep
    rw [List.map_nil, List.append_nil]
    exact H.text_remove_tail W hm ha hkeep hold

/-- The texts of two neighbouring blocks, turned. -/
theorem turned_textsFrom {upper lower : List Line} (hm : m.lines = above ++ upper ++ lower ++ below)
    (ha : above.length = start) (hu : start + upper.length = mid) (hl : mid + lower.length = stop) :
    turned (mid - start) (b.textsFrom start stop) =
      lower.map Line.text ++ upper.map Line.text := by
  have hlen : (above ++ upper ++ lower).length = stop := by
    rw [List.length_append, List.length_append]
    omega
  have htexts : b.textsFrom start stop = upper.map Line.text ++ lower.map Line.text := by
    rw [H.textsFrom_eq W (by omega), Buffer.texts, ← List.map_take, ← List.map_drop, hm,
      List.take_left' hlen, List.append_assoc, List.drop_left' ha, List.map_append]
  have hupper : (upper.map Line.text).length = mid - start := by
    rw [List.length_map]
    omega
  rw [turned, htexts, List.drop_left' hupper, List.take_left' hupper]

theorem rotatedLines (hm : start < mid) (hs : mid < stop) (hl : stop ≤ m.lineCount) :
    Represents (b.rotatedLines start mid stop) (m.rotateLines start mid stop).markModified := by
  obtain ⟨rest, lower, below, hb, hr, ho⟩ := Buffer.exists_block (Nat.le_of_lt hs) hl
  obtain ⟨above, upper, rfl, ha⟩ := Buffer.exists_split_at (hr ▸ Nat.le_of_lt hm)
  rw [List.length_append, ha] at hr
  have hlower : lower ≠ [] := List.length_pos_iff.1 (by omega)
  have hupper : upper ≠ [] := List.length_pos_iff.1 (by omega)
  refine ⟨((H.withRope _).rotateSlots (Nat.le_of_lt hm) (Nat.le_of_lt hs)).markModified, ?_⟩
  have hblock : upper.map Line.text ++ lower.map Line.text ≠ [] := by simp [hupper]
  have hturned : lower.map Line.text ++ upper.map Line.text ≠ [] := by simp [hlower]
  -- the block reaches in the rope from the start of its first line to the end of its last
  have hstart : Rope.lineStart b.rope start = (terminated m.ending (above.map Line.text)).length := by
    have hb' : m.lines = above ++ (upper ++ lower ++ below) := by
      rw [hb]
      simp only [List.append_assoc]
    exact H.lineStart_split W hb' ha (by simp [hupper])
  have hstop : Rope.lineStart b.rope (stop - 1) + b.contentLength (stop - 1) =
      (terminated m.ending (above.map Line.text) ++
        joinLines m.ending (upper.map Line.text ++ lower.map Line.text)).length := by
    rw [H.lineEnd_eq W hb (by simp [hupper])
      (by rw [List.length_append, List.length_append]; omega), terminated_append_joinLines hblock]
    simp only [List.map_append, List.append_assoc]
  have htext : Rope.text b.rope = terminated m.ending (above.map Line.text) ++
      joinLines m.ending (upper.map Line.text ++ lower.map Line.text) ++
        preceded m.ending (below.map Line.text) := by
    rw [H.text, Buffer.contents, Buffer.texts, hb, ← joinLines_block hblock]
    simp only [List.map_append, List.append_assoc]
  have hrotated : (m.rotateLines start mid stop).markModified.texts = above.map Line.text ++
      (lower.map Line.text ++ upper.map Line.text) ++ below.map Line.text := by
    rw [← List.map_append, ← List.map_append, ← List.map_append,
      ← Buffer.lines_rotateLines hb ha hr ho]
    rfl
  simp only [RopeBuffer.rotatedLines, rope_markModified, rope_rotateSlots,
    H.turned_textsFrom W hb ha hr ho]
  rw [text_insert_split (text_remove_split htext hstart hstop) hstart, Buffer.contents, hrotated,
    joinLines_block hturned, H.ending]
  rfl

end Represents
end RopeBuffer
end LogicEditor
