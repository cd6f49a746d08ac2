import LogicEditor.Proofs.Buffer.Step
import LogicEditor.Proofs.Rope.Buffer

/-!
# Slots follow lines

`RopeBuffer.Tracks` says that the slots of a rope buffer are what a buffer keeps with its lines, text
excepted, and that both have logged the same changes. Each step of a buffer has its step on slots that
keeps this up, whatever becomes of the text.
-/

namespace LogicEditor

/-- What is kept with a line besides its text. -/
def Line.slot (l : Line) : Slot := ⟨l.id, l.tokens?⟩

namespace RopeBuffer

variable {R : Type} {b : RopeBuffer R} {m : Buffer} {above below : List Line}
  {line start mid stop : Nat}

/-- A rope buffer has the slots of a buffer's lines, and the same log. -/
structure Tracks (b : RopeBuffer R) (m : Buffer) : Prop where
  slots : b.slots = m.lines.map Line.slot
  ending : b.ending = m.ending
  nextId : b.nextId = m.nextId
  log : b.log = m.log
  isModified : b.isModified = m.isModified

namespace Tracks

variable (H : Tracks b m)
include H

theorem lineCount : b.lineCount = m.lineCount := by
  rw [RopeBuffer.lineCount, H.slots, List.length_map, Buffer.lineCount]

theorem ids : b.ids = m.ids := by
  rw [RopeBuffer.ids, H.slots, List.map_map]
  rfl

theorem withRope (rope : R) : Tracks { b with rope } m :=
  ⟨H.slots, H.ending, H.nextId, H.log, H.isModified⟩

theorem record (changes : List Change) : Tracks (b.record changes) (m.record changes) :=
  ⟨H.slots, H.ending, H.nextId, congrArg (· ++ changes) H.log, H.isModified⟩

theorem markModified : Tracks b.markModified m.markModified :=
  ⟨H.slots, H.ending, H.nextId, H.log, rfl⟩

theorem markSaved : Tracks b.markSaved m.markSaved := ⟨H.slots, H.ending, H.nextId, H.log, rfl⟩

theorem clearLog : Tracks b.clearLog m.clearLog := ⟨H.slots, H.ending, H.nextId, rfl, H.isModified⟩

theorem setTokens (line : Nat) (tokens : List Token) :
    Tracks (b.setTokens line tokens) (m.setTokens line tokens) := by
  refine ⟨?_, H.ending, H.nextId, H.log, H.isModified⟩
  refine List.ext_getElem? fun i => ?_
  simp only [RopeBuffer.setTokens, Buffer.setTokens, H.slots, List.getElem?_map, List.getElem?_modify]
  cases m.lines[i]? with
  | none => rfl
  | some l => by_cases hi : line = i <;> simp [hi, Line.slot]

theorem touch (line : Nat) (t : Text) : Tracks (b.touch line) (m.editLine line t) := by
  have hslot : b.slots[line]? = m.lines[line]?.map Line.slot := by rw [H.slots, List.getElem?_map]
  rw [RopeBuffer.touch, Buffer.editLine, hslot]
  cases m.lines[line]? with
  | none => exact H
  | some l =>
    refine record (b := { b with slots := b.slots.set line { id := l.id } }) ?_ [.edited l.id]
    refine ⟨?_, H.ending, H.nextId, H.log, H.isModified⟩
    rw [H.slots, List.map_set]
    rfl

omit H in
private theorem insertIdx_length_append {α : Type} (xs ys : List α) (a : α) :
    (xs ++ ys).insertIdx xs.length a = xs ++ a :: ys := by
  induction xs with
  | nil => exact List.insertIdx_zero
  | cons x xs ih => rw [List.cons_append, List.length_cons, List.insertIdx_succ_cons, ih,
      List.cons_append]

/-- Slots made one by one are those of new lines put in at once. -/
theorem openEach (hs : m.lines = above ++ below) (hn : above.length = line) (ts : List Text) :
    Tracks (b.openEach line ts.length) ({ m with
      lines := above ++ Buffer.freshLines m.nextId ts ++ below
      nextId := m.nextId + ts.length }.record
        (Buffer.insertions line (Buffer.freshLines m.nextId ts))) := by
  induction ts generalizing b m above line with
  | nil =>
    rw [Buffer.freshLines, List.append_nil, ← hs]
    exact ⟨H.slots, H.ending, H.nextId, H.log.trans (List.append_nil _).symm, H.isModified⟩
  | cons t ts ih =>
    subst hn
    have hopen : Tracks (b.openSlot above.length) ({ m with
        lines := (above ++ [({ id := m.nextId, text := t } : Line)]) ++ below
        nextId := m.nextId + 1 }.record [.inserted m.nextId above.length]) := by
      refine ⟨?_, H.ending, congrArg (· + 1) H.nextId, ?_, H.isModified⟩
      · show b.slots.insertIdx above.length _ = _
        rw [H.slots, hs, List.map_append, ← List.length_map Line.slot, insertIdx_length_append,
          H.nextId]
        simp [Buffer.record, Line.slot]
      · show b.log ++ _ = m.log ++ _
        rw [H.log, H.nextId]
    have := ih hopen rfl List.length_append
    rw [List.length_cons, RopeBuffer.openEach]
    simpa [Buffer.record, Buffer.freshLines, Buffer.insertions, Nat.add_assoc, Nat.add_comm 1]
      using this

theorem openSlots (hl : line ≤ m.lineCount) (ts : List Text) :
    Tracks (b.openSlots line ts.length) (m.openLines line ts) := by
  obtain ⟨above, below, hs, hn⟩ := Buffer.exists_split_at hl
  rw [RopeBuffer.openSlots]
  split
  · rename_i hnone
    rw [List.length_eq_zero_iff.1 hnone]
    exact H
  · rename_i hne
    rw [Buffer.openLines_split hs hn fun h => hne (by rw [h]; rfl), H.lineCount, hn]
    have hcount : m.lineCount = line + below.length := by
      rw [Buffer.lineCount, hs, List.length_append, hn]
    split
    · rename_i hlt
      have hbelow : below ≠ [] := List.length_pos_iff.1 (by omega)
      have := (H.record [.shifted [.onward line ts.length]]).openEach hs hn ts
      simpa [Buffer.renumbering, hbelow, Buffer.record] using this
    · rename_i hlt
      obtain rfl : below = [] := List.length_eq_zero_iff.1 (by omega)
      exact H.openEach hs hn ts

theorem closeSlots (hs : stop ≤ m.lineCount) :
    Tracks (b.closeSlots start stop) (m.closeLines start stop) := by
  rw [RopeBuffer.closeSlots]
  split
  · rename_i hle
    rwa [Buffer.closeLines_of_le hle]
  · rename_i hlt
    obtain ⟨above, old, below, hm, ha, ho⟩ := Buffer.exists_block (Nat.le_of_not_le hlt) hs
    rw [Buffer.closeLines_split hm ha ho (List.length_pos_iff.1 (by omega))]
    subst ha ho
    have htake : b.slots.take (above.length + old.length) = (above ++ old).map Line.slot := by
      rw [H.slots, hm, List.map_append, List.take_left' (by rw [List.length_map, List.length_append])]
    have hdrop : b.slots.drop (above.length + old.length) = below.map Line.slot := by
      rw [H.slots, hm, List.map_append, List.drop_left' (by rw [List.length_map, List.length_append])]
    have habove : b.slots.take above.length = above.map Line.slot := by
      rw [H.slots, hm, List.append_assoc, List.map_append, List.take_left' (List.length_map _)]
    have hold : (b.slots.take (above.length + old.length)).drop above.length = old.map Line.slot := by
      rw [htake, List.map_append, List.drop_left' (List.length_map _)]
    have hremoved : (old.map Line.slot).map (fun s : Slot => Change.removed s.id) =
        Buffer.removals old := by
      rw [List.map_map]
      rfl
    have hrest : Tracks ({ b with slots := (above ++ below).map Line.slot }.record
          (Buffer.removals old))
        ({ m with lines := above ++ below }.record (Buffer.removals old)) := by
      refine record ?_ _
      exact ⟨rfl, H.ending, H.nextId, H.log, H.isModified⟩
    simp only [habove, hdrop, hold, hremoved, ← List.map_append, hrest.lineCount,
      Nat.add_sub_cancel_left]
    have hcount : ({ m with lines := above ++ below }.record (Buffer.removals old)).lineCount =
        above.length + below.length := List.length_append
    rw [hcount]
    cases below with
    | nil =>
      rw [if_neg (by simp)]
      simpa [Buffer.renumbering] using hrest
    | cons l below =>
      rw [if_pos (by simp only [List.length_cons]; omega)]
      have := hrest.record [.shifted [.onward (above.length + old.length) (-(old.length : Int))]]
      simpa [Buffer.renumbering, Buffer.record] using this

theorem rotateSlots (hm : start ≤ mid) (hs : mid ≤ stop) :
    Tracks (b.rotateSlots start mid stop) (m.rotateLines start mid stop) := by
  refine record (m := { m with lines := _ }) ?_ _
  refine ⟨?_, H.ending, H.nextId, H.log, H.isModified⟩
  have htake : (m.lines.take stop).take mid = m.lines.take mid := by
    rw [List.take_take, Nat.min_eq_left hs]
  show b.slots.take start ++ turned (mid - start) ((b.slots.take stop).drop start) ++
    b.slots.drop stop = _
  rw [turned, List.drop_drop, Nat.add_sub_cancel' hm, List.take_drop, Nat.add_sub_cancel' hm, H.slots]
  simp only [← List.map_take, ← List.map_drop, ← List.map_append, htake]

end Tracks

end RopeBuffer
end LogicEditor
