import LogicEditor.Proofs.Buffer.Command
import LogicEditor.Proofs.Rope.Represents

/-!
# Commands on ropes and on lines

Each command on a rope buffer returns what its namesake returns on the buffer that the rope buffer
represents, and represents afterwards what that leaves behind (`EditM.Alike`). Both are written as the
same sequence of checks and effects, so it is enough to go through them in parallel.
-/

namespace LogicEditor

open Text

variable {R α β : Type} [Rope R] {b c : RopeBuffer R} {m n : Buffer} {t : Text} {r : Range}

/-! ## Commands that do alike -/

namespace RopeEdit

open EditM

omit [Rope R]

variable {check : RopeBuffer R → Option EditError}

theorem outcome_guardWith_some {e : EditError} (h : check b = some e) :
    (guardWith check).outcome b = (.error e, b) := by
  simp only [guardWith, outcome_bind, outcome_get]
  rw [h]
  rfl

theorem outcome_guardWith_none (h : check b = none) :
    (guardWith check).outcome b = (.ok ⟨⟩, b) := by
  simp only [guardWith, outcome_bind, outcome_get]
  rw [h]
  rfl

end RopeEdit

namespace EditM

/-- Two commands return the same, and leave a rope buffer behind and the buffer that it represents. -/
structure Alike (x : EditM (RopeBuffer R) α) (y : EditM Buffer α) (b : RopeBuffer R) (m : Buffer) :
    Prop where
  result : (x.outcome b).1 = (y.outcome m).1
  state : (x.outcome b).2.Represents (y.outcome m).2

namespace Alike

variable {x : EditM (RopeBuffer R) α} {y : EditM Buffer α} {f : RopeBuffer R → RopeBuffer R}
  {g : Buffer → Buffer}

theorem pure (H : b.Represents m) (a : α) : Alike (Pure.pure a) (Pure.pure a) b m := ⟨rfl, H⟩

theorem modify (H : (f b).Represents (g m)) : Alike (modify f) (modify g) b m := ⟨rfl, H⟩

theorem bind {k : α → EditM (RopeBuffer R) β} {k' : α → EditM Buffer β} (h : Alike x y b m)
    (hk : ∀ a c n, y.outcome m = (.ok a, n) → c.Represents n → Alike (k a) (k' a) c n) :
    Alike (x >>= k) (y >>= k') b m := by
  obtain ⟨hresult, hstate⟩ := h
  cases hx : x.outcome b with
  | mk a c =>
    cases hy : y.outcome m with
    | mk a' n =>
      rw [hx, hy] at hresult hstate
      obtain rfl : a = a' := hresult
      cases a with
      | error e => exact ⟨by rw [outcome_bind_error hx, outcome_bind_error hy],
          by rwa [outcome_bind_error hx, outcome_bind_error hy]⟩
      | ok a =>
        obtain ⟨h1, h2⟩ := hk a c n hy hstate
        exact ⟨by rwa [outcome_bind_ok hx, outcome_bind_ok hy],
          by rwa [outcome_bind_ok hx, outcome_bind_ok hy]⟩

/-- Two checks that find the same, and then the rest of the commands. -/
theorem guard {check : RopeBuffer R → Option EditError} {check' : Buffer → Option EditError}
    {k : Unit → EditM (RopeBuffer R) α} {k' : Unit → EditM Buffer α} (H : b.Represents m)
    (hc : check b = check' m) (hk : check' m = none → Alike (k ⟨⟩) (k' ⟨⟩) b m) :
    Alike (RopeEdit.guardWith check >>= k) (Edit.guardWith check' >>= k') b m := by
  have hy := Edit.outcome_guardWith m check'
  cases h : check' m with
  | some e =>
    have hx := RopeEdit.outcome_guardWith_some (hc.trans h)
    rw [h] at hy
    exact ⟨by rw [outcome_bind_error hx, outcome_bind_error hy],
      by rwa [outcome_bind_error hx, outcome_bind_error hy]⟩
  | none =>
    have hx := RopeEdit.outcome_guardWith_none (hc.trans h)
    rw [h] at hy
    obtain ⟨h1, h2⟩ := hk h
    exact ⟨by rwa [outcome_bind_ok hx, outcome_bind_ok hy],
      by rwa [outcome_bind_ok hx, outcome_bind_ok hy]⟩

/-- Reading the state, and then the rest of the commands. -/
theorem read {k : RopeBuffer R → EditM (RopeBuffer R) α} {k' : Buffer → EditM Buffer α}
    (h : Alike (k b) (k' m) b m) : Alike (get >>= k) (get >>= k') b m :=
  ⟨h.result, h.state⟩

end Alike

end EditM

namespace RopeEdit

open EditM RopeBuffer

variable [LawfulRope R] (H : b.Represents m) (W : m.WellFormed)
include H W

omit [Rope R] [LawfulRope R] H W in
theorem afterText_eq (p : Position) (t : Text) : RopeBuffer.afterText p t = Buffer.afterText p t := by
  rw [RopeBuffer.afterText, Buffer.afterText]
  obtain ⟨first, more, hls⟩ := List.exists_cons_of_ne_nil (lines_ne_nil t)
  cases more with
  | nil =>
    rw [hls, eq_of_lines_eq_singleton hls]
    rfl
  | cons l ls =>
    rw [hls]
    simp [List.getLastD_eq_getLast?, List.getLast?_eq_getElem?]

theorem alike_insertText (p : Position) (t : Text) :
    Alike (insertText p t) (Edit.insertText p t) b m := by
  refine .guard H (H.positionError?_eq W p) fun hp => ?_
  by_cases ht : t.isEmpty
  · rw [if_pos ht, if_pos ht]
    exact .pure H p
  · rw [if_neg ht, if_neg ht, afterText_eq]
    exact .bind (.modify (H.insertedText W hp (Bool.eq_false_iff.2 ht))) fun _ _ _ _ h => .pure h _

theorem alike_deleteRange (hle : r.start ≤ r.stop) :
    Alike (deleteRange r) (Edit.deleteRange r) b m := by
  refine .guard H (H.positionError?_eq W r.start) fun hs => ?_
  refine .guard H (H.positionError?_eq W r.stop) fun he => ?_
  by_cases hr : r.isEmpty
  · rw [if_pos hr, if_pos hr]
    exact .pure H []
  · have hremoved := Buffer.removed_eq_slice hs he hle
    rw [if_neg hr] at hremoved
    rw [if_neg hr, if_neg hr]
    refine .read ?_
    rw [H.slice_range W hs he hle, hremoved]
    exact .bind (.modify (H.deletedRange W hs he hle (Bool.eq_false_iff.2 hr)))
      fun _ _ _ _ h => .pure h _

theorem alike_replaceRange (hle : r.start ≤ r.stop) (t : Text) :
    Alike (replaceRange r t) (Edit.replaceRange r t) b m := by
  refine .guard H (H.positionError?_eq W r.stop) fun _ => ?_
  refine .bind (alike_deleteRange H W hle) fun _ c n hn h => ?_
  have hw := (Edit.sound_deleteRange W r).wellFormed W
  rw [hn] at hw
  exact alike_insertText h hw r.start t

theorem alike_setLine (line : Nat) (t : Text) : Alike (setLine line t) (Edit.setLine line t) b m := by
  refine .guard H (H.lineError?_eq line) fun hl => ?_
  have hl := Buffer.lineError?_eq_none.1 hl
  by_cases ht : t.hasBreak
  · rw [if_pos ht, if_pos ht]
    refine .read ?_
    rw [H.contentLength_eq W hl]
    exact .bind (alike_replaceRange H W (.inr ⟨rfl, Nat.zero_le _⟩) t) fun _ _ _ _ h => .pure h _
  · rw [if_neg ht, if_neg ht]
    exact .modify (H.editedLine W hl t)

theorem alike_insertLines (line : Nat) (ts : List Text) :
    Alike (insertLines line ts) (Edit.insertLines line ts) b m := by
  refine .guard H (by rw [H.lineCount]) fun hl => ?_
  have hl : line ≤ m.lineCount := by simpa using hl
  by_cases hnone : (ts.flatMap Text.lines).isEmpty
  · rw [if_pos hnone, if_pos hnone]
    exact .pure H _
  · rw [if_neg hnone, if_neg hnone]
    exact .modify (H.insertedLines W hl (by simpa using hnone))

theorem alike_removeLines (start stop : Nat) :
    Alike (removeLines start stop) (Edit.removeLines start stop) b m := by
  refine .guard H (by rw [H.lineCount]) fun h => ?_
  have h : start < stop ∧ stop ≤ m.lineCount := by simpa using h
  refine .read ?_
  rw [H.textsFrom_eq W (Nat.le_of_lt h.1)]
  exact ⟨rfl, H.removedLines W h.1 h.2⟩

theorem alike_rotate (start mid stop : Nat) :
    Alike (rotate start mid stop) (Edit.rotate start mid stop) b m := by
  refine .guard H (by rw [H.lineCount]) fun h => ?_
  by_cases hl : m.lineCount < stop
  · rw [if_pos hl] at h
    cases h
  · by_cases hm : start < mid ∧ mid < stop
    · exact .modify (H.rotatedLines W hm.1 hm.2 (Nat.not_lt.1 hl))
    · rw [if_neg hl, if_neg hm] at h
      cases h

end RopeEdit
end LogicEditor
