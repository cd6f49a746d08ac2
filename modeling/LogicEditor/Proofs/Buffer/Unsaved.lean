import LogicEditor.Proofs.Buffer.Task

/-!
# Unsaved changes

A buffer says of itself whether it is modified. Every command either leaves the buffer as it is or
marks it as modified (`EditM.Marks`), also if it is rejected, and it does so part by part: a command
made of two that mark marks too. So a buffer that is not modified has the text and the lines that it
had when it was last saved.
-/

namespace LogicEditor

open Buffer

/-! ## Commands that mark what they do -/

namespace EditM

variable {α β : Type} {x : EditM Buffer α} {f : α → EditM Buffer β}

/-- The command leaves a buffer as it is, or it leaves it marked as modified. -/
def Marks (x : EditM Buffer α) : Prop :=
  ∀ b, (x.outcome b).2 = b ∨ (x.outcome b).2.isModified = true

namespace Marks

theorem of_unchanged (h : ∀ b, (x.outcome b).2 = b) : Marks x := fun b => .inl (h b)

theorem pure (a : α) : Marks (Pure.pure a) := of_unchanged fun _ => rfl

theorem throw (e : EditError) : Marks (throw e : EditM Buffer α) := of_unchanged fun _ => rfl

theorem get : Marks get := of_unchanged fun _ => rfl

theorem set {b : Buffer} (h : b.isModified = true) : Marks (set b) := fun _ => .inr h

theorem modify {g : Buffer → Buffer} (h : ∀ b, g b = b ∨ (g b).isModified = true) :
    Marks (modify g) := h

/-- Once a buffer is marked, the rest of the command either leaves it alone or marks it again. -/
theorem bind (hx : Marks x) (hf : ∀ a, Marks (f a)) : Marks (x >>= f) := by
  intro b
  have hb := hx b
  rw [outcome_bind]
  rcases hc : x.outcome b with ⟨e | a, c⟩
  · rwa [hc] at hb
  · rw [hc] at hb
    rcases hf a c with hd | hd
    · simp only [hd]
      exact hb
    · exact .inr hd

theorem map (hx : Marks x) (g : α → β) : Marks (g <$> x) := by
  intro b
  rw [outcome_map]
  exact hx b

end Marks
end EditM

namespace Edit

open EditM

theorem marks_guardWith (check : Buffer → Option EditError) : Marks (guardWith check) :=
  .of_unchanged (snd_outcome_guardWith check)

theorem marks_stopIf (tooLarge : Bool) : Marks (stopIf tooLarge) := by
  cases tooLarge with
  | true => exact .throw .overflow
  | false => exact .pure _

theorem marks_insertText (p : Position) (t : Text) : Marks (insertText p t) := by
  rw [insertText]
  refine .bind (marks_guardWith _) fun _ => ?_
  split
  · exact .pure p
  · refine .bind (.modify fun b => ?_) fun _ => .pure _
    rw [insertedText]
    split
    · exact .inl rfl
    · exact .inr rfl
    · exact .inr rfl

theorem marks_deleteRange (r : Range) : Marks (deleteRange r) := by
  rw [deleteRange]
  refine .bind (marks_guardWith _) fun _ => .bind (marks_guardWith _) fun _ => ?_
  split
  · exact .pure _
  · exact .bind .get fun _ => .bind (.modify fun _ => .inr rfl) fun _ => .pure _

theorem marks_replaceRange (r : Range) (t : Text) : Marks (replaceRange r t) :=
  .bind (marks_guardWith _) fun _ => .bind (marks_deleteRange r) fun _ => marks_insertText _ t

theorem marks_setLine (line : Nat) (t : Text) : Marks (setLine line t) := by
  rw [setLine]
  refine .bind (marks_guardWith _) fun _ => ?_
  split
  · exact .bind .get fun _ => .bind (marks_replaceRange _ t) fun _ => .pure _
  · exact .modify fun _ => .inr rfl

theorem marks_insertLines (line : Nat) (ts : List Text) : Marks (insertLines line ts) := by
  rw [insertLines]
  refine .bind (marks_guardWith _) fun _ => ?_
  dsimp only
  split
  · exact .pure _
  · exact .modify fun _ => .inr rfl

theorem marks_removeLines (start stop : Nat) : Marks (removeLines start stop) :=
  .bind (marks_guardWith _) fun _ => .bind .get fun _ => .bind (.set rfl) fun _ => .pure _

theorem marks_rotate (start mid stop : Nat) : Marks (rotate start mid stop) :=
  .bind (marks_guardWith _) fun _ => .modify fun _ => .inr rfl

/-! ## Commands on the selected lines -/

theorem marks_checkBlock (sel : Selection) : Marks (checkBlock sel) :=
  .bind (marks_guardWith _) fun _ => .pure _

theorem marks_deleteLines (sel : Selection) : Marks (deleteLines sel) :=
  .bind (marks_checkBlock sel) fun _ => .bind (marks_removeLines _ _) fun _ =>
    .bind .get fun _ => .pure _

theorem marks_moveUp (sel : Selection) : Marks (moveUp sel) := by
  refine .bind (marks_checkBlock sel) fun block => ?_
  split
  · exact .pure sel
  · exact .bind (marks_rotate _ _ _) fun _ => .pure _

theorem marks_moveDown (sel : Selection) : Marks (moveDown sel) := by
  refine .bind (marks_checkBlock sel) fun block => .bind .get fun b => ?_
  split
  · exact .pure sel
  · exact .bind (marks_rotate _ _ _) fun _ => .pure _

theorem marks_duplicateUp (sel : Selection) : Marks (duplicateUp sel) :=
  .bind (marks_checkBlock sel) fun _ => .bind .get fun _ =>
    .bind (marks_insertLines _ _) fun _ => .pure _

theorem marks_duplicateDown (sel : Selection) : Marks (duplicateDown sel) :=
  .bind (marks_checkBlock sel) fun _ => .bind .get fun _ =>
    .bind (marks_insertLines _ _) fun _ => .pure _

theorem marks_commentLine (line : Nat) (t : Text) (sel : Selection) :
    Marks (commentLine line t sel) := by
  rw [commentLine]
  split
  · exact .pure sel
  · exact .bind (marks_setLine _ _) fun _ => .pure _

theorem marks_uncommentLine (line : Nat) (t : Text) (sel : Selection) :
    Marks (uncommentLine line t sel) := by
  rw [uncommentLine]
  split
  · exact .pure sel
  · exact .bind (marks_setLine _ _) fun _ => .pure _

theorem marks_eachLine {command : Nat → Text → Selection → EditM Buffer Selection}
    (h : ∀ line t sel, Marks (command line t sel)) (skip : Text → Bool) (line : Nat)
    (ts : List Text) (sel : Selection) : Marks (eachLine command skip line ts sel) := by
  induction ts generalizing line sel with
  | nil => exact .pure sel
  | cons t ts ih =>
    rw [eachLine_cons]
    refine .bind ?_ fun sel => ih (line + 1) sel
    split
    · exact .pure sel
    · exact h line t sel

theorem marks_toggleComment (sel : Selection) : Marks (toggleComment sel) := by
  refine .bind (marks_checkBlock sel) fun block => .bind .get fun b =>
    .bind (marks_stopIf _) fun _ => ?_
  dsimp only
  split
  · exact marks_eachLine marks_commentLine _ _ _ _
  · split
    · exact marks_eachLine marks_uncommentLine _ _ _ _
    · exact marks_eachLine marks_commentLine _ _ _ _

theorem marks_tabOverflows (tab : Nat) (sel : Selection) : Marks (tabOverflows tab sel) :=
  .bind (marks_guardWith _) fun _ => .bind (marks_guardWith _) fun _ => .bind .get fun _ => .pure _

theorem marks_insertTab (tab : Nat) (sel : Selection) : Marks (insertTab tab sel) :=
  .bind (marks_tabOverflows tab sel) fun _ => .bind (marks_stopIf _) fun _ =>
    .bind .get fun _ => .bind (marks_stopIf _) fun _ => .bind (marks_deleteRange _) fun _ =>
      .bind (marks_insertText _ _) fun _ => .pure _

/-! ## Matches -/

theorem marks_replaceMatch (m : Match) (new : Text) : Marks (replaceMatch m new) :=
  .bind .get fun _ => .bind (marks_stopIf _) fun _ => marks_replaceRange m.range new

section
variable {R : Type} [Engine R]

theorem marks_replaceLines (m : Matcher R) (new : Text) (steps line : Nat) :
    Marks (replaceLines m new steps line) := by
  induction steps generalizing line with
  | zero => exact .pure 0
  | succ steps ih =>
    rw [replaceLines]
    refine .bind .get fun b => ?_
    dsimp only
    split
    · exact .pure 0
    · split
      · exact ih (line + 1)
      · exact .bind (marks_setLine _ _) fun _ => .bind (ih _) fun _ => .pure _

theorem marks_replaceUntil (pattern new : Text) (flags : SearchFlags) (cancelled : Option Nat) :
    Marks (replaceUntil pattern new flags cancelled R) := by
  rw [replaceUntil]
  split
  · exact .pure 0
  · cases (Matcher.make pattern flags : Except EditError (Matcher R)) with
    | error e => exact .throw e
    | ok m => exact .bind (.pure m) fun _ => .bind .get fun _ => marks_replaceLines _ _ _ _

end

end Edit

namespace Buffer

variable {a b : Buffer}

theorem Op.marks (op : Op) : EditM.Marks op.command := by
  cases op with
  | insertText p t => exact (Edit.marks_insertText p t).map _
  | deleteRange r => exact (Edit.marks_deleteRange r).map _
  | replaceRange r t => exact (Edit.marks_replaceRange r t).map _
  | setLine line t => exact Edit.marks_setLine line t
  | insertLines line ts => exact Edit.marks_insertLines line ts
  | removeLines start stop => exact (Edit.marks_removeLines start stop).map _
  | rotate start mid stop => exact Edit.marks_rotate start mid stop

theorem Task.marks (t : Task) : EditM.Marks t.run := by
  cases t with
  | edit o => exact o.marks
  | deleteLines sel => exact (Edit.marks_deleteLines sel).map _
  | moveUp sel => exact (Edit.marks_moveUp sel).map _
  | moveDown sel => exact (Edit.marks_moveDown sel).map _
  | duplicateUp sel => exact (Edit.marks_duplicateUp sel).map _
  | duplicateDown sel => exact (Edit.marks_duplicateDown sel).map _
  | toggleComment sel => exact (Edit.marks_toggleComment sel).map _
  | insertTab tab sel => exact (Edit.marks_insertTab tab sel).map _
  | replaceMatch m new => exact (Edit.marks_replaceMatch m new).map _
  | replaceUntil pattern new flags cancelled =>
    exact (Edit.marks_replaceUntil pattern new flags cancelled).map _
  | find | findAll => exact .of_unchanged (snd_outcome_ask _)
  | checkLine | checkPosition => exact Edit.marks_guardWith _

/-! ## Since the last save -/

/-- A buffer `a` was made or saved, and `b` is what has become of it since. Tasks may be accepted or
rejected. -/
inductive SinceSave : (a b : Buffer) → Prop
  | ofText (t : Text) : SinceSave (ofText t) (ofText t)
  | ofLines (ls : List Text) : SinceSave (ofLines ls) (ofLines ls)
  | save {a b : Buffer} (H : SinceSave a b) : SinceSave b b.markSaved
  | task {a b : Buffer} (H : SinceSave a b) (t : Task) : SinceSave a (t.run.outcome b).2
  | setTokens {a b : Buffer} (H : SinceSave a b) (line : Nat) (tokens : List Token) :
    SinceSave a (b.setTokens line tokens)
  | drain {a b : Buffer} (H : SinceSave a b) : SinceSave a b.clearLog

/-- A buffer that is not modified has the text and the lines that it had when it was last saved. -/
theorem saved_of_not_isModified (H : SinceSave a b) (h : b.isModified = false) :
    b.contents = a.contents ∧ b.ids = a.ids := by
  induction H with
  | ofText | ofLines | save => exact ⟨rfl, rfl⟩
  | task H t ih =>
    rcases t.marks _ with ht | ht
    · rw [ht] at h ⊢
      exact ih h
    · rw [ht] at h
      cases h
  | setTokens H line tokens ih =>
    rw [ids_setTokens, contents_setTokens]
    exact ih h
  | drain H ih => exact ih h

/-- A text put in and saved, then a line that does not exist set, the first line moved up, and a
line lexed. -/
theorem saved_of_not_isModified_rejected :
    let a := (Task.run (.edit (.insertText ⟨0, 1⟩ "x\r\ny".toList))).outcome (ofText "a\nb".toList) |>.2
    let b := ((Task.run (.moveUp ⟨⟨0, 0⟩, ⟨0, 1⟩⟩)).outcome
      ((Task.run (.edit (.setLine 3 []))).outcome a.markSaved).2).2.setTokens 1 []
    a.isModified = true ∧ b.isModified = false ∧ b.contents = "ax\ny\nb".toList ∧ b.ids = [0, 2, 1] := by
  intro a b
  have H : SinceSave a b := .setTokens (.task (.task (.save (.task (.ofText _) _)) _) _) 1 []
  obtain ⟨hcontents, hids⟩ := saved_of_not_isModified H (by decide)
  exact ⟨by decide, by decide, hcontents.trans (by decide), hids.trans (by decide)⟩

end Buffer
end LogicEditor
