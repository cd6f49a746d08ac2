import LogicEditor.Buffer.Edit
import LogicEditor.Proofs.Text.LineBreak

/-!
# Outcomes of editing commands

What each of the basic commands returns and what it leaves behind, as one equation per command: the
error of the first check that fails and an untouched buffer, else the result and the effect. Later
proofs read these equations and do not open a command again.
-/

namespace LogicEditor

/-! ## Running commands -/

namespace EditM

variable {σ α β : Type} {s t : σ}

@[simp] theorem outcome_pure (a : α) : (pure a : EditM σ α).outcome s = (.ok a, s) := rfl

@[simp] theorem outcome_throw (e : EditError) :
    (throw e : EditM σ α).outcome s = (.error e, s) := rfl

@[simp] theorem outcome_get : (get : EditM σ σ).outcome s = (.ok s, s) := rfl

@[simp] theorem outcome_set (t : σ) : (set t : EditM σ PUnit).outcome s = (.ok ⟨⟩, t) := rfl

@[simp] theorem outcome_modify (f : σ → σ) :
    (modify f : EditM σ PUnit).outcome s = (.ok ⟨⟩, f s) := rfl

theorem outcome_bind (x : EditM σ α) (f : α → EditM σ β) :
    (x >>= f).outcome s =
      match x.outcome s with
      | (.ok a, t) => (f a).outcome t
      | (.error e, t) => (.error e, t) := by
  cases h : x.outcome s with
  | mk r t =>
    simp only [outcome, ExceptT.run_bind, StateT.run_bind] at h ⊢
    rw [h]
    cases r <;> rfl

theorem outcome_bind_ok {x : EditM σ α} {f : α → EditM σ β} {a : α}
    (h : x.outcome s = (.ok a, t)) : (x >>= f).outcome s = (f a).outcome t := by
  rw [outcome_bind, h]

theorem outcome_bind_error {x : EditM σ α} {f : α → EditM σ β} {e : EditError}
    (h : x.outcome s = (.error e, t)) : (x >>= f).outcome s = (.error e, t) := by
  rw [outcome_bind, h]

@[simp] theorem outcome_map (f : α → β) (x : EditM σ α) :
    (f <$> x).outcome s = ((x.outcome s).1.map f, (x.outcome s).2) := by
  rw [map_eq_pure_bind, outcome_bind]
  rcases x.outcome s with ⟨_ | _, _⟩ <;> rfl

theorem outcome_map_eq_error {f : α → β} {x : EditM σ α} {e : EditError} :
    (f <$> x).outcome s = (.error e, t) ↔ x.outcome s = (.error e, t) := by
  rw [outcome_map]
  rcases x.outcome s with ⟨_ | _, _⟩ <;> simp [Except.map]

end EditM

namespace Buffer

/-! ## Checks -/

theorem text?_eq_some {b : Buffer} {line : Nat} {t : Text} :
    b.text? line = some t ↔ ∃ l, b.lines[line]? = some l ∧ l.text = t := Option.map_eq_some_iff

theorem text?_eq (b : Buffer) (line : Nat) : b.text? line = b.texts[line]? := by
  rw [text?, texts, List.getElem?_map]

theorem length_texts (b : Buffer) : b.texts.length = b.lineCount := List.length_map ..

theorem length_ids (b : Buffer) : b.ids.length = b.lineCount := List.length_map ..

theorem map_lineText (b : Buffer) : (List.range b.lineCount).map b.lineText = b.texts := by
  refine List.ext_getElem (by rw [List.length_map, List.length_range, length_texts]) fun i _ hi => ?_
  rw [List.getElem_map, List.getElem_range, lineText, text?_eq, List.getElem?_eq_getElem hi,
    Option.getD_some]

theorem lineText_of_getElem? {b : Buffer} {line : Nat} {l : Line} (h : b.lines[line]? = some l) :
    b.lineText line = l.text := by simp [lineText, text?, h]

@[simp] theorem lineError?_eq_none {b : Buffer} {line : Nat} :
    b.lineError? line = none ↔ line < b.lineCount := by simp [lineError?]

/-- A position exists if its line does and its column is at most the length of the line. -/
theorem positionError?_eq_none {b : Buffer} {p : Position} :
    b.positionError? p = none ↔ ∃ l, b.lines[p.line]? = some l ∧ p.col ≤ l.text.length := by
  simp only [positionError?, text?]
  cases b.lines[p.line]? with
  | none => simp
  | some l => simp

theorem positionError?_eq_none_iff {b : Buffer} {p : Position} :
    b.positionError? p = none ↔ p.line < b.lineCount ∧ p.col ≤ (b.lineText p.line).length := by
  rw [positionError?_eq_none]
  constructor
  · rintro ⟨l, hl, hp⟩
    exact ⟨(List.getElem?_eq_some_iff.1 hl).1, by rwa [lineText_of_getElem? hl]⟩
  · rintro ⟨hl, hp⟩
    have hl := List.getElem?_eq_getElem hl
    exact ⟨_, hl, by rwa [lineText_of_getElem? hl] at hp⟩

/-- The buffer without the text in a range; an empty range changes nothing. -/
def withoutRange (b : Buffer) (r : Range) : Buffer := if r.isEmpty then b else b.deletedRange r

/-- The buffer with a text put in; an empty text changes nothing. -/
def withText (b : Buffer) (p : Position) (t : Text) : Buffer :=
  if t.isEmpty then b else b.insertedText p t

/-- The buffer with the lines of some texts put before a line; without texts nothing changes. -/
def withLines (b : Buffer) (line : Nat) (ts : List Text) : Buffer :=
  if (ts.flatMap Text.lines).isEmpty then b
  else (b.openLines line (ts.flatMap Text.lines)).markModified

/-- The buffer without a block of lines; if none is left, with one empty line. -/
def withoutLines (b : Buffer) (start stop : Nat) : Buffer :=
  let rest := b.closeLines start stop
  (if rest.lines.isEmpty then rest.openLines 0 [[]] else rest).markModified

end Buffer

/-! ## Basic commands -/

namespace Edit

open Buffer EditM

variable (b : Buffer)

@[simp] theorem outcome_guardWith (check : Buffer → Option EditError) :
    (guardWith check).outcome b =
      match check b with
      | some e => (.error e, b)
      | none => (.ok ⟨⟩, b) := by
  simp only [guardWith, outcome_bind, outcome_get]
  cases check b <;> rfl

/-- What comes behind a check of numbers is only run if none is too large. -/
theorem outcome_stopIf_bind {α : Type} (tooLarge : Bool) (f : Unit → EditM Buffer α) :
    (stopIf tooLarge >>= f).outcome b =
      if tooLarge then (.error .overflow, b) else (f ⟨⟩).outcome b := by
  cases tooLarge <;> rfl

theorem outcome_insertText (p : Position) (t : Text) :
    (insertText p t).outcome b =
      match b.positionError? p with
      | some e => (.error e, b)
      | none => (.ok (if t.isEmpty then p else afterText p t), b.withText p t) := by
  simp only [insertText, checkPosition, outcome_bind, outcome_guardWith, withText]
  cases b.positionError? p with
  | some e => rfl
  | none => cases h : List.isEmpty t <;> simp [Except.map]

theorem outcome_deleteRange (r : Range) :
    (deleteRange r).outcome b =
      match b.positionError? r.start, b.positionError? r.stop with
      | some e, _ => (.error e, b)
      | none, some e => (.error e, b)
      | none, none => (.ok (if r.isEmpty then [] else b.textIn r), b.withoutRange r) := by
  simp only [deleteRange, checkPosition, outcome_bind, outcome_guardWith, withoutRange]
  cases b.positionError? r.start with
  | some e => rfl
  | none =>
    cases hp : b.positionError? r.stop with
    | some e => simp [hp]
    | none => cases h : r.isEmpty <;> simp [hp, outcome_bind, Except.map]

/-- Replacing checks the end of the range first, then deletes and inserts. -/
theorem outcome_replaceRange (r : Range) (t : Text) :
    (replaceRange r t).outcome b =
      match b.positionError? r.stop, b.positionError? r.start with
      | some e, _ => (.error e, b)
      | none, some e => (.error e, b)
      | none, none => (insertText r.start t).outcome (b.withoutRange r) := by
  simp only [replaceRange, checkPosition, outcome_bind, outcome_guardWith]
  cases hp : b.positionError? r.stop with
  | some e => rfl
  | none =>
    cases hs : b.positionError? r.start with
    | some e => simp [outcome_deleteRange, hs]
    | none => simp [outcome_deleteRange, hs, hp]

theorem outcome_setLine (line : Nat) (t : Text) :
    (setLine line t).outcome b =
      match b.lineError? line with
      | some e => (.error e, b)
      | none =>
        if t.hasBreak then
          ((fun _ => ⟨⟩) <$> replaceRange (.onLine line 0 (b.lineText line).length) t).outcome b
        else (.ok ⟨⟩, (b.editLine line t).markModified) := by
  simp only [setLine, checkLine, outcome_bind, outcome_guardWith]
  cases b.lineError? line with
  | some e => rfl
  | none => cases h : t.hasBreak <;> simp [outcome_bind]

theorem outcome_insertLines (line : Nat) (ts : List Text) :
    (insertLines line ts).outcome b =
      if line ≤ b.lineCount then (.ok ⟨⟩, b.withLines line ts)
      else (.error (.lineOutOfRange line b.lineCount), b) := by
  by_cases h : line ≤ b.lineCount
  · cases ht : (ts.flatMap Text.lines).isEmpty <;>
      simp [insertLines, outcome_bind, h, ht, withLines]
  · simp [insertLines, outcome_bind, h]

theorem outcome_removeLines (start stop : Nat) :
    (removeLines start stop).outcome b =
      if start < stop ∧ stop ≤ b.lineCount then
        (.ok ((b.texts.take stop).drop start), b.withoutLines start stop)
      else (.error (.lineOutOfRange (max start stop) b.lineCount), b) := by
  by_cases h : start < stop ∧ stop ≤ b.lineCount
  · simp [removeLines, outcome_bind, h, withoutLines, Except.map]
  · simp [removeLines, outcome_bind, h]

theorem outcome_rotate (start mid stop : Nat) :
    (rotate start mid stop).outcome b =
      if b.lineCount < stop then (.error (.lineOutOfRange (stop - 1) b.lineCount), b)
      else if start < mid ∧ mid < stop then (.ok ⟨⟩, (b.rotateLines start mid stop).markModified)
      else (.error (.lineOutOfRange mid b.lineCount), b) := by
  simp only [rotate, outcome_bind, outcome_guardWith]
  by_cases h : b.lineCount < stop
  · simp [h]
  · by_cases h' : start < mid ∧ mid < stop
    · simp [h, h']
    · simp [h, h']

end Edit
end LogicEditor
