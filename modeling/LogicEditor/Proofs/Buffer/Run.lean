import LogicEditor.Proofs.Buffer.Command
import LogicEditor.Proofs.Buffer.Diff

/-!
# Runs of commands

The life of a buffer: it is made from a text, commands are run on it in any order, be they accepted
or rejected, whoever lexes it keeps tokens with its lines, and now and then the log is drained. A
command is run only if there is room for the lines that it leaves behind (`Buffer.Fits`), as no list
in memory has more elements than there are indices.

The main result, `Buffer.log_faithful`, reads the log of a run as the difference that the run made.
-/

namespace LogicEditor
namespace Buffer

variable {a b c : Buffer} {id : LineId}

/-! ## Commands -/

/-- The commands that change the text of a buffer. -/
inductive Op
  | insertText (p : Position) (t : Text)
  | deleteRange (r : Range)
  | replaceRange (r : Range) (t : Text)
  | setLine (line : Nat) (t : Text)
  | insertLines (line : Nat) (ts : List Text)
  | removeLines (start stop : Nat)
  | rotate (start mid stop : Nat)
deriving DecidableEq, Repr

namespace Op

/-- The command, without its result. -/
def command : Op → EditM Buffer Unit
  | .insertText p t => (fun _ => ()) <$> Edit.insertText p t
  | .deleteRange r => (fun _ => ()) <$> Edit.deleteRange r
  | .replaceRange r t => (fun _ => ()) <$> Edit.replaceRange r t
  | .setLine line t => Edit.setLine line t
  | .insertLines line ts => Edit.insertLines line ts
  | .removeLines start stop => (fun _ => ()) <$> Edit.removeLines start stop
  | .rotate start mid stop => Edit.rotate start mid stop

/-- What the command leaves behind, be it accepted or rejected. -/
def apply (op : Op) (b : Buffer) : Buffer := (op.command.outcome b).2

theorem sound (W : b.WellFormed) (op : Op) : EditM.Sound op.command b := by
  cases op with
  | insertText p t => exact (Edit.sound_insertText W p t).map _
  | deleteRange r => exact (Edit.sound_deleteRange W r).map _
  | replaceRange r t => exact (Edit.sound_replaceRange W r t).map _
  | setLine line t => exact Edit.sound_setLine W line t
  | insertLines line ts => exact Edit.sound_insertLines line ts
  | removeLines start stop => exact (Edit.sound_removeLines W start stop).map _
  | rotate start mid stop => exact Edit.sound_rotate start mid stop

theorem steps (W : b.WellFormed) {op : Op} (fits : (op.apply b).Fits) :
    Steps maxIndex b (op.apply b) :=
  (sound W op).steps fits

end Op

/-! ## Runs -/

/-- One command is run. -/
inductive OpStep : Buffer → Buffer → Prop
  | apply {b : Buffer} (op : Op) (fits : (op.apply b).Fits) : OpStep b (op.apply b)

/-- Any number of commands is run. -/
abbrev Run : Buffer → Buffer → Prop := Relation.ReflTransGen OpStep

/-- Something that happens to a buffer between two drains of its log. -/
inductive Event : Buffer → Buffer → Prop
  | op {b c : Buffer} (h : OpStep b c) : Event b c
  | setTokens {b : Buffer} (line : Nat) (tokens : List Token) : Event b (b.setTokens line tokens)
  | markSaved {b : Buffer} : Event b b.markSaved

/-- What happens to a buffer while its log is not drained. -/
abbrev Undrained : Buffer → Buffer → Prop := Relation.ReflTransGen Event

/-- All that happens to a buffer. -/
inductive Moment : Buffer → Buffer → Prop
  | event {b c : Buffer} (h : Event b c) : Moment b c
  | drain {b : Buffer} : Moment b b.clearLog

/-- What happens to a buffer in some time. -/
abbrev History : Buffer → Buffer → Prop := Relation.ReflTransGen Moment

/-- A buffer that has just been made, from a text or from lines. -/
inductive New : Buffer → Prop
  | ofText (t : Text) (fits : (ofText t).Fits) : New (ofText t)
  | ofLines (ls : List Text) (fits : (ofLines ls).Fits) : New (ofLines ls)

/-- A buffer as it may be at any time of its life. -/
def Reachable (b : Buffer) : Prop := ∃ a, New a ∧ History a b

/-! ## What a life keeps -/

/-- A buffer before its first lines. -/
def blank (ending : LineEnding) : Buffer := ⟨[], ending, 0, [], false⟩

theorem ofText_eq (t : Text) :
    ofText t = ⟨freshLines 0 t.lines, .detect t, t.lines.length,
      insertions 0 (freshLines 0 t.lines), false⟩ := by
  have h : (blank (.detect t)).lines = [] ++ [] := rfl
  have hn : ([] : List Line).length = 0 := rfl
  show (blank (.detect t)).openLines 0 t.lines = _
  rw [openLines_split h hn (Text.lines_ne_nil t)]
  simp [record, renumbering, blank]

theorem wellFormed_ofText (t : Text) : (ofText t).WellFormed := by
  rw [ofText_eq]
  refine ⟨freshLines_ne_nil (Text.lines_ne_nil t), ?_, ?_, ?_⟩
  · simp [ids, List.nodup_range']
  · simp [ids]
  · simpa [texts] using fun u => Text.hasBreak_of_mem_lines

theorem New.wellFormed (H : New b) : b.WellFormed := by
  cases H with
  | ofText t => exact wellFormed_ofText t
  | ofLines ls => exact wellFormed_ofText _

theorem New.fits (H : New b) : b.Fits := by cases H <;> assumption

section
variable (W : b.WellFormed)
include W

theorem OpStep.steps (H : OpStep b c) : Steps maxIndex b c := by
  cases H with
  | apply op fits => exact op.steps W fits

theorem OpStep.wellFormed (H : OpStep b c) : c.WellFormed := Steps.wellFormed (H.steps W) W

theorem Run.steps (H : Run b c) : Steps maxIndex b c := by
  induction H with
  | refl => exact .refl
  | tail _ h ih => exact ih.trans (h.steps (Steps.wellFormed ih W))

theorem Moment.wellFormed (H : Moment b c) : c.WellFormed := by
  cases H with
  | drain => exact ⟨W.nonempty, W.nodup, W.below, W.clean⟩
  | event h =>
    cases h with
    | op h => exact h.wellFormed W
    | setTokens line tokens => exact W.of_bare (bare_setTokens b line tokens)
    | markSaved => exact ⟨W.nonempty, W.nodup, W.below, W.clean⟩

theorem Moment.nextId_le (H : Moment b c) : b.nextId ≤ c.nextId := by
  cases H with
  | drain => exact Nat.le_refl _
  | event h =>
    cases h with
    | op h => exact Steps.nextId_le (h.steps W)
    | setTokens | markSaved => exact Nat.le_refl _

theorem History.wellFormed (H : History b c) : c.WellFormed := by
  induction H with
  | refl => exact W
  | tail _ h ih => exact h.wellFormed ih

theorem History.nextId_le (H : History b c) : b.nextId ≤ c.nextId := by
  induction H with
  | refl => exact Nat.le_refl _
  | tail H h ih => exact Nat.le_trans ih (h.nextId_le (History.wellFormed W H))

end

theorem OpStep.fits (H : OpStep b c) : c.Fits := by cases H; assumption

theorem Moment.fits (H : Moment b c) (F : b.Fits) : c.Fits := by
  cases H with
  | drain => exact F
  | event h =>
    cases h with
    | op h => exact h.fits
    | setTokens line tokens => exact F.of_bare (bare_setTokens b line tokens)
    | markSaved => exact F

theorem History.fits (H : History b c) (F : b.Fits) : c.Fits := by
  induction H with
  | refl => exact F
  | tail _ h ih => exact h.fits ih

theorem Reachable.wellFormed (H : Reachable b) : b.WellFormed := by
  obtain ⟨a, ha, H⟩ := H
  exact H.wellFormed ha.wellFormed

theorem Reachable.fits (H : Reachable b) : b.Fits := by
  obtain ⟨a, ha, H⟩ := H
  exact H.fits ha.fits

/-! ## The log of a run -/

/-- A line whose handle is neither edited nor new is where it was, with its text. -/
theorem Diff.lineText_eq {es : List Change} {i j : Nat} (H : Diff b es c) (W : b.WellFormed)
    (hi : b.indexOf? id = some i) (hj : c.indexOf? id = some j) (he : .edited id ∉ es) :
    c.lineText j = b.lineText i := by
  obtain ⟨hjl, hj, -⟩ := List.findIdx?_eq_some_iff_getElem.1 hj
  obtain rfl : c.lines[j].id = id := by simpa using hj
  have hb : c.lines[j].id ∈ b.ids := by
    obtain ⟨hil, hi, -⟩ := List.findIdx?_eq_some_iff_getElem.1 hi
    rw [← show b.lines[i].id = c.lines[j].id by simpa using hi]
    exact List.mem_map_of_mem (List.getElem_mem hil)
  have hnew : ∀ line, .inserted c.lines[j].id line ∉ es := fun line h =>
    Nat.not_le.2 (W.below _ hb) (H.fresh _ line h).1
  obtain ⟨k, hk⟩ := List.mem_iff_getElem?.1 (H.kept _ (List.getElem_mem hjl) he hnew)
  have hik : b.indexOf? c.lines[j].id = some k := by
    rw [indexOf?_eq, place_eq_some_iff W.nodup, hk, Option.map_some]
  obtain rfl : i = k := Option.some.inj (hi.symm.trans hik)
  rw [lineText_of_getElem? hk, lineText_of_getElem? (List.getElem?_eq_getElem hjl)]

theorem Moment.mem_ids_or_le (H : Moment b c) (W : b.WellFormed) (F : b.Fits) (h : id ∈ c.ids) :
    id ∈ b.ids ∨ b.nextId ≤ id := by
  cases H with
  | drain => exact .inl h
  | event he =>
    cases he with
    | op hop =>
      obtain ⟨es, D⟩ := Steps.diff (hop.steps W) W F
      by_cases hb : id ∈ b.ids
      · exact .inl hb
      · obtain ⟨line, hline⟩ := D.inserted id h hb
        exact .inr (D.fresh id line hline).1
    | setTokens line tokens =>
      rw [← ids_bare, bare_setTokens, ids_bare] at h
      exact .inl h
    | markSaved => exact .inl h

theorem History.mem_ids_or_le (H : History b c) (W : b.WellFormed) (F : b.Fits) (h : id ∈ c.ids) :
    id ∈ b.ids ∨ b.nextId ≤ id := by
  induction H with
  | refl => exact .inl h
  | tail H hm ih =>
    rcases hm.mem_ids_or_le (History.wellFormed W H) (History.fits H F) h with h | h
    · exact ih h
    · exact .inr (Nat.le_trans (History.nextId_le W H) h)

/-- A handle that was in use and still is was so all the time in between: no handle comes back. -/
theorem History.mem_ids (ha : Reachable a) (H : History a b) (H' : History b c) (h : id ∈ a.ids)
    (hc : id ∈ c.ids) : id ∈ b.ids := by
  have W := ha.wellFormed
  refine (H'.mem_ids_or_le (H.wellFormed W) (H.fits ha.fits) hc).resolve_right ?_
  exact Nat.not_le.2 (Nat.lt_of_lt_of_le (W.below id h) (H.nextId_le W))

theorem Run.history (H : Run b c) : History b c :=
  Relation.ReflTransGen.mono (fun _ _ h => .event (.op h)) _ _ H

/-- The log of a run is a faithful difference: replayed over the old line numbers it gives the new
ones, and it names every line that has another text, is new, or is gone. A new line has a handle
that was never in use. -/
theorem log_faithful (hb : Reachable b) (hlog : b.log = []) (H : Run b c) :
    replay b.indexOf? c.log = c.indexOf? ∧
    (∀ id i j, b.indexOf? id = some i → c.indexOf? id = some j → c.lineText j ≠ b.lineText i →
      .edited id ∈ c.log) ∧
    (∀ id ∈ c.ids, id ∉ b.ids →
      (∀ a, Reachable a → History a b → id ∉ a.ids) ∧ ∃ line, .inserted id line ∈ c.log) ∧
    ∀ id ∈ b.ids, id ∉ c.ids → .removed id ∈ c.log := by
  have W := hb.wellFormed
  obtain ⟨es, D⟩ := Steps.diff (Run.steps W H) W hb.fits
  have hc : c.log = es := by rw [D.log, hlog, List.nil_append]
  rw [hc]
  refine ⟨D.numbers, fun id i j hi hj ht => ?_, fun id hic hib => ⟨fun a ha hab hia => ?_, ?_⟩,
    D.removed⟩
  · by_contra he
    exact ht (D.lineText_eq W hi hj he)
  · exact hib (hab.mem_ids ha H.history hia hic)
  · exact D.inserted id hic hib

/-- Two lines exchanged, then the first of them deleted. -/
theorem log_faithful_rotate_remove :
    let b := (ofText "a\nb\nc".toList).clearLog
    let c := Op.apply (.removeLines 0 1) (Op.apply (.rotate 0 1 2) b)
    replay b.indexOf? c.log = c.indexOf? := by
  intro b c
  have hnew : New (ofText "a\nb\nc".toList) := .ofText _ (by decide)
  exact (log_faithful ⟨_, hnew, .single .drain⟩ rfl
    (.tail (.single (.apply (.rotate 0 1 2) (by decide))) (.apply (.removeLines 0 1) (by decide)))).1

end Buffer
end LogicEditor
