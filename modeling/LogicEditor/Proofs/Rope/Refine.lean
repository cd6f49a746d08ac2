import LogicEditor.Proofs.Buffer.LineList
import LogicEditor.Proofs.Rope.Command

/-!
# Rope buffers refine lists of lines

Whatever is done with a rope buffer and with a buffer alike, the first represents the second
(`RopeBuffer.Represents.after`). So a rope buffer is a list of lines (`RopeBuffer.Listlike`), although
its text and its slots are changed independently, and an accepted command does to that list what it
should (`Buffer.Op.Effect`). Both together are the main result, `RopeBuffer.refines_lines`.
-/

namespace LogicEditor

open Text Buffer

variable {R : Type} [Rope R] {b c : RopeBuffer R} {m n : Buffer}

/-! ## The life of a buffer -/

/-- What a buffer is made from. -/
inductive Source
  | text (t : Text)
  | lines (ls : List Text)
deriving DecidableEq, Repr

/-- Something that is done with a buffer. -/
inductive Action
  | command (op : Op)
  | setTokens (line : Nat) (tokens : List Token)
  | drain
  | markSaved
deriving DecidableEq, Repr

/-- No range is given backwards. -/
def Action.Ordered : Action → Prop
  | .command op => op.Ordered
  | _ => True

namespace Buffer

def make : Source → Buffer
  | .text t => ofText t
  | .lines ls => ofLines ls

def act (m : Buffer) : Action → Buffer
  | .command op => (op.run.outcome m).2
  | .setTokens line tokens => m.setTokens line tokens
  | .drain => m.clearLog
  | .markSaved => m.markSaved

/-- The buffer after all that was done with it. -/
def after (m : Buffer) (actions : List Action) : Buffer := actions.foldl act m

end Buffer

/-- The command on ropes, with its result. -/
def Buffer.Op.onRope : (op : Op) → EditM (RopeBuffer R) op.Result
  | .insertText p t => RopeEdit.insertText p t
  | .deleteRange r => RopeEdit.deleteRange r
  | .replaceRange r t => RopeEdit.replaceRange r t
  | .setLine line t => RopeEdit.setLine line t
  | .insertLines line ts => RopeEdit.insertLines line ts
  | .removeLines start stop => RopeEdit.removeLines start stop
  | .rotate start mid stop => RopeEdit.rotate start mid stop

namespace RopeBuffer

def make : Source → RopeBuffer R
  | .text t => ofText t
  | .lines ls => ofLines ls

def act (b : RopeBuffer R) : Action → RopeBuffer R
  | .command op => (op.onRope.outcome b).2
  | .setTokens line tokens => b.setTokens line tokens
  | .drain => b.clearLog
  | .markSaved => b.markSaved

/-- The buffer after all that was done with it. -/
def after (b : RopeBuffer R) (actions : List Action) : RopeBuffer R := actions.foldl act b

def lineList (b : RopeBuffer R) : LineList := ⟨b.texts, b.ids, b.ending, b.nextId⟩

/-- What a rope buffer shows: the texts it reads off its rope, with the handles and tokens of its
slots. -/
def shown (b : RopeBuffer R) : Buffer :=
  { lines := List.zipWith (fun s t => ⟨s.id, t, s.tokens?⟩) b.slots b.texts
    ending := b.ending
    nextId := b.nextId
    log := b.log
    isModified := b.isModified }

/-- A rope buffer is a list of lines. -/
structure Listlike (b : RopeBuffer R) : Prop where
  lineCount_pos : 0 < b.lineCount
  /-- There are as many handles as the rope has lines. -/
  lineCount_rope : b.lineCount = Rope.lineCount b.rope
  length_texts : b.texts.length = b.lineCount
  nodup : b.ids.Nodup
  /-- The handles that new lines get are not in use. -/
  below : ∀ id ∈ b.ids, id < b.nextId
  clean : ∀ t ∈ b.texts, t.hasBreak = false
  contents : b.contents = joinLines b.ending b.texts

end RopeBuffer

/-! ## What a life keeps -/

/-- With or without its result, a command leaves the same behind. -/
theorem Buffer.Op.snd_outcome_run (m : Buffer) (op : Op) : (op.run.outcome m).2 = op.apply m := by
  cases op <;> simp [run, apply, command]

theorem Buffer.Op.wellFormed_run (W : m.WellFormed) (op : Op) : (op.run.outcome m).2.WellFormed := by
  rw [op.snd_outcome_run]
  exact (op.sound W).wellFormed W

theorem Buffer.Op.ending_run (W : m.WellFormed) (op : Op) :
    (op.run.outcome m).2.ending = m.ending := by
  rw [op.snd_outcome_run]
  exact ((op.sound W).steps (Nat.le_refl _)).ending

theorem Buffer.wellFormed_act (W : m.WellFormed) (a : Action) : (m.act a).WellFormed := by
  cases a with
  | command op => exact op.wellFormed_run W
  | setTokens line tokens => exact W.of_bare (bare_setTokens m line tokens)
  | drain | markSaved => exact ⟨W.nonempty, W.nodup, W.below, W.clean⟩

theorem Buffer.ending_act (W : m.WellFormed) (a : Action) : (m.act a).ending = m.ending := by
  cases a with
  | command op => exact op.ending_run W
  | setTokens | drain | markSaved => rfl

theorem Buffer.wellFormed_make (s : Source) : (make s).WellFormed := by
  cases s with
  | text t | lines t => exact wellFormed_ofText _

namespace RopeBuffer

variable [LawfulRope R]

theorem represents_ofText (t : Text) : (ofText t : RopeBuffer R).Represents (Buffer.ofText t) := by
  have hnone : Tracks (blank (Rope.ofText (joinLines (.detect t) t.lines) : R) (.detect t))
      (Buffer.blank (.detect t)) := ⟨rfl, rfl, rfl, rfl, rfl⟩
  have hclean : ∀ l ∈ t.lines, l.hasBreak = false := fun l => hasBreak_of_mem_lines
  have hcount : Rope.lineCount (Rope.ofText (joinLines (.detect t) t.lines) : R) =
      t.lines.length := by
    rw [LawfulRope.lineCount_eq, LawfulRope.text_ofText,
      length_brokenLines_joinLines (lines_ne_nil t) hclean]
  have hlines : (Buffer.blank (.detect t)).lines = [] ++ [] := rfl
  have hopen := hnone.openEach hlines rfl t.lines
  refine ⟨?_, ?_⟩
  · rw [ofText, hcount, ofText_eq]
    simpa [Buffer.record, Buffer.blank] using hopen
  · simp [ofText, blank, LawfulRope.text_ofText, Buffer.contents, ofText_eq, Buffer.texts]

theorem represents_make (s : Source) : (make s : RopeBuffer R).Represents (Buffer.make s) := by
  cases s with
  | text t => exact represents_ofText t
  | lines ls => exact represents_ofText _

/-- One command on a rope buffer and on the buffer that it represents. -/
theorem alike_op (H : b.Represents m) (W : m.WellFormed) {op : Op} (ho : op.Ordered) :
    EditM.Alike op.onRope op.run b m := by
  cases op with
  | insertText p t => exact RopeEdit.alike_insertText H W p t
  | deleteRange r => exact RopeEdit.alike_deleteRange H W ho
  | replaceRange r t => exact RopeEdit.alike_replaceRange H W ho t
  | setLine line t => exact RopeEdit.alike_setLine H W line t
  | insertLines line ts => exact RopeEdit.alike_insertLines H W line ts
  | removeLines start stop => exact RopeEdit.alike_removeLines H W start stop
  | rotate start mid stop => exact RopeEdit.alike_rotate H W start mid stop

theorem Represents.act (H : b.Represents m) (W : m.WellFormed) {a : Action} (ha : a.Ordered) :
    (b.act a).Represents (m.act a) := by
  cases a with
  | command op => exact (alike_op H W ha).state
  | setTokens line tokens =>
    refine ⟨H.setTokens line tokens, H.text.trans ?_⟩
    show m.contents = joinLines m.ending (m.setTokens line tokens).texts
    rw [← texts_bare, bare_setTokens, texts_bare, Buffer.contents]
  | drain => exact ⟨H.clearLog, H.text⟩
  | markSaved => exact ⟨H.markSaved, H.text⟩

theorem Represents.after (H : b.Represents m) (W : m.WellFormed) {actions : List Action}
    (ha : ∀ a ∈ actions, a.Ordered) : (b.after actions).Represents (m.after actions) ∧
      (m.after actions).WellFormed ∧ (m.after actions).ending = m.ending := by
  induction actions generalizing b m with
  | nil => exact ⟨H, W, rfl⟩
  | cons a actions ih =>
    obtain ⟨h1, h2, h3⟩ := ih (H.act W (ha a List.mem_cons_self)) (wellFormed_act W a)
      fun a' h => ha a' (List.mem_cons_of_mem _ h)
    exact ⟨h1, h2, h3.trans (ending_act W a)⟩

theorem Represents.lineList (H : b.Represents m) (W : m.WellFormed) : b.lineList = m.lineList := by
  rw [RopeBuffer.lineList, H.texts_eq W, H.ids, H.ending, H.nextId]
  rfl

/-- A rope buffer shows the buffer that it represents. -/
theorem Represents.shown_eq (H : b.Represents m) (W : m.WellFormed) : b.shown = m := by
  have hlines : List.zipWith (fun (s : Slot) t => (⟨s.id, t, s.tokens?⟩ : Line)) b.slots b.texts =
      m.lines := by
    rw [H.slots, H.texts_eq W, Buffer.texts, List.zipWith_map, List.zipWith_self]
    exact List.map_id' m.lines
  rw [shown, hlines, H.ending, H.nextId, H.log, H.isModified]

theorem Represents.listlike (H : b.Represents m) (W : m.WellFormed) : b.Listlike where
  lineCount_pos := H.lineCount ▸ W.lineCount_pos
  lineCount_rope := by rw [H.lineCount, H.lineCount_rope W]
  length_texts := by
    rw [H.texts_eq W, H.lineCount]
    exact List.length_map _
  nodup := H.ids ▸ W.nodup
  below := by
    rw [H.ids, H.nextId]
    exact W.below
  clean := H.texts_eq W ▸ W.clean
  contents := by
    rw [H.texts_eq W, H.ending]
    exact H.text

/-- A rope buffer is a list of lines all its life, and its line ending never changes. It has the lines
of the buffer that went through the same, and a command returns the same on both. An accepted command
does to the list of lines what it should, and any other fails and leaves the list as it was. -/
theorem refines_lines (s : Source) {actions : List Action} (ha : ∀ a ∈ actions, a.Ordered) :
    let b := (make s : RopeBuffer R).after actions
    let m := (Buffer.make s).after actions
    b.Listlike ∧ b.ending = (make s : RopeBuffer R).ending ∧ b.Represents m ∧
    ∀ op : Op, op.Ordered → (op.onRope.outcome b).1 = (op.run.outcome m).1 ∧
      (op.Accepts b.lineList → ∃ q c, op.onRope.outcome b = (.ok q, c) ∧ c.Listlike ∧
        c.ending = b.ending ∧ op.Effect b.lineList c.lineList q) ∧
      (¬op.Accepts b.lineList → ∃ e c, op.onRope.outcome b = (.error e, c) ∧
        c.lineList = b.lineList) := by
  intro b m
  obtain ⟨H, W, hending⟩ := (represents_make (R := R) s).after (wellFormed_make s) ha
  refine ⟨H.listlike W, ?_, H, fun op ho => ?_⟩
  · rw [H.ending, hending, (represents_make (R := R) s).ending]
  · obtain ⟨hresult, hstate⟩ := alike_op H W ho
    have hlist : b.lineList = m.lineList := H.lineList W
    have hlist' := hstate.lineList (op.wellFormed_run W)
    have hlike := hstate.listlike (op.wellFormed_run W)
    have hkept := hstate.ending.trans ((op.ending_run W).trans H.ending.symm)
    refine ⟨hresult, fun hacc => ?_, fun hrej => ?_⟩
    · obtain ⟨q, n, hq, he⟩ := Op.run_of_accepts ho (hlist ▸ hacc)
      rw [hq] at hresult hlist'
      exact ⟨q, _, Prod.ext hresult rfl, hlike, hkept, by rw [hlist, hlist']; exact he⟩
    · obtain ⟨e, he⟩ := Op.run_of_not_accepts (hlist ▸ hrej)
      rw [he] at hresult hlist'
      exact ⟨e, _, Prod.ext hresult rfl, by rw [hlist, hlist']⟩

/-- A text put in between breaks of other styles, then the last line taken away. -/
theorem refines_lines_mixed :
    let b := (make (.text "a\r\nb\nc".toList) : RopeBuffer Text).after
      [.command (.insertText ⟨0, 1⟩ "x\ry".toList)]
    b.Listlike ∧ ∃ c, (Op.onRope (.removeLines 3 4)).outcome b = (.ok ["c".toList], c) ∧
      c.texts = ["ax".toList, "y".toList, "b".toList] := by
  intro b
  have hordered : ∀ a ∈ [Action.command (.insertText ⟨0, 1⟩ "x\ry".toList)], a.Ordered := by
    intro a ha
    rw [List.mem_singleton.1 ha]
    trivial
  obtain ⟨hb, -, -, h⟩ := refines_lines (R := Text) (.text "a\r\nb\nc".toList) hordered
  have hacc : (Op.removeLines 3 4).Accepts b.lineList :=
    show 3 < 4 ∧ 4 ≤ b.lineList.texts.length by decide +kernel
  obtain ⟨q, c, hc, -, -, rfl, he⟩ := (h (.removeLines 3 4) trivial).2.1 hacc
  have hpart : ¬(3 = 0 ∧ 4 = b.lineList.texts.length) := fun h => absurd h.1 (by decide)
  rw [if_neg hpart] at he
  have hremoved : (b.lineList.texts.take 4).drop 3 = ["c".toList] := by decide +kernel
  have hrest : b.lineList.texts.take 3 ++ b.lineList.texts.drop 4 =
      ["ax".toList, "y".toList, "b".toList] := by decide +kernel
  exact ⟨hb, c, by rw [← hremoved]; exact hc, he.1.trans hrest⟩

end RopeBuffer
end LogicEditor
