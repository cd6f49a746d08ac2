import LogicEditor.Proofs.Document.Order

/-!
# Passes of the lexer

A flush lexes the lines that the log says are new or have a new text, each once however often the log
says so, and not if the line is gone by then. Of the lines that have a new text it misses those that
the document does not know, because their number was drained before it was opened
(`Document.Session.passes_flushed`). All other lines keep their tokens and their styling, which are
kept with the line and under its handle, so that it does not matter where the line stands
(`Document.Session.kept_flushed`).
-/

namespace LogicEditor

variable {b c : Buffer} {es fs : List Change} {id : LineId} {start mid stop : Nat}
  {known : LineId → Bool}

/-! ## What the log says of a line -/

/-- The change says that the line is new or has a new text. -/
def Change.renews (id : LineId) : Change → Bool
  | .edited j | .inserted j _ => j == id
  | .removed _ | .shifted _ => false

/-- The change says that the line is new. -/
def Change.enters (id : LineId) : Change → Bool
  | .inserted j _ => j == id
  | .edited _ | .removed _ | .shifted _ => false

/-- Some change says that the line is new or has a new text. -/
def renewed (es : List Change) (id : LineId) : Bool := es.any (·.renews id)

/-- Some change says that the line is new. -/
def entered (es : List Change) (id : LineId) : Bool := es.any (·.enters id)

/-- Some change says that the line is new or has a new text, and the number of the line is known, be
it only from the log. -/
def lexable (known : LineId → Bool) (es : List Change) (id : LineId) : Bool :=
  renewed es id && (entered es id || known id)

theorem renewed_iff : renewed es id ↔ .edited id ∈ es ∨ ∃ line, .inserted id line ∈ es := by
  rw [renewed, List.any_eq_true]
  constructor
  · rintro ⟨x, hx, h⟩
    cases x with
    | edited j => exact .inl (beq_iff_eq.1 h ▸ hx)
    | inserted j line => exact .inr ⟨line, beq_iff_eq.1 h ▸ hx⟩
    | removed j => cases h
    | shifted shifts => cases h
  · rintro (h | ⟨line, h⟩)
    · exact ⟨_, h, beq_self_eq_true id⟩
    · exact ⟨_, h, beq_self_eq_true id⟩

theorem entered_iff : entered es id ↔ ∃ line, .inserted id line ∈ es := by
  rw [entered, List.any_eq_true]
  constructor
  · rintro ⟨x, hx, h⟩
    cases x with
    | inserted j line => exact ⟨line, beq_iff_eq.1 h ▸ hx⟩
    | edited j | removed j => cases h
    | shifted shifts => cases h
  · rintro ⟨line, h⟩
    exact ⟨_, h, beq_self_eq_true id⟩

theorem renewed_append : renewed (es ++ fs) id = (renewed es id || renewed fs id) := List.any_append

theorem lexable_iff : lexable known es id ↔ renewed es id ∧ (entered es id ∨ known id) := by
  rw [lexable, Bool.and_eq_true, Bool.or_eq_true]

theorem lexable_eq_false (h : renewed es id = false) : lexable known es id = false := by
  rw [lexable, h, Bool.false_and]

/-! ## Counting handles -/

/-- Two lists without repetitions have as many members of one kind as of another, if these are the
same. -/
theorem countP_eq_of_nodup {xs ys : List LineId} {p q : LineId → Bool} (hx : xs.Nodup)
    (hy : ys.Nodup) (h : ∀ id, id ∈ xs ∧ p id ↔ id ∈ ys ∧ q id) : xs.countP p = ys.countP q := by
  rw [List.countP_eq_length_filter, List.countP_eq_length_filter]
  refine ((List.perm_ext_iff_of_nodup (hx.filter p) (hy.filter q)).2 fun id => ?_).length_eq
  rw [List.mem_filter, List.mem_filter]
  exact h id

/-- As many lines are lexed as are renewed iff none of these is missed. -/
theorem countP_lexable_eq_iff (ids : List LineId) :
    ids.countP (lexable known es) = ids.countP (renewed es) ↔
      ∀ id ∈ ids, renewed es id → entered es id ∨ known id := by
  induction ids with
  | nil => simp
  | cons id ids ih =>
    have hle : ids.countP (lexable known es) ≤ ids.countP (renewed es) :=
      List.countP_mono_left fun j _ h => (lexable_iff.1 h).1
    rw [List.forall_mem_cons, ← ih, List.countP_cons, List.countP_cons]
    cases h : renewed es id with
    | false => simp [lexable_eq_false h]
    | true =>
      rw [lexable, h, Bool.true_and, ← Bool.or_eq_true]
      cases entered es id || known id with
      | false => simp; omega
      | true => simp

/-! ## The logs of moves and deletions -/

namespace Buffer

theorem renewed_rotateLines : renewed (b.rotateLines start mid stop).log id = renewed b.log id := by
  rw [rotateLines, record, renewed_append]
  exact Bool.or_false _

theorem renewed_removals (old : List Line) : renewed (removals old) id = false := by
  rw [renewed, List.any_eq_false]
  intro x hx
  obtain ⟨l, -, rfl⟩ := mem_removals.1 hx
  exact Bool.false_ne_true

theorem renewed_closeLines : renewed (b.closeLines start stop).log id = renewed b.log id := by
  rw [closeLines]
  split
  · rfl
  · rw [record, renewed_append, renewed_append]
    have hold : renewed (((b.lines.take stop).drop start).map fun l => .removed l.id) id = false :=
      renewed_removals ((b.lines.take stop).drop start)
    rw [hold]
    split
    · exact Bool.or_false _
    · exact Bool.or_false _

/-- Taking lines away renews no line, unless none is left and an empty one takes their place. -/
theorem countP_withoutLines (W : b.WellFormed) (hlog : b.log = []) (h : start < stop)
    (hs : stop ≤ b.lineCount) :
    (b.withoutLines start stop).ids.countP (lexable known (b.withoutLines start stop).log) =
      if start = 0 ∧ stop = b.lineCount then 1 else 0 := by
  by_cases hall : start = 0 ∧ stop = b.lineCount
  · obtain ⟨rfl, rfl⟩ := hall
    rw [if_pos ⟨rfl, rfl⟩, withoutLines, closeLines_all W]
    simp [openLines, record, markModified, freshLines, insertions, ids, lexable, renewed,
      Change.renews, entered, Change.enters]
  · have hne : (b.closeLines start stop).lines ≠ [] := by
      rw [lines_closeLines_of_le (Nat.le_of_lt h), ← List.length_pos_iff, List.length_append,
        List.length_take, List.length_drop]
      simp only [lineCount] at hs hall
      omega
    rw [if_neg hall, withoutLines, if_neg (mt List.isEmpty_iff.1 hne), List.countP_eq_zero]
    intro id _
    have hnone : renewed (b.closeLines start stop).log id = false := by
      rw [renewed_closeLines, hlog]
      rfl
    exact Bool.eq_false_iff.1 (lexable_eq_false hnone)

end Buffer

namespace Edit

open Buffer

variable {sel : Selection}

theorem renewed_moveUp : renewed ((moveUp sel).outcome b).2.log id = renewed b.log id := by
  by_cases hl : sel.lineBlock.last < b.lineCount
  · rw [outcome_moveUp hl]
    split
    · rfl
    · exact renewed_rotateLines
  · rw [moveUp, snd_outcome_of_not_lt hl]

theorem renewed_moveDown : renewed ((moveDown sel).outcome b).2.log id = renewed b.log id := by
  by_cases hl : sel.lineBlock.last < b.lineCount
  · rw [outcome_moveDown hl]
    split
    · rfl
    · exact renewed_rotateLines
  · rw [moveDown, snd_outcome_of_not_lt hl]

theorem countP_deleteLines (W : b.WellFormed) (hlog : b.log = []) :
    ((deleteLines sel).outcome b).2.ids.countP
        (lexable known ((deleteLines sel).outcome b).2.log) =
      if sel.lineBlock.first = 0 ∧ sel.lineBlock.last + 1 = b.lineCount then 1 else 0 := by
  by_cases hl : sel.lineBlock.last < b.lineCount
  · rw [outcome_deleteLines hl]
    exact countP_withoutLines W hlog (Nat.lt_succ_of_le (first_le_last sel)) hl
  · have hall : ¬(sel.lineBlock.first = 0 ∧ sel.lineBlock.last + 1 = b.lineCount) := by omega
    rw [deleteLines, snd_outcome_of_not_lt hl, hlog, if_neg hall, List.countP_eq_zero]
    exact fun _ _ => Bool.false_ne_true

end Edit

namespace Document

variable {d d' : Document} {table : InstructionTable} {l : Line}

/-! ## Passes of a flush -/

theorem passes_follow_all (es : List Change) (s : Document × Backlog) :
    (es.foldl follow s).1.styles.passes = s.1.styles.passes :=
  foldl_proj (g := fun s => s.1.styles.passes) (fun _ x => by cases x <;> rfl) es s

theorem passes_followLog (d : Document) : d.followLog.1.styles.passes = d.styles.passes :=
  passes_follow_all d.buffer.log ({ d with buffer := d.buffer.clearLog }, {})

theorem mem_dirty_followLog (h : .removed id ∉ d.buffer.log) :
    id ∈ d.followLog.2.dirty ↔ renewed d.buffer.log id := by
  rw [followLog, mem_dirty_follow_all h, renewed_iff]
  exact or_iff_right Std.TreeSet.not_mem_emptyc

section
variable (S : d.Session) (H : Buffer.Steps maxIndex d.buffer c)
include S H

/-- When the log of some steps was followed, the numbers of the lines are known that were known before,
and of those that are new. -/
theorem Session.exists_followed : ∃ L, (followLog { d with buffer := c }).1.symbols.Keeps L ∧
    (followLog { d with buffer := c }).1.buffer.Places L.line? ∧
    ∀ id, (L.line? id).isSome ↔ id ∈ c.ids ∧ (entered c.log id ∨ d.knows id) := by
  obtain ⟨W, F, L, K, P⟩ := S.live.tracks
  obtain ⟨es, D⟩ := Buffer.Steps.diff H W F
  have hes : c.log = es := by rw [D.log, S.log, List.nil_append]
  rw [S.log, replay_nil] at P
  have P' : c.Places (replay L.line? es) := P.diff D W
  have hline : (c.log.foldl Ledger.follow L).line? = replay L.line? es := by
    rw [Ledger.line?_follow_all, hes]
  refine ⟨c.log.foldl Ledger.follow L, keeps_follow_all K c.log, ?_, fun id => ?_⟩
  · rw [followLog_buffer, hline]
    exact P'
  · rw [hline, P.replay_isSome D W, knows, K.position, entered_iff, hes]

/-- A flush makes one pass for each line that is renewed, known, and still there. -/
theorem Session.passes_flushed : (Document.flushed { d with buffer := c }).1.styles.passes =
    d.styles.passes + c.ids.countP (lexable d.knows c.log) := by
  have W := Buffer.Steps.wellFormed H S.live.tracks.wellFormed
  obtain ⟨es, D⟩ := Buffer.Steps.diff H S.live.tracks.wellFormed S.live.tracks.fits
  have hes : c.log = es := by rw [D.log, S.log, List.nil_append]
  by_cases h : c.log = []
  · have hnone : c.ids.countP (lexable d.knows []) = 0 :=
      List.countP_eq_zero.2 fun _ _ => Bool.false_ne_true
    rw [flushed_of_log_eq_nil h, h, hnone]
    rfl
  · obtain ⟨L, K, -, hknown⟩ := S.exists_followed H
    rw [flushed_of_log_ne_nil h]
    refine (passes_relex_all _ _).trans ?_
    rw [passes_followLog, countP_eq_of_nodup (nodup_toList _) W.nodup]
    intro id
    rw [K.position, hknown, Std.TreeSet.mem_toList, lexable_iff]
    have hdirty (hid : id ∈ c.ids) : id ∈ (followLog { d with buffer := c }).2.dirty ↔
        renewed c.log id :=
      mem_dirty_followLog (d := { d with buffer := c }) fun hgone =>
        (D.gone id (hes ▸ hgone)).1 hid
    constructor
    · rintro ⟨hmem, hid, h⟩
      exact ⟨hid, (hdirty hid).1 hmem, h⟩
    · rintro ⟨hid, hmem, h⟩
      exact ⟨(hdirty hid).2 hmem, hid, h⟩

/-- A line that is not renewed is the very line it was, and its styling is that under its handle. -/
theorem Session.kept_flushed (hl : l ∈ (Document.flushed { d with buffer := c }).1.buffer.lines)
    (hid : renewed c.log l.id = false) : l ∈ d.buffer.lines ∧
      (Document.flushed { d with buffer := c }).1.styles.get? l.id = d.styles.get? l.id := by
  have W := Buffer.Steps.wellFormed H S.live.tracks.wellFormed
  obtain ⟨es, D⟩ := Buffer.Steps.diff H S.live.tracks.wellFormed S.live.tracks.fits
  have hes : c.log = es := by rw [D.log, S.log, List.nil_append]
  have hkept {m : Line} (hm : m ∈ c.lines) (hid : renewed c.log m.id = false) :
      m ∈ d.buffer.lines := by
    rw [← Bool.not_eq_true, renewed_iff, not_or, not_exists, hes] at hid
    exact D.kept m hm hid.1 hid.2
  by_cases h : c.log = []
  · rw [flushed_of_log_eq_nil h] at hl ⊢
    exact ⟨hkept hl hid, rfl⟩
  · obtain ⟨L, K, P, -⟩ := S.exists_followed H
    have hbuffer : (followLog { d with buffer := c }).1.buffer = c.clearLog :=
      followLog_buffer { d with buffer := c }
    obtain ⟨L₁, R⟩ := exists_relexed_all K P (hbuffer ▸ W.nodup)
      (followLog { d with buffer := c }).2.dirty.toList
    rw [flushed_of_log_ne_nil h] at hl ⊢
    have hlines := R.lines
    rw [hbuffer] at hlines
    obtain ⟨m, hm, rfl⟩ := List.mem_map.1 (hlines ▸ hl)
    rw [id_relexedLine] at hid ⊢
    have hgone : .removed m.id ∉ c.log := fun hgone =>
      (D.gone m.id (hes ▸ hgone)).1 (List.mem_map_of_mem hm)
    have hdue : L.due (followLog { d with buffer := c }).2.dirty.toList m.id = false := by
      refine Ledger.due_eq_false (.inl fun hdirty => ?_)
      rw [Std.TreeSet.mem_toList, mem_dirty_followLog (d := { d with buffer := c }) hgone, hid]
        at hdirty
      cases hdirty
    rw [relexedLine_of_not_due hdue]
    refine ⟨hkept hm hid, (R.kept m.id hdue).2.trans ?_⟩
    exact (styles_follow_all c.log _ m.id).trans (if_neg hgone)

end

/-! ## Passes of a command -/

/-- What the command does to the buffer, before the flush. -/
def Mutation.effect (d : Document) : Mutation → Buffer
  | .revise r => ((r.command d.options.tabstop).outcome d.buffer).2
  | .replaceUntil pattern new cancelled =>
    ((Edit.replaceUntil pattern new d.options.searchFlags cancelled).outcome d.buffer).2

section
variable (S : d.Session) (m : Mutation)
include S

/-- A command flushes what it did to the buffer, and if it was rejected there is nothing to flush. -/
theorem Session.snd_outcome_mutation :
    (m.run.outcome d).2 = (Document.flushed { d with buffer := m.effect d }).1 := by
  cases m with
  | revise r =>
    rw [Mutation.run, EditM.outcome_map, Revision.outcome_run, snd_outcome_edit, Mutation.effect]
    have hatomic := (r.sound S.live.tracks.wellFormed d.options.tabstop).atomic
    rcases hc : (r.command d.options.tabstop).outcome d.buffer with ⟨e | sel, c⟩
    · rw [hc] at hatomic
      obtain rfl : c = d.buffer := hatomic e rfl
      exact (congrArg Prod.fst (flushed_eq_of_log_eq_nil S.log)).symm
    · rfl
  | replaceUntil pattern new cancelled =>
    rw [Mutation.run, EditM.outcome_map, snd_outcome_replaceUntil]
    rfl

theorem Session.steps_effect (F : (m.effect d).Fits) :
    Buffer.Steps maxIndex d.buffer (m.effect d) := by
  have W := S.live.tracks.wellFormed
  cases m with
  | revise r => exact (r.sound W d.options.tabstop).steps F
  | replaceUntil pattern new cancelled =>
    exact (Edit.sound_replaceUntil (R := Pattern.Program) W pattern new d.options.searchFlags
      cancelled).steps F

end

/-- A command makes one pass for each line that its log says is new or edited and that is still there,
unless it was edited and the document does not know it. So the passes are as many as there are such
lines iff none of the edited ones is unknown, and they always are if the log of the buffer was not
drained before it was opened. All other lines keep their tokens and their styling; lines that move are
not lexed, nor are those around lines that are deleted, but only the empty line that comes in place of
all lines. -/
theorem passes_of_mutation_iff (S : Session d) (m : Mutation)
    (fits : (m.run.outcome d).2.buffer.Fits) :
    let log := (m.effect d).log
    let d' := (m.run.outcome d).2
    d.buffer.log = [] ∧ d'.buffer.ids.Nodup ∧
    d'.styles.passes = d.styles.passes + d'.buffer.ids.countP (lexable d.knows log) ∧
    (d'.styles.passes = d.styles.passes + d'.buffer.ids.countP (renewed log) ↔
      ∀ id ∈ d'.buffer.ids, renewed log id → entered log id ∨ d.knows id) ∧
    (∀ table, Reachable table d →
      d'.styles.passes = d.styles.passes + d'.buffer.ids.countP (renewed log)) ∧
    (∀ l ∈ d'.buffer.lines, renewed log l.id = false →
      l ∈ d.buffer.lines ∧ d'.styles.get? l.id = d.styles.get? l.id) ∧
    (∀ sel, m = .revise (.moveUp sel) ∨ m = .revise (.moveDown sel) →
      d'.styles.passes = d.styles.passes) ∧
    ∀ sel, m = .revise (.deleteLines sel) → d'.styles.passes = d.styles.passes +
      if sel.lineBlock.first = 0 ∧ sel.lineBlock.last + 1 = d.buffer.lineCount then 1 else 0 := by
  intro log d'
  have W := S.live.tracks.wellFormed
  have hd' : d' = (flushed { d with buffer := m.effect d }).1 := S.snd_outcome_mutation m
  have F : (m.effect d).Fits := (fits_flushed { d with buffer := m.effect d }).1 (hd' ▸ fits)
  have hsteps := S.steps_effect m F
  have hids : d'.buffer.ids = (m.effect d).ids := hd' ▸ ids_flushed { d with buffer := m.effect d }
  have hpasses : d'.styles.passes =
      d.styles.passes + (m.effect d).ids.countP (lexable d.knows log) :=
    hd' ▸ S.passes_flushed hsteps
  have hiff : d'.styles.passes = d.styles.passes + d'.buffer.ids.countP (renewed log) ↔
      ∀ id ∈ d'.buffer.ids, renewed log id → entered log id ∨ d.knows id := by
    rw [hpasses, hids, ← countP_lexable_eq_iff]
    omega
  have hlog {id : LineId} : renewed d.buffer.log id = false := by
    rw [S.log]
    rfl
  refine ⟨S.log, ?_, ?_, hiff, fun table H => hiff.2 fun id hid _ => ?_, ?_, ?_, ?_⟩
  · rw [hids]
    exact (Buffer.Steps.wellFormed hsteps W).nodup
  · rw [hids]
    exact hpasses
  · -- a line that is not new was there before
    by_cases hold : id ∈ d.buffer.ids
    · exact .inr (H.settled.1.knows hold)
    · obtain ⟨es, D⟩ := Buffer.Steps.diff hsteps W S.live.tracks.fits
      have hes : log = es := by
        show (m.effect d).log = es
        rw [D.log, S.log, List.nil_append]
      exact .inl (entered_iff.2 (hes ▸ D.inserted id (hids ▸ hid) hold))
  · intro l hl hid
    rw [hd'] at hl ⊢
    exact S.kept_flushed hsteps hl hid
  · intro sel h
    have hnone : (m.effect d).ids.countP (lexable d.knows log) = 0 := by
      rw [List.countP_eq_zero]
      intro id _
      rw [Bool.not_eq_true]
      apply lexable_eq_false
      rcases h with rfl | rfl
      · exact Edit.renewed_moveUp.trans hlog
      · exact Edit.renewed_moveDown.trans hlog
    rw [hpasses, hnone, Nat.add_zero]
  · rintro sel rfl
    rw [hpasses]
    exact congrArg (d.styles.passes + ·) (Edit.countP_deleteLines W S.log)

/-- A line is split above another one. Both halves are lexed, the line below keeps what it has. -/
theorem passes_of_mutation_iff_split :
    let d := ofText "set x 1\nend".toList .stock
    let m := Mutation.revise (.insertText ⟨0, 4⟩ "\n".toList)
    let d' := (m.run.outcome d).2
    d.styles.passes = 2 ∧ d'.styles.passes = 4 ∧ d'.buffer.indexOf? 1 = some 2 ∧
      d'.styles.get? 1 = d.styles.get? 1 := by
  intro d m d'
  have hd : Session d := .opened ⟨_, .ofText _ (by decide), .refl⟩ .stock
  have hfits : d'.buffer.Fits := by decide +kernel
  obtain ⟨-, -, hpasses, -, -, hkept, -⟩ := passes_of_mutation_iff hd m hfits
  have htwo : d.styles.passes = 2 := by decide +kernel
  have hcount : d'.buffer.ids.countP (lexable d.knows (m.effect d).log) = 2 := by decide +kernel
  have hline : ∃ l, d'.buffer.lines[2]? = some l ∧ l.id = 1 := ⟨_, rfl, by decide +kernel⟩
  obtain ⟨l, hl, hid⟩ := hline
  have hold : renewed (m.effect d).log l.id = false := by
    rw [hid]
    decide +kernel
  have hstyle := (hkept l (List.mem_of_getElem? hl) hold).2
  rw [hid] at hstyle
  exact ⟨htwo, by rw [hpasses, htwo, hcount], by decide +kernel, hstyle⟩

/-- A buffer is drained and opened, and a character is put in. The edited line is not lexed. -/
theorem not_passes_of_mutation :
    let d := ofBuffer (Buffer.ofText "set x 1".toList).clearLog .stock
    let m := Mutation.revise (.insertText ⟨0, 7⟩ ['0'])
    let d' := (m.run.outcome d).2
    Session d ∧ (m.effect d).log = [.edited 0] ∧ d'.buffer.ids = [0] ∧ d'.styles.passes = 0 ∧
      d'.styles.passes ≠ d.styles.passes + d'.buffer.ids.countP (renewed (m.effect d).log) := by
  intro d m d'
  have hd : Session d := .opened ⟨_, .ofText _ (by decide), .single .drain⟩ .stock
  have hlog : (m.effect d).log = [.edited 0] := by decide +kernel
  have hids : d'.buffer.ids = [0] := by decide +kernel
  have hnone : d'.styles.passes = 0 := by decide +kernel
  refine ⟨hd, hlog, hids, hnone, ?_⟩
  rw [hnone, hids, hlog]
  exact (Nat.succ_ne_zero _).symm

end Document
end LogicEditor
