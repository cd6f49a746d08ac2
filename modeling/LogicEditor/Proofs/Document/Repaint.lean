import LogicEditor.Proofs.Document.Revision

/-!
# Repainting

A front end that shows the styled lines of a document need not ask for all of them after a command.
It keeps as many lines of its screen as there are now, and paints over those that the command reports
(`painted`). A line that the document knows and does not report was neither lexed nor moved, so it is
where it was, with the text it had (`Document.Covers`). A line that it does not know is never reported,
and has no styling; it looks right only if the screen had no styling there before. So what the front end
shows then is what the document would answer just if this is so for all lines that are not known
(`Document.repaint_suffices_iff`).
-/

namespace LogicEditor

/-! ## Screens -/

/-- A screen cut or padded to a number of lines. -/
def resized (blank : StyledLine) (n : Nat) (screen : List StyledLine) : List StyledLine :=
  screen.take n ++ List.replicate (n - screen.length) blank

/-- A screen with some lines painted over. -/
def painted (screen repaint : List StyledLine) : List StyledLine :=
  repaint.foldl (fun screen l => screen.set l.line l) screen

section
variable {blank : StyledLine} {n i : Nat} {screen repaint after : List StyledLine}

theorem length_resized : (resized blank n screen).length = n := by
  simp only [resized, List.length_append, List.length_take, List.length_replicate]
  omega

theorem getElem?_resized (h : i < n) (hi : i < screen.length) :
    (resized blank n screen)[i]? = screen[i]? := by
  rw [resized, List.getElem?_append_left (by rw [List.length_take]; omega),
    List.getElem?_take_of_lt h]

theorem getElem?_resized_of_le (h : screen.length ≤ i) (hi : i < n) :
    (resized blank n screen)[i]? = some blank := by
  have htake : screen.take n = screen := List.take_of_length_le (Nat.le_of_lt (Nat.lt_of_le_of_lt h hi))
  rw [resized, htake, List.getElem?_append_right h, List.getElem?_replicate, if_pos (by omega)]

theorem length_painted : (painted screen repaint).length = screen.length := by
  induction repaint generalizing screen with
  | nil => rfl
  | cons l repaint ih => exact ih.trans List.length_set

theorem getElem?_painted_of_ne (h : ∀ l ∈ repaint, l.line ≠ i) :
    (painted screen repaint)[i]? = screen[i]? := by
  induction repaint generalizing screen with
  | nil => rfl
  | cons l repaint ih =>
    refine (ih fun m hm => h m (List.mem_cons_of_mem _ hm)).trans ?_
    exact List.getElem?_set_ne (h l List.mem_cons_self)

/-- What was painted on a line is there, even if the line was painted twice. -/
theorem getElem?_painted (h : ∀ l ∈ repaint, after[l.line]? = some l) (hi : i < screen.length)
    (hmem : ∃ l ∈ repaint, l.line = i) : (painted screen repaint)[i]? = after[i]? := by
  induction repaint generalizing screen with
  | nil =>
    obtain ⟨l, hl, -⟩ := hmem
    cases hl
  | cons l repaint ih =>
    have h' := fun m hm => h m (List.mem_cons_of_mem _ hm)
    by_cases hlater : ∃ m ∈ repaint, m.line = i
    · exact ih h' (by rwa [List.length_set]) hlater
    · obtain rfl : l.line = i := by
        obtain ⟨m, hm, hline⟩ := hmem
        rcases List.mem_cons.1 hm with rfl | hm
        · exact hline
        · exact absurd ⟨m, hm, hline⟩ hlater
      refine (getElem?_painted_of_ne fun m hm hline => hlater ⟨m, hm, hline⟩).trans ?_
      rw [List.getElem?_set_self hi, h l List.mem_cons_self]

/-- Painting gives a screen, whatever the padding is, iff all that is not painted over is there
already. -/
theorem painted_resized_iff (hlen : after.length = n)
    (hright : ∀ l ∈ repaint, after[l.line]? = some l) :
    (∀ blank, painted (resized blank n screen) repaint = after) ↔
      ∀ i < n, (∀ l ∈ repaint, l.line ≠ i) → screen[i]? = after[i]? := by
  constructor
  · intro h i hi hne
    have hpadded (blank : StyledLine) : (resized blank n screen)[i]? = after[i]? := by
      rw [← h blank, getElem?_painted_of_ne hne]
    rcases Nat.lt_or_ge i screen.length with hlt | hge
    · rw [← hpadded ⟨0, []⟩, getElem?_resized hi hlt]
    · -- the padding cannot be right whatever it is
      have hblank (blank : StyledLine) : after[i]? = some blank := by
        rw [← hpadded blank, getElem?_resized_of_le hge hi]
      have := (hblank ⟨0, []⟩).symm.trans (hblank ⟨1, []⟩)
      cases this
  · intro h blank
    refine List.ext_getElem? fun i => ?_
    by_cases hi : i < n
    · by_cases hmem : ∃ l ∈ repaint, l.line = i
      · exact getElem?_painted hright (by rwa [length_resized]) hmem
      · have hne : ∀ l ∈ repaint, l.line ≠ i := fun l hl hline => hmem ⟨l, hl, hline⟩
        have hlt : i < screen.length := by
          have heq := h i hi hne
          have hi' : i < after.length := by rwa [hlen]
          rw [List.getElem?_eq_getElem hi'] at heq
          exact (List.getElem?_eq_some_iff.1 heq).1
        rw [getElem?_painted_of_ne hne, getElem?_resized hi hlt, h i hi hne]
    · rw [List.getElem?_eq_none (by rw [length_painted, length_resized]; omega),
        List.getElem?_eq_none (by omega)]

end

namespace Document

variable {d d' : Document} {table : InstructionTable} {c : Buffer} {id : LineId} {i : Nat}
  {l : StyledLine} {m : Line} {L : Ledger}

/-! ## The styling of a document -/

theorem length_styling (d : Document) : d.styling.length = d.buffer.lineCount := by
  simp [styling, Buffer.ids, Buffer.lineCount]

theorem getElem?_styling (d : Document) (i : Nat) :
    d.styling[i]? = d.buffer.ids[i]?.map fun id => ⟨i, d.spansOf id⟩ := by
  rw [styling, List.getElem?_map, List.getElem?_zipIdx, Nat.zero_add]
  cases d.buffer.ids[i]? <;> rfl

theorem result_styledLines (h : d.buffer.log = []) : styledLines.result d = .ok d.styling := by
  rw [EditM.result, styledLines, EditM.outcome_bind, outcome_flush, flushed_eq_of_log_eq_nil h]
  rfl

section
variable (S : Shows d (fun _ => False) L)
include S

theorem Shows.knows_iff : d.knows id ↔ (L.line? id).isSome := by rw [knows, S.keeps.position]

theorem Shows.getElem?_ids (hnd : d.buffer.ids.Nodup) (h : d.symbols.position? id = some i) :
    d.buffer.ids[i]? = some id := by
  rw [S.keeps.position] at h
  rw [Buffer.ids, List.getElem?_map]
  exact (Buffer.place_eq_some_iff hnd).1 (S.places id i h)

theorem Shows.position?_of_knows (hnd : d.buffer.ids.Nodup) (hi : d.buffer.ids[i]? = some id)
    (h : d.knows id) : d.symbols.position? id = some i := by
  obtain ⟨k, hk⟩ := Option.isSome_iff_exists.1 h
  have hsame := S.getElem?_ids hnd hk
  obtain rfl : k = i := by
    obtain ⟨hlt, hid⟩ := List.getElem?_eq_some_iff.1 hsame
    obtain ⟨hlt', hid'⟩ := List.getElem?_eq_some_iff.1 hi
    exact hnd.getElem_inj_iff.1 (hid.trans hid'.symm)
  exact hk

/-- The styling of a known line depends on its text only. -/
theorem Shows.getElem?_styling_of_knows (hm : d.buffer.lines[i]? = some m) (h : d.knows m.id) :
    d.styling[i]? = some ⟨i, styleLine (tokenize d.table m.text)⟩ := by
  have hshown := S.shown m (List.mem_of_getElem? hm) (S.knows_iff.1 h) not_false
  rw [getElem?_styling, Buffer.ids, List.getElem?_map, hm, Option.map_some, Option.map_some, spansOf,
    hshown.styles, Option.getD_some]

/-- A line that is not known has no styling. -/
theorem Shows.getElem?_styling_of_not_knows (hi : d.buffer.ids[i]? = some id) (h : ¬d.knows id) :
    d.styling[i]? = some ⟨i, []⟩ := by
  rw [S.knows_iff, Option.not_isSome_iff_eq_none] at h
  rw [getElem?_styling, hi, Option.map_some, spansOf, (S.absent id h).2, Option.getD_none]

theorem Shows.getElem?_styling_of_styledLine? (hnd : d.buffer.ids.Nodup)
    (h : d.styledLine? id = some l) : d.styling[l.line]? = some l := by
  rw [styledLine?, Option.map_eq_some_iff] at h
  obtain ⟨line, hline, rfl⟩ := h
  rw [getElem?_styling, S.getElem?_ids hnd hline, Option.map_some]

end

/-! ## What a flush reports -/

/-- The lines to paint make up the difference between two documents, in the lines that are known. -/
structure Covers (repaint : List StyledLine) (d d' : Document) : Prop where
  right : ∀ l ∈ repaint, d'.styling[l.line]? = some l
  rest : ∀ i id, d'.buffer.ids[i]? = some id → d'.knows id → (∀ l ∈ repaint, l.line ≠ i) →
    d.styling[i]? = d'.styling[i]?
  missed : ∀ i id, d'.buffer.ids[i]? = some id → ¬d'.knows id →
    d'.styling[i]? = some ⟨i, []⟩ ∧ ∀ l ∈ repaint, l.line ≠ i
  ascending : repaint.Pairwise (·.line < ·.line)

theorem mem_refresh {dirty moved : List LineId} : l ∈ (d.refresh dirty moved).2 ↔
    ∃ id ∈ dirty ++ moved, (d.refresh dirty moved).1.styledLine? id = some l := by
  rw [refresh, List.mem_mergeSort, List.mem_filterMap]
  rfl

/-- What a refresh reports is in the order of the lines, if no two handles are on one line. -/
theorem pairwise_refresh {dirty moved : List LineId} (hnd : (dirty ++ moved).Nodup)
    (hone : ∀ i j n, (d.refresh dirty moved).1.symbols.position? i = some n →
      (d.refresh dirty moved).1.symbols.position? j = some n → i = j) :
    (d.refresh dirty moved).2.Pairwise (·.line < ·.line) := by
  have hne : ((dirty ++ moved).filterMap (d.refresh dirty moved).1.styledLine?).Pairwise
      (·.line ≠ ·.line) := by
    refine List.pairwise_filterMap.2 (hnd.imp fun hid l hl m hm hline => hid ?_)
    rw [styledLine?, Option.map_eq_some_iff] at hl hm
    obtain ⟨i, hi, rfl⟩ := hl
    obtain ⟨j, hj, rfl⟩ := hm
    obtain rfl : i = j := hline
    exact hone _ _ _ hi hj
  have hsorted := @List.pairwise_mergeSort _ (fun a b : StyledLine => a.line ≤ b.line)
    (fun a b c hab hbc => by simp only [decide_eq_true_eq] at *; omega)
    (fun a b => by simp only [Bool.or_eq_true, decide_eq_true_eq]; omega)
    ((dirty ++ moved).filterMap (d.refresh dirty moved).1.styledLine?)
  have hdistinct := ((List.mergeSort_perm _ fun a b : StyledLine => a.line ≤ b.line).pairwise_iff
    (fun h => Ne.symm h)).2 hne
  exact (hsorted.and hdistinct).imp fun h => Nat.lt_of_le_of_ne (of_decide_eq_true h.1) h.2

/-- A line with a number that was neither lexed nor moved is where it was, with the text it had. -/
theorem Idle.getElem?_lines_of_not_mem {es : List Change} (S : d.Idle)
    (hL : Shows d (fun _ => False) L) (D : d.buffer.Diff es c) (hnd : c.ids.Nodup)
    (hm : c.lines[i]? = some m) (hnumber : (replay L.line? es m.id).isSome)
    (hdirty : m.id ∉ (followLog { d with buffer := c }).2.dirty)
    (hmoved : m.id ∉ (followLog { d with buffer := c }).2.moved) :
    d.buffer.lines[i]? = some m ∧ d.knows m.id := by
  have hes : c.log = es := by rw [D.log, S.log, List.nil_append]
  have hgone : .removed m.id ∉ es := fun h =>
    (D.gone _ h).1 (List.mem_map_of_mem (List.mem_of_getElem? hm))
  rw [followLog] at hdirty hmoved
  simp only [hes] at hdirty hmoved
  rw [mem_dirty_follow_all hgone, not_or, not_or, not_exists] at hdirty
  have hline := line?_of_not_mem_moved hL.keeps hgone hdirty.2.2 hmoved
  rw [Ledger.line?_follow_all] at hline
  have hknown := ((hL.places.replay_isSome D S.wellFormed).1 hnumber).2
  have hc := hL.places.replay_eq D S.wellFormed hknown
  rw [Buffer.indexOf?_eq, (Buffer.place_eq_some_iff hnd).2 (by rw [hm, Option.map_some]), hline] at hc
  obtain ⟨k, hk⟩ := List.mem_iff_getElem?.1
    (D.kept m (List.mem_of_getElem? hm) hdirty.2.1 hdirty.2.2)
  have hb := hL.places m.id i hc
  rw [Buffer.indexOf?_eq,
    (Buffer.place_eq_some_iff S.wellFormed.nodup).2 (by rw [hk, Option.map_some])] at hb
  obtain rfl : k = i := Option.some.inj hb
  exact ⟨hk, hL.knows_iff.2 (Option.isSome_of_eq_some hc)⟩

theorem nodup_toList (ids : Std.TreeSet LineId) : ids.toList.Nodup :=
  Std.TreeSet.ordered_toList.imp fun h => Nat.ne_of_lt (Nat.compare_eq_lt.1 h)

/-- No line is lexed twice, or reported as moved if it was lexed. -/
theorem nodup_backlog (todo : Backlog) :
    (todo.dirty.toList ++ todo.moved.toList.filter fun id => !todo.dirty.contains id).Nodup := by
  refine List.nodup_append.2 ⟨nodup_toList _, (nodup_toList _).filter _, fun i hi j hj hij => ?_⟩
  rw [List.mem_filter] at hj
  subst hij
  rw [Std.TreeSet.mem_iff_contains.1 (Std.TreeSet.mem_toList.1 hi)] at hj
  cases hj.2

/-- A flush reports the lines that it lexes and those that it finds moved. -/
theorem exists_reported (d : Document) : ∃ ids : List LineId,
    (∀ l, l ∈ d.flushed.2 ↔ ∃ id ∈ ids, d.flushed.1.styledLine? id = some l) ∧
    ∀ id, id ∉ ids → id ∉ d.followLog.2.dirty ∧ id ∉ d.followLog.2.moved := by
  by_cases h : d.buffer.log = []
  · refine ⟨[], fun l => ?_, fun id _ => ?_⟩
    · rw [flushed_eq_of_log_eq_nil h]
      exact iff_of_false List.not_mem_nil fun ⟨_, hid, _⟩ => List.not_mem_nil hid
    · rw [followLog, h]
      exact ⟨Std.TreeSet.not_mem_emptyc, Std.TreeSet.not_mem_emptyc⟩
  · refine ⟨d.followLog.2.dirty.toList ++
      d.followLog.2.moved.toList.filter fun id => !d.followLog.2.dirty.contains id,
      fun l => ?_, fun id hid => ?_⟩
    · rw [flushed_eq_refresh h, mem_refresh]
    · have hdirty : id ∉ d.followLog.2.dirty := fun h =>
        hid (List.mem_append_left _ (Std.TreeSet.mem_toList.2 h))
      refine ⟨hdirty, fun h => hid (List.mem_append_right _ (List.mem_filter.2 ⟨?_, ?_⟩))⟩
      · exact Std.TreeSet.mem_toList.2 h
      · rwa [Bool.not_eq_true', ← Bool.not_eq_true, ← Std.TreeSet.mem_iff_contains]

theorem pairwise_flushed (hone : ∀ i j n, d.flushed.1.symbols.position? i = some n →
    d.flushed.1.symbols.position? j = some n → i = j) :
    d.flushed.2.Pairwise (·.line < ·.line) := by
  by_cases h : d.buffer.log = []
  · rw [flushed_eq_of_log_eq_nil h]
    exact .nil
  · rw [flushed_eq_refresh h] at hone ⊢
    exact pairwise_refresh (nodup_backlog d.followLog.2) hone

/-- What a flush reports makes up for all that happened to the lines that are known. -/
theorem Idle.covers_flushed (S : d.Idle) (H : Buffer.Steps maxIndex d.buffer c) :
    Covers (Document.flushed { d with buffer := c }).2 d
      (Document.flushed { d with buffer := c }).1 := by
  have W := Buffer.Steps.wellFormed H S.wellFormed
  obtain ⟨es, D⟩ := Buffer.Steps.diff H S.wellFormed S.fits
  have hes : c.log = es := by rw [D.log, S.log, List.nil_append]
  obtain ⟨L, hL⟩ := S.shows
  obtain ⟨L', hL', hline⟩ := (hL.behind D S.log S.wellFormed).flushed W.nodup
  obtain ⟨ids, hmem, hnot⟩ := exists_reported { d with buffer := c }
  have hnd := (wellFormed_flushed (d := { d with buffer := c }) W).nodup
  refine ⟨fun l hl => ?_, fun i id hi hknown hrest => ?_, fun i id hi hknown => ⟨?_, fun l hl => ?_⟩,
    pairwise_flushed fun i j n hi hj => ?_⟩
  · obtain ⟨id, -, hl⟩ := (hmem l).1 hl
    exact hL'.getElem?_styling_of_styledLine? hnd hl
  · have hunreported : id ∉ ids := fun hid => by
      have hposition := hL'.position?_of_knows hnd hi hknown
      exact hrest _ ((hmem _).2 ⟨id, hid, congrArg (Option.map _) hposition⟩) rfl
    obtain ⟨hdirty, hmoved⟩ := hnot id hunreported
    have hi' := hi
    rw [ids_flushed, Buffer.ids, List.getElem?_map, Option.map_eq_some_iff] at hi'
    obtain ⟨m, hm, rfl⟩ := hi'
    have hnumber := hL'.knows_iff.1 hknown
    rw [hline, hes] at hnumber
    obtain ⟨hb, hold⟩ := S.getElem?_lines_of_not_mem hL D W.nodup hm hnumber hdirty hmoved
    obtain ⟨m', hm', hid, htext⟩ := exists_line_flushed hm
    rw [hL.getElem?_styling_of_knows hb hold,
      hL'.getElem?_styling_of_knows hm' (hid ▸ hknown), htext, table_flushed]
  · exact hL'.getElem?_styling_of_not_knows hi hknown
  · rintro rfl
    obtain ⟨j, -, hl⟩ := (hmem l).1 hl
    rw [styledLine?, Option.map_eq_some_iff] at hl
    obtain ⟨line, hposition, rfl⟩ := hl
    obtain rfl : j = id := Option.some.inj ((hL'.getElem?_ids hnd hposition).symm.trans hi)
    exact hknown (Option.isSome_of_eq_some hposition)
  · exact Option.some.inj ((hL'.getElem?_ids hnd hi).symm.trans (hL'.getElem?_ids hnd hj))

/-! ## Commands -/

/-- A command that changes a document. -/
inductive Mutation
  | revise (r : Revision)
  | replaceUntil (pattern new : Text) (cancelled : Option Nat)
deriving DecidableEq

/-- Runs the command and returns the lines to paint anew. -/
def Mutation.run : Mutation → EditM Document (List StyledLine)
  | .revise r => Outcome.repaint <$> r.run
  | .replaceUntil pattern new cancelled =>
    ReplaceOutcome.repaint <$> Document.replaceUntil pattern new cancelled

/-- An accepted command goes by steps on the buffer, and then flushes. -/
theorem Idle.exists_of_mutation (S : d.Idle) {m : Mutation} {repaint : List StyledLine}
    (h : m.run.outcome d = (.ok repaint, d')) (F : d'.buffer.Fits) :
    ∃ c, Buffer.Steps maxIndex d.buffer c ∧ c.Fits ∧
      Document.flushed { d with buffer := c } = (d', repaint) := by
  cases m with
  | revise r =>
    rw [Mutation.run, EditM.outcome_map] at h
    rcases hr : r.run.outcome d with ⟨e | o, d''⟩
    · rw [hr] at h
      cases h
    · rw [hr] at h
      cases h
      obtain ⟨c, hc, ho, hd⟩ := Revision.exists_of_run hr
      have F' : c.Fits := by rwa [hd, fits_flushed] at F
      have H : _ → Buffer.Steps maxIndex d.buffer _ := (r.sound S.wellFormed d.options.tabstop).steps
      rw [hc] at H
      exact ⟨c, H F', F', Prod.ext hd.symm ho.symm⟩
  | replaceUntil pattern new cancelled =>
    rw [Mutation.run, EditM.outcome_map, outcome_replaceUntil] at h
    have H : _ → Buffer.Steps maxIndex d.buffer _ :=
      (Edit.sound_replaceUntil (R := Pattern.Program) S.wellFormed pattern new d.options.searchFlags
        cancelled).steps
    rcases hc : (Edit.replaceUntil pattern new d.options.searchFlags cancelled).outcome d.buffer
      with ⟨e | n, c⟩
    · rw [hc] at h
      cases h
    · rw [hc] at h H
      cases h
      have F' : c.Fits := (fits_flushed _).1 F
      exact ⟨c, H F', F', rfl⟩

/-- With the reported lines painted, the rest of the screen is right just if the lines that are not
known had no styling before. -/
theorem Covers.painted_iff {repaint : List StyledLine} (C : Covers repaint d d') :
    (∀ blank, painted (resized blank d'.buffer.lineCount d.styling) repaint = d'.styling) ↔
      ∀ (i : Nat) id, d'.buffer.ids[i]? = some id →
        d'.knows id ∨ d.styling[i]? = some ⟨i, []⟩ := by
  rw [painted_resized_iff (length_styling d') C.right]
  constructor
  · intro h i id hi
    by_cases hknown : d'.knows id
    · exact .inl hknown
    · obtain ⟨hstyling, hne⟩ := C.missed i id hi hknown
      have hlt : i < d'.buffer.lineCount := by
        rw [← Buffer.length_ids]
        exact (List.getElem?_eq_some_iff.1 hi).1
      exact .inr ((h i hlt hne).trans hstyling)
  · intro h i hlt hne
    rw [← Buffer.length_ids] at hlt
    have hi := List.getElem?_eq_getElem hlt
    by_cases hknown : d'.knows d'.buffer.ids[i]
    · exact C.rest i _ hi hknown hne
    · rw [(h i _ hi).resolve_left hknown, (C.missed i _ hi hknown).1]

/-- A screen that showed the styled lines before an accepted command is cut or padded to the number of
lines, and the reported lines are painted. These are given in ascending order, none twice, and all exist.
The screen shows the styled lines after the command then, iff each line that the document does not know
got the place of a line without styling. It always does if the log of the buffer was not drained before
it was opened. -/
theorem repaint_suffices_iff (S : Session d) {m : Mutation} {repaint : List StyledLine}
    (h : m.run.outcome d = (.ok repaint, d')) (fits : d'.buffer.Fits) :
    ∃ before after, styledLines.result d = .ok before ∧ styledLines.result d' = .ok after ∧
      repaint.Pairwise (·.line < ·.line) ∧ (∀ l ∈ repaint, l.line < d'.buffer.lineCount) ∧
      ((∀ blank, painted (resized blank d'.buffer.lineCount before) repaint = after) ↔
        ∀ (i : Nat) id, d'.buffer.ids[i]? = some id → d'.knows id ∨ before[i]? = some ⟨i, []⟩) ∧
      ∀ table, Reachable table d →
        ∀ blank, painted (resized blank d'.buffer.lineCount before) repaint = after := by
  obtain ⟨c, hsteps, F, hflushed⟩ := S.idle.exists_of_mutation h fits
  have C := S.idle.covers_flushed hsteps
  have hlog := log_flushed { d with buffer := c }
  have hknown (table : InstructionTable) (H : Reachable table d) (id : LineId)
      (hid : id ∈ (Document.flushed { d with buffer := c }).1.buffer.ids) :=
    (H.settled.1.flushed hsteps F).knows hid
  rw [hflushed] at C hlog hknown
  refine ⟨d.styling, d'.styling, result_styledLines S.log, result_styledLines hlog, C.ascending,
    fun l hl => ?_, C.painted_iff, fun table H => C.painted_iff.2 fun i id hi => ?_⟩
  · rw [← length_styling]
    exact (List.getElem?_eq_some_iff.1 (C.right l hl)).1
  · exact .inl (hknown table H id (List.mem_of_getElem? hi))

/-- The middle one of three lines is deleted. Only the line that moved up is reported. -/
theorem repaint_suffices_iff_delete :
    let d := ofText "end\n\njump x".toList .stock
    let m := Mutation.revise (.deleteLines ⟨⟨1, 0⟩, ⟨1, 0⟩⟩)
    ∃ before repaint after d', m.run.outcome d = (.ok repaint, d') ∧
      before.length = 3 ∧ repaint.map (·.line) = [1] ∧ styledLines.result d' = .ok after ∧
      painted (resized ⟨0, []⟩ 2 before) repaint = after := by
  intro d m
  have hd : Reachable .stock d := .opened (.ofText _ (by decide)) .refl
  have hrun : ∃ repaint, (m.run.outcome d).1 = .ok repaint ∧ repaint.map (·.line) = [1] :=
    ⟨_, rfl, by decide +kernel⟩
  obtain ⟨repaint, hrepaint, hline⟩ := hrun
  have hcount : (m.run.outcome d).2.buffer.lineCount = 2 := by decide +kernel
  have hfits : (m.run.outcome d).2.buffer.Fits := by decide +kernel
  have hm : m.run.outcome d = (.ok repaint, (m.run.outcome d).2) := Prod.ext hrepaint rfl
  obtain ⟨before, after, hbefore, hafter, -, -, -, hpainted⟩ :=
    repaint_suffices_iff hd.session hm hfits
  have hpainted := hpainted _ hd
  rw [hcount] at hpainted
  refine ⟨before, repaint, after, _, hm, ?_, hline, hafter, hpainted _⟩
  rw [result_styledLines hd.session.log] at hbefore
  cases hbefore
  exact (length_styling d).trans (by decide)

/-- A text is drained, a line is put in below it, and then moved up. The line that was drained comes
below it, but is not reported, and keeps the colours of the other one. -/
theorem not_repaint_suffices :
    let b := Buffer.Op.apply (.insertLines 1 ["set x 1".toList]) (Buffer.ofText "end".toList).clearLog
    let d := ofBuffer b .stock
    let m := Mutation.revise (.moveUp ⟨⟨1, 0⟩, ⟨1, 0⟩⟩)
    Session d ∧ ∃ repaint d', m.run.outcome d = (.ok repaint, d') ∧ d'.buffer.Fits ∧
      repaint.map (·.line) = [0] ∧ ∃ before after, styledLines.result d = .ok before ∧
        styledLines.result d' = .ok after ∧ before.length = 2 ∧
        painted (resized ⟨0, []⟩ 2 before) repaint ≠ after := by
  intro b d m
  have hb : b.Reachable := by
    refine ⟨_, .ofText "end".toList (by decide), .tail (.single .drain) (.event (.op (.apply _ ?_)))⟩
    decide
  have hd : Session d := .opened hb .stock
  have hrun : ∃ repaint, (m.run.outcome d).1 = .ok repaint ∧ repaint.map (·.line) = [0] ∧
      painted (resized ⟨0, []⟩ 2 d.styling) repaint ≠ (m.run.outcome d).2.styling :=
    ⟨_, rfl, by decide +kernel, by decide +kernel⟩
  obtain ⟨repaint, hrepaint, hline, hne⟩ := hrun
  have hlog : (m.run.outcome d).2.buffer.log = [] := by decide +kernel
  exact ⟨hd, repaint, _, Prod.ext hrepaint rfl, by decide +kernel, hline, d.styling, _,
    result_styledLines hd.log, result_styledLines hlog, by decide +kernel, hne⟩

end Document
end LogicEditor
