import LogicEditor.Proofs.Document.Relex

/-!
# Flushing restores what is shown

A document need not know all lines of its buffer: if the log of the buffer was drained before it was
opened, it has no number for the lines that the log does not report. `Document.Shows` says that it has a
wrong number for no line, keeps nothing for a line that it has no number for, and has the right tokens,
names and styling for each other line that is not dirty. This holds after a flush if it held, but for
the log, before (`Document.Behind.flushed`), whatever was in the log. If the numbers lead to all lines,
the document is up to date (`Document.UpToDate`), and stays so.
-/

namespace LogicEditor

variable {b c : Buffer} {id : LineId} {line : Nat} {tokens : List Token} {above below : List Line}
  {l : Line} {es : List Change}

namespace Buffer

/-- Changes that are none leave every line as it was. -/
theorem Diff.lines_eq (D : Diff b [] c) (hb : b.ids.Nodup) (hc : c.ids.Nodup) :
    c.lines = b.lines := by
  have hplace : place b.lines = place c.lines := D.numbers
  refine List.ext_getElem? fun i => ?_
  cases hi : c.lines[i]? with
  | none =>
    cases hb' : b.lines[i]? with
    | none => rfl
    | some l =>
      have : place c.lines l.id = some i := by
        rw [← hplace, place_eq_some_iff hb, hb', Option.map_some]
      rw [place_eq_some_iff hc, hi] at this
      cases this
  | some l =>
    obtain ⟨k, hk⟩ := List.mem_iff_getElem?.1
      (D.kept l (List.mem_of_getElem? hi) List.not_mem_nil fun _ => List.not_mem_nil)
    have hpb : place b.lines l.id = some k := by rw [place_eq_some_iff hb, hk, Option.map_some]
    have hpc : place c.lines l.id = some i := by rw [place_eq_some_iff hc, hi, Option.map_some]
    obtain rfl : i = k := Option.some.inj (hpc.symm.trans (hplace ▸ hpb))
    exact hk.symm

end Buffer

namespace Document

variable {d : Document} {dirty : LineId → Prop} {L : Ledger}

/-! ## What is shown -/

/-- The line is shown as it is lexed: its tokens, its names and its styling. -/
structure Shown (d : Document) (L : Ledger) (l : Line) : Prop where
  tokens : l.tokens? = some (tokenize d.table l.text)
  mentions : L.mentions l.id = mentionsOf l.text (tokenize d.table l.text)
  styles : d.styles.get? l.id = some (styleLine (tokenize d.table l.text))

/-- The document has a wrong number for no line. It keeps nothing for what it has no number for, and
shows all other lines that are not dirty. -/
structure Shows (d : Document) (dirty : LineId → Prop) (L : Ledger) : Prop where
  keeps : d.symbols.Keeps L
  places : d.buffer.Places L.line?
  shown : ∀ l ∈ d.buffer.lines, (L.line? l.id).isSome → ¬dirty l.id → Shown d L l
  absent : ∀ id, L.line? id = none → L.mentions id = [] ∧ d.styles.get? id = none

/-- The same of a document whose buffer went on: the log leads to no wrong number, and what it does not
name is shown as before. -/
structure Behind (d : Document) (L : Ledger) : Prop where
  keeps : d.symbols.Keeps L
  places : d.buffer.Places (replay L.line? d.buffer.log)
  shown : ∀ l ∈ d.buffer.lines, (replay L.line? d.buffer.log l.id).isSome →
    .edited l.id ∉ d.buffer.log → (∀ line, .inserted l.id line ∉ d.buffer.log) → Shown d L l
  absent : ∀ id, replay L.line? d.buffer.log id = none → .removed id ∉ d.buffer.log →
    L.mentions id = [] ∧ d.styles.get? id = none
  gone : ∀ id, .removed id ∈ d.buffer.log → id ∉ d.buffer.ids

/-- A document is behind its buffer once the buffer has changed. -/
theorem Shows.behind (S : Shows d (fun _ => False) L) (D : d.buffer.Diff es c)
    (hlog : d.buffer.log = []) (W : d.buffer.WellFormed) : Behind { d with buffer := c } L := by
  have hes : c.log = es := by rw [D.log, hlog, List.nil_append]
  subst hes
  refine ⟨S.keeps, S.places.diff D W, fun l hl hnumber hedited hnew => ?_, fun id hnone hgone => ?_,
    fun id h => (D.gone id h).1⟩
  · have hsome := ((S.places.replay_isSome D W).1 hnumber).2
    have hold := S.shown l (D.kept l hl hedited hnew) (hsome.resolve_left (not_exists.2 hnew)) not_false
    exact ⟨hold.tokens, hold.mentions, hold.styles⟩
  · -- a line that had a number and has none now is gone, and the log says so
    refine S.absent id (Option.not_isSome_iff_eq_none.1 fun hsome => hgone ?_)
    obtain ⟨l, hl, rfl⟩ := S.places.exists_line hsome
    refine D.removed l.id (List.mem_map_of_mem hl) fun hid => ?_
    have := (S.places.replay_isSome D W).2 ⟨hid, .inr hsome⟩
    have hnone : replay L.line? c.log l.id = none := hnone
    rw [hnone] at this
    cases this

/-! ## Following -/

theorem followLog_buffer (d : Document) : d.followLog.1.buffer = d.buffer.clearLog :=
  buffer_follow_all d.buffer.log ({ d with buffer := d.buffer.clearLog }, {})

theorem followLog_table (d : Document) : d.followLog.1.table = d.table :=
  table_follow_all d.buffer.log ({ d with buffer := d.buffer.clearLog }, {})

/-- After the log was followed, the lines that it named as edited or new are dirty. -/
theorem Behind.followLog (B : Behind d L) : Shows d.followLog.1 (· ∈ d.followLog.2.dirty)
    (d.buffer.log.foldl Ledger.follow L) := by
  refine ⟨keeps_follow_all B.keeps d.buffer.log, ?_, fun l hl hnumber hdirty => ?_,
    fun id hnone => ?_⟩
  · rw [Ledger.line?_follow_all, followLog_buffer]
    exact B.places
  · rw [followLog_buffer] at hl
    have hgone : .removed l.id ∉ d.buffer.log := fun h => B.gone _ h (List.mem_map_of_mem hl)
    rw [Document.followLog, mem_dirty_follow_all hgone, not_or, not_or, not_exists] at hdirty
    rw [Ledger.line?_follow_all] at hnumber
    have hold := B.shown l hl hnumber hdirty.2.1 hdirty.2.2
    refine ⟨?_, ?_, ?_⟩
    · rw [followLog_table]
      exact hold.tokens
    · rw [Ledger.mentions_follow_all, if_neg hgone, followLog_table]
      exact hold.mentions
    · rw [Document.followLog, styles_follow_all, if_neg hgone, table_follow_all]
      exact hold.styles
  · rw [Ledger.line?_follow_all] at hnone
    rw [Ledger.mentions_follow_all, Document.followLog, styles_follow_all]
    split
    · exact ⟨rfl, rfl⟩
    · exact B.absent id hnone ‹_›

/-! ## Lexing -/

/-- Lexing lines makes them clean. -/
theorem Shows.relex_all (S : Shows d dirty L) (hnd : d.buffer.ids.Nodup) (ids : List LineId) :
    ∃ L', Shows (ids.foldl Document.relex d) (fun j => dirty j ∧ j ∉ ids) L' ∧ L'.line? = L.line? := by
  obtain ⟨L', R⟩ := exists_relexed_all S.keeps S.places hnd ids
  refine ⟨L', ⟨R.keeps, ?_, fun l hl hnumber hdirty => ?_, fun id hnone => ?_⟩, R.numbers⟩
  · rw [R.numbers, Buffer.Places, Buffer.indexOf?_congr R.ids]
    exact S.places
  · rw [R.lines] at hl
    obtain ⟨m, hm, rfl⟩ := List.mem_map.1 hl
    rw [id_relexedLine] at hnumber hdirty
    rw [R.numbers] at hnumber
    cases hdue : L.due ids m.id with
    | true =>
      obtain ⟨hmentions, hstyles⟩ := R.fresh m hm hdue
      rw [relexedLine_of_due hdue]
      exact ⟨by rw [R.table], by rw [R.table, hmentions], by rw [R.table, hstyles]⟩
    | false =>
      obtain ⟨hmentions, hstyles⟩ := R.kept m.id hdue
      -- the line has a number, so it was not asked for
      have hids : m.id ∉ ids := fun hmem => by
        rw [Ledger.due_iff.2 ⟨hmem, hnumber⟩] at hdue
        cases hdue
      have hshown := S.shown m hm hnumber fun h => hdirty ⟨h, hids⟩
      rw [relexedLine_of_not_due hdue]
      exact ⟨by rw [R.table, hshown.tokens], by rw [R.table, hmentions, hshown.mentions],
        by rw [R.table, hstyles, hshown.styles]⟩
  · rw [R.numbers] at hnone
    obtain ⟨hmentions, hstyles⟩ := R.kept id (Ledger.due_eq_false (.inr hnone))
    rw [hmentions, hstyles]
    exact S.absent id hnone

/-! ## Flushing -/

theorem Shows.renumber (S : Shows d dirty L) : Shows d.renumber dirty L where
  keeps := S.keeps
  places := S.places
  shown l hl hnumber h :=
    have hshown := S.shown l hl hnumber h
    ⟨hshown.tokens, hshown.mentions, hshown.styles⟩
  absent := S.absent

theorem refresh_bare (d : Document) (dirty moved : List LineId) :
    (d.refresh dirty moved).1.buffer.bare = d.buffer.bare := bare_relex_all dirty d

theorem refresh_table (d : Document) (dirty moved : List LineId) :
    (d.refresh dirty moved).1.table = d.table := table_relex_all dirty d

/-- Lexing all dirty lines, in whatever order, makes all lines clean. -/
theorem Shows.refresh (S : Shows d dirty L) (hnd : d.buffer.ids.Nodup) {ids : List LineId}
    (hids : ∀ id, dirty id → id ∈ ids) (moved : List LineId) :
    ∃ L', Shows (d.refresh ids moved).1 (fun _ => False) L' ∧ L'.line? = L.line? := by
  obtain ⟨L', S', hline⟩ := S.relex_all hnd ids
  have hclean : (fun j => dirty j ∧ j ∉ ids) = fun _ => False := by
    funext j
    exact eq_false fun h => h.2 (hids j h.1)
  rw [hclean] at S'
  exact ⟨L', S'.renumber, hline⟩

theorem flushed_of_log_eq_nil (h : d.buffer.log = []) : d.flushed.1 = d := by
  rw [flushed, if_pos (by rw [h]; rfl)]

theorem flushed_eq_refresh (h : d.buffer.log ≠ []) : d.flushed =
    d.followLog.1.refresh d.followLog.2.dirty.toList
      (d.followLog.2.moved.toList.filter fun id => !d.followLog.2.dirty.contains id) := by
  rw [flushed, if_neg (by simpa using h)]

theorem flushed_of_log_ne_nil (h : d.buffer.log ≠ []) : d.flushed.1 =
    (d.followLog.1.refresh d.followLog.2.dirty.toList
      (d.followLog.2.moved.toList.filter fun id => !d.followLog.2.dirty.contains id)).1 :=
  congrArg Prod.fst (flushed_eq_refresh h)

theorem bare_flushed (d : Document) : d.flushed.1.buffer.bare = d.buffer.clearLog.bare := by
  by_cases h : d.buffer.log = []
  · rw [flushed_of_log_eq_nil h, Buffer.clearLog, ← h]
  · rw [flushed_of_log_ne_nil h, refresh_bare, followLog_buffer]

theorem ids_flushed (d : Document) : d.flushed.1.buffer.ids = d.buffer.ids := by
  rw [← Buffer.ids_bare, bare_flushed, Buffer.ids_bare]
  rfl

theorem texts_flushed (d : Document) : d.flushed.1.buffer.texts = d.buffer.texts := by
  rw [← Buffer.texts_bare, bare_flushed, Buffer.texts_bare]
  rfl

theorem exists_line_flushed {i : Nat} {l : Line} (h : d.buffer.lines[i]? = some l) :
    ∃ m, d.flushed.1.buffer.lines[i]? = some m ∧ m.id = l.id ∧ m.text = l.text := by
  have hid := congrArg (·[i]?) (ids_flushed d)
  have htext := congrArg (·[i]?) (texts_flushed d)
  simp only [Buffer.ids, Buffer.texts, List.getElem?_map, h, Option.map_some] at hid htext
  obtain ⟨m, hm, hml⟩ := Option.map_eq_some_iff.1 hid
  rw [hm, Option.map_some, Option.some.injEq] at htext
  exact ⟨m, hm, hml, htext⟩

theorem table_flushed (d : Document) : d.flushed.1.table = d.table := by
  by_cases h : d.buffer.log = []
  · rw [flushed_of_log_eq_nil h]
  · rw [flushed_of_log_ne_nil h, refresh_table, followLog_table]

/-- A flush numbers the code lines by the tokens that the lines have after it. -/
theorem codeLines_flushed (h : d.buffer.log ≠ []) : d.flushed.1.codeLines =
    numberCode 0 (d.flushed.1.buffer.lines.map fun l => isCode (d.flushed.1.tokensOf l)) := by
  rw [flushed_of_log_ne_nil h]
  rfl

/-- Flushing a document that is behind its buffer shows all lines that have a number. -/
theorem Behind.flushed (B : Behind d L) (hnd : d.buffer.ids.Nodup) :
    ∃ L', Shows d.flushed.1 (fun _ => False) L' ∧ L'.line? = replay L.line? d.buffer.log := by
  by_cases h : d.buffer.log = []
  · obtain ⟨hkeeps, hplaces, hshown, habsent, -⟩ := B
    rw [h, replay_nil] at hplaces hshown habsent
    rw [flushed_of_log_eq_nil h, h]
    exact ⟨L, ⟨hkeeps, hplaces, fun l hl hnumber _ =>
      hshown l hl hnumber List.not_mem_nil fun _ => List.not_mem_nil,
      fun id hnone => habsent id hnone List.not_mem_nil⟩, rfl⟩
  · have hnd' : d.followLog.1.buffer.ids.Nodup := by
      rw [followLog_buffer]
      exact hnd
    rw [flushed_of_log_ne_nil h, ← Ledger.line?_follow_all]
    exact B.followLog.refresh hnd' (fun id hid => Std.TreeSet.mem_toList.2 hid) _

/-- A flush leaves a line as it is that has no number. -/
theorem Behind.mem_flushed {l : Line} (B : Behind d L) (hnd : d.buffer.ids.Nodup)
    (hl : l ∈ d.buffer.lines) (hnone : replay L.line? d.buffer.log l.id = none) :
    l ∈ d.flushed.1.buffer.lines := by
  by_cases h : d.buffer.log = []
  · rwa [flushed_of_log_eq_nil h]
  · have hnd' : d.followLog.1.buffer.ids.Nodup := by
      rw [followLog_buffer]
      exact hnd
    obtain ⟨L', R⟩ := exists_relexed_all B.followLog.keeps B.followLog.places hnd'
      d.followLog.2.dirty.toList
    rw [← Ledger.line?_follow_all] at hnone
    have hlines := R.lines
    rw [followLog_buffer] at hlines
    rw [flushed_of_log_ne_nil h]
    show l ∈ (d.followLog.2.dirty.toList.foldl relex d.followLog.1).buffer.lines
    rw [hlines]
    refine List.mem_map.2 ⟨l, hl, relexedLine_of_not_due ?_⟩
    exact Ledger.due_eq_false (.inr hnone)

/-! ## Documents that know all lines -/

/-- Whether each line of the document holds code. -/
def codeMarks (d : Document) : List Bool :=
  d.buffer.texts.map fun t => isCode (tokenize d.table t)

/-- The document shows its lines and has a number for each. -/
structure ShowsAll (d : Document) (L : Ledger) : Prop where
  shows : Shows d (fun _ => False) L
  numbers : L.line? = d.buffer.indexOf?

/-- All that the document shows is as if it were computed anew. -/
structure UpToDate (d : Document) : Prop where
  shows : ∃ L, ShowsAll d L
  codeLines : d.codeLines = numberCode 0 d.codeMarks

section
variable {l : Line} (S : ShowsAll d L)
include S

theorem ShowsAll.shown (hl : l ∈ d.buffer.lines) : Shown d L l := by
  refine S.shows.shown l hl ?_ not_false
  rw [S.numbers, Option.isSome_iff_ne_none, ne_eq, Buffer.indexOf?_eq, Buffer.place_eq_none, not_not]
  exact List.mem_map_of_mem hl

theorem ShowsAll.absent (hid : id ∉ d.buffer.ids) : L.mentions id = [] ∧ d.styles.get? id = none := by
  refine S.shows.absent id ?_
  rw [S.numbers, Buffer.indexOf?_eq, Buffer.place_eq_none]
  exact hid

/-- If the tokens of all lines are known, numbering by them is numbering by the texts. -/
theorem ShowsAll.map_isCode :
    d.buffer.lines.map (fun l => isCode (d.tokensOf l)) = d.codeMarks := by
  rw [codeMarks, Buffer.texts, List.map_map]
  refine List.map_congr_left fun l hl => ?_
  rw [tokensOf, (S.shown hl).tokens, Option.getD_some]
  rfl

end

/-- Flushing brings a document up to date with its buffer if the log leads to the numbers of all lines,
and, where there is nothing in the log, if the code lines are numbered. -/
theorem Behind.upToDate (B : Behind d L) (hnd : d.buffer.ids.Nodup)
    (hnumbers : replay L.line? d.buffer.log = d.buffer.indexOf?)
    (hcode : d.buffer.log = [] → d.codeLines = numberCode 0 d.codeMarks) : d.flushed.1.UpToDate := by
  obtain ⟨L', S, hline⟩ := B.flushed hnd
  have S' : ShowsAll d.flushed.1 L' :=
    ⟨S, by rw [hline, hnumbers, Buffer.indexOf?_congr (ids_flushed d)]⟩
  refine ⟨⟨L', S'⟩, ?_⟩
  by_cases h : d.buffer.log = []
  · rw [flushed_of_log_eq_nil h]
    exact hcode h
  · rw [codeLines_flushed h, S'.map_isCode]

/-- A document stays up to date when its buffer changes and it is flushed. -/
theorem UpToDate.flushed (U : d.UpToDate) (D : d.buffer.Diff es c) (hlog : d.buffer.log = [])
    (W : d.buffer.WellFormed) (hc : c.ids.Nodup) :
    (Document.flushed { d with buffer := c }).1.UpToDate := by
  obtain ⟨L, S⟩ := U.shows
  have hes : c.log = es := by rw [D.log, hlog, List.nil_append]
  subst hes
  refine (S.shows.behind D hlog W).upToDate hc ?_ fun h => ?_
  · rw [S.numbers]
    exact D.numbers
  · have h : c.log = [] := h
    rw [h] at D
    rw [codeMarks, Buffer.texts]
    simp only [D.lines_eq W.nodup hc]
    exact U.codeLines

end Document
end LogicEditor
