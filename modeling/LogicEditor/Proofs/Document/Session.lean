import LogicEditor.Language.Stock
import LogicEditor.Proofs.Buffer.Comment
import LogicEditor.Proofs.Buffer.Pending
import LogicEditor.Proofs.Document.Refresh

/-!
# Sessions

A session opens a buffer and runs commands on the document, be they accepted or rejected
(`Document.Session`). Between commands the log is empty and all lines that the document knows are shown
(`Document.Idle`), whatever was done to the buffer before. If the log of the buffer was not drained
before it was opened (`Document.Reachable`), it told of all lines then, and the document is up to date
(`Document.Settled`). So what such a document answers is at all times what one would compute from its
text anew (`Document.answers_recomputed`).
-/

namespace LogicEditor

/-! ## Code lines -/

theorem getElem?_numberCode (next : Nat) (marks : List Bool) (i : Nat) :
    (numberCode next marks)[i]? =
      marks[i]?.map fun c => if c then some (next + (marks.take i).count true) else none := by
  induction marks generalizing next i with
  | nil => rfl
  | cons c marks ih =>
    cases i with
    | zero => cases c <;> rfl
    | succ i =>
      cases c with
      | false => simpa [numberCode] using ih next i
      | true =>
        simp only [numberCode, List.getElem?_cons_succ, ih, List.take_succ_cons, List.count_cons_self]
        congr 1
        funext c
        congr 2
        omega

theorem length_numberCode (next : Nat) (marks : List Bool) :
    (numberCode next marks).length = marks.length := by
  induction marks generalizing next with
  | nil => rfl
  | cons mark marks ih =>
    cases mark with
    | false => exact congrArg (· + 1) (ih next)
    | true => exact congrArg (· + 1) (ih (next + 1))

/-- The numbers of code lines follow each other. -/
theorem filterMap_numberCode (next : Nat) (marks : List Bool) :
    (numberCode next marks).filterMap id = List.range' next (marks.count true) := by
  induction marks generalizing next with
  | nil => rfl
  | cons mark marks ih =>
    cases mark with
    | false =>
      rw [numberCode, List.filterMap_cons_none rfl, ih, List.count_cons_of_ne (by decide)]
    | true =>
      have hnext : id (some next) = some next := rfl
      rw [numberCode, List.filterMap_cons_some hnext, ih, List.count_cons_self, List.range'_succ]

namespace Document

variable {d : Document} {b c : Buffer} {table : InstructionTable}

/-! ## Documents between commands -/

/-- Whether the document knows the number of a line. -/
def knows (d : Document) (id : LineId) : Bool := (d.symbols.position? id).isSome

/-- A document between two commands. -/
structure Idle (d : Document) : Prop where
  shows : ∃ L, Shows d (fun _ => False) L
  log : d.buffer.log = []
  wellFormed : d.buffer.WellFormed
  fits : d.buffer.Fits

/-- A document between two commands that knows all lines. -/
structure Settled (d : Document) : Prop where
  upToDate : d.UpToDate
  log : d.buffer.log = []
  wellFormed : d.buffer.WellFormed
  fits : d.buffer.Fits

theorem log_flushed (d : Document) : d.flushed.1.buffer.log = [] :=
  show d.flushed.1.buffer.bare.log = [] by rw [bare_flushed]; rfl

theorem fits_flushed (d : Document) : d.flushed.1.buffer.Fits ↔ d.buffer.Fits := by
  rw [Buffer.Fits, ← Buffer.lineCount_bare, bare_flushed, Buffer.lineCount_bare]
  rfl

theorem wellFormed_flushed (W : d.buffer.WellFormed) : d.flushed.1.buffer.WellFormed := by
  have : d.buffer.clearLog.WellFormed := ⟨W.nonempty, W.nodup, W.below, W.clean⟩
  exact this.of_bare (bare_flushed d)

/-- A document is behind a buffer of which it knows nothing yet. -/
theorem behind_opened (H : b.Reports) (table : InstructionTable) :
    Behind { buffer := b, table } {} where
  keeps := .empty
  places := H.places
  shown l _ hnumber _ hnew := by
    have hnone : replay (fun _ => none) b.log l.id = none := H.others l.id (not_exists.2 hnew)
    exact absurd hnumber (Option.not_isSome_iff_eq_none.2 hnone)
  absent _ _ _ := ⟨rfl, Std.TreeMap.getElem?_emptyc⟩
  gone id h := (H.gone id h).1

theorem idle_ofBuffer (H : b.Reachable) (table : InstructionTable) : (ofBuffer b table).Idle where
  shows :=
    have ⟨L, S, _⟩ := (behind_opened H.reports table).flushed H.wellFormed.nodup
    ⟨L, S⟩
  log := log_flushed _
  wellFormed := wellFormed_flushed H.wellFormed
  fits := (fits_flushed _).2 H.fits

theorem Idle.flushed (S : d.Idle) (H : Buffer.Steps maxIndex d.buffer c) (F : c.Fits) :
    (Document.flushed { d with buffer := c }).1.Idle := by
  have W := Buffer.Steps.wellFormed H S.wellFormed
  obtain ⟨es, D⟩ := Buffer.Steps.diff H S.wellFormed S.fits
  obtain ⟨L, hL⟩ := S.shows
  obtain ⟨L', hL', -⟩ := (hL.behind D S.log S.wellFormed).flushed W.nodup
  exact ⟨⟨L', hL'⟩, log_flushed _, wellFormed_flushed W, (fits_flushed _).2 F⟩

/-- Flushing settles a document whose buffer went by steps since it was settled. -/
theorem Settled.flushed (S : d.Settled) (H : Buffer.Steps maxIndex d.buffer c) (F : c.Fits) :
    (Document.flushed { d with buffer := c }).1.Settled := by
  have W := Buffer.Steps.wellFormed H S.wellFormed
  obtain ⟨es, D⟩ := Buffer.Steps.diff H S.wellFormed S.fits
  exact ⟨S.upToDate.flushed D S.log S.wellFormed W.nodup, log_flushed _,
    wellFormed_flushed W, (fits_flushed _).2 F⟩

/-- Opening settles a document, as the log tells of all lines. -/
theorem settled_ofBuffer {a b : Buffer} (ha : Buffer.New a) (H : Buffer.Undrained a b)
    (table : InstructionTable) : (ofBuffer b table).Settled := by
  obtain ⟨W, F, D⟩ := Buffer.Undrained.diff ha H
  refine ⟨(behind_opened (H.reachable ha).reports table).upToDate W.nodup D.numbers fun h => ?_,
    log_flushed _, wellFormed_flushed W, (fits_flushed _).2 F⟩
  obtain ⟨l, hl⟩ := List.exists_mem_of_ne_nil _ W.nonempty
  obtain ⟨line, hline⟩ := D.inserted l.id (List.mem_map_of_mem hl) List.not_mem_nil
  have h : b.log = [] := h
  rw [h] at hline
  cases hline

/-! ## Commands -/

@[simp] theorem outcome_flush (d : Document) : flush.outcome d = (.ok d.flushed.2, d.flushed.1) := rfl

theorem outcome_attempt {α : Type} (command : EditM Buffer α) (d : Document) :
    (attempt command).outcome d =
      (.ok (command.outcome d.buffer).1, { d with buffer := (command.outcome d.buffer).2 }) := rfl

theorem outcome_edit (command : EditM Buffer Selection) (d : Document) :
    (edit command).outcome d =
      match command.outcome d.buffer with
      | (.ok sel, c) =>
        (.ok ⟨sel, (flushed { d with buffer := c }).2⟩, (flushed { d with buffer := c }).1)
      | (.error e, c) => (.error e, { d with buffer := c }) := by
  rw [edit, EditM.outcome_bind, outcome_attempt]
  rcases command.outcome d.buffer with ⟨_ | _, _⟩ <;> rfl

theorem snd_outcome_edit (command : EditM Buffer Selection) (d : Document) :
    ((edit command).outcome d).2 =
      match command.outcome d.buffer with
      | (.ok _, c) => (flushed { d with buffer := c }).1
      | (.error _, c) => { d with buffer := c } := by
  rw [outcome_edit]
  rcases command.outcome d.buffer with ⟨_ | _, _⟩ <;> rfl

theorem outcome_insertTab (sel : Selection) (d : Document) :
    (insertTab sel).outcome d = (edit (Edit.insertTab d.options.tabstop sel)).outcome d := by
  rw [insertTab, EditM.outcome_bind, EditM.outcome_get]

theorem outcome_replaceUntil (pattern new : Text) (cancelled : Option Nat) (d : Document) :
    (replaceUntil pattern new cancelled).outcome d =
      match (Edit.replaceUntil pattern new d.options.searchFlags cancelled).outcome d.buffer with
      | (.ok n, c) =>
        (.ok ⟨n, (flushed { d with buffer := c }).2⟩, (flushed { d with buffer := c }).1)
      | (.error e, c) => (.error e, (flushed { d with buffer := c }).1) := by
  rw [replaceUntil, EditM.outcome_bind, EditM.outcome_get]
  simp only [EditM.outcome_bind, outcome_attempt, outcome_flush]
  rcases (Edit.replaceUntil pattern new d.options.searchFlags cancelled).outcome d.buffer with
    ⟨_ | _, _⟩ <;> rfl

theorem snd_outcome_replaceUntil (pattern new : Text) (cancelled : Option Nat) (d : Document) :
    ((replaceUntil pattern new cancelled).outcome d).2 =
      (flushed { d with
        buffer := ((Edit.replaceUntil pattern new d.options.searchFlags cancelled).outcome
          d.buffer).2 }).1 := by
  rw [outcome_replaceUntil]
  rcases (Edit.replaceUntil pattern new d.options.searchFlags cancelled).outcome d.buffer with
    ⟨_ | _, _⟩ <;> rfl

/-- What a command leaves behind: it may flush, after steps on the buffer; else it changes options, or
nothing. -/
inductive Effect (d : Document) : Document → Prop
  | flushed {c : Buffer} (H : Buffer.Steps maxIndex d.buffer c) :
    Effect d (Document.flushed { d with buffer := c }).1
  | options (line : Text) : Effect d (d.setOptions line).2
  | none : Effect d d

theorem Effect.of_eq_flushed {d' : Document} (h : d' = d.flushed.1) : Effect d d' := h ▸ .flushed .refl

theorem effect_edit {command : EditM Buffer Selection} (H : EditM.Sound command d.buffer)
    (F : ((edit command).outcome d).2.buffer.Fits) : Effect d ((edit command).outcome d).2 := by
  rw [snd_outcome_edit] at F ⊢
  cases h : command.outcome d.buffer with
  | mk r c =>
    have hsteps : _ → Buffer.Steps maxIndex d.buffer _ := H.steps
    have hatomic := H.atomic
    rw [h] at F hsteps hatomic
    cases r with
    | ok sel => exact .flushed (hsteps ((fits_flushed _).1 F))
    | error e =>
      obtain rfl : c = d.buffer := hatomic e rfl
      exact .none

/-- A question on a line flushes, checks that there is such a line, and looks at the document. -/
def question {α : Type} (line : Nat) (answer : Document → α) : EditM Document α := do
  let _ ← flush
  let d ← get
  if let some e := d.buffer.lineError? line then throw e
  return answer d

section
variable {α : Type} (line : Nat) (answer : Document → α)

theorem outcome_question (d : Document) : (question line answer).outcome d =
    match d.flushed.1.buffer.lineError? line with
    | some e => (.error e, d.flushed.1)
    | none => (.ok (answer d.flushed.1), d.flushed.1) := by
  rw [question, EditM.outcome_bind, outcome_flush]
  simp only [EditM.outcome_bind, EditM.outcome_get]
  cases d.flushed.1.buffer.lineError? line <;> rfl

theorem snd_outcome_question (d : Document) : ((question line answer).outcome d).2 = d.flushed.1 := by
  rw [outcome_question]
  cases d.flushed.1.buffer.lineError? line <;> rfl

end

/-! ## Sessions -/

/-- What can be asked of a document. -/
inductive Command
  | insertText (p : Position) (text : Text)
  | deleteRange (r : Range)
  | accept (candidate : Candidate)
  | replaceMatch (m : Match) (new : Text)
  | replaceUntil (pattern new : Text) (cancelled : Option Nat)
  | deleteLines (sel : Selection)
  | moveUp (sel : Selection)
  | moveDown (sel : Selection)
  | duplicateUp (sel : Selection)
  | duplicateDown (sel : Selection)
  | toggleComment (sel : Selection)
  | insertTab (sel : Selection)
  | setOptions (line : Text)
  | flush
  | tokens (line : Nat)
  | styledLine (line : Nat)
  | styledLines
  | codeLine (line : Nat)
  | complete (p : Position)

/-- What a command leaves behind, be it accepted or rejected. -/
def Command.apply (d : Document) : Command → Document
  | .insertText p text => ((Document.insertText p text).outcome d).2
  | .deleteRange r => ((Document.deleteRange r).outcome d).2
  | .accept candidate => ((Document.accept candidate).outcome d).2
  | .replaceMatch m new => ((Document.replaceMatch m new).outcome d).2
  | .replaceUntil pattern new cancelled => ((Document.replaceUntil pattern new cancelled).outcome d).2
  | .deleteLines sel => ((Document.deleteLines sel).outcome d).2
  | .moveUp sel => ((Document.moveUp sel).outcome d).2
  | .moveDown sel => ((Document.moveDown sel).outcome d).2
  | .duplicateUp sel => ((Document.duplicateUp sel).outcome d).2
  | .duplicateDown sel => ((Document.duplicateDown sel).outcome d).2
  | .toggleComment sel => ((Document.toggleComment sel).outcome d).2
  | .insertTab sel => ((Document.insertTab sel).outcome d).2
  | .setOptions line => (d.setOptions line).2
  | .flush => (Document.flush.outcome d).2
  | .tokens line => ((Document.tokens line).outcome d).2
  | .styledLine line => ((Document.styledLine line).outcome d).2
  | .styledLines => (Document.styledLines.outcome d).2
  | .codeLine line => ((Document.codeLine line).outcome d).2
  | .complete p => ((Document.complete p).outcome d).2

/-- The documents of all sessions, whatever was done to the buffer before, and how much of its log was
drained. -/
inductive Session : Document → Prop
  | opened {b : Buffer} (H : b.Reachable) (table : InstructionTable) : Session (ofBuffer b table)
  | command {d : Document} (H : Session d) (c : Command) (fits : (c.apply d).buffer.Fits) :
    Session (c.apply d)

/-- The documents of the sessions with an instruction table, if nothing was drained from the log of the
buffer before it was opened. -/
inductive Reachable (table : InstructionTable) : Document → Prop
  | opened {a b : Buffer} (ha : Buffer.New a) (H : Buffer.Undrained a b) :
    Reachable table (ofBuffer b table)
  | command {d : Document} (H : Reachable table d) (c : Command) (fits : (c.apply d).buffer.Fits) :
    Reachable table (c.apply d)

theorem Reachable.session (H : Reachable table d) : Session d := by
  induction H with
  | opened ha H => exact .opened (H.reachable ha) table
  | command _ c fits ih => exact .command ih c fits

/-! ## Questions change nothing -/

section
variable (h : d.buffer.log = [])
include h

theorem flushed_eq_of_log_eq_nil : d.flushed = (d, []) := by
  rw [flushed, if_pos (by rw [h]; rfl)]

variable {i : Nat} {l : Line} (hl : d.buffer.lines[i]? = some l)
include hl

/-- A question on a line that exists is answered. -/
theorem outcome_answer {α : Type} (answer : Document → α) :
    (question i answer).outcome d = (.ok (answer d), d) := by
  refine (outcome_question i answer d).trans ?_
  rw [flushed_eq_of_log_eq_nil h, Buffer.lineError?_eq_none.2 (List.getElem?_eq_some_iff.1 hl).1]

theorem outcome_tokensOf : (tokens i).outcome d = (.ok (d.tokensOf l), d) := by
  refine (outcome_answer h hl (·.lineTokens i)).trans ?_
  rw [lineTokens, hl, Option.map_some, Option.getD_some]

theorem result_tokens : (tokens i).result d = .ok (d.tokensOf l) :=
  congrArg Prod.fst (outcome_tokensOf h hl)

theorem result_styledLine : (styledLine i).result d = .ok (d.spansOf l.id) := by
  refine (congrArg Prod.fst (outcome_answer h hl
    fun d => ((d.buffer.id? i).map d.spansOf).getD [])).trans ?_
  rw [Buffer.id?, hl, Option.map_some, Option.map_some, Option.getD_some]

theorem result_codeLine : (codeLine i).result d = .ok d.codeLines[i]?.join :=
  congrArg Prod.fst (outcome_answer h hl fun d => d.codeLines[i]?.join)

end

section
variable {line : Nat} {t : Text} {p : Position} (h : d.buffer.log = [])
include h

theorem snd_outcome_question_of_log {α : Type} (line : Nat) (answer : Document → α) :
    ((question line answer).outcome d).2 = d := by
  rw [snd_outcome_question, flushed_eq_of_log_eq_nil h]

variable (ht : d.buffer.text? line = some t)
include ht

theorem outcome_answer_text {α : Type} (answer : Document → α) :
    (question line answer).outcome d = (.ok (answer d), d) := by
  obtain ⟨l, hl, -⟩ := Buffer.text?_eq_some.1 ht
  exact outcome_answer h hl answer

theorem outcome_tokens : (tokens line).outcome d = (.ok (d.lineTokens line), d) :=
  outcome_answer_text h ht (·.lineTokens line)

omit ht in
theorem outcome_complete (ht : d.buffer.text? p.line = some t) : (complete p).outcome d =
    (.ok (completions d.table d.symbols t (d.lineTokens p.line) p d.options.maxCompletions), d) := by
  have htext : d.buffer.lineText p.line = t := by
    obtain ⟨l, hl, rfl⟩ := Buffer.text?_eq_some.1 ht
    exact Buffer.lineText_of_getElem? hl
  conv_rhs => rw [← htext]
  exact outcome_answer_text h ht fun d => completions d.table d.symbols (d.buffer.lineText p.line)
    (d.lineTokens p.line) p d.options.maxCompletions

end

section
variable {line : Nat} {t : Text} {p : Position} (S : d.Settled)
include S

theorem Settled.lineTokens_eq (ht : d.buffer.text? line = some t) :
    d.lineTokens line = tokenize d.table t := by
  obtain ⟨l, hl, rfl⟩ := Buffer.text?_eq_some.1 ht
  obtain ⟨L, hL⟩ := S.upToDate.shows
  rw [lineTokens, hl, Option.map_some, Option.getD_some, tokensOf,
    (hL.shown (List.mem_of_getElem? hl)).tokens, Option.getD_some]

theorem Settled.outcome_tokens (ht : d.buffer.text? line = some t) :
    (tokens line).outcome d = (.ok (tokenize d.table t), d) := by
  rw [← S.lineTokens_eq ht]
  exact Document.outcome_tokens S.log ht

theorem Settled.outcome_complete (ht : d.buffer.text? p.line = some t) :
    (complete p).outcome d =
      (.ok (completions d.table d.symbols t (tokenize d.table t) p d.options.maxCompletions), d) := by
  rw [← S.lineTokens_eq ht]
  exact Document.outcome_complete S.log ht

end

theorem Shows.setOptions {L : Ledger} (S : Shows d (fun _ => False) L) (line : Text) :
    Shows (d.setOptions line).2 (fun _ => False) L where
  keeps := S.keeps
  places := S.places
  shown l hl hnumber h :=
    have hshown := S.shown l hl hnumber h
    ⟨hshown.tokens, hshown.mentions, hshown.styles⟩
  absent := S.absent

theorem Idle.setOptions (S : d.Idle) (line : Text) : (d.setOptions line).2.Idle :=
  ⟨S.shows.imp fun _ H => H.setOptions line, S.log, S.wellFormed, S.fits⟩

theorem Settled.setOptions (S : d.Settled) (line : Text) : (d.setOptions line).2.Settled :=
  ⟨⟨S.upToDate.shows.imp fun _ H => ⟨H.shows.setOptions line, H.numbers⟩, S.upToDate.codeLines⟩,
    S.log, S.wellFormed, S.fits⟩

/-! ## Sessions stay idle -/

theorem Command.effect (W : d.buffer.WellFormed) (c : Command) (F : (c.apply d).buffer.Fits) :
    Effect d (c.apply d) := by
  cases c with
  | insertText p text => exact effect_edit ((Edit.sound_insertText W p text).map _) F
  | deleteRange r =>
    refine effect_edit ?_ F
    have := (Edit.sound_deleteRange W r).map fun _ => Selection.caret r.start
    rwa [map_eq_pure_bind] at this
  | accept candidate => exact effect_edit ((Edit.sound_replaceRange W _ _).map _) F
  | replaceMatch m new => exact effect_edit ((Edit.sound_replaceMatch W m new).map _) F
  | replaceUntil pattern new cancelled =>
    rw [Command.apply, snd_outcome_replaceUntil] at F ⊢
    have H := Edit.sound_replaceUntil (R := Pattern.Program) W pattern new d.options.searchFlags
      cancelled
    rw [fits_flushed] at F
    exact .flushed (H.steps F)
  | deleteLines sel => exact effect_edit (Edit.sound_deleteLines W sel) F
  | moveUp sel => exact effect_edit (Edit.sound_moveUp sel) F
  | moveDown sel => exact effect_edit (Edit.sound_moveDown sel) F
  | duplicateUp sel => exact effect_edit (Edit.sound_duplicateUp sel) F
  | duplicateDown sel => exact effect_edit (Edit.sound_duplicateDown sel) F
  | toggleComment sel => exact effect_edit (Edit.sound_toggleComment W sel) F
  | insertTab sel =>
    rw [Command.apply, outcome_insertTab] at F ⊢
    exact effect_edit (Edit.sound_insertTab W d.options.tabstop sel) F
  | setOptions line => exact .options line
  | flush => exact .flushed .refl
  | styledLines => exact .flushed .refl
  | tokens line | styledLine line | codeLine line =>
    exact .of_eq_flushed (snd_outcome_question line _ d)
  | complete p => exact .of_eq_flushed (snd_outcome_question p.line _ d)

theorem Idle.apply (S : d.Idle) (c : Command) (F : (c.apply d).buffer.Fits) : (c.apply d).Idle := by
  generalize c.apply d = d', c.effect S.wellFormed F = E
  cases E with
  | flushed H => exact S.flushed H (Buffer.Steps.fits H S.fits)
  | options line => exact S.setOptions line
  | none => exact S

theorem Session.idle (H : Session d) : d.Idle := by
  induction H with
  | opened H table => exact idle_ofBuffer H table
  | command _ c fits ih => exact ih.apply c fits

/-- Between commands nothing is pending. -/
theorem Session.log (H : Session d) : d.buffer.log = [] := H.idle.log

theorem Settled.apply (S : d.Settled) (c : Command) (F : (c.apply d).buffer.Fits) :
    (c.apply d).Settled ∧ (c.apply d).table = d.table := by
  generalize c.apply d = d', c.effect S.wellFormed F = E
  cases E with
  | flushed H => exact ⟨S.flushed H (Buffer.Steps.fits H S.fits), table_flushed _⟩
  | options line => exact ⟨S.setOptions line, rfl⟩
  | none => exact ⟨S, rfl⟩

theorem Reachable.settled (H : Reachable table d) : d.Settled ∧ d.table = table := by
  induction H with
  | opened ha H => exact ⟨settled_ofBuffer ha H table, table_flushed _⟩
  | command _ c fits ih =>
    obtain ⟨S, ht⟩ := ih
    obtain ⟨S', ht'⟩ := S.apply c fits
    exact ⟨S', ht'.trans ht⟩

/-- A settled document knows all its lines. -/
theorem Settled.knows (S : d.Settled) {id : LineId} (hid : id ∈ d.buffer.ids) : d.knows id := by
  obtain ⟨L, hL⟩ := S.upToDate.shows
  rw [Document.knows, hL.shows.keeps.position, hL.numbers, Option.isSome_iff_ne_none, ne_eq,
    Buffer.indexOf?_eq, Buffer.place_eq_none]
  exact not_not.2 hid

/-! ## Answers -/

section
variable {L : Ledger} {i : Nat} {t : Text} {l : Line} {id : LineId}

theorem ShowsAll.lists (H : ShowsAll d L) (hnd : d.buffer.ids.Nodup) :
    L.Lists d.buffer.ids (listing d.table d.buffer.texts) where
  length := by simp [listing, Buffer.texts, Buffer.ids]
  line id i := by
    rw [H.numbers, Buffer.indexOf?_eq, Buffer.place_eq_some_iff hnd, Buffer.ids, List.getElem?_map]
  mentions i id hid := by
    rw [Buffer.ids, List.getElem?_map, Option.map_eq_some_iff] at hid
    obtain ⟨l, hl, rfl⟩ := hid
    rw [(H.shown (List.mem_of_getElem? hl)).mentions, listing, Buffer.texts]
    simp [hl]
  absent _ hid := (H.absent hid).1

theorem ShowsAll.styles_get? (H : ShowsAll d L) (id : LineId) :
    d.styles.get? id = (d.buffer.indexOf? id).map fun i =>
      styleLine (tokenize d.table (d.buffer.lineText i)) := by
  cases hi : d.buffer.indexOf? id with
  | none => exact (H.absent (Buffer.place_eq_none.1 hi)).2
  | some i =>
    obtain ⟨above, l, below, hlines, hn, rfl⟩ := Buffer.exists_of_indexOf? hi
    have hl : d.buffer.lines[i]? = some l := by rw [hlines, ← hn]; simp
    rw [(H.shown (List.mem_of_getElem? hl)).styles, Option.map_some,
      Buffer.lineText_of_getElem? hl]

theorem ShowsAll.styles_size (H : ShowsAll d L) (hnd : d.buffer.ids.Nodup) :
    d.styles.size = d.buffer.lineCount := by
  have hkeys : d.styles.styled.keys.Perm d.buffer.ids := by
    refine (List.perm_ext_iff_of_nodup Std.TreeMap.nodup_keys hnd).2 fun id => ?_
    rw [Std.TreeMap.mem_keys, Std.TreeMap.mem_iff_isSome_getElem?]
    show (d.styles.get? id).isSome ↔ _
    rw [H.styles_get?, Option.isSome_map]
    cases hi : d.buffer.indexOf? id with
    | none =>
      have := Buffer.place_eq_none.1 hi
      simp [Buffer.ids, this]
    | some i =>
      obtain ⟨above, l, below, hlines, -, rfl⟩ := Buffer.exists_of_indexOf? hi
      simp [Buffer.ids, hlines]
  rw [StyleCache.size, ← Std.TreeMap.length_keys, hkeys.length_eq, Buffer.length_ids]

theorem codeLine_of_codeMarks (h : d.codeLines = numberCode 0 d.codeMarks)
    (ht : d.buffer.text? i = some t) : d.codeLines[i]?.join = if isCode (tokenize d.table t) then
      some ((d.buffer.texts.take i).countP fun u => isCode (tokenize d.table u)) else none := by
  have hmark : d.codeMarks[i]? = some (isCode (tokenize d.table t)) := by
    rw [codeMarks, Buffer.texts, List.getElem?_map, List.getElem?_map]
    rw [Buffer.text?] at ht
    rw [ht, Option.map_some]
  rw [h, getElem?_numberCode, hmark, Option.map_some, Option.join_some, Nat.zero_add,
    codeMarks, ← List.map_take, List.count_eq_countP, List.countP_map]
  simp [Function.comp_def]

end

/-- At any time of a session all answers are what one would compute from the text anew. The index
knows where each line is, and the styling of each line, and of nothing else, is kept. -/
theorem answers_recomputed (H : Reachable table d) :
    (∀ i t, d.buffer.text? i = some t →
      (tokens i).result d = .ok (tokenize table t) ∧
      (styledLine i).result d = .ok (styleLine (tokenize table t)) ∧
      (codeLine i).result d = .ok (if isCode (tokenize table t) then
        some ((d.buffer.texts.take i).countP fun u => isCode (tokenize table u)) else none)) ∧
    d.symbols.all = scan table d.buffer.texts ∧
    (∀ id, d.symbols.position? id = d.buffer.indexOf? id) ∧
    (∀ id, d.styles.get? id = (d.buffer.indexOf? id).map fun i =>
      styleLine (tokenize table (d.buffer.lineText i))) ∧
    d.styles.size = d.buffer.lineCount := by
  obtain ⟨S, rfl⟩ := H.settled
  obtain ⟨L, hL⟩ := S.upToDate.shows
  have hnd := S.wellFormed.nodup
  refine ⟨fun i t ht => ?_, hL.shows.keeps.all_eq (hL.lists hnd), fun id => ?_, hL.styles_get?,
    hL.styles_size hnd⟩
  · obtain ⟨l, hl, rfl⟩ := Buffer.text?_eq_some.1 ht
    have hshown := hL.shown (List.mem_of_getElem? hl)
    refine ⟨?_, ?_, ?_⟩
    · rw [result_tokens S.log hl, tokensOf, hshown.tokens, Option.getD_some]
    · rw [result_styledLine S.log hl, spansOf, hshown.styles, Option.getD_some]
    · rw [result_codeLine S.log hl, codeLine_of_codeMarks S.upToDate.codeLines ht]
  · rw [hL.shows.keeps.position, hL.numbers]

/-- A line is deleted before the buffer is opened, and a jump gets its target afterwards. -/
theorem answers_recomputed_jump :
    let b := Buffer.Op.apply (.removeLines 0 1) (.ofText "end\nx:\njump\nset y 1".toList)
    let d := (Command.insertText ⟨1, 4⟩ " x".toList).apply (ofBuffer b .stock)
    d.symbols.all = scan .stock d.buffer.texts ∧
      d.symbols.all = [⟨"x", .label, some 0, [1]⟩, ⟨"y", .variable, some 2, []⟩] := by
  intro b d
  have hnew : Buffer.New (.ofText "end\nx:\njump\nset y 1".toList) := .ofText _ (by decide)
  have hopened : Reachable .stock (ofBuffer b .stock) :=
    .opened hnew (.single (.op (.apply (.removeLines 0 1) (by decide))))
  have hfits : d.buffer.Fits := by decide +kernel
  have hd : Reachable .stock d := .command hopened (.insertText ⟨1, 4⟩ " x".toList) hfits
  exact ⟨(answers_recomputed hd).2.1, by decide +kernel⟩

end Document
end LogicEditor
