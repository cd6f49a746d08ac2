import LogicEditor.Proofs.Buffer.LineList
import LogicEditor.Proofs.Completion.Offer
import LogicEditor.Proofs.Document.Session

/-!
# Candidates in the place of the typed word

A candidate stands for the word that goes up to the cursor, or for no text if the cursor is between
words. A column past the end of the line counts as its end. So the range of a candidate lies in its line,
whatever tokens are kept with the line, and accepting the candidate before anything else is done succeeds
and edits that range alone (`Document.accept_replaces_word`).
-/

namespace LogicEditor

variable {d d' : Document} {table : InstructionTable} {x : SymbolIndex} {us : List Token} {b : Buffer}
  {p : Position} {t w : Text} {c : Candidate} {line start stop col limit : Nat}

/-! ## Typed words -/

/-- Where the word that goes up to a column starts. It is the start of the token that the column is in or
at the end of, which must not be one that nothing completes; between tokens no word has been started. -/
inductive WordStart (us : List Token) (col : Nat) : Nat → Prop
  | within {u : Token} (hu : u ∈ us) (hstart : u.span.start < col) (hstop : col ≤ u.span.stop)
      (hopen : CompletionContext.isClosed u.kind = false) : WordStart us col u.span.start
  | between (h : ∀ u ∈ us, ¬(u.span.start < col ∧ col ≤ u.span.stop)) : WordStart us col col

theorem WordStart.le (H : WordStart us col start) : start ≤ col := by
  cases H with
  | within _ hstart => exact Nat.le_of_lt hstart
  | between => exact Nat.le_refl _

namespace CompletionContext

/-- The context of a column starts with the word there, unless nothing can be completed. -/
theorem wordStart_ofLine (h : (ofLine table t us col).slot ≠ .nothing) :
    WordStart us col (ofLine table t us col).start := by
  rw [ofLine] at h ⊢
  cases hu : tokenAt? us col with
  | none =>
    rw [tokenAt?, List.find?_eq_none] at hu
    exact .between fun u hmem => by simpa using hu u hmem
  | some u =>
    have hspan : u.span.start < col ∧ col ≤ u.span.stop := by simpa using List.find?_some hu
    cases hopen : isClosed u.kind with
    | false =>
      simp only [hopen, Bool.false_eq_true, if_false]
      exact .within (List.mem_of_find?_eq_some hu) hspan.1 hspan.2 hopen
    | true => simp [hu, hopen] at h

end CompletionContext

/-- A candidate replaces the word that goes up to the cursor. -/
theorem exists_wordStart (hc : c ∈ completions table x t us p limit) :
    ∃ start, WordStart us (min p.col t.length) start ∧
      c.replace = .onLine p.line start (min p.col t.length) := by
  obtain ⟨o, ho, -, rfl⟩ := (isBest_offers table x t us p limit).offered c hc
  refine ⟨_, CompletionContext.wordStart_ofLine fun hnothing => ?_, rfl⟩
  rw [hnothing] at ho
  cases ho

/-- A column past the end of the line counts as its end. -/
theorem completions_min (table : InstructionTable) (x : SymbolIndex) (t : Text) (us : List Token)
    (p : Position) (limit : Nat) : completions table x t us p limit =
      completions table x t us ⟨p.line, min p.col t.length⟩ limit := by
  simp only [completions, Nat.min_assoc, Nat.min_self]

/-! ## Parts of a line -/

theorem Buffer.textIn_onLine (ht : b.text? line = some t) (start stop : Nat) :
    b.textIn (.onLine line start stop) = t.slice start stop := by
  rw [textIn, Range.onLine, if_pos rfl, lineText, ht, Option.getD_some]

/-- A text without breaks takes the place of a part of a line. -/
theorem Edit.exists_outcome_replaceRange (ht : b.text? line = some t) (hle : start ≤ stop)
    (hstop : stop ≤ t.length) (hw : w.hasBreak = false) :
    ∃ c, (replaceRange (.onLine line start stop) w).outcome b = (.ok ⟨line, start + w.length⟩, c) ∧
      c.texts = b.texts.set line (t.take start ++ (w ++ t.drop stop)) ∧ c.ids = b.ids := by
  rw [Buffer.text?_eq] at ht
  obtain ⟨upper, lower, h, hn⟩ := Buffer.exists_split ht
  obtain ⟨c, hc, hspliced, htexts⟩ := Buffer.exists_replaceRange_onLine h hn hle hstop w
  rw [Buffer.afterInsert_of_not_hasBreak hw] at hc
  refine ⟨c, hc, ?_, ?_⟩
  · rw [htexts, h, Text.lines_of_not_hasBreak hw, ← hn]
    simp [Text.flank]
  · have hids : c.ids = _ := hspliced.ids
    rw [hids, Text.lines_of_not_hasBreak hw]
    simp [Range.onLine, Buffer.lineList]

namespace Document

/-- Accepting a text without breaks in the place of a part of a line. -/
theorem exists_accept_onLine (ht : d.buffer.text? line = some t) (hle : start ≤ stop)
    (hstop : stop ≤ t.length) (hw : Text.hasBreak c.text.toList = false)
    (hc : c.replace = .onLine line start stop) :
    ∃ o d', (accept c).outcome d = (.ok o, d') ∧
      d'.buffer.texts = d.buffer.texts.set line (t.take start ++ (c.text.toList ++ t.drop stop)) ∧
      d'.buffer.ids = d.buffer.ids ∧ o.selection = .caret ⟨line, start + c.text.length⟩ := by
  obtain ⟨b, hq, htexts, hids⟩ := Edit.exists_outcome_replaceRange ht hle hstop hw
  have hcommand : (Selection.caret <$> Edit.replaceRange c.replace c.text.toList).outcome d.buffer =
      (.ok (.caret ⟨line, start + c.text.length⟩), b) := by
    rw [hc, EditM.outcome_map, hq, String.length_toList]
    rfl
  have haccept : (accept c).outcome d =
      (.ok ⟨.caret ⟨line, start + c.text.length⟩, (Document.flushed { d with buffer := b }).2⟩,
        (Document.flushed { d with buffer := b }).1) := by
    rw [accept, outcome_edit, hcommand]
  exact ⟨_, _, haccept, by rw [texts_flushed, htexts], by rw [ids_flushed, hids], rfl⟩

/-- Accepting a candidate that brings no new line settles a document again. -/
theorem Settled.of_accept {o : Outcome} (S : d.Settled) (h : (accept c).outcome d = (.ok o, d'))
    (hids : d'.buffer.ids = d.buffer.ids) : d'.Settled ∧ d'.table = d.table := by
  have hfits : d'.buffer.Fits := by
    rw [Buffer.Fits, ← Buffer.length_ids, hids, Buffer.length_ids]
    exact S.fits
  have hd' : Command.apply d (.accept c) = d' := congrArg Prod.snd h
  rw [← hd'] at hfits ⊢
  exact S.apply (.accept c) hfits

/-- Each candidate without breaks can be accepted right after it was offered. It takes the place of the
word that goes up to the cursor; the other lines and all handles stay, and the caret goes to the end of
the text that was put in. The words are those of the tokens that the document has of the line; they are
the tokens of its text if the log of the buffer was not drained before it was opened. -/
theorem accept_replaces_word (S : Session d) (ht : d.buffer.text? p.line = some t) :
    let col := min p.col t.length
    ∃ us, (tokens p.line).outcome d = (.ok us, d) ∧
      (∀ table, Reachable table d → us = tokenize table t) ∧
      ∃ cs, (complete p).outcome d = (.ok cs, d) ∧ ∀ c ∈ cs, Text.hasBreak c.text.toList = false →
        ∃ start, WordStart us col start ∧ c.replace = .onLine p.line start col ∧
          d.buffer.textIn c.replace = t.slice start col ∧
          ∃ o d', (accept c).outcome d = (.ok o, d') ∧
            d'.buffer.texts =
              d.buffer.texts.set p.line (t.take start ++ (c.text.toList ++ t.drop col)) ∧
            d'.buffer.ids = d.buffer.ids ∧
            o.selection = .caret ⟨p.line, start + c.text.length⟩ := by
  intro col
  refine ⟨_, outcome_tokens S.log ht, fun table H => ?_, _, outcome_complete S.log ht,
    fun c hc hbreak => ?_⟩
  · obtain ⟨S', rfl⟩ := H.settled
    exact S'.lineTokens_eq ht
  · obtain ⟨start, hstart, hreplace⟩ := exists_wordStart hc
    obtain ⟨o, d', haccept, htexts, hids, hselection⟩ :=
      exists_accept_onLine ht hstart.le (Nat.min_le_right ..) hbreak hreplace
    refine ⟨start, hstart, hreplace, ?_, o, d', haccept, htexts, hids, hselection⟩
    rw [hreplace, Buffer.textIn_onLine ht]

/-- A label takes the place of its beginning at the end of a line, with the cursor past the end. -/
theorem accept_replaces_word_past_end :
    let d := ofText "foo:\njump fo".toList .stock
    let c : Candidate :=
      { text := "foo", kind := .label, detail? := some "line 1", score := 3, replace := .onLine 1 5 7 }
    ∃ cs, (complete ⟨1, 40⟩).outcome d = (.ok cs, d) ∧ c ∈ cs ∧
      ∃ o d', (accept c).outcome d = (.ok o, d') ∧
        d'.buffer.texts = ["foo:".toList, "jump foo".toList] ∧ d'.buffer.ids = d.buffer.ids ∧
        o.selection = .caret ⟨1, 8⟩ := by
  intro d c
  have hd : Reachable .stock d := .opened (.ofText _ (by decide)) .refl
  have ht : d.buffer.text? 1 = some "jump fo".toList := by decide +kernel
  have htexts : d.buffer.texts = ["foo:".toList, "jump fo".toList] := by decide +kernel
  obtain ⟨us, -, -, cs, hcs, haccepted⟩ := accept_replaces_word (p := ⟨1, 40⟩) hd.session ht
  have hmem : c ∈ cs := by
    have hcomplete := hd.settled.1.outcome_complete (p := ⟨1, 40⟩) ht
    rw [completions_min, hcs] at hcomplete
    cases hcomplete
    rw [mem_completions (by decide) (by decide +kernel) (by decide +kernel)]
    decide +kernel
  obtain ⟨start, -, hreplace, -, o, d', ho, hd', hids, hselection⟩ := haccepted c hmem (by decide)
  obtain rfl : start = 5 := (congrArg (fun r : Range => r.start.col) hreplace).symm
  refine ⟨cs, hcs, hmem, o, d', ho, ?_, hids, hselection.trans (by decide)⟩
  rw [hd', htexts]
  decide

end Document
end LogicEditor
