import LogicEditor.Proofs.Document.TypedWord

/-!
# Accepted completions

A candidate says what category its name will have in the line. At a position that no word goes past, a
candidate can be accepted, and its name is one token of the line then. The token has the promised
category just if the candidate is not misread (`Document.tokenKind_accept_iff`); the two kinds of misread
candidates are offered indeed (`Document.not_tokenKind_accept`).
-/

namespace LogicEditor

open Lexeme

variable {d : Document} {p : Position} {t w : Text} {c : Candidate} {line start stop : Nat}

/-- The name of the candidate is taken for something else in the place of the typed word. -/
def Candidate.Misread (table : InstructionTable) (line : Text) (c : Candidate) : Prop :=
  c.kind.Misread table (line.take c.replace.start.col) c.text

/-! ## Names put in -/

theorem Lexeme.IsFragment.hasBreak_eq_false (h : IsFragment w) : w.hasBreak = false := by
  rw [Text.hasBreak, List.any_eq_false]
  intro c hc hbreak
  have hpart := h.2 c hc
  rw [Text.isBreakChar, Bool.or_eq_true, beq_iff_eq, beq_iff_eq] at hbreak
  rcases hbreak with rfl | rfl <;> cases hpart

namespace Document

section
variable (S : d.Settled)
include S

/-- All symbols are names. -/
theorem Settled.isName {s : Symbol} (hs : s ∈ d.symbols.all) : s.IsName d.table := by
  obtain ⟨L, hL⟩ := S.upToDate.shows
  obtain ⟨hname, hdescribes⟩ := hL.shows.keeps.mem_all_iff.1 hs
  refine hdescribes.isName hname fun id m hm => ?_
  by_cases hid : id ∈ d.buffer.ids
  · obtain ⟨l, hl, rfl⟩ := List.mem_map.1 hid
    rw [(hL.shown hl).mentions] at hm
    exact isName_of_mem_mentionsOf hm
  · rw [(hL.absent hid).1] at hm
    cases hm

/-! ## Accepting -/

/-- Accepting a fragment in the place of a part of a line. -/
theorem Settled.exists_accept (ht : d.buffer.text? line = some t) (hle : start ≤ stop)
    (hstop : stop ≤ t.length) (hw : IsFragment c.text.toList)
    (hc : c.replace = .onLine line start stop) :
    ∃ o d', (accept c).outcome d = (.ok o, d') ∧ (tokens line).result d' =
      .ok (tokenize d.table (t.take start ++ (c.text.toList ++ t.drop stop))) := by
  obtain ⟨o, d', haccept, htexts, hids, -⟩ :=
    exists_accept_onLine ht hle hstop hw.hasBreak_eq_false hc
  obtain ⟨S', htable⟩ := S.of_accept haccept hids
  have hline : line < d.buffer.texts.length := by
    obtain ⟨l, hl, -⟩ := Buffer.text?_eq_some.1 ht
    rw [Buffer.length_texts]
    exact (List.getElem?_eq_some_iff.1 hl).1
  have htext : d'.buffer.text? line = some (t.take start ++ (c.text.toList ++ t.drop stop)) := by
    rw [Buffer.text?_eq, htexts, List.getElem?_set_self hline]
  exact ⟨o, d', haccept, by rw [EditM.result, S'.outcome_tokens htext, htable]⟩

end

/-- Each candidate at a position that no word goes past can be accepted. Where the word to complete
started, one token starts then. It is the name of the candidate, and has its category just if the
candidate is not misread. -/
theorem tokenKind_accept_iff (H : Reachable .stock d) (ht : d.buffer.text? p.line = some t)
    (hcol : p.col ≤ t.length) (hspace : ∀ c, t[p.col]? = some c → Text.isSpace c = true) :
    ∃ cs, (complete p).outcome d = (.ok cs, d) ∧ ∀ c ∈ cs,
      ∃ o d', (accept c).outcome d = (.ok o, d') ∧
      ∃ us, (tokens p.line).result d' = .ok us ∧
      ∃ u ∈ us, u.span = ⟨c.replace.start.col, c.replace.start.col + c.text.length⟩ ∧
        (∀ v ∈ us, v.span.start = c.replace.start.col → v = u) ∧
        (u.kind = c.kind.tokenKind ↔ ¬c.Misread .stock t) := by
  obtain ⟨S, htable⟩ := H.settled
  have R : d.table.Regular := htable ▸ InstructionTable.regular_stock
  refine ⟨_, S.outcome_complete ht, fun c hc => ?_⟩
  obtain ⟨start, hle, hreplace, hfragment, u, hu, hspan, hunique, hiff⟩ :=
    exists_token_of_candidate R (fun s hs => S.isName hs) hcol hspace hc
  obtain ⟨o, d', haccept, htokens⟩ := S.exists_accept ht hle hcol hfragment hreplace
  have hstart : c.replace.start.col = start := by rw [hreplace]; rfl
  rw [Candidate.Misread, hstart, ← htable]
  exact ⟨o, d', haccept, _, htokens, u, hu, hspan, hunique, hiff⟩

/-- Two labels are offered as jump targets. The one with the name of a constant is read as that. -/
theorem tokenKind_accept_iff_labels :
    let d := ofText "true:\ntruth:\njump tr".toList .stock
    let label (name line : String) : Candidate :=
      { text := name, kind := .label, detail? := some line, score := 3, replace := .onLine 2 5 7 }
    ∃ cs, (complete ⟨2, 7⟩).outcome d = (.ok cs, d) ∧
      ∀ c ∈ [label "truth" "line 2", label "true" "line 1"], c ∈ cs ∧
        ∃ o d' us u, (accept c).outcome d = (.ok o, d') ∧ (tokens 2).result d' = .ok us ∧ u ∈ us ∧
          u.span.start = 5 ∧ (u.kind = c.kind.tokenKind ↔ c.text = "truth") := by
  intro d label
  have hd : Reachable .stock d := .opened (.ofText _ (by decide)) .refl
  have ht : d.buffer.text? 2 = some "jump tr".toList := by decide +kernel
  have hcomplete := hd.settled.1.outcome_complete (p := ⟨2, 7⟩) ht
  have hend : "jump tr".toList[7]? = none := by decide
  obtain ⟨cs, hcs, haccepted⟩ := tokenKind_accept_iff (p := ⟨2, 7⟩) hd ht (by decide) fun c hc =>
    absurd (hend.symm.trans hc) (Option.some_ne_none c).symm
  refine ⟨cs, hcs, fun c hc => ?_⟩
  have hmem : c ∈ cs := by
    rw [hcomplete] at hcs
    cases hcs
    rw [mem_completions (by decide) (by decide +kernel) (by decide +kernel)]
    revert c
    decide +kernel
  obtain ⟨o, d', ho, us, hus, u, hu, hspan, -, hiff⟩ := haccepted c hmem
  have hconstant : InstructionTable.isConstant .stock "truth" = false ∧
      InstructionTable.isConstant .stock "true" = true := by decide +kernel
  have hmisread : c.replace.start.col = 5 ∧
      (c.Misread .stock "jump tr".toList ↔ c.text ≠ "truth") := by
    simp only [List.mem_cons, List.not_mem_nil, or_false] at hc
    rcases hc with rfl | rfl
    · exact ⟨rfl, iff_of_false (Bool.eq_false_iff.1 hconstant.1) (not_not_intro rfl)⟩
    · exact ⟨rfl, iff_of_true hconstant.2 (by decide)⟩
  refine ⟨hmem, o, d', us, u, ho, hus, hu, ?_, ?_⟩
  · rw [hspan, hmisread.1]
  · rw [hiff, hmisread.2, not_not]

/-- An opcode is offered right behind a string, where it is read as a name. -/
theorem not_tokenKind_accept :
    let d := ofText "\"x\"se".toList .stock
    let c : Candidate :=
      { text := "sensor", kind := .opcode, detail? := some "Read a property of a building or unit"
        score := 3, replace := .onLine 0 3 5 }
    Reachable .stock d ∧ d.buffer.text? 0 = some "\"x\"se".toList ∧
      ∃ cs, (complete ⟨0, 5⟩).outcome d = (.ok cs, d) ∧ c ∈ cs ∧
        ∃ o d' us, (accept c).outcome d = (.ok o, d') ∧ (tokens 0).result d' = .ok us ∧
          ∀ u ∈ us, u.span.start = c.replace.start.col → u.kind ≠ c.kind.tokenKind := by
  intro d c
  have hd : Reachable .stock d := .opened (.ofText _ (by decide)) .refl
  have S := hd.settled.1
  have ht : d.buffer.text? 0 = some "\"x\"se".toList := by decide +kernel
  have hc : c ∈ completions d.table d.symbols "\"x\"se".toList
      (tokenize d.table "\"x\"se".toList) ⟨0, 5⟩ d.options.maxCompletions := by
    rw [mem_completions (by decide) (by decide +kernel) (by decide +kernel)]
    decide +kernel
  have hreplace : c.replace = .onLine 0 3 5 := rfl
  obtain ⟨o, d', haccept, htokens⟩ :=
    S.exists_accept ht (by decide) (by decide) (by decide +kernel) hreplace
  exact ⟨hd, ht, _, S.outcome_complete ht, hc, o, d', _, haccept, htokens, by decide +kernel⟩

end Document
end LogicEditor
