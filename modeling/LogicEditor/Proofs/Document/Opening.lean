import LogicEditor.Proofs.Document.Session
import LogicEditor.Proofs.Language.Tiling

/-!
# Opening a buffer

A document that is opened on a buffer lexes the lines that the log of the buffer reports as new. If the
log was drained before, the other lines are not lexed: the document has no styling for them and does
not know their names, and if nothing is in the log it does not even number the code lines
(`Document.exists_opened`). What it answers is then what one would compute from the text only if these
lines are blank (`Document.answers_ofBuffer_iff`).
-/

namespace LogicEditor
namespace Document

variable {b : Buffer} {table : InstructionTable} {d : Document} {L : Ledger} {id : LineId} {i : Nat}
  {l : Line}

/-! ## Opened documents -/

/-- What opening makes of a buffer: the lines that the log reports are lexed, all others are left as
they are. -/
structure Opened (b : Buffer) (table : InstructionTable) (d : Document) (L : Ledger) : Prop where
  keeps : d.symbols.Keeps L
  table_eq : d.table = table
  log : d.buffer.log = []
  texts_eq : d.buffer.texts = b.texts
  lexed : ∀ (i : Nat) (l : Line), b.lines[i]? = some l → b.Reported l.id →
    d.buffer.lines[i]? = some { l with tokens? := some (tokenize table l.text) } ∧
      L.line? l.id = some i ∧ L.mentions l.id = mentionsOf l.text (tokenize table l.text) ∧
      d.styles.get? l.id = some (styleLine (tokenize table l.text))
  left : ∀ (i : Nat) (l : Line), b.lines[i]? = some l → ¬b.Reported l.id →
    d.buffer.lines[i]? = some l ∧ L.mentions l.id = [] ∧ d.styles.get? l.id = none
  absent : ∀ id, id ∉ b.ids → L.mentions id = []
  codeLines : (d.codeLines = [] ∧ ∀ id, ¬b.Reported id) ∨
    d.codeLines = numberCode 0 (d.buffer.lines.map fun l => isCode (d.tokensOf l))

/-- Without a log there is nothing to do. -/
theorem opened_of_log_eq_nil (h : b.log = []) : Opened b table { buffer := b, table } {} where
  keeps := .empty
  table_eq := rfl
  log := h
  texts_eq := rfl
  lexed _ l _ hnew := absurd hnew (Buffer.not_reported_of_log_eq_nil h l.id)
  left _ _ hl _ := ⟨hl, rfl, Std.TreeMap.getElem?_emptyc⟩
  absent _ _ := rfl
  codeLines := .inl ⟨rfl, Buffer.not_reported_of_log_eq_nil h⟩

/-- A document that followed the log of a buffer of which it knew nothing before. It has the numbers
of the lines that the log reports, but no line is lexed yet. -/
structure Unlexed (b : Buffer) (table : InstructionTable) (d : Document) (L : Ledger) : Prop where
  keeps : d.symbols.Keeps L
  buffer : d.buffer = b.clearLog
  table_eq : d.table = table
  numbers : L.line? = replay (fun _ => none) b.log
  mentions : ∀ id, L.mentions id = []
  styles : ∀ id, d.styles.get? id = none

theorem unlexed_followLog (b : Buffer) (table : InstructionTable) :
    Unlexed b table (followLog { buffer := b, table }).1 (b.log.foldl Ledger.follow {}) where
  keeps := keeps_follow_all .empty b.log
  buffer := followLog_buffer _
  table_eq := followLog_table _
  numbers := Ledger.line?_follow_all {} b.log
  mentions id := by rw [Ledger.mentions_follow_all, ite_self]
  styles id := by
    refine (styles_follow_all b.log _ id).trans ?_
    split
    · rfl
    · exact Std.TreeMap.getElem?_emptyc

/-- The lines to be lexed are those that the log reports. -/
theorem Unlexed.due_iff (U : Unlexed b table d L) (H : b.Reports) (hl : l ∈ b.lines) :
    L.due (followLog { buffer := b, table }).2.dirty.toList l.id ↔ b.Reported l.id := by
  have hid : l.id ∈ b.ids := List.mem_map_of_mem hl
  have hgone : .removed l.id ∉ b.log := fun hgone => (H.gone l.id hgone).1 hid
  rw [Ledger.due_iff, Std.TreeSet.mem_toList, U.numbers]
  constructor
  · rintro ⟨-, hsome⟩
    by_contra hnew
    rw [H.others l.id hnew] at hsome
    cases hsome
  · intro hnew
    refine ⟨(mem_dirty_follow_all hgone).2 (.inr (.inr hnew)), ?_⟩
    rw [H.numbers l.id hnew, Option.isSome_iff_ne_none, Ne, Buffer.indexOf?_eq, Buffer.place_eq_none]
    exact not_not.2 hid

theorem Unlexed.opened {d₁ : Document} {L₁ : Ledger} {due : LineId → Bool} (U : Unlexed b table d L)
    (H : b.Reports) (hnd : b.ids.Nodup) (hdue : ∀ l ∈ b.lines, due l.id ↔ b.Reported l.id)
    (habsent : ∀ id, id ∉ b.ids → due id = false) (R : Relexed d L due d₁ L₁) :
    Opened b table d₁.renumber L₁ := by
  have hlines {i : Nat} {l : Line} (hl : b.lines[i]? = some l) :
      d₁.buffer.lines[i]? = some (d.relexedLine due l) := by
    rw [R.lines, U.buffer, List.getElem?_map]
    exact congrArg (Option.map _) hl
  refine ⟨R.keeps, R.table.trans U.table_eq, ?_, ?_, fun i l hl hnew => ?_,
    fun i l hl hnew => ?_, fun id hid => (R.kept id (habsent id hid)).1.trans (U.mentions id),
    .inr rfl⟩
  · show d₁.buffer.log = []
    rw [R.buffer, U.buffer]
    rfl
  · show d₁.buffer.texts = b.texts
    rw [R.texts, U.buffer]
    rfl
  · have hmem := List.mem_of_getElem? hl
    obtain ⟨hmentions, hstyles⟩ := R.fresh l (U.buffer ▸ hmem) ((hdue l hmem).2 hnew)
    rw [U.table_eq] at hmentions hstyles
    refine ⟨?_, ?_, hmentions, hstyles⟩
    · refine (hlines hl).trans ?_
      rw [relexedLine_of_due ((hdue l hmem).2 hnew), U.table_eq]
    · rw [R.numbers, U.numbers, H.numbers l.id hnew, Buffer.indexOf?_eq,
        Buffer.place_eq_some_iff hnd, hl, Option.map_some]
  · have hnot : due l.id = false := by
      rw [← Bool.not_eq_true]
      exact mt (hdue l (List.mem_of_getElem? hl)).1 hnew
    obtain ⟨hmentions, hstyles⟩ := R.kept l.id hnot
    refine ⟨(hlines hl).trans ?_, hmentions.trans (U.mentions _), hstyles.trans (U.styles _)⟩
    rw [relexedLine_of_not_due hnot]

theorem exists_opened (H : b.Reachable) (table : InstructionTable) :
    ∃ L, Opened b table (ofBuffer b table) L := by
  have hnd := H.wellFormed.nodup
  by_cases h : b.log = []
  · rw [ofBuffer, flushed_of_log_eq_nil h]
    exact ⟨{}, opened_of_log_eq_nil h⟩
  · have U := unlexed_followLog b table
    have P := H.reports.places
    rw [← U.numbers] at P
    obtain ⟨L₁, R⟩ := exists_relexed_all U.keeps (U.buffer ▸ P) (U.buffer ▸ hnd)
      (followLog { buffer := b, table }).2.dirty.toList
    rw [ofBuffer, flushed_of_log_ne_nil h]
    refine ⟨L₁, U.opened H.reports hnd (fun l hl => U.due_iff H.reports hl) (fun id hid => ?_) R⟩
    refine Ledger.due_eq_false (.inr ?_)
    cases hnumber : (b.log.foldl Ledger.follow {}).line? id with
    | none => rfl
    | some i =>
      have := P id i hnumber
      rw [Buffer.indexOf?_eq, Buffer.place_eq_none.2 hid] at this
      cases this

/-! ## Answers -/

/-- The document answers what one would compute from these lines. -/
structure Answers (d : Document) (table : InstructionTable) (texts : List Text) : Prop where
  tokens : ∀ i t, texts[i]? = some t → (tokens i).result d = .ok (tokenize table t)
  styledLine : ∀ i t, texts[i]? = some t →
    (styledLine i).result d = .ok (styleLine (tokenize table t))
  codeLine : ∀ i t, texts[i]? = some t → (codeLine i).result d = .ok (if isCode (tokenize table t) then
    some ((texts.take i).countP fun u => isCode (tokenize table u)) else none)
  symbols : d.symbols.all = scan table texts

/-- A line without tokens, with none kept for it either. -/
def Vacant (l : Line) : Prop := l.text.isBlank = true ∧ l.tokens?.getD [] = []

theorem tokensOf_of_isBlank (d : Document) (h : l.text.isBlank = true) :
    d.tokensOf l = l.tokens?.getD [] := by
  rw [tokensOf, tokenize_eq_nil_iff.2 h]

section
variable (O : Opened b table d L)
include O

/-- A line that was lexed, or that has nothing to lex, is known. -/
theorem Opened.known (hl : b.lines[i]? = some l) (h : b.Reported l.id ∨ Vacant l) :
    ∃ m, d.buffer.lines[i]? = some m ∧ m.id = l.id ∧ d.tokensOf m = tokenize table l.text ∧
      d.spansOf m.id = styleLine (tokenize table l.text) ∧
      L.mentions l.id = mentionsOf l.text (tokenize table l.text) := by
  by_cases hnew : b.Reported l.id
  · obtain ⟨hm, -, hmentions, hstyles⟩ := O.lexed i l hl hnew
    refine ⟨_, hm, rfl, ?_, ?_, hmentions⟩
    · rw [tokensOf, Option.getD_some]
    · rw [spansOf, hstyles, Option.getD_some]
  · obtain ⟨hm, hmentions, hstyles⟩ := O.left i l hl hnew
    obtain ⟨hblank, htokens⟩ := h.resolve_left hnew
    have hnone : tokenize table l.text = [] := tokenize_eq_nil_iff.2 hblank
    refine ⟨_, hm, rfl, ?_, ?_, ?_⟩
    · rw [tokensOf_of_isBlank d hblank, htokens, hnone]
    · rw [spansOf, hstyles, Option.getD_none, hnone]
      rfl
    · rw [hmentions, hnone]
      rfl

/-- A line that was left as it was is known only if there is nothing to know. -/
theorem Opened.vacant (hl : b.lines[i]? = some l) (hnew : ¬b.Reported l.id)
    (htokens : d.tokensOf l = tokenize table l.text)
    (hspans : d.spansOf l.id = styleLine (tokenize table l.text)) : Vacant l := by
  rw [spansOf, (O.left i l hl hnew).2.2, Option.getD_none] at hspans
  have hnone : tokenize table l.text = [] := List.map_eq_nil_iff.1 hspans.symm
  have hblank := tokenize_eq_nil_iff.1 hnone
  refine ⟨hblank, ?_⟩
  rw [← tokensOf_of_isBlank d hblank, htokens, hnone]

/-- Every line that mentions something was lexed, so its number is known. -/
theorem Opened.line?_of_mentions (hnd : b.ids.Nodup) (h : L.mentions id ≠ []) :
    L.line? id = b.indexOf? id := by
  have hid : id ∈ b.ids := by
    by_contra hid
    exact h (O.absent id hid)
  obtain ⟨l, hmem, rfl⟩ := List.mem_map.1 hid
  obtain ⟨i, hl⟩ := List.mem_iff_getElem?.1 hmem
  by_cases hnew : b.Reported l.id
  · rw [(O.lexed i l hl hnew).2.1, Buffer.indexOf?_eq]
    exact ((Buffer.place_eq_some_iff hnd).2 (by rw [hl, Option.map_some])).symm
  · exact absurd (O.left i l hl hnew).2.1 h

section
variable (h : ∀ l ∈ b.lines, b.Reported l.id ∨ Vacant l)
include h

/-- The index need not have the numbers of blank lines. -/
theorem Opened.all_eq (hnd : b.ids.Nodup) : d.symbols.all = scan table b.texts := by
  have H : Ledger.Lists { L with line? := b.indexOf? } b.ids (listing table b.texts) := by
    refine ⟨by simp [listing, Buffer.texts, Buffer.ids], fun id i => ?_, fun i id hid => ?_, O.absent⟩
    · show b.indexOf? id = some i ↔ _
      rw [Buffer.indexOf?_eq, Buffer.place_eq_some_iff hnd, Buffer.ids, List.getElem?_map]
    · rw [Buffer.ids, List.getElem?_map, Option.map_eq_some_iff] at hid
      obtain ⟨l, hl, rfl⟩ := hid
      obtain ⟨m, -, -, -, -, hmentions⟩ := O.known hl (h l (List.mem_of_getElem? hl))
      rw [hmentions, listing, Buffer.texts]
      simp [hl]
  exact O.keeps.all_eq_of_mentions H rfl fun _ => O.line?_of_mentions hnd

theorem Opened.codeLine_eq (hl : b.lines[i]? = some l) :
    d.codeLines[i]?.join = if isCode (tokenize table l.text) then
      some ((b.texts.take i).countP fun u => isCode (tokenize table u)) else none := by
  rcases O.codeLines with ⟨hnone, hnew⟩ | hcode
  · have hblank := ((h l (List.mem_of_getElem? hl)).resolve_left (hnew l.id)).1
    rw [hnone, tokenize_eq_nil_iff.2 hblank]
    rfl
  · have htokens : ∀ m ∈ d.buffer.lines, isCode (d.tokensOf m) = isCode (tokenize table m.text) := by
      intro m hm
      obtain ⟨i, hi⟩ := List.mem_iff_getElem?.1 hm
      have ht : b.text? i = some m.text := by
        rw [Buffer.text?_eq, ← O.texts_eq, ← Buffer.text?_eq, Buffer.text?, hi, Option.map_some]
      obtain ⟨l, hl, hlt⟩ := Buffer.text?_eq_some.1 ht
      obtain ⟨m', hm', -, htokens, -⟩ := O.known hl (h l (List.mem_of_getElem? hl))
      obtain rfl : m = m' := Option.some.inj (hi.symm.trans hm')
      rw [htokens, hlt]
    have hmarks : d.codeLines = numberCode 0 d.codeMarks := by
      rw [hcode, List.map_congr_left htokens, codeMarks, Buffer.texts, List.map_map, O.table_eq]
      rfl
    have ht : d.buffer.text? i = some l.text := by
      rw [Buffer.text?_eq, O.texts_eq, ← Buffer.text?_eq, Buffer.text?, hl, Option.map_some]
    rw [codeLine_of_codeMarks hmarks ht, O.texts_eq, O.table_eq]

theorem Opened.answers (hnd : b.ids.Nodup) : d.Answers table b.texts := by
  have hexists {i : Nat} {t : Text} (ht : b.texts[i]? = some t) :
      ∃ l, b.lines[i]? = some l ∧ l.text = t ∧ (b.Reported l.id ∨ Vacant l) := by
    rw [Buffer.texts, List.getElem?_map, Option.map_eq_some_iff] at ht
    obtain ⟨l, hl, hlt⟩ := ht
    exact ⟨l, hl, hlt, h l (List.mem_of_getElem? hl)⟩
  refine ⟨fun i t ht => ?_, fun i t ht => ?_, fun i t ht => ?_, O.all_eq h hnd⟩
  all_goals
    obtain ⟨l, hl, rfl, hlexed⟩ := hexists ht
    obtain ⟨m, hm, -, htokens, hspans, -⟩ := O.known hl hlexed
  · rw [result_tokens O.log hm, htokens]
  · rw [result_styledLine O.log hm, hspans]
  · rw [result_codeLine O.log hm, O.codeLine_eq h hl]

end

theorem Opened.of_answers (A : d.Answers table b.texts) :
    ∀ l ∈ b.lines, b.Reported l.id ∨ Vacant l := by
  intro l hmem
  obtain ⟨i, hl⟩ := List.mem_iff_getElem?.1 hmem
  refine or_iff_not_imp_left.2 fun hnew => ?_
  have hm := (O.left i l hl hnew).1
  have ht : b.texts[i]? = some l.text := by rw [Buffer.texts, List.getElem?_map, hl, Option.map_some]
  have htokens := A.tokens i _ ht
  have hspans := A.styledLine i _ ht
  rw [result_tokens O.log hm] at htokens
  rw [result_styledLine O.log hm] at hspans
  exact O.vacant hl hnew (Except.ok.inj htokens) (Except.ok.inj hspans)

end

/-- A document that is opened on a buffer, whatever happened to it before, answers what one would
compute from its lines iff the lines that the log does not report as new are blank and were not given
any tokens. -/
theorem answers_ofBuffer_iff (H : b.Reachable) (table : InstructionTable) :
    (ofBuffer b table).Answers table b.texts ↔ ∀ l ∈ b.lines, b.Reported l.id ∨ Vacant l := by
  obtain ⟨L, O⟩ := exists_opened H table
  exact ⟨O.of_answers, fun h => O.answers h H.wellFormed.nodup⟩

/-- An empty text is drained before it gets its only line of code. -/
theorem answers_ofBuffer_iff_empty :
    let b := Buffer.Op.apply (.insertLines 1 ["set x 1".toList]) (Buffer.ofText []).clearLog
    b.Reachable ∧ (ofBuffer b .stock).Answers .stock b.texts := by
  intro b
  have H : b.Reachable := by
    refine ⟨_, .ofText [] (by decide), .tail (.single .drain) (.event (.op (.apply _ ?_)))⟩
    decide
  have hlines : b.lines = [⟨0, [], none⟩, ⟨1, "set x 1".toList, none⟩] := rfl
  have hlog : b.log = [.inserted 1 1] := rfl
  refine ⟨H, (answers_ofBuffer_iff H .stock).2 fun l hl => ?_⟩
  rw [hlines] at hl
  rcases List.mem_cons.1 hl with rfl | hl
  · exact .inr ⟨rfl, rfl⟩
  · obtain rfl := List.mem_singleton.1 hl
    exact .inl ⟨1, hlog ▸ List.mem_singleton_self _⟩

/-- A text is drained before the document is opened. Its only line is not lexed. -/
theorem not_answers_ofBuffer :
    let b := (Buffer.ofText "set x 1".toList).clearLog
    b.Reachable ∧ ¬(ofBuffer b .stock).Answers .stock b.texts := by
  intro b
  refine ⟨⟨_, .ofText _ (by decide), .single .drain⟩, fun A => ?_⟩
  have hnone : (ofBuffer b .stock).symbols.all = [] := by decide +kernel
  have hscan : scan .stock b.texts = [⟨"x", .variable, some 0, []⟩] := by decide +kernel
  have := hnone.symm.trans (A.symbols.trans hscan)
  cases this

end Document
end LogicEditor
