import LogicEditor.Proofs.Buffer.Toggle
import LogicEditor.Proofs.Buffer.TokenCache
import LogicEditor.Proofs.Document.Session
import LogicEditor.Proofs.Language.Lexeme

/-!
# Lines that are commented out

Toggling comments goes by the first character after the indentation of a line. The lexer goes by it too:
what starts with a comment mark is one comment, whatever stands in it (`tokenize_of_isCommented`). So a
line that got a mark holds no code and no names (`Document.HoldsComment`), and the lines that hold code
are numbered without it (`Document.NumbersCode`). A line that had a mark already is left alone, with the
tokens that are kept with it; a document that does not know the line does not lex it, so it is a comment
only if these tokens say so. That and the ends of the selection, which may be too far right to be pushed
on, are all that can go wrong (`Document.toggleComment_comments_out_iff`).
-/

namespace LogicEditor

open Edit (isCommented indentation)

variable {d d' : Document} {b : Buffer} {table : InstructionTable} {sel : Selection} {t : Text}
  {ts : List Text} {line i : Nat} {L : Ledger} {l : Line}

/-! ## Comments -/

theorem exists_split_of_isCommented (h : isCommented t) :
    ∃ w rest, t = w ++ commentMark :: rest ∧ (∀ c ∈ w, Text.isSpace c = true) ∧
      indentation t = w.length := by
  rw [isCommented, beq_iff_eq, List.head?_eq_some_iff] at h
  obtain ⟨rest, hrest⟩ := h
  refine ⟨t.takeWhile Text.isSpace, rest, ?_, fun c hc => List.mem_takeWhile_imp hc, rfl⟩
  rw [← hrest, List.takeWhile_append_dropWhile]

/-- A line that starts with a comment mark is one comment. -/
theorem tokenize_of_isCommented (table : InstructionTable) (h : isCommented t) : tokenize table t =
    [{ span := ⟨indentation t, t.length⟩, kind := .comment, word := 0 }] := by
  obtain ⟨w, rest, rfl, hw, hindent⟩ := exists_split_of_isCommented h
  have hscan : Lexeme.ofLine (w ++ commentMark :: rest) =
      [⟨.comment, w.length, commentMark :: rest, 0, true⟩] := by
    show Lexeme.Place.origin.scan (w ++ commentMark :: rest) = _
    rw [Lexeme.Place.scan_spaces hw rfl, Lexeme.Place.scan_comment, Lexeme.Place.lexeme,
      Lexeme.Place.origin, Nat.zero_add]
    rfl
  rw [tokenize, hscan, List.flatMap_singleton, hindent, List.length_append]
  rfl

theorem exists_tokenize_of_isCommented (table : InstructionTable) (h : isCommented t) :
    ∃ u, tokenize table t = [u] ∧ u.kind = .comment :=
  ⟨_, tokenize_of_isCommented table h, rfl⟩

namespace Edit

open LineEffect

section
variable (h : GetsMarks ts)
include h

/-- A line that gets a mark, or has one, is a comment after that. -/
theorem isCommented_toggle (ht : t.isBlank = false ∨ ∀ u ∈ ts, u.isBlank = true) :
    isCommented ((toggle ts).text t) = true := by
  have hskip : (!ts.all Text.isBlank && t.isBlank) = false := by
    rcases ht with hblank | hall
    · rw [hblank, Bool.and_false]
    · rw [List.all_eq_true.2 hall]
      rfl
  rw [toggle_of_getsMarks h, text_skipping_of_not hskip]
  cases hplain : isCommented t with
  | false =>
    rw [text_comment hplain]
    exact isCommented_commented t
  | true =>
    rw [comment, text_skipping hplain]
    exact hplain

theorem text_toggle_of_isBlank (ht : ¬(t.isBlank = false ∨ ∀ u ∈ ts, u.isBlank = true)) :
    (toggle ts).text t = t := by
  rw [not_or, Bool.not_eq_false, ← List.all_eq_true, Bool.not_eq_true] at ht
  rw [toggle_of_getsMarks h]
  refine text_skipping ?_
  rw [ht.1, ht.2]
  rfl

end

/-- Some line gets a mark then. -/
theorem exists_plain (h : GetsMarks ts) (hne : ts ≠ []) : ∃ t ∈ ts, isCommented t = false ∧
    (t.isBlank = false ∨ ∀ u ∈ ts, u.isBlank = true) := by
  rcases h with ⟨t, ht, hblank, hplain⟩ | hall
  · exact ⟨t, ht, hplain, .inl hblank⟩
  · obtain ⟨t, ht⟩ := List.exists_mem_of_ne_nil ts hne
    exact ⟨t, ht, isCommented_of_isBlank (hall t ht), .inr hall⟩

/-- Toggling comments leaves the comments of a block alone that gets marks, with their tokens. -/
theorem mem_lines_toggleComment (W : b.WellFormed) (hlast : sel.lineBlock.last < b.lineCount)
    (hmarks : GetsMarks (blockTexts b sel.lineBlock)) (hl : l ∈ b.lines) (hc : isCommented l.text) :
    l ∈ ((toggleComment sel).outcome b).2.lines := by
  cases hroom : toggleOverflows b sel with
  | true =>
    rw [outcome_toggleComment_of_overflows hlast hroom]
    exact hl
  | false =>
    obtain ⟨above, us, below, P⟩ := Buffer.exists_parts (first_le_last sel) hlast
    have hclean := P.blockTexts_eq ▸ @Buffer.clean_blockTexts b sel.lineBlock W
    rw [P.blockTexts_eq] at hmarks
    rw [toggleComment, outcome_checkBlock_bind P.last_lt, EditM.outcome_bind, EditM.outcome_get]
    simp only [outcome_stopIf_bind, hroom, Bool.false_eq_true, if_false, P.blockTexts_eq]
    split
    · exact mem_lines_eachLine hl hc _ P.texts P.first hclean
    · rename_i hsome
      split
      · rename_i hall
        -- nothing gets a mark if all lines are blank or comments, unless all are blank
        rcases hmarks with ⟨t, ht, hblank, hplain⟩ | hblank
        · have := List.all_eq_true.1 hall t ht
          rw [hblank, hplain] at this
          cases this
        · exact absurd (List.all_eq_true.2 hblank) hsome
      · exact mem_lines_eachLine hl hc _ P.texts P.first hclean

end Edit

/-! ## Documents -/

namespace Document

/-- The line is a comment: it has one token, no code line number, and no name stands in it. -/
structure HoldsComment (d : Document) (line : Nat) : Prop where
  lexed : ∃ u, (tokens line).outcome d = (.ok [u], d) ∧ u.kind = .comment
  number : (codeLine line).outcome d = (.ok none, d)
  mentions : ∃ id, d.buffer.id? line = some id ∧ d.symbols.contributions.getD id [] = []
  symbols : ∀ s ∈ d.symbols.all, s.definingLine? ≠ some line ∧ line ∉ s.references

/-- The lines that hold code have the numbers from 0 on, in the order of the lines, and no others have
one. -/
structure NumbersCode (d : Document) : Prop where
  length : d.codeLines.length = d.buffer.lineCount
  answers : ∀ (line : Nat) (number? : Option Nat), d.codeLines[line]? = some number? →
    ∃ us, (tokens line).outcome d = (.ok us, d) ∧
      (codeLine line).outcome d = (.ok number?, d) ∧ number?.isSome = isCode us
  consecutive : ∃ n, d.codeLines.filterMap id = List.range n

/-- Lines that are numbered by the tokens that the document has of them are numbered by the tokens that
it answers with. -/
theorem numbersCode (hlog : d.buffer.log = [])
    (hcode : d.codeLines = numberCode 0 (d.buffer.lines.map fun l => isCode (d.tokensOf l))) :
    d.NumbersCode where
  length := by
    rw [hcode, length_numberCode, List.length_map]
    rfl
  answers line number? h := by
    have hmark := h
    rw [hcode, getElem?_numberCode, List.getElem?_map, Option.map_map, Option.map_eq_some_iff] at hmark
    obtain ⟨l, hl, hnumber⟩ := hmark
    have hanswer := outcome_answer hlog hl (·.codeLines[line]?.join)
    rw [h, Option.join_some] at hanswer
    refine ⟨_, outcome_tokensOf hlog hl, hanswer, ?_⟩
    rw [← hnumber]
    show Option.isSome (if isCode (d.tokensOf l) then _ else none) = _
    cases isCode (d.tokensOf l) <;> rfl
  consecutive := ⟨_, by rw [hcode, filterMap_numberCode, List.range_eq_range']⟩

/-- A line that starts with a comment mark is a comment to the document just if its tokens say so. -/
theorem Shows.holdsComment_iff (S : Shows d (fun _ => False) L) (hlog : d.buffer.log = [])
    (hcode : d.codeLines = numberCode 0 (d.buffer.lines.map fun l => isCode (d.tokensOf l)))
    (hl : d.buffer.lines[i]? = some l) (hc : isCommented l.text) :
    d.HoldsComment i ↔ ∃ u, d.tokensOf l = [u] ∧ u.kind = .comment := by
  have htokens := outcome_tokensOf hlog hl
  constructor
  · rintro ⟨⟨u, hu, hkind⟩, -⟩
    rw [htokens] at hu
    exact ⟨u, Except.ok.inj (congrArg Prod.fst hu), hkind⟩
  · rintro ⟨u, hu, hkind⟩
    have hmentions : L.mentions l.id = [] := by
      cases hnumber : L.line? l.id with
      | none => exact (S.absent l.id hnumber).1
      | some k =>
        have hshown := S.shown l (List.mem_of_getElem? hl) (Option.isSome_of_eq_some hnumber) not_false
        rw [hshown.mentions, tokenize_of_isCommented d.table hc]
        rfl
    have hnone (name : String) (k : SymbolKind) : i ∉ L.linesOf name k := by
      rintro ⟨id, role, -, hm, hline⟩
      obtain ⟨above, m, below, hlines, hn, rfl⟩ := Buffer.exists_of_indexOf? (S.places id i hline)
      have hi : d.buffer.lines[i]? = some m := by rw [hlines, ← hn]; simp
      cases hl.symm.trans hi
      rw [hmentions] at hm
      cases hm
    refine ⟨⟨u, by rw [htokens, hu], hkind⟩, ?_, ⟨l.id, ?_, ?_⟩, fun s hs => ?_⟩
    · have hanswer : (codeLine i).outcome d = _ := outcome_answer hlog hl (·.codeLines[i]?.join)
      rw [hanswer, hcode, getElem?_numberCode, List.getElem?_map, hl, Option.map_some, Option.map_some,
        Option.join_some, hu, isCode, List.any_cons, hkind]
      rfl
    · rw [Buffer.id?, hl, Option.map_some]
    · rw [S.keeps.contribution, hmentions]
    · have hdescribes := (S.keeps.mem_all_iff.1 hs).2
      exact ⟨fun h => hnone _ _ ((hdescribes.defining i).1 h).2.1,
        fun h => hnone _ _ ((hdescribes.references i).1 h)⟩

/-- After a flush a line has the tokens of its text, and had those of the text before if it was there, or
it was not touched, as the document does not know it. -/
theorem Idle.lexed_or_kept {c : Buffer} {m m' : Line} (S : d.Idle)
    (H : Buffer.Steps maxIndex d.buffer c) (hm : c.lines[i]? = some m)
    (hm' : (Document.flushed { d with buffer := c }).1.buffer.lines[i]? = some m') :
    ((Document.flushed { d with buffer := c }).1.tokensOf m' = tokenize d.table m.text ∧
      ∀ l ∈ d.buffer.lines, l.id = m.id → d.tokensOf l = tokenize d.table l.text) ∨ m' = m := by
  have W := Buffer.Steps.wellFormed H S.wellFormed
  obtain ⟨es, D⟩ := Buffer.Steps.diff H S.wellFormed S.fits
  have hes : c.log = es := by rw [D.log, S.log, List.nil_append]
  obtain ⟨L, hL⟩ := S.shows
  have B := hL.behind D S.log S.wellFormed
  obtain ⟨L', hL', hline⟩ := B.flushed W.nodup
  obtain ⟨m'', hm'', hid, htext⟩ := exists_line_flushed (d := { d with buffer := c }) hm
  obtain rfl : m' = m'' := Option.some.inj (hm'.symm.trans hm'')
  cases hnumber : L'.line? m'.id with
  | some k =>
    have hsome := Option.isSome_of_eq_some hnumber
    have hshown := hL'.shown m' (List.mem_of_getElem? hm') hsome not_false
    refine .inl ⟨?_, fun l hl hlm => ?_⟩
    · rw [tokensOf, hshown.tokens, Option.getD_some, table_flushed, htext]
    · rw [hline, hid, ← hlm, hes] at hsome
      have hold := ((hL.places.replay_isSome D S.wellFormed).1 hsome).2.resolve_left fun hnew => by
        obtain ⟨line, hnew⟩ := hnew
        exact Nat.not_lt.2 (D.fresh _ line hnew).1 (S.wellFormed.below _ (List.mem_map_of_mem hl))
      rw [tokensOf, (hL.shown l hl hold not_false).tokens, Option.getD_some]
  | none =>
    have hnone : replay L.line? c.log m.id = none := by
      rw [← hid, ← hnumber, hline]
    exact .inr ((wellFormed_flushed (d := { d with buffer := c }) W).eq_of_id_eq
      (B.mem_flushed W.nodup (List.mem_of_getElem? hm) hnone) (List.mem_of_getElem? hm') hid)

/-- What toggling comments on a block that gets marks is to do: its lines are commented out, blank ones
only if there are no others, the other lines keep their texts and all lines their handles, and the lines
that hold code are numbered anew. -/
structure CommentsOut (d : Document) (sel : Selection) (d' : Document) : Prop where
  ids : d'.buffer.ids = d.buffer.ids
  lines : ∀ i t, d.buffer.text? i = some t →
    if (sel.lineBlock.first ≤ i ∧ i ≤ sel.lineBlock.last) ∧ (t.isBlank = false ∨
      ∀ u ∈ Edit.blockTexts d.buffer sel.lineBlock, u.isBlank = true) then d'.HoldsComment i
    else d'.buffer.text? i = some t
  numbers : d'.NumbersCode

/-- Toggling comments on a block that gets marks. -/
structure Toggles (d : Document) (sel : Selection) (c : Buffer) : Prop where
  command : ((Edit.toggleComment sel).outcome d.buffer).2 = c
  last_lt : sel.lineBlock.last < d.buffer.lineCount
  marks : Edit.GetsMarks (Edit.blockTexts d.buffer sel.lineBlock)
  ids : c.ids = d.buffer.ids
  steps : Buffer.Steps maxIndex d.buffer c
  text : ∀ i t, d.buffer.text? i = some t → c.text? i =
    some (if sel.lineBlock.first ≤ i ∧ i ≤ sel.lineBlock.last then
      (Edit.LineEffect.toggle (Edit.blockTexts d.buffer sel.lineBlock)).text t else t)

theorem Idle.exists_toggles (S : d.Idle) (hl : sel.lineBlock.last < d.buffer.lineCount)
    (hmarks : Edit.GetsMarks (Edit.blockTexts d.buffer sel.lineBlock))
    (hroom : Edit.EndsHaveRoom d.buffer sel) : ∃ o c, Toggles d sel c ∧
      (toggleComment sel).outcome d = (.ok o, (Document.flushed { d with buffer := c }).1) := by
  obtain ⟨above, ts, below, P⟩ := Buffer.exists_parts (Edit.first_le_last sel) hl
  obtain ⟨c, hcommand, R⟩ := Edit.exists_toggleComment S.wellFormed P
    (Edit.toggleOverflows_eq_false_iff.2 hroom)
  have ho := outcome_edit (Edit.toggleComment sel) d
  rw [hcommand] at ho
  refine ⟨_, c, ⟨congrArg Prod.snd hcommand, hl, hmarks, R.ids, R.steps maxIndex, fun i t ht => ?_⟩, ho⟩
  rw [P.blockTexts_eq]
  exact P.text?_map (P.replaced R.texts (List.length_map _)) ht

section
variable {c : Buffer} (S : d.Idle) (H : Toggles d sel c)
include S H

/-- Some line has another text after that, so something is in the log. -/
theorem Toggles.log_ne_nil : c.log ≠ [] := by
  intro h
  obtain ⟨es, D⟩ := Buffer.Steps.diff H.steps S.wellFormed S.fits
  obtain rfl : es = [] := by rwa [D.log, S.log, List.nil_append] at h
  have hlines := D.lines_eq S.wellFormed.nodup (Buffer.Steps.wellFormed H.steps S.wellFormed).nodup
  obtain ⟨above, ts, below, P⟩ := Buffer.exists_parts (Edit.first_le_last sel) H.last_lt
  have hmarks := H.marks
  rw [P.blockTexts_eq] at hmarks
  obtain ⟨t, ht, hplain, hblank⟩ :=
    Edit.exists_plain hmarks (P.ne_nil (Edit.first_le_last sel))
  obtain ⟨k, hk⟩ := List.mem_iff_getElem?.1 ht
  have hlt : k < ts.length := (List.getElem?_eq_some_iff.1 hk).1
  have hi : d.buffer.text? (above.length + k) = some t := by
    rw [Buffer.text?_eq, P.texts, List.append_assoc, List.getElem?_append_right (Nat.le_add_right ..),
      Nat.add_sub_cancel_left, List.getElem?_append_left hlt, hk]
  have hfirst := P.first
  have hlast := P.last
  have hnew := H.text _ t hi
  rw [if_pos (by omega), P.blockTexts_eq, Buffer.text?, hlines] at hnew
  have hsame := Option.some.inj (hi.symm.trans hnew)
  have hcomment := Edit.isCommented_toggle hmarks hblank
  rw [← hsame, hplain] at hcomment
  cases hcomment

theorem Toggles.fits : c.Fits := by
  rw [Buffer.Fits, ← Buffer.length_ids, H.ids, Buffer.length_ids]
  exact S.fits

/-- A line that is to get a mark has one after that. If it had one before, it is left alone, and if not,
it has no tokens any more. -/
theorem Toggles.exists_line (hl : d.buffer.lines[i]? = some l)
    (hin : sel.lineBlock.first ≤ i ∧ i ≤ sel.lineBlock.last) (hblank : l.text.isBlank = false ∨
      ∀ u ∈ Edit.blockTexts d.buffer sel.lineBlock, u.isBlank = true) :
    ∃ m, c.lines[i]? = some m ∧ m.id = l.id ∧ isCommented m.text = true ∧
      (isCommented l.text → m = l) ∧ (¬isCommented l.text → m.tokens? = none) := by
  have W := Buffer.Steps.wellFormed H.steps S.wellFormed
  have hnew := H.text i _ (Buffer.text?_eq_some.2 ⟨l, hl, rfl⟩)
  rw [if_pos hin] at hnew
  obtain ⟨m, hm, htext⟩ := Buffer.text?_eq_some.1 hnew
  have hmark : isCommented m.text = true := htext ▸ Edit.isCommented_toggle H.marks hblank
  have hid : m.id = l.id := by
    have hids := congrArg (·[i]?) H.ids
    simp only [Buffer.ids, List.getElem?_map, hm, hl, Option.map_some, Option.some.injEq] at hids
    exact hids
  refine ⟨m, hm, hid, hmark, fun hc => ?_, fun hc => ?_⟩
  · have hstays := Edit.mem_lines_toggleComment S.wellFormed H.last_lt H.marks
      (List.mem_of_getElem? hl) hc
    rw [H.command] at hstays
    exact W.eq_of_id_eq hstays (List.mem_of_getElem? hm) hid
  · obtain ⟨es, hcarries⟩ := H.steps.carriesOver
    rcases hcarries.line m (List.mem_of_getElem? hm) with hb | ⟨htokens, -⟩
    · obtain rfl := S.wellFormed.eq_of_id_eq (List.mem_of_getElem? hl) hb hid
      exact absurd hmark hc
    · exact htokens

/-- A line that was to get a mark is a comment after the flush, unless it had a mark before and tokens
that say something else. -/
theorem Toggles.holdsComment_iff (ht : d.buffer.text? i = some t)
    (hin : sel.lineBlock.first ≤ i ∧ i ≤ sel.lineBlock.last) (hblank : t.isBlank = false ∨
      ∀ u ∈ Edit.blockTexts d.buffer sel.lineBlock, u.isBlank = true) :
    (Document.flushed { d with buffer := c }).1.HoldsComment i ↔
      (isCommented t → ∃ u, (tokens i).outcome d = (.ok [u], d) ∧ u.kind = .comment) := by
  obtain ⟨L, hL⟩ := (S.flushed H.steps (H.fits S)).shows
  obtain ⟨l, hl, rfl⟩ := Buffer.text?_eq_some.1 ht
  obtain ⟨m, hm, hid, hmark, hsame, hunlexed⟩ := H.exists_line S hl hin hblank
  obtain ⟨m', hm', hid', htext⟩ := exists_line_flushed (d := { d with buffer := c }) hm
  rw [hL.holdsComment_iff (log_flushed _) (codeLines_flushed (H.log_ne_nil S)) hm' (htext ▸ hmark),
    outcome_tokensOf S.log hl]
  rcases S.lexed_or_kept H.steps hm hm' with ⟨htokens, hbefore⟩ | rfl
  · refine iff_of_true ?_ fun hc => ?_
    · rw [htokens]
      exact exists_tokenize_of_isCommented _ hmark
    · obtain ⟨u, hu, hkind⟩ := exists_tokenize_of_isCommented d.table hc
      exact ⟨u, by rw [hbefore l (List.mem_of_getElem? hl) hid.symm, hu], hkind⟩
  · by_cases hc : isCommented l.text
    · obtain rfl := hsame hc
      have hkept : (Document.flushed { d with buffer := c }).1.tokensOf m' = d.tokensOf m' := by
        rw [tokensOf, tokensOf, table_flushed]
      rw [hkept]
      constructor
      · rintro ⟨u, hu, hkind⟩ -
        exact ⟨u, by rw [hu], hkind⟩
      · intro h
        obtain ⟨u, hu, hkind⟩ := h hc
        exact ⟨u, Except.ok.inj (congrArg Prod.fst hu), hkind⟩
    · refine iff_of_true ?_ fun hc' => absurd hc' hc
      rw [tokensOf, hunlexed hc, Option.getD_none]
      exact exists_tokenize_of_isCommented _ hmark

end

/-- Toggling comments on a block that gets marks comments it out, iff the ends of the selection can be
pushed on, and the lines of the block that are comments already have the tokens of comments. They do if
the log of the buffer was not drained before it was opened. If the ends cannot be pushed on, the program
stops. -/
theorem toggleComment_comments_out_iff (S : Session d)
    (hl : sel.lineBlock.last < d.buffer.lineCount)
    (hmarks : Edit.GetsMarks (Edit.blockTexts d.buffer sel.lineBlock)) :
    ((∃ o d', (toggleComment sel).outcome d = (.ok o, d') ∧ CommentsOut d sel d') ↔
      Edit.EndsHaveRoom d.buffer sel ∧ ∀ i t, sel.lineBlock.first ≤ i ∧ i ≤ sel.lineBlock.last →
        d.buffer.text? i = some t → isCommented t →
          ∃ u, (tokens i).outcome d = (.ok [u], d) ∧ u.kind = .comment) ∧
    (¬Edit.EndsHaveRoom d.buffer sel → (toggleComment sel).outcome d = (.error .overflow, d)) ∧
    ∀ table, Reachable table d → ∀ i t, d.buffer.text? i = some t → isCommented t →
      ∃ u, (tokens i).outcome d = (.ok [u], d) ∧ u.kind = .comment := by
  have hstops (h : ¬Edit.EndsHaveRoom d.buffer sel) :
      (toggleComment sel).outcome d = (.error .overflow, d) := by
    rw [← Edit.toggleOverflows_eq_false_iff, Bool.not_eq_false] at h
    have ho := outcome_edit (Edit.toggleComment sel) d
    rwa [Edit.outcome_toggleComment_of_overflows hl h] at ho
  refine ⟨⟨?_, ?_⟩, hstops, fun table H i t ht hc => ?_⟩
  · rintro ⟨o, d', ho, C⟩
    have hroom : Edit.EndsHaveRoom d.buffer sel := by
      by_contra h
      rw [hstops h] at ho
      cases ho
    obtain ⟨o', c, H, ho'⟩ := S.idle.exists_toggles hl hmarks hroom
    obtain rfl : _ = d' := congrArg Prod.snd (ho'.symm.trans ho)
    refine ⟨hroom, fun i t hin ht hc => ?_⟩
    have hblank := Edit.not_isBlank_of_isCommented hc
    have hline := C.lines i t ht
    rw [if_pos ⟨hin, .inl hblank⟩] at hline
    exact (H.holdsComment_iff S.idle ht hin (.inl hblank)).1 hline hc
  · rintro ⟨hroom, htokens⟩
    obtain ⟨o, c, H, ho⟩ := S.idle.exists_toggles hl hmarks hroom
    refine ⟨o, _, ho, (ids_flushed _).trans H.ids, fun i t ht => ?_,
      numbersCode (log_flushed _) (codeLines_flushed (H.log_ne_nil S.idle))⟩
    split
    · rename_i hin
      exact (H.holdsComment_iff S.idle ht hin.1 hin.2).2 (htokens i t hin.1 ht)
    · rename_i hout
      rw [Buffer.text?_eq, texts_flushed { d with buffer := c }, ← Buffer.text?_eq, H.text i t ht,
        Option.some.injEq, ite_eq_right_iff]
      exact fun hin => Edit.text_toggle_of_isBlank hmarks fun h => hout ⟨hin, h⟩
  · obtain ⟨u, hu, hkind⟩ := exists_tokenize_of_isCommented d.table hc
    exact ⟨u, hu ▸ H.settled.1.outcome_tokens ht, hkind⟩

/-- A line with a mark in a string, a blank line and a comment, selected backward, with code below. -/
theorem toggleComment_comments_out_iff_mixed :
    let d := ofText "  set x \"#\"\n \n# a\nprint x".toList .stock
    let sel : Selection := ⟨⟨2, 1⟩, ⟨0, 4⟩⟩
    ∃ o d', (toggleComment sel).outcome d = (.ok o, d') ∧ d'.HoldsComment 0 ∧
      d'.buffer.text? 1 = some [' '] ∧ d'.HoldsComment 2 ∧ d'.NumbersCode ∧
      d'.codeLines = [none, none, none, some 0] ∧ d'.symbols.all = [⟨"x", .implicit, none, [3]⟩] := by
  intro d sel
  have hd : Reachable .stock d := .opened (.ofText _ (by decide)) .refl
  have hl : sel.lineBlock.last < d.buffer.lineCount := by decide +kernel
  have hmarks : Edit.GetsMarks (Edit.blockTexts d.buffer sel.lineBlock) := by decide +kernel
  have hroom : Edit.EndsHaveRoom d.buffer sel := by decide +kernel
  have hafter : ((toggleComment sel).outcome d).2.codeLines = [none, none, none, some 0] ∧
      ((toggleComment sel).outcome d).2.symbols.all = [⟨"x", .implicit, none, [3]⟩] := by
    decide +kernel
  obtain ⟨hiff, -, htokens⟩ := toggleComment_comments_out_iff hd.session hl hmarks
  obtain ⟨o, d', ho, -, hlines, hnumbers⟩ :=
    hiff.2 ⟨hroom, fun i t _ ht hc => htokens _ hd i t ht hc⟩
  rw [ho] at hafter
  have h0 := hlines 0 "  set x \"#\"".toList (by decide +kernel)
  have h1 := hlines 1 [' '] (by decide +kernel)
  have h2 := hlines 2 "# a".toList (by decide +kernel)
  rw [if_pos (by decide +kernel)] at h0 h2
  rw [if_neg (by decide +kernel)] at h1
  exact ⟨o, d', ho, h0, h1, h2, hnumbers, hafter⟩

/-- A selection that ends as far right as an index goes, and a comment that was given the tokens of a
name before its buffer was drained and opened. -/
theorem not_toggleComment_comments_out :
    (let d := ofText ['a'] .stock
      let sel : Selection := ⟨⟨0, 0⟩, ⟨0, maxIndex⟩⟩
      Reachable .stock d ∧ sel.lineBlock.last < d.buffer.lineCount ∧
        Edit.GetsMarks (Edit.blockTexts d.buffer sel.lineBlock) ∧
        (toggleComment sel).outcome d = (.error .overflow, d)) ∧
    let b := (Buffer.ofText "# a\nb".toList).clearLog.setTokens 0 [⟨⟨0, 1⟩, .identifier, none, 0⟩]
    let d := ofBuffer b .stock
    let sel : Selection := ⟨⟨0, 0⟩, ⟨1, 1⟩⟩
    Session d ∧ sel.lineBlock.last < d.buffer.lineCount ∧
      Edit.GetsMarks (Edit.blockTexts d.buffer sel.lineBlock) ∧
      ∃ o d', (toggleComment sel).outcome d = (.ok o, d') ∧ d'.buffer.text? 0 = some "# a".toList ∧
        (codeLine 0).outcome d' = (.ok (some 0), d') ∧ ¬d'.HoldsComment 0 := by
  refine ⟨⟨.opened (.ofText _ (by decide)) .refl, by decide +kernel, by decide +kernel, ?_⟩, ?_⟩
  · rw [toggleComment, outcome_edit, Edit.outcome_toggleComment_of_overflows (by decide) (by decide)]
  · intro b d sel
    have hb : b.Reachable :=
      ⟨_, .ofText "# a\nb".toList (by decide), .tail (.single .drain) (.event (.setTokens ..))⟩
    have hrun : ∃ o, ((toggleComment sel).outcome d).1 = .ok o := ⟨_, rfl⟩
    obtain ⟨o, ho⟩ := hrun
    have hlog : ((toggleComment sel).outcome d).2.buffer.log = [] := by decide +kernel
    have hnumber : ((toggleComment sel).outcome d).2.codeLines = [some 0, none] := by decide +kernel
    have htext : ((toggleComment sel).outcome d).2.buffer.text? 0 = some "# a".toList := by
      decide +kernel
    have hcode := outcome_answer_text hlog htext (·.codeLines[0]?.join)
    rw [hnumber] at hcode
    refine ⟨.opened hb .stock, by decide +kernel, by decide +kernel, o, _, Prod.ext ho rfl, htext, hcode,
      fun H => ?_⟩
    have := H.number.symm.trans hcode
    cases this

end Document
end LogicEditor
