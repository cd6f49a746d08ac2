import LogicEditor.Proofs.Buffer.Edited
import LogicEditor.Proofs.Buffer.Task
import LogicEditor.Proofs.Search.Literal
import LogicEditor.Proofs.Search.Match

/-!
# Replacement of all matches

The command that replaces all matches goes through the buffer while the buffer grows (`Sweep`): it
reads the line it has come to, gives it another text, and goes on behind the lines that this text
has. It comes to every line that was there at the start once, and to none of those that it made
(`Sweep.swept`), so every line gives way to the lines of its text with the matches replaced, and the
lines without a match are the lines they were (`replaceAll_rewrites_once`).
-/

namespace LogicEditor

open Buffer EditM

variable {R : Type} [Engine R] {m : Matcher R} {new pre t pattern : Text} {col line n : Nat}
  {ss : List Span}
  {b c d : Buffer} {l : Line} {above rest block : List Line} {blocks : List (List Line)}
  {flags : SearchFlags}

/-! ## Texts with spans replaced -/

/-- A text with what stands in a span replaced. -/
def Text.replaceSpan (new : Text) (s : Span) (t : Text) : Text :=
  t.take s.start ++ (new ++ t.drop s.stop)

/-- A text with its matches replaced. The last one goes first, so that the others keep their
columns. -/
def Matcher.rewritten (m : Matcher R) (new t : Text) : Text :=
  (m.lineMatches t).foldr (Text.replaceSpan new) t

theorem Text.replaceSpan_append {s : Span} (h : s.start ≤ s.stop) (hs : pre.length = s.stop) :
    Text.replaceSpan new s (pre ++ t) = pre.take s.start ++ (new ++ t) := by
  rw [Text.replaceSpan, List.take_append_of_le_length (hs ▸ h), ← hs, List.drop_left]

/-- Going through the spans from the left comes to the same as replacing them one by one from the
right. -/
theorem Text.foldr_replaceSpan (hpre : pre.length = col) (H : Span.Ascend col (col + t.length) ss) :
    ss.foldr (Text.replaceSpan new) (pre ++ t) = pre ++ Text.replaceSpans new col ss t := by
  induction ss generalizing pre t col with
  | nil => rfl
  | cons s ss ih =>
    -- what stands before the end of the first span goes to the prefix
    obtain ⟨⟨hstart, hpos, hstop⟩, -⟩ := H.of_cons
    have hlen : (pre ++ t.take (s.stop - col)).length = s.stop := by
      rw [List.length_append, List.length_take, hpre]
      omega
    have htake : (pre ++ t.take (s.stop - col)).take s.start = pre ++ t.take (s.start - col) := by
      rw [List.take_append, List.take_of_length_le (hpre ▸ hstart), List.take_take, hpre,
        Nat.min_eq_left (by omega)]
    have := ih hlen H.behind
    rw [List.append_assoc, List.take_append_drop] at this
    rw [List.foldr_cons, this, replaceSpan_append (Nat.le_of_lt hpos) hlen, htake, replaceSpans,
      List.append_assoc]

theorem Matcher.replaceSpans_eq [LawfulEngine R] (m : Matcher R) (new t : Text) :
    Text.replaceSpans new 0 (m.lineMatches t) t = m.rewritten new t := by
  exact (Text.foldr_replaceSpan List.length_nil (m.ascend_lineMatches_zero t)).symm

theorem Matcher.rewritten_of_nil (h : m.lineMatches t = []) : m.rewritten new t = t := by
  rw [rewritten, h, List.foldr_nil]

/-! ## The loop -/

/-- The loop that replaces matches from a line on. It looks at the buffer as it has become. -/
inductive Sweep (m : Matcher R) (new : Text) : Nat → Buffer → Nat → Buffer → Prop
  | done {line : Nat} {b : Buffer} (h : b.lineCount ≤ line) : Sweep m new line b 0 b
  | pass {line n : Nat} {b c : Buffer} (h : line < b.lineCount)
      (hnone : m.lineMatches (b.lineText line) = []) (H : Sweep m new (line + 1) b n c) :
    Sweep m new line b n c
  | rewrite {line n : Nat} {b c d : Buffer} (h : line < b.lineCount)
      (hsome : m.lineMatches (b.lineText line) ≠ [])
      (hset : (Edit.setLine line (m.rewritten new (b.lineText line))).outcome b = (.ok ⟨⟩, c))
      (H : Sweep m new (line + (Text.lines (m.rewritten new (b.lineText line))).length) c n d) :
    Sweep m new line b ((m.lineMatches (b.lineText line)).length + n) d

/-- The command is the loop, and it comes to an end: it takes a step for each line that was there at
the start, at most. -/
theorem exists_sweep [LawfulEngine R] (m : Matcher R) (new : Text) {steps : Nat}
    (h : b.lines = above ++ rest) (hn : above.length = line) (hsteps : rest.length ≤ steps) : ∃ n c,
      (Edit.replaceLines m new steps line).outcome b = (.ok n, c) ∧ Sweep m new line b n c := by
  induction rest generalizing b above line steps with
  | nil =>
    have hle : b.lineCount ≤ line := by
      rw [lineCount, h, List.append_nil, hn]
    refine ⟨0, b, ?_, .done hle⟩
    cases steps with
    | zero => rfl
    | succ steps => exact Edit.outcome_replaceLines_of_le m new hle
  | cons l rest ih =>
    obtain ⟨steps, rfl⟩ := Nat.exists_eq_add_one_of_ne_zero (Nat.ne_zero_of_lt hsteps)
    have hsteps := Nat.le_of_succ_le_succ hsteps
    have hlt : line < b.lineCount := lt_lineCount_split h hn
    have htext : b.lineText line = l.text := lineText_split h hn
    cases hnone : (m.lineMatches (b.lineText line)).isEmpty with
    | true =>
      rw [List.append_cons] at h
      obtain ⟨n, c, ho, H⟩ := ih h (List.length_append.trans (congrArg (· + 1) hn)) hsteps
      exact ⟨n, c, (Edit.outcome_replaceLines_of_isEmpty m new hlt hnone).trans ho,
        .pass hlt (List.isEmpty_iff.1 hnone) H⟩
    | false =>
      -- the lines that came in for `l` count to those above from now on
      obtain ⟨c, hc, hr⟩ := replaced_setLine h hn (m.rewritten new (b.lineText line))
      obtain ⟨ls, hlines, htexts, -⟩ := hr.exists_lines
      have hlen : (above ++ ls).length =
          line + (Text.lines (m.rewritten new (b.lineText line))).length := by
        rw [List.length_append, hn, ← htexts, List.length_map]
      obtain ⟨n, d, ho, H⟩ := ih hlines hlen hsteps
      exact ⟨_, d, Edit.outcome_replaceLines_succ m new hlt hnone (m.replaceSpans_eq new _) hc ho,
        .rewrite hlt (List.isEmpty_eq_false_iff.1 hnone) hc H⟩

/-! ## What the loop does -/

/-- What becomes of a line. -/
structure Line.Rewritten (m : Matcher R) (new : Text) (l : Line) (block : List Line) : Prop where
  texts : block.map Line.text = Text.lines (m.rewritten new l.text)
  head : block.head?.map Line.id = some l.id
  /-- A line without a match is kept as it is, with its tokens. -/
  kept : m.lineMatches l.text = [] → block = [l]

/-- What the loop has done once it has been through the lines `rest`, which come after `above`. -/
structure Swept (m : Matcher R) (new : Text) (above rest : List Line) (b : Buffer) (n : Nat)
    (c : Buffer) : Prop where
  count : n = (rest.flatMap fun l => m.lineMatches l.text).length
  exists_blocks : ∃ blocks, c.lines = above ++ blocks.flatten ∧
    List.Forall₂ (Line.Rewritten m new) rest blocks
  edits : EditsOnly (fun id => ∃ l ∈ rest, l.id = id ∧ m.lineMatches l.text ≠ []) b c

theorem Line.Rewritten.pass (h : m.lineMatches l.text = []) (hc : l.text.hasBreak = false) :
    l.Rewritten m new [l] where
  texts := by rw [Matcher.rewritten_of_nil h, Text.lines_of_not_hasBreak hc]; rfl
  head := rfl
  kept _ := rfl

theorem Swept.cons {below : List Line} (hl : l.Rewritten m new block)
    (hedit : EditsOnly (fun id => id = l.id ∧ m.lineMatches l.text ≠ []) b c)
    (H : Swept m new (above ++ block) below c n d) :
    Swept m new above (l :: below) b ((m.lineMatches l.text).length + n) d := by
  obtain ⟨rfl, ⟨blocks, hlines, hblocks⟩, hedits⟩ := H
  refine ⟨by rw [List.flatMap_cons, List.length_append], ⟨block :: blocks, ?_, .cons hl hblocks⟩, ?_⟩
  · rw [hlines, List.flatten_cons, List.append_assoc]
  · exact (hedit.mono fun _ h => ⟨l, List.mem_cons_self, h.1.symm, h.2⟩).trans
      (hedits.mono fun _ => Exists.imp fun _ => And.imp_left (List.mem_cons_of_mem _))

theorem exists_cons_of_lt (h : b.lines = above ++ rest) (hn : above.length = line)
    (hlt : line < b.lineCount) : ∃ l below, rest = l :: below := by
  refine List.exists_cons_of_ne_nil fun hnil => Nat.ne_of_lt hlt ?_
  rw [lineCount, h, hnil, List.append_nil, hn]

/-- The loop comes to every line once. -/
theorem Sweep.swept (H : Sweep m new line b n c) (h : b.lines = above ++ rest)
    (hn : above.length = line) (hc : ∀ l ∈ rest, l.text.hasBreak = false) :
    Swept m new above rest b n c := by
  induction H generalizing above rest with
  | @done line b hle =>
    obtain rfl : rest = [] := by
      rw [lineCount, h, List.length_append, hn] at hle
      exact List.length_eq_zero_iff.1 (by omega)
    exact ⟨rfl, ⟨[], h, .nil⟩, .refl⟩
  | @pass line n b c hlt hnone _ ih =>
    obtain ⟨l, below, rfl⟩ := exists_cons_of_lt h hn hlt
    obtain ⟨hl, hbelow⟩ := List.forall_mem_cons.1 hc
    rw [lineText_split h hn] at hnone
    have H := ih (h.trans (List.append_cons ..)) (List.length_append.trans (congrArg (· + 1) hn)) hbelow
    have := Swept.cons (.pass hnone hl) .refl H
    rwa [hnone, List.length_nil, Nat.zero_add] at this
  | @rewrite line n b c d hlt hsome hset _ ih =>
    obtain ⟨l, below, rfl⟩ := exists_cons_of_lt h hn hlt
    obtain ⟨-, hbelow⟩ := List.forall_mem_cons.1 hc
    rw [lineText_split h hn] at hsome hset ih ⊢
    obtain ⟨c', hset', hr⟩ := replaced_setLine h hn (m.rewritten new l.text)
    cases hset.symm.trans hset'
    obtain ⟨ls, hls, htexts, hids⟩ := hr.exists_lines
    -- the loop goes on by as many lines as came in, so to the first line below
    have hlen : (above ++ ls).length = line + (Text.lines (m.rewritten new l.text)).length := by
      rw [List.length_append, hn, ← htexts, List.length_map]
    have hrewritten : l.Rewritten m new ls :=
      ⟨htexts, by rw [← List.head?_map, hids]; rfl, fun hnone => absurd hnone hsome⟩
    have hid : b.id? line = some l.id := by rw [id?, getElem?_split h hn, Option.map_some]
    have hedit := editsOnly_setLine hid (m.rewritten new l.text)
    rw [hset] at hedit
    exact .cons hrewritten (hedit.mono fun _ hid => ⟨hid, hsome⟩) (ih hls hlen hbelow)

/-! ## All matches of a buffer -/

/-- What becomes of a buffer whose matches are all replaced. -/
structure AllReplaced (m : Matcher R) (new : Text) (b c : Buffer) : Prop where
  texts : c.texts = b.texts.flatMap fun t => Text.lines (m.rewritten new t)
  exists_blocks : ∃ blocks, c.lines = blocks.flatten ∧
    List.Forall₂ (Line.Rewritten m new) b.lines blocks
  /-- No line without a match is reported as edited. -/
  exists_log : ∃ es, c.log = b.log ++ es ∧
    ∀ l ∈ b.lines, m.lineMatches l.text = [] → .edited l.id ∉ es

theorem Line.Rewritten.flatten_texts {ls : List Line}
    (H : List.Forall₂ (Line.Rewritten m new) ls blocks) : blocks.flatten.map Line.text =
      (ls.map Line.text).flatMap fun t => Text.lines (m.rewritten new t) := by
  induction H with
  | nil => rfl
  | cons h _ ih => rw [List.flatten_cons, List.map_append, h.texts, ih, List.map_cons, List.flatMap_cons]

theorem Swept.allReplaced (W : b.WellFormed) (H : Swept m new [] b.lines b n c) :
    AllReplaced m new b c := by
  obtain ⟨blocks, hlines, hblocks⟩ := H.exists_blocks
  obtain ⟨es, hlog, hes⟩ := H.edits
  refine ⟨?_, ⟨blocks, hlines, hblocks⟩, es, hlog, fun l hl hnone hmem => ?_⟩
  · rw [texts, hlines]
    exact Line.Rewritten.flatten_texts hblocks
  · obtain ⟨k, hk, hid, hsome⟩ := hes l.id hmem
    obtain rfl : k = l := List.inj_on_of_nodup_map W.nodup hk hl hid
    exact hsome hnone

theorem length_matchesIn (b : Buffer) (m : Matcher R) :
    (b.matchesIn m (List.range b.lineCount)).length =
      (b.lines.flatMap fun l => m.lineMatches l.text).length := by
  have hcounts : (List.range b.lineCount).map (fun line => (m.lineMatches (b.lineText line)).length) =
      b.texts.map fun t => (m.lineMatches t).length := by
    rw [← b.map_lineText, List.map_map]
    rfl
  rw [texts, List.map_map] at hcounts
  rw [matchesIn, List.length_flatMap, List.length_flatMap]
  simp only [Matcher.length_matchesOn]
  rw [hcounts]
  rfl

theorem outcome_replaceAll_of_make (hp : pattern ≠ []) (hm : Matcher.make pattern flags = .ok m)
    (new : Text) : (Edit.replaceAll pattern new flags false R).outcome b =
      (Edit.replaceLines m new b.lineCount 0).outcome b :=
  Edit.outcome_replaceUntil_of_make hp hm new none

/-- Replacing all matches rewrites every line once. Text that is put in is not searched again. -/
theorem replaceAll_rewrites_once [LawfulEngine R] (hb : b.Lived) (hp : pattern ≠ [])
    (hm : Matcher.make pattern flags = .ok m) (new : Text) : ∃ xs c,
      b.findAll pattern 0 b.lineCount flags R = .ok xs ∧
      (Edit.replaceAll pattern new flags false R).outcome b = (.ok xs.length, c) ∧
      Sweep m new 0 b xs.length c ∧ AllReplaced m new b c ∧
      (Edit.replaceAll pattern new flags true R).outcome b = (.ok 0, b) := by
  have W := hb.wellFormed
  obtain ⟨n, c, ho, H⟩ := exists_sweep m new (List.nil_append b.lines).symm rfl (Nat.le_refl _)
  have hswept := H.swept rfl rfl fun l hl => W.clean l.text (List.mem_map_of_mem hl)
  have hcount : n = (b.matchesIn m (List.range b.lineCount)).length :=
    hswept.count.trans (length_matchesIn b m).symm
  subst hcount
  refine ⟨_, c, findAll_eq hp hm, ?_, H, hswept.allReplaced W, ?_⟩
  · rw [outcome_replaceAll_of_make hp hm]
    exact ho
  · exact Edit.outcome_replaceUntil_of_make hp hm new (some 0)

/-- The replacement of `a` by `a`, a break and `a` is not searched again. -/
theorem replaceAll_rewrites_once_break :
    let b := Buffer.ofText "aba\nc".toList
    let flags : SearchFlags := { caseSensitive := true }
    ∃ (m : Matcher Pattern.Program) (c : Buffer), Matcher.make ['a'] flags = .ok m ∧
      AllReplaced m "a\na".toList b c ∧
      (Edit.replaceAll ['a'] "a\na".toList flags).outcome b = (.ok 2, c) ∧
      c.texts = ["a".toList, "aba".toList, "a".toList, "c".toList] := by
  intro b flags
  obtain ⟨m, hm⟩ : ∃ m : Matcher Pattern.Program, Matcher.make ['a'] flags = .ok m :=
    Matcher.exists_make (by decide +kernel)
  have hb : b.Lived := ⟨b, .ofText _ (by decide), .refl⟩
  have hall : (b.findAll ['a'] 0 b.lineCount flags).toOption =
      some [⟨⟨0, 0⟩, 1⟩, ⟨⟨0, 2⟩, 1⟩] := by decide +kernel
  have htexts : ((Edit.replaceAll ['a'] "a\na".toList flags).outcome b).2.texts =
      ["a".toList, "aba".toList, "a".toList, "c".toList] := by decide +kernel
  obtain ⟨xs, c, hxs, ho, -, H, -⟩ :=
    replaceAll_rewrites_once hb (List.cons_ne_nil 'a' []) hm "a\na".toList
  rw [hxs] at hall
  cases hall
  rw [ho] at htexts
  exact ⟨m, c, hm, H, ho, htexts⟩

end LogicEditor
