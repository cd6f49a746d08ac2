import LogicEditor.Proofs.Document.Repaint

/-!
# The order of a flush

The tables of the index and the sets of dirty and of moved lines have no order of their own, so a
flush may go through them in any. Here it visits one handle after the other, in whatever order
(`Document.FlushesTo`). All these flushes report the same lines in the same order, and the documents
that they leave behind answer alike (`Document.flushes_alike`). For this the document need not know
all lines of its buffer, as long as it has a wrong number for none (`Document.Tracks`); no two lines
are then visited under one number. This holds in every session, also if the log of the buffer was
drained before it was opened.
-/

namespace LogicEditor

variable {id j : LineId} {L : Ledger} {shifts : List Shift} {order ids : List LineId}

/-! ## Renumbering lines one by one -/

namespace SymbolIndex

variable {x y : SymbolIndex} {s : SymbolIndex × List LineId}

/-- Gives one line its number under the shifts, and notes the line if that is not its old one. -/
def shiftNext (shifts : List Shift) (s : SymbolIndex × List LineId) (id : LineId) :
    SymbolIndex × List LineId :=
  match s.1.position? id with
  | some line =>
    if target shifts line = line then s else (s.1.track id (target shifts line), s.2 ++ [id])
  | none => s

/-- Gives the lines their numbers under the shifts, in some order, and returns those that moved. -/
def shiftIn (x : SymbolIndex) (shifts : List Shift) (order : List LineId) :
    SymbolIndex × List LineId :=
  order.foldl (shiftNext shifts) (x, [])

theorem names_shiftNext (s : SymbolIndex × List LineId) (id : LineId) :
    (shiftNext shifts s id).1.names = s.1.names := by
  rw [shiftNext]
  split
  · split <;> rfl
  · rfl

theorem contributions_shiftNext (s : SymbolIndex × List LineId) (id : LineId) :
    (shiftNext shifts s id).1.contributions = s.1.contributions := by
  rw [shiftNext]
  split
  · split <;> rfl
  · rfl

theorem position?_shiftNext : (shiftNext shifts s id).1.position? j =
    if j = id then (s.1.position? j).map (target shifts) else s.1.position? j := by
  rw [shiftNext]
  by_cases hj : j = id
  · subst hj
    rw [if_pos rfl]
    cases h : s.1.position? j with
    | none => exact h
    | some line =>
      rw [Option.map_some]
      dsimp only
      split
      · rwa [‹target shifts line = line›]
      · rw [position?_track, if_pos rfl]
  · rw [if_neg hj]
    split
    · split
      · rfl
      · rw [position?_track, if_neg hj]
    · rfl

theorem mem_shiftNext : j ∈ (shiftNext shifts s id).2 ↔
    j ∈ s.2 ∨ j = id ∧ ∃ line, s.1.position? j = some line ∧ target shifts line ≠ line := by
  rw [shiftNext]
  split
  · rename_i line h
    split
    · refine (or_iff_left ?_).symm
      rintro ⟨rfl, line', h', hne⟩
      obtain rfl : line = line' := Option.some.inj (h.symm.trans h')
      exact hne ‹_›
    · rw [List.mem_append, List.mem_singleton]
      refine or_congr_right ⟨?_, And.left⟩
      rintro rfl
      exact ⟨rfl, line, h, ‹_›⟩
  · rename_i h
    refine (or_iff_left ?_).symm
    rintro ⟨rfl, line, h', -⟩
    rw [h] at h'
    cases h'

/-- Each line is renumbered once, from the number it had at the start. -/
theorem position?_shiftNext_all (hnd : order.Nodup) :
    (order.foldl (shiftNext shifts) s).1.position? j =
      if j ∈ order then (s.1.position? j).map (target shifts) else s.1.position? j := by
  induction order generalizing s with
  | nil => rfl
  | cons id order ih =>
    obtain ⟨hid, hnd⟩ := List.nodup_cons.1 hnd
    rw [List.foldl_cons, ih hnd, position?_shiftNext]
    by_cases hj : j = id
    · subst hj
      rw [if_neg hid, if_pos rfl, if_pos List.mem_cons_self]
    · simp only [List.mem_cons, hj, false_or, if_false]

theorem mem_shiftNext_all (hnd : order.Nodup) : j ∈ (order.foldl (shiftNext shifts) s).2 ↔
    j ∈ s.2 ∨ j ∈ order ∧ ∃ line, s.1.position? j = some line ∧ target shifts line ≠ line := by
  induction order generalizing s with
  | nil => simp
  | cons id order ih =>
    obtain ⟨hid, hnd⟩ := List.nodup_cons.1 hnd
    rw [List.foldl_cons, ih hnd, mem_shiftNext, position?_shiftNext, or_assoc]
    by_cases hj : j = id
    · subst hj
      simp [hid]
    · simp [hj]

/-- What an index keeps depends on its tables, and on the table of numbers only by what it answers. -/
theorem Keeps.of_position (K : x.Keeps L) (hn : y.names = x.names)
    (hc : y.contributions = x.contributions) (hp : ∀ id, y.position? id = x.position? id) :
    y.Keeps L where
  position id := (hp id).trans (K.position id)
  contribution id := hc ▸ K.contribution id
  occurs := hn ▸ K.occurs
  tidy := hn ▸ K.tidy
  placed := K.placed

section
variable (h : order.Perm x.positions.keys)
include h

/-- Every order gives the lines the same numbers. -/
theorem position?_shiftIn (id : LineId) :
    (x.shiftIn shifts order).1.position? id = (x.shift shifts).position? id := by
  rw [shiftIn, position?_shiftNext_all (h.nodup_iff.2 Std.TreeMap.nodup_keys), position?_shift]
  split
  · rfl
  · have hnone : x.position? id = none := by
      refine Std.TreeMap.getElem?_eq_none ?_
      rwa [← Std.TreeMap.mem_keys, ← h.mem_iff]
    rw [hnone, Option.map_none]

/-- Every order finds the same lines moved. -/
theorem mem_shiftIn (id : LineId) : id ∈ (x.shiftIn shifts order).2 ↔ id ∈ x.movedBy shifts := by
  rw [shiftIn, mem_shiftNext_all (h.nodup_iff.2 Std.TreeMap.nodup_keys), mem_movedBy]
  refine (or_iff_right List.not_mem_nil).trans (and_iff_right_of_imp ?_)
  rintro ⟨line, hline, -⟩
  rw [h.mem_iff, Std.TreeMap.mem_keys, Std.TreeMap.mem_iff_isSome_getElem?]
  exact Option.isSome_of_eq_some hline

theorem Keeps.shiftIn (K : x.Keeps L) (shifts : List Shift) :
    (x.shiftIn shifts order).1.Keeps (L.shift shifts) :=
  (K.shift shifts).of_position (foldl_proj (g := fun s => s.1.names) names_shiftNext order (x, []))
    (foldl_proj (g := fun s => s.1.contributions) contributions_shiftNext order (x, []))
    (position?_shiftIn h)

end

end SymbolIndex

/-! ## Flushing one line after the other -/

namespace Document

variable {d d' e : Document} {o o' : Document × List StyledLine} {s s' t : Document × Backlog}
  {x : Change} {es : List Change} {dirty moved : List LineId}

/-- Lexes one line and reports it. -/
def lexNext (s : Document × List StyledLine) (id : LineId) : Document × List StyledLine :=
  (s.1.relex id, s.2 ++ ((s.1.relex id).styledLine? id).toList)

/-- Reports one line as it is. -/
def showNext (s : Document × List StyledLine) (id : LineId) : Document × List StyledLine :=
  (s.1, s.2 ++ (s.1.styledLine? id).toList)

/-- Lexes and reports the dirty lines, reports the moved ones, and puts the report in order. -/
def visit (d : Document) (dirty moved : List LineId) : Document × List StyledLine :=
  let s := moved.foldl showNext (dirty.foldl lexNext (d, []))
  (s.1.renumber, s.2.mergeSort fun a b => a.line ≤ b.line)

/-- What following a change may come to. A shift goes through the numbers of lines in any order; what
`follow` does all at once is one way. -/
inductive Follows (s : Document × Backlog) : Change → Document × Backlog → Prop
  | follow (x : Change) : Follows s x (follow s x)
  | shifted (shifts : List Shift) {order : List LineId} (h : order.Perm s.1.symbols.positions.keys) :
    Follows s (.shifted shifts)
      ({ s.1 with symbols := (s.1.symbols.shiftIn shifts order).1 },
        { s.2 with moved := s.2.moved.insertMany (s.1.symbols.shiftIn shifts order).2 })

/-- What following a log may come to. -/
inductive FollowsAll : Document × Backlog → List Change → Document × Backlog → Prop
  | nil {s : Document × Backlog} : FollowsAll s [] s
  | cons {s s' t : Document × Backlog} {x : Change} {es : List Change} (h : Follows s x s')
    (H : FollowsAll s' es t) : FollowsAll s (x :: es) t

/-- What a flush may come to: it also goes through the dirty lines in any order, and then through the
moved lines that are not dirty in any order. -/
inductive FlushesTo (d : Document) : Document × List StyledLine → Prop
  | idle (h : d.buffer.log = []) : FlushesTo d (d, [])
  | busy {s : Document × Backlog} {dirty moved : List LineId} (h : d.buffer.log ≠ [])
    (H : FollowsAll ({ d with buffer := d.buffer.clearLog }, {}) d.buffer.log s)
    (hdirty : dirty.Perm s.2.dirty.toList)
    (hmoved : moved.Perm (s.2.moved.toList.filter fun id => !s.2.dirty.contains id)) :
    FlushesTo d (s.1.visit dirty moved)

/-! ## What is reported -/

theorem styles_relex (d : Document) (h : j ≠ id) :
    (d.relex id).styles.get? j = d.styles.get? j := by
  rw [relex]
  split
  · rw [StyleCache.get?_restyle, if_neg h]
  · rfl

theorem styledLine?_relex (d : Document) (h : j ≠ id) :
    (d.relex id).styledLine? j = d.styledLine? j := by
  rw [styledLine?, styledLine?, position?_relex, spansOf, spansOf, styles_relex d h]

/-- A line looks the same whatever other lines are lexed. -/
theorem styledLine?_relex_all (d : Document) (h : id ∉ ids) :
    (ids.foldl relex d).styledLine? id = d.styledLine? id := by
  induction ids generalizing d with
  | nil => rfl
  | cons j ids ih =>
    obtain ⟨hj, hids⟩ := List.ne_and_not_mem_of_not_mem_cons h
    exact (ih (d.relex j) hids).trans (styledLine?_relex d hj)

/-- So a report that is made line by line is one of the lines as they are in the end. -/
theorem foldl_lexNext (hnd : ids.Nodup) (d : Document) (out : List StyledLine) :
    ids.foldl lexNext (d, out) =
      (ids.foldl relex d, out ++ ids.filterMap (ids.foldl relex d).styledLine?) := by
  induction ids generalizing d out with
  | nil => rw [List.foldl_nil, List.foldl_nil, List.filterMap_nil, List.append_nil]
  | cons id ids ih =>
    obtain ⟨hid, hnd⟩ := List.nodup_cons.1 hnd
    rw [List.foldl_cons, lexNext, ih hnd, List.foldl_cons, List.append_assoc,
      ← styledLine?_relex_all (d.relex id) hid, List.filterMap_cons]
    cases (ids.foldl relex (d.relex id)).styledLine? id <;> rfl

theorem foldl_showNext (ids : List LineId) (s : Document × List StyledLine) :
    ids.foldl showNext s = (s.1, s.2 ++ ids.filterMap s.1.styledLine?) := by
  induction ids generalizing s with
  | nil => rw [List.foldl_nil, List.filterMap_nil, List.append_nil]
  | cons id ids ih =>
    rw [List.foldl_cons, ih, showNext, List.append_assoc, List.filterMap_cons]
    cases s.1.styledLine? id <;> rfl

theorem visit_eq_refresh (hnd : dirty.Nodup) (moved : List LineId) :
    d.visit dirty moved = d.refresh dirty moved := by
  rw [visit, foldl_lexNext hnd, foldl_showNext, List.nil_append, refresh, List.filterMap_append]

/-! ## Following in any order -/

/-- Two documents that keep the same, in tables that may be of different shape. -/
structure Matches (d e : Document) (L : Ledger) : Prop where
  keeps : d.symbols.Keeps L
  keeps' : e.symbols.Keeps L
  buffer : d.buffer = e.buffer
  table : d.table = e.table
  styles : ∀ id, d.styles.get? id = e.styles.get? id

/-- Such documents on their way through a log. -/
structure Abreast (s t : Document × Backlog) (L : Ledger) : Prop extends Matches s.1 t.1 L where
  dirty : s.2.dirty = t.2.dirty
  moved : ∀ id, id ∈ s.2.moved ↔ id ∈ t.2.moved

theorem Abreast.follow (H : Abreast s t L) (x : Change) :
    Abreast (Document.follow s x) (Document.follow t x) (L.follow x) where
  keeps := keeps_follow H.keeps x
  keeps' := keeps_follow H.keeps' x
  buffer := by cases x <;> exact H.buffer
  table := by cases x <;> exact H.table
  styles id := by rw [styles_follow, styles_follow, H.styles]
  dirty := by
    cases x with
    | edited id | inserted id => exact congrArg (·.insert id) H.dirty
    | removed id => exact congrArg (·.erase id) H.dirty
    | shifted => exact H.dirty
  moved j := by
    cases x with
    | edited | inserted => exact H.moved j
    | removed id =>
      show j ∈ s.2.moved.erase id ↔ j ∈ t.2.moved.erase id
      rw [Std.TreeSet.mem_erase, Std.TreeSet.mem_erase, H.moved]
    | shifted shifts =>
      show j ∈ s.2.moved.insertMany _ ↔ j ∈ t.2.moved.insertMany _
      rw [Std.TreeSet.mem_insertMany_list, Std.TreeSet.mem_insertMany_list, H.moved,
        List.contains_iff_mem, List.contains_iff_mem, H.keeps.mem_movedBy, H.keeps'.mem_movedBy]

/-- A change that is followed in any order leads to what `follow` makes of it. -/
theorem Follows.abreast (h : Follows s x s') (H : Abreast s t L) :
    Abreast s' (Document.follow t x) (L.follow x) := by
  have H' := H.follow x
  cases h with
  | follow => exact H'
  | shifted shifts hperm =>
    refine ⟨⟨H.keeps.shiftIn hperm shifts, H'.keeps', H.buffer, H.table, H.styles⟩, H'.dirty,
      fun j => ?_⟩
    rw [← H'.moved j]
    show j ∈ s.2.moved.insertMany _ ↔ j ∈ s.2.moved.insertMany _
    rw [Std.TreeSet.mem_insertMany_list, Std.TreeSet.mem_insertMany_list, List.contains_iff_mem,
      List.contains_iff_mem, SymbolIndex.mem_shiftIn hperm]

/-- The same moved lines are not dirty. -/
theorem Abreast.perm_moved (H : Abreast s t L) :
    (s.2.moved.toList.filter fun id => !s.2.dirty.contains id).Perm
      (t.2.moved.toList.filter fun id => !t.2.dirty.contains id) := by
  apply (List.perm_ext_iff_of_nodup ((nodup_toList _).filter _) ((nodup_toList _).filter _)).2
  intro id
  rw [List.mem_filter, List.mem_filter, Std.TreeSet.mem_toList, Std.TreeSet.mem_toList, H.moved,
    H.dirty]

theorem FollowsAll.abreast (h : FollowsAll s es s') (H : Abreast s t L) :
    Abreast s' (es.foldl Document.follow t) (es.foldl Ledger.follow L) := by
  induction h generalizing t L with
  | nil => exact H
  | cons h _ ih => exact ih (h.abreast H)

theorem followsAll_foldl (es : List Change) (s : Document × Backlog) :
    FollowsAll s es (es.foldl follow s) := by
  induction es generalizing s with
  | nil => exact .nil
  | cons x es ih => exact .cons (.follow x) (ih (follow s x))

/-- What the document does in its own order is one of the flushes that are possible. -/
theorem flushesTo_flushed (d : Document) : d.FlushesTo d.flushed := by
  by_cases h : d.buffer.log = []
  · rw [flushed_eq_of_log_eq_nil h]
    exact .idle h
  · have H := FlushesTo.busy h (followsAll_foldl d.buffer.log _) (.refl _) (.refl _)
    rw [visit_eq_refresh (nodup_toList _)] at H
    rw [flushed_eq_refresh h]
    exact H

/-! ## Lexing in any order -/

theorem Matches.tokensOf (M : Matches d e L) : d.tokensOf = e.tokensOf := by
  funext l
  rw [Document.tokensOf, Document.tokensOf, M.table]

theorem Matches.styledLine? (M : Matches d e L) (id : LineId) : d.styledLine? id = e.styledLine? id := by
  rw [Document.styledLine?, Document.styledLine?, M.keeps.position, M.keeps'.position, spansOf, spansOf,
    M.styles]

/-- Lines that are lexed in any order become the same. -/
theorem Matches.relex_all (M : Matches d e L) (P : e.buffer.Places L.line?)
    (hnd : e.buffer.ids.Nodup) {ids' : List LineId} (h : ∀ id, id ∈ ids ↔ id ∈ ids') :
    ∃ L₁, Matches (ids.foldl relex d) (ids'.foldl relex e) L₁ ∧ L₁.line? = L.line? := by
  have hdue : L.due ids' = L.due ids := by
    funext id
    rw [Bool.eq_iff_iff, Ledger.due_iff, Ledger.due_iff, h]
  obtain ⟨L₁, R⟩ := exists_relexed_all M.keeps (M.buffer ▸ P) (M.buffer ▸ hnd) ids
  obtain ⟨L₂, R'⟩ := exists_relexed_all M.keeps' P hnd ids'
  rw [hdue] at R'
  have hsame : ∀ id, L₁.mentions id = L₂.mentions id ∧
      (ids.foldl relex d).styles.get? id = (ids'.foldl relex e).styles.get? id := by
    intro id
    cases hid : L.due ids id with
    | false =>
      obtain ⟨hmentions, hstyles⟩ := R.kept id hid
      obtain ⟨hmentions', hstyles'⟩ := R'.kept id hid
      rw [hmentions, hmentions', hstyles, hstyles']
      exact ⟨rfl, M.styles id⟩
    | true =>
      obtain ⟨l, hl, rfl⟩ := P.exists_line (Ledger.due_iff.1 hid).2
      obtain ⟨hmentions, hstyles⟩ := R.fresh l (M.buffer ▸ hl) hid
      obtain ⟨hmentions', hstyles'⟩ := R'.fresh l hl hid
      rw [hmentions, hmentions', hstyles, hstyles', M.table]
      exact ⟨rfl, rfl⟩
  have hledger : L₂ = L₁ := by
    cases L₁
    cases L₂
    rw [Ledger.mk.injEq]
    exact ⟨R'.numbers.trans R.numbers.symm, funext fun id => (hsame id).1.symm⟩
  refine ⟨L₁, ⟨R.keeps, hledger ▸ R'.keeps, ?_, ?_, fun id => (hsame id).2⟩, R.numbers⟩
  · have hline : d.relexedLine (L.due ids) = e.relexedLine (L.due ids) := by
      funext l
      rw [relexedLine, relexedLine, M.table]
    rw [R.buffer, R'.buffer, hline, M.buffer]
  · rw [R.table, R'.table, M.table]

theorem Matches.refresh (M : Matches d e L) (P : e.buffer.Places L.line?)
    (hnd : e.buffer.ids.Nodup) {dirty' moved' : List LineId} (hdirty : dirty.Perm dirty')
    (hmoved : moved.Perm moved') (hall : (dirty' ++ moved').Nodup) :
    (d.refresh dirty moved).2 = (e.refresh dirty' moved').2 ∧
      (d.refresh dirty moved).1.codeLines = (e.refresh dirty' moved').1.codeLines ∧
      ∃ L₁, Matches (d.refresh dirty moved).1 (e.refresh dirty' moved').1 L₁ ∧ L₁.line? = L.line? := by
  obtain ⟨L₁, M₁, hline⟩ := M.relex_all P hnd fun id => hdirty.mem_iff
  have M' : Matches (d.refresh dirty moved).1 (e.refresh dirty' moved').1 L₁ :=
    ⟨M₁.keeps, M₁.keeps', M₁.buffer, M₁.table, M₁.styles⟩
  -- no two lines are reported under one number
  have hone : ∀ i j n, L₁.line? i = some n → L₁.line? j = some n → i = j := by
    intro i j n hi hj
    rw [hline] at hi hj
    exact P.inj hnd hi hj
  have hascending : (d.refresh dirty moved).2.Pairwise (·.line < ·.line) := by
    apply pairwise_refresh ((hdirty.append hmoved).nodup_iff.2 hall)
    simpa only [M'.keeps.position] using hone
  have hascending' : (e.refresh dirty' moved').2.Pairwise (·.line < ·.line) := by
    apply pairwise_refresh hall
    simpa only [M'.keeps'.position] using hone
  refine ⟨eq_of_ascending Nat.lt_asymm hascending hascending' fun l => ?_, ?_, L₁, M', hline⟩
  · simp only [mem_refresh, M'.styledLine?, (hdirty.append hmoved).mem_iff]
  · show numberCode 0 _ = numberCode 0 _
    rw [M₁.buffer, M₁.tokensOf]

/-! ## Documents to be flushed -/

/-- The document has a wrong number for no line of its buffer, once the log is replayed. -/
structure Tracks (d : Document) : Prop where
  wellFormed : d.buffer.WellFormed
  fits : d.buffer.Fits
  places : ∃ L, d.symbols.Keeps L ∧ d.buffer.Places (replay L.line? d.buffer.log)

/-- In whatever order a document is flushed, it keeps in the end what it keeps in its own order. -/
theorem FlushesTo.matches (T : d.Tracks) (h : d.FlushesTo o) :
    o.2 = d.flushed.2 ∧ o.1.codeLines = d.flushed.1.codeLines ∧
      ∃ L, Matches o.1 d.flushed.1 L ∧ d.flushed.1.buffer.Places L.line? := by
  obtain ⟨L, K, P⟩ := T.places
  cases h with
  | idle h =>
    rw [flushed_eq_of_log_eq_nil h]
    rw [h] at P
    exact ⟨rfl, rfl, L, ⟨K, K, rfl, rfl, fun _ => rfl⟩, P⟩
  | @busy s dirty moved h H hdirty hmoved =>
    have A : Abreast s d.followLog (d.buffer.log.foldl Ledger.follow L) :=
      H.abreast ⟨⟨K, K, rfl, rfl, fun _ => rfl⟩, rfl, fun _ => Iff.rfl⟩
    have P' : d.followLog.1.buffer.Places (d.buffer.log.foldl Ledger.follow L).line? := by
      rw [Ledger.line?_follow_all, followLog_buffer]
      exact P
    have hnd : d.followLog.1.buffer.ids.Nodup := by
      rw [followLog_buffer]
      exact T.wellFormed.nodup
    have hmoved' := hmoved.trans A.perm_moved
    rw [A.dirty] at hdirty
    have hids : d.flushed.1.buffer.ids = d.followLog.1.buffer.ids := by
      rw [ids_flushed, followLog_buffer]
      rfl
    rw [visit_eq_refresh (hdirty.nodup_iff.2 (nodup_toList _))]
    obtain ⟨hrepaint, hcode, L₁, M, hline⟩ :=
      A.toMatches.refresh P' hnd hdirty hmoved' (nodup_backlog d.followLog.2)
    rw [← flushed_eq_refresh h] at hrepaint hcode M
    refine ⟨hrepaint, hcode, L₁, M, ?_⟩
    rw [hline, Buffer.Places, Buffer.indexOf?_congr hids]
    exact P'

/-- The documents that may be there when one is flushed: a buffer, at any time of its life, that was
just put into a document; after that any edits of the buffer, any flushes and any options. -/
inductive Live : Document → Prop
  | opened {b : Buffer} (H : b.Reachable) (table : InstructionTable) : Live { buffer := b, table }
  | edited {d : Document} {c : Buffer} (H : Live d) (h : Buffer.Steps maxIndex d.buffer c) :
    Live { d with buffer := c }
  | flushed {d : Document} {o : Document × List StyledLine} (H : Live d) (h : d.FlushesTo o) : Live o.1
  | options {d : Document} (H : Live d) (line : Text) : Live (d.setOptions line).2

theorem Live.tracks (H : Live d) : d.Tracks := by
  induction H with
  | opened H table => exact ⟨H.wellFormed, H.fits, {}, .empty, H.reports.places⟩
  | edited _ h ih =>
    obtain ⟨W, F, L, K, P⟩ := ih
    obtain ⟨es, D⟩ := Buffer.Steps.diff h W F
    refine ⟨Buffer.Steps.wellFormed h W, Buffer.Steps.fits h F, L, K, ?_⟩
    show Buffer.Places _ (replay L.line? (Buffer.log _))
    rw [D.log, replay_append]
    exact P.diff D W
  | @flushed d o _ h ih =>
    obtain ⟨-, -, L, M, P⟩ := h.matches ih
    refine ⟨?_, ?_, L, M.keeps, ?_⟩
    · rw [M.buffer]
      exact wellFormed_flushed ih.wellFormed
    · rw [M.buffer, fits_flushed]
      exact ih.fits
    · rw [M.buffer, log_flushed]
      exact P
  | options _ line ih => exact ⟨ih.wellFormed, ih.fits, ih.places⟩

/-- What a command leaves behind can be flushed, as could all that was there on the way. -/
theorem Live.apply (H : Live d) (c : Command) (F : (c.apply d).buffer.Fits) : Live (c.apply d) := by
  generalize c.apply d = d', c.effect H.tracks.wellFormed F = E
  cases E with
  | flushed h => exact (H.edited h).flushed (flushesTo_flushed _)
  | options line => exact H.options line
  | none => exact H

theorem Session.live (H : Session d) : Live d := by
  induction H with
  | opened H table => exact (Live.opened H table).flushed (flushesTo_flushed _)
  | command _ c fits ih => exact ih.apply c fits

/-! ## Answers -/

/-- Two documents that hold the same text and give the same answers. -/
structure AnswersLike (d e : Document) : Prop where
  buffer : d.buffer = e.buffer
  tokens : ∀ i, (tokens i).result d = (tokens i).result e
  styledLine : ∀ i, (styledLine i).result d = (styledLine i).result e
  codeLine : ∀ i, (codeLine i).result d = (codeLine i).result e
  position : ∀ id, d.symbols.position? id = e.symbols.position? id
  symbols : d.symbols.all = e.symbols.all

theorem AnswersLike.symm (H : AnswersLike d e) : AnswersLike e d where
  buffer := H.buffer.symm
  tokens i := (H.tokens i).symm
  styledLine i := (H.styledLine i).symm
  codeLine i := (H.codeLine i).symm
  position id := (H.position id).symm
  symbols := H.symbols.symm

theorem AnswersLike.trans (H : AnswersLike d d') (H' : AnswersLike d' e) : AnswersLike d e where
  buffer := H.buffer.trans H'.buffer
  tokens i := (H.tokens i).trans (H'.tokens i)
  styledLine i := (H.styledLine i).trans (H'.styledLine i)
  codeLine i := (H.codeLine i).trans (H'.codeLine i)
  position id := (H.position id).trans (H'.position id)
  symbols := H.symbols.trans H'.symbols

/-- Documents with one text answer a question alike if they have the same to say. -/
theorem result_question_congr {α : Type} {answer : Document → α} (hlog : e.buffer.log = [])
    (hbuffer : d.buffer = e.buffer) (h : answer d = answer e) (i : Nat) :
    (question i answer).result d = (question i answer).result e := by
  have hlog' : d.buffer.log = [] := hbuffer ▸ hlog
  rw [EditM.result, EditM.result, outcome_question, outcome_question, flushed_eq_of_log_eq_nil hlog,
    flushed_eq_of_log_eq_nil hlog', hbuffer, h]
  dsimp only
  cases e.buffer.lineError? i <;> rfl

theorem Matches.answersLike (M : Matches d e L) (hlog : e.buffer.log = [])
    (hcode : d.codeLines = e.codeLines) : AnswersLike d e where
  buffer := M.buffer
  tokens i := by
    refine result_question_congr hlog M.buffer ?_ i
    rw [lineTokens, lineTokens, M.buffer, M.tokensOf]
  styledLine i := by
    refine result_question_congr hlog M.buffer ?_ i
    have hspans : d.spansOf = e.spansOf := by
      funext id
      rw [spansOf, spansOf, M.styles]
    rw [M.buffer, hspans]
  codeLine i := result_question_congr hlog M.buffer (congrArg (·[i]?.join) hcode) i
  position id := (M.keeps.position id).trans (M.keeps'.position id).symm
  symbols := M.keeps.all_congr M.keeps'

/-- Flushing does not depend on the order in which tables and sets are gone through: all ways report
the same lines, and leave behind documents that answer alike. -/
theorem flushes_alike (H : Live d) (h : d.FlushesTo o) (h' : d.FlushesTo o') :
    o.2 = o'.2 ∧ AnswersLike o.1 o'.1 := by
  obtain ⟨hrepaint, hcode, L, M, -⟩ := h.matches H.tracks
  obtain ⟨hrepaint', hcode', L', M', -⟩ := h'.matches H.tracks
  have hown := M.answersLike (log_flushed d) hcode
  have hown' := M'.answersLike (log_flushed d) hcode'
  exact ⟨hrepaint.trans hrepaint'.symm, hown.trans hown'.symm⟩

/-- A line is put in above a label and a jump to it. The index and the dirty lines are gone through
backwards. -/
theorem flushes_alike_backwards :
    let d := ofText "a:\njump a".toList .stock
    let b := Buffer.Op.apply (.insertText ⟨0, 0⟩ ['\n']) d.buffer
    ∃ s, FollowsAll ({ d with buffer := b.clearLog }, {}) b.log s ∧
      (s.1.visit [2, 0] [1]).2 = (flushed { d with buffer := b }).2 ∧
      AnswersLike (s.1.visit [2, 0] [1]).1 (flushed { d with buffer := b }).1 := by
  intro d b
  have hd : Live d := .flushed (.opened ⟨_, .ofText _ (by decide), .refl⟩ .stock) (flushesTo_flushed _)
  have hb : Live { d with buffer := b } :=
    hd.edited (Buffer.Op.steps hd.tracks.wellFormed (by decide +kernel))
  have hlog : b.log = [.edited 0, .shifted [.onward 1 1], .inserted 2 1] := by decide +kernel
  have hkeys : List.Perm [1, 0] d.symbols.positions.keys := by decide +kernel
  obtain ⟨s, hs, hdirty, hmoved⟩ : ∃ s, FollowsAll ({ d with buffer := b.clearLog }, {}) b.log s ∧
      List.Perm [2, 0] s.2.dirty.toList ∧
      List.Perm [1] (s.2.moved.toList.filter fun id => !s.2.dirty.contains id) := by
    rw [hlog]
    refine ⟨_, .cons (.follow _) (.cons (.shifted _ hkeys) (.cons (.follow _) .nil)), ?_, ?_⟩
    · decide +kernel
    · decide +kernel
  have hbusy : b.log ≠ [] := hlog ▸ List.cons_ne_nil _ _
  obtain ⟨hrepaint, hanswers⟩ :=
    flushes_alike hb (.busy hbusy hs hdirty hmoved) (flushesTo_flushed _)
  exact ⟨s, hs, hrepaint, hanswers⟩

end Document
end LogicEditor
