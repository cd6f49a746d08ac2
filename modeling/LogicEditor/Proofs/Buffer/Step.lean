import Mathlib.Data.List.Perm.Subperm
import Mathlib.Logic.Relation
import LogicEditor.Proofs.Buffer.Outcome

/-!
# Steps of a buffer

Whatever a command does to a buffer, it does in a few kinds of steps (`Buffer.Step`): one line gets
another text, new lines come between two lines, a block of lines goes away, all lines make room for
an empty one, two neighbouring blocks change places. A step says which lines there are before and
after it and what it adds to the log; nothing else of a step matters to later proofs.

`Buffer.WellFormed` is what every step keeps: there is a line, no handle is used twice, all handles
are smaller than the next one, and no text has a line break.
-/

namespace LogicEditor
namespace Buffer

variable {limit : Nat} {b c : Buffer} {line start mid stop : Nat} {t : Text} {ts : List Text}
  {l : Line} {above upper old lower below : List Line}

/-! ## New lines -/

@[simp] theorem length_freshLines (id : LineId) (ts : List Text) :
    (freshLines id ts).length = ts.length := by
  induction ts generalizing id with
  | nil => rfl
  | cons t ts ih => simp [freshLines, ih]

@[simp] theorem map_id_freshLines (id : LineId) (ts : List Text) :
    (freshLines id ts).map (·.id) = List.range' id ts.length := by
  induction ts generalizing id with
  | nil => rfl
  | cons t ts ih => simp [freshLines, ih, List.range'_succ]

@[simp] theorem map_text_freshLines (id : LineId) (ts : List Text) :
    (freshLines id ts).map (·.text) = ts := by
  induction ts generalizing id with
  | nil => rfl
  | cons t ts ih => simp [freshLines, ih]

theorem freshLines_ne_nil {id : LineId} (h : ts ≠ []) : freshLines id ts ≠ [] := by
  cases ts with
  | nil => exact absurd rfl h
  | cons => simp [freshLines]

theorem le_id_of_mem_freshLines {id : LineId} (h : l ∈ freshLines id ts) :
    id ≤ l.id ∧ l.id < id + ts.length := by
  have := List.mem_map_of_mem (f := (·.id)) h
  simpa using this

/-! ## Well-formed buffers -/

/-- What every buffer keeps through all commands. -/
structure WellFormed (b : Buffer) : Prop where
  nonempty : b.lines ≠ []
  nodup : b.ids.Nodup
  below : ∀ id ∈ b.ids, id < b.nextId
  clean : ∀ t ∈ b.texts, t.hasBreak = false

/-- Every line has a number: a buffer holds no more lines than an index can count. -/
def Fits (b : Buffer) : Prop := b.lineCount ≤ maxIndex

instance (b : Buffer) : Decidable b.Fits := inferInstanceAs (Decidable (b.lineCount ≤ maxIndex))

theorem WellFormed.texts_ne_nil (W : WellFormed b) : b.texts ≠ [] := by
  simpa [texts] using W.nonempty

theorem WellFormed.lineCount_pos (W : WellFormed b) : 0 < b.lineCount :=
  List.length_pos_iff.2 W.nonempty

theorem WellFormed.clean_text? (W : WellFormed b) (h : b.text? line = some t) :
    t.hasBreak = false := by
  obtain ⟨l, hl, rfl⟩ := Option.map_eq_some_iff.1 h
  exact W.clean _ (List.mem_map_of_mem (List.mem_of_getElem? hl))

theorem WellFormed.clean_lineText (W : WellFormed b) (line : Nat) :
    (b.lineText line).hasBreak = false := by
  cases h : b.text? line with
  | none => simp [lineText, h]
  | some t => simpa [lineText, h] using W.clean_text? h

/-! ## Tokens -/

/-- The buffer without the tokens kept with its lines. -/
def bare (b : Buffer) : Buffer := { b with lines := b.lines.map fun l => { l with tokens? := none } }

@[simp] theorem ids_bare (b : Buffer) : b.bare.ids = b.ids := by simp [bare, ids]

@[simp] theorem texts_bare (b : Buffer) : b.bare.texts = b.texts := by simp [bare, texts]

@[simp] theorem lineCount_bare (b : Buffer) : b.bare.lineCount = b.lineCount := by
  simp [bare, lineCount]

@[simp] theorem bare_setTokens (b : Buffer) (line : Nat) (tokens : List Token) :
    (b.setTokens line tokens).bare = b.bare := by
  rw [bare, bare, setTokens, Buffer.mk.injEq]
  refine ⟨List.ext_getElem? fun i => ?_, rfl, rfl, rfl, rfl⟩
  rw [List.getElem?_map, List.getElem?_map, List.getElem?_modify]
  cases b.lines[i]? with
  | none => rfl
  | some l => by_cases hi : line = i <;> simp [hi]

theorem ids_setTokens (b : Buffer) (line : Nat) (tokens : List Token) :
    (b.setTokens line tokens).ids = b.ids := by
  rw [← ids_bare, bare_setTokens, ids_bare]

theorem contents_setTokens (b : Buffer) (line : Nat) (tokens : List Token) :
    (b.setTokens line tokens).contents = b.contents := by
  have htexts : (b.setTokens line tokens).texts = b.texts := by
    rw [← texts_bare, bare_setTokens, texts_bare]
  exact congrArg (Text.joinLines b.ending) htexts

/-- Tokens do not matter to well-formedness. -/
theorem WellFormed.of_bare (W : b.WellFormed) (h : c.bare = b.bare) : c.WellFormed := by
  have hids : c.ids = b.ids := by rw [← ids_bare, h, ids_bare]
  have htexts : c.texts = b.texts := by rw [← texts_bare, h, texts_bare]
  have hnext : c.nextId = b.nextId := show c.bare.nextId = b.bare.nextId by rw [h]
  refine ⟨fun hn => W.nonempty ?_, hids ▸ W.nodup, ?_, htexts ▸ W.clean⟩
  · simpa [ids, hn] using hids.symm
  · rw [hids, hnext]
    exact W.below

theorem Fits.of_bare (F : b.Fits) (h : c.bare = b.bare) : c.Fits := by
  rw [Fits, ← lineCount_bare, h, lineCount_bare]
  exact F

/-! ## Steps -/

/-- The renumbering that is logged for the lines `below` a place where lines come or go. -/
def renumbering (below : List Line) (line : Nat) (delta : Int) : List Change :=
  if below.isEmpty then [] else [.shifted [.onward line delta]]

/-- The changes that report lines as gone. -/
def removals (old : List Line) : List Change := old.map fun l => .removed l.id

/-- One step of a command. New lines are opened only up to a limit. -/
inductive Step (limit : Nat) : Buffer → Buffer → Prop
  | edit {b : Buffer} {above below : List Line} {l : Line} {t : Text}
      (h : b.lines = above ++ l :: below) (ht : t.hasBreak = false) :
    Step limit b ({ b with lines := above ++ ({ id := l.id, text := t } : Line) :: below }.record
      [.edited l.id])
  | insert {b : Buffer} {above below : List Line} {ts : List Text}
      (h : b.lines = above ++ below) (ht : ∀ t ∈ ts, Text.hasBreak t = false)
      (fits : b.lineCount + ts.length ≤ limit) :
    Step limit b ({ b with
      lines := above ++ freshLines b.nextId ts ++ below
      nextId := b.nextId + ts.length }.record
        (renumbering below above.length ts.length ++
          insertions above.length (freshLines b.nextId ts)))
  | delete {b : Buffer} {above old below : List Line}
      (h : b.lines = above ++ old ++ below) (keep : above ++ below ≠ []) :
    Step limit b ({ b with lines := above ++ below }.record
      (removals old ++ renumbering below (above.length + old.length) (-(old.length : Int))))
  | clear {b : Buffer} :
    Step limit b ({ b with
      lines := freshLines b.nextId [[]]
      nextId := b.nextId + 1 }.record
        (removals b.lines ++ insertions 0 (freshLines b.nextId [[]])))
  | rotate {b : Buffer} {above upper lower below : List Line}
      (h : b.lines = above ++ upper ++ lower ++ below) :
    Step limit b ({ b with lines := above ++ (lower ++ upper) ++ below }.record
      [.shifted [⟨above.length + upper.length, above.length + upper.length + lower.length,
          -(upper.length : Int)⟩,
        ⟨above.length, above.length + upper.length, (lower.length : Int)⟩]])
  | mark {b : Buffer} : Step limit b b.markModified

/-- Any number of steps. -/
abbrev Steps (limit : Nat) : Buffer → Buffer → Prop := Relation.ReflTransGen (Step limit)

theorem Step.ending (H : Step limit b c) : c.ending = b.ending := by cases H <;> rfl

theorem Step.nextId_le (H : Step limit b c) : b.nextId ≤ c.nextId := by
  cases H <;> simp [record, markModified]

theorem Step.fits (H : Step maxIndex b c) (hb : b.Fits) : c.Fits := by
  cases H with
  | edit h | delete h | rotate h =>
    simp only [Fits, lineCount, record, h, List.length_append, List.length_cons] at hb ⊢
    omega
  | insert h _ fits =>
    simp only [Fits, lineCount, record, h, List.length_append, length_freshLines] at fits ⊢
    omega
  | clear => simp [Fits, lineCount, record, maxIndex]
  | mark => exact hb

section
variable (W : b.WellFormed)
include W

theorem WellFormed.edit (h : b.lines = above ++ l :: below) (ht : t.hasBreak = false)
    (hc : c.lines = above ++ ({ id := l.id, text := t } : Line) :: below)
    (hn : c.nextId = b.nextId) : c.WellFormed := by
  have hids : c.ids = b.ids := by simp [ids, h, hc]
  refine ⟨by simp [hc], hids ▸ W.nodup, ?_, fun u hu => ?_⟩
  · rw [hids, hn]
    exact W.below
  · have hclean := W.clean u
    simp only [texts, h, hc, List.map_append, List.map_cons, List.mem_append, List.mem_cons] at hu hclean
    rcases hu with hu | rfl | hu
    · exact hclean (.inl hu)
    · exact ht
    · exact hclean (.inr (.inr hu))

theorem WellFormed.insert (h : b.lines = above ++ below) (ht : ∀ t ∈ ts, Text.hasBreak t = false)
    (hc : c.lines = above ++ freshLines b.nextId ts ++ below)
    (hn : c.nextId = b.nextId + ts.length) : c.WellFormed := by
  have hids : c.ids.Perm (List.range' b.nextId ts.length ++ b.ids) := by
    simp only [ids, h, hc, List.map_append, map_id_freshLines]
    rw [← List.append_assoc]
    exact List.perm_append_comm.append_right _
  have hne : c.lines ≠ [] := by
    intro hnone
    simp_all [W.nonempty]
  refine ⟨hne, hids.nodup_iff.2 ?_, fun i hi => ?_, fun u hu => ?_⟩
  · refine List.nodup_append.2 ⟨List.nodup_range', W.nodup, fun i hi j hj => ?_⟩
    exact Nat.ne_of_gt (Nat.lt_of_lt_of_le (W.below j hj) (List.mem_range'_1.1 hi).1)
  · rw [hn]
    rcases List.mem_append.1 (hids.subset hi) with hi | hi
    · exact (List.mem_range'_1.1 hi).2
    · exact Nat.lt_add_right _ (W.below i hi)
  · have hclean := W.clean u
    simp only [texts, h, hc, List.map_append, map_text_freshLines, List.mem_append] at hu hclean
    rcases hu with (hu | hu) | hu
    · exact hclean (.inl hu)
    · exact ht u hu
    · exact hclean (.inr hu)

/-- Taking lines away and changing their order does no harm, as long as one is left. -/
theorem WellFormed.of_subperm (hs : List.Subperm c.lines b.lines) (hne : c.lines ≠ [])
    (hn : c.nextId = b.nextId) : c.WellFormed := by
  obtain ⟨ls, hperm, hsub⟩ := hs
  have hids : ∀ i ∈ c.ids, i ∈ b.ids := fun i hi =>
    (hsub.map Line.id).subset ((hperm.map Line.id).symm.subset hi)
  refine ⟨hne, (hperm.map Line.id).nodup_iff.1 (W.nodup.sublist (hsub.map Line.id)), ?_, fun u hu => ?_⟩
  · rw [hn]
    exact fun i hi => W.below i (hids i hi)
  · exact W.clean u ((hsub.map Line.text).subset ((hperm.map Line.text).symm.subset hu))

end

theorem Step.wellFormed (H : Step limit b c) (W : b.WellFormed) : c.WellFormed := by
  cases H with
  | edit h ht => exact W.edit h ht rfl rfl
  | insert h ht => exact W.insert h ht rfl rfl
  | @delete above old below h keep =>
    have hs : (above ++ below).Sublist b.lines := by
      rw [h, List.append_assoc]
      exact List.Sublist.append_left (List.sublist_append_right _ _) _
    exact W.of_subperm hs.subperm keep rfl
  | clear =>
    refine ⟨by simp [record, freshLines], by simp [record, ids, freshLines], ?_, ?_⟩
    · simp [record, ids, freshLines]
    · simp [record, texts, freshLines]
  | @rotate above upper lower below h =>
    have hp : (above ++ (lower ++ upper) ++ below).Perm b.lines := by
      rw [h, List.append_assoc above upper]
      exact (List.perm_append_comm.append_left _).append_right _
    have hne : above ++ (lower ++ upper) ++ below ≠ [] := fun hnone =>
      W.nonempty (List.nil_perm.1 (hnone ▸ hp))
    exact W.of_subperm hp.subperm hne rfl
  | mark => exact ⟨W.nonempty, W.nodup, W.below, W.clean⟩

section
variable (H : Steps limit b c)
include H

theorem Steps.ending : c.ending = b.ending := by
  induction H with
  | refl => rfl
  | tail _ h ih => exact h.ending.trans ih

theorem Steps.nextId_le : b.nextId ≤ c.nextId := by
  induction H with
  | refl => exact Nat.le_refl _
  | tail _ h ih => exact Nat.le_trans ih h.nextId_le

theorem Steps.wellFormed (W : b.WellFormed) : c.WellFormed := by
  induction H with
  | refl => exact W
  | tail _ h ih => exact h.wellFormed ih

end

theorem Steps.fits (H : Steps maxIndex b c) (hb : b.Fits) : c.Fits := by
  induction H with
  | refl => exact hb
  | tail _ h ih => exact h.fits ih

/-! ## Elementary effects around a place -/

theorem exists_split {α : Type} {ls : List α} {n : Nat} {x : α} (h : ls[n]? = some x) :
    ∃ above below, ls = above ++ x :: below ∧ above.length = n := by
  obtain ⟨hn, rfl⟩ := List.getElem?_eq_some_iff.1 h
  exact ⟨ls.take n, ls.drop (n + 1), by rw [List.getElem_cons_drop, List.take_append_drop],
    List.length_take_of_le (Nat.le_of_lt hn)⟩

/-- A buffer around one of its lines. -/
theorem exists_line (h : line < b.lineCount) :
    ∃ above l below, b.lines = above ++ l :: below ∧ above.length = line :=
  let ⟨above, below, hs, hn⟩ := exists_split (List.getElem?_eq_getElem h)
  ⟨above, _, below, hs, hn⟩

theorem exists_split_at {α : Type} {ls : List α} {n : Nat} (h : n ≤ ls.length) :
    ∃ above below, ls = above ++ below ∧ above.length = n :=
  ⟨ls.take n, ls.drop n, (List.take_append_drop n ls).symm, List.length_take_of_le h⟩

theorem getElem?_split (h : b.lines = above ++ l :: below) (hn : above.length = line) :
    b.lines[line]? = some l := by
  rw [h, ← hn, List.getElem?_append_right (Nat.le_refl _), Nat.sub_self, List.getElem?_cons_zero]

theorem lt_lineCount_split (h : b.lines = above ++ l :: below) (hn : above.length = line) :
    line < b.lineCount := (List.getElem?_eq_some_iff.1 (getElem?_split h hn)).1

theorem lineText_split (h : b.lines = above ++ l :: below) (hn : above.length = line) :
    b.lineText line = l.text := lineText_of_getElem? (getElem?_split h hn)

theorem editLine_split (h : b.lines = above ++ l :: below) (hn : above.length = line) (t : Text) :
    b.editLine line t =
      { b with lines := above ++ ({ id := l.id, text := t } : Line) :: below }.record
        [.edited l.id] := by
  subst hn
  simp [editLine, h]

@[simp] theorem ids_editLine (b : Buffer) (line : Nat) (t : Text) :
    (b.editLine line t).ids = b.ids := by
  cases hl : b.lines[line]? with
  | none => simp [editLine, hl]
  | some l =>
    obtain ⟨above, below, hs, hn⟩ := exists_split hl
    simp [editLine_split hs hn, record, ids, hs]

@[simp] theorem lineCount_editLine (b : Buffer) (line : Nat) (t : Text) :
    (b.editLine line t).lineCount = b.lineCount := by
  rw [← length_ids, ids_editLine, length_ids]

theorem openLines_split (h : b.lines = above ++ below) (hn : above.length = line) (hne : ts ≠ []) :
    b.openLines line ts =
      { b with
        lines := above ++ freshLines b.nextId ts ++ below
        nextId := b.nextId + ts.length }.record
          (renumbering below above.length ts.length ++
            insertions above.length (freshLines b.nextId ts)) := by
  subst hn
  cases below <;> simp [openLines, h, hne, lineCount, renumbering]

theorem lineCount_openLines (hl : line ≤ b.lineCount) (ts : List Text) :
    (b.openLines line ts).lineCount = b.lineCount + ts.length := by
  by_cases hne : ts = []
  · simp [hne, openLines]
  · obtain ⟨above, below, hs, hn⟩ := exists_split_at hl
    rw [openLines_split hs hn hne, lineCount, lineCount, hs]
    simp only [record, List.length_append, length_freshLines]
    omega

theorem closeLines_split (h : b.lines = above ++ old ++ below) (hn : above.length = start)
    (hs : start + old.length = stop) (hne : old ≠ []) :
    b.closeLines start stop =
      { b with lines := above ++ below }.record
        (removals old ++ renumbering below (above.length + old.length) (-(old.length : Int))) := by
  subst hn hs
  have hold : (b.lines.take (above.length + old.length)).drop above.length = old := by
    rw [h, List.take_left' List.length_append, List.drop_left]
  have hdrop : b.lines.drop (above.length + old.length) = below := by
    rw [h, List.drop_left' List.length_append]
  have habove : b.lines.take above.length = above := by rw [h, List.append_assoc, List.take_left]
  have hcount : b.lineCount = above.length + old.length + below.length := by
    rw [lineCount, h, List.length_append, List.length_append]
  cases below <;> simp [closeLines, hold, hdrop, habove, hne, hcount, renumbering, removals]

theorem closeLines_of_le (h : stop ≤ start) : b.closeLines start stop = b := by
  have : (b.lines.take stop).drop start = [] :=
    List.drop_eq_nil_of_le (Nat.le_trans (List.length_take_le _ _) h)
  simp [closeLines, this]

theorem rotateLines_split (h : b.lines = above ++ upper ++ lower ++ below)
    (hn : above.length = start) (hm : start + upper.length = mid)
    (hs : mid + lower.length = stop) :
    b.rotateLines start mid stop =
      { b with lines := above ++ (lower ++ upper) ++ below }.record
        [.shifted [⟨above.length + upper.length, above.length + upper.length + lower.length,
            -(upper.length : Int)⟩,
          ⟨above.length, above.length + upper.length, (lower.length : Int)⟩]] := by
  subst hn hm hs
  have hstop : (above ++ upper ++ lower).length =
      above.length + upper.length + lower.length := by simp only [List.length_append]
  have h1 : b.lines.take above.length = above := by
    rw [h, List.append_assoc, List.append_assoc, List.take_left]
  have h2 : b.lines.take (above.length + upper.length) = above ++ upper := by
    rw [h, List.append_assoc, List.take_left' List.length_append]
  have h3 : b.lines.take (above.length + upper.length + lower.length) = above ++ upper ++ lower := by
    rw [h, List.take_left' hstop]
  have h4 : b.lines.drop (above.length + upper.length + lower.length) = below := by
    rw [h, List.drop_left' hstop]
  rw [rotateLines, h1, h2, h3, h4, List.drop_left, List.drop_left' List.length_append,
    Nat.add_sub_cancel_left, Nat.add_sub_cancel_left]

/-! ## Elementary effects are steps -/

theorem Step.editLine (h : line < b.lineCount) (ht : t.hasBreak = false) :
    Step limit b (b.editLine line t) := by
  obtain ⟨above, l, below, hs, hn⟩ := exists_line h
  rw [editLine_split hs hn]
  exact .edit hs ht

theorem Step.openLines (hl : line ≤ b.lineCount) (hne : ts ≠ [])
    (ht : ∀ t ∈ ts, Text.hasBreak t = false) (fits : b.lineCount + ts.length ≤ limit) :
    Step limit b (b.openLines line ts) := by
  obtain ⟨above, below, hs, hn⟩ := exists_split_at hl
  rw [openLines_split hs hn hne]
  exact .insert hs ht fits

/-- A buffer around a block of its lines. -/
theorem exists_block (h : start ≤ stop) (hs : stop ≤ b.lineCount) :
    ∃ above old below, b.lines = above ++ old ++ below ∧ above.length = start ∧
      start + old.length = stop := by
  obtain ⟨rest, below, hb, hr⟩ := exists_split_at hs
  obtain ⟨above, old, rfl, ha⟩ := exists_split_at (hr ▸ h)
  exact ⟨above, old, below, hb, ha, by rw [← hr, List.length_append, ha]⟩

theorem Step.closeLines (h : start < stop) (hs : stop ≤ b.lineCount)
    (keep : 0 < start ∨ stop < b.lineCount) : Step limit b (b.closeLines start stop) := by
  obtain ⟨above, old, below, hb, ha, ho⟩ := exists_block (Nat.le_of_lt h) hs
  rw [lineCount, hb, List.length_append, List.length_append] at keep
  rw [closeLines_split hb ha ho (List.length_pos_iff.1 (by omega))]
  refine .delete hb (List.length_pos_iff.1 ?_)
  rw [List.length_append]
  omega

theorem closeLines_all (W : b.WellFormed) :
    b.closeLines 0 b.lineCount = { b with lines := [] }.record (removals b.lines) := by
  have h : b.lines = [] ++ b.lines ++ [] := by simp
  have := closeLines_split h rfl (Nat.zero_add b.lineCount) W.nonempty
  simpa [renumbering] using this

/-- Taking lines away is a step even if none is left, as then a new one takes their place. -/
theorem Steps.withoutLines (W : b.WellFormed) (h : start < stop) (hs : stop ≤ b.lineCount) :
    Steps limit b (b.withoutLines start stop) := by
  by_cases keep : 0 < start ∨ stop < b.lineCount
  · have hstep : Step limit b (b.closeLines start stop) := .closeLines h hs keep
    have hne := (hstep.wellFormed W).nonempty
    rw [Buffer.withoutLines, if_neg (by simpa using hne)]
    exact .tail (.single hstep) .mark
  · obtain ⟨rfl, rfl⟩ : start = 0 ∧ stop = b.lineCount := by omega
    rw [Buffer.withoutLines, closeLines_all W]
    exact .tail (.single (by simpa [Buffer.openLines, record, lineCount] using Step.clear)) .mark

theorem Step.rotateLines (h : start < mid) (h' : mid < stop) (hs : stop ≤ b.lineCount) :
    Step limit b (b.rotateLines start mid stop) := by
  obtain ⟨rest, lower, below, hb, hr, hl⟩ := exists_block (Nat.le_of_lt h') hs
  obtain ⟨above, upper, rfl, ha⟩ := exists_split_at (hr ▸ Nat.le_of_lt h)
  rw [List.length_append, ha] at hr
  rw [rotateLines_split hb ha hr hl]
  exact .rotate hb

end Buffer
end LogicEditor
