import Mathlib.Data.List.Nodup
import LogicEditor.Proofs.Buffer.Step
import LogicEditor.Symbol.Index

/-!
# Replaying a log

Whoever keeps a table of line numbers can replay the log over it (`Change.replay`). For each kind of
step, the changes that it logs lead from the line numbers before it to those after it
(`Buffer.numbers_insert`, `numbers_delete`, `numbers_rotate`). All shifts of one change refer to the
numbers before it, which is what lets two blocks change places.
-/

namespace LogicEditor

/-! ## Replaying a log -/

/-- What a change does to a table of line numbers. A new line is entered, a line that is gone is
struck out, and all lines move together when lines get new numbers. -/
def Change.replay (table : LineId → Option Nat) : Change → LineId → Option Nat
  | .edited _ => table
  | .inserted id line => fun j => if j = id then some line else table j
  | .removed id => fun j => if j = id then none else table j
  | .shifted shifts => fun j => (table j).map (SymbolIndex.target shifts)

/-- What a log does to a table of line numbers. -/
def replay (table : LineId → Option Nat) (log : List Change) : LineId → Option Nat :=
  log.foldl Change.replay table

@[simp] theorem replay_nil (table : LineId → Option Nat) : replay table [] = table := rfl

@[simp] theorem replay_cons (table : LineId → Option Nat) (x : Change) (log : List Change) :
    replay table (x :: log) = replay (x.replay table) log := rfl

@[simp] theorem replay_append (table : LineId → Option Nat) (xs ys : List Change) :
    replay table (xs ++ ys) = replay (replay table xs) ys := List.foldl_append

section
variable {T T' : LineId → Option Nat} {id : LineId} (es : List Change)

/-- What the log does to one handle depends on the number of that handle only. -/
theorem replay_congr (h : T id = T' id) : replay T es id = replay T' es id := by
  induction es generalizing T T' with
  | nil => exact h
  | cons x es ih =>
    refine ih ?_
    cases x with
    | edited => exact h
    | inserted j line | removed j =>
      simp only [Change.replay]
      rw [h]
    | shifted shifts =>
      simp only [Change.replay]
      rw [h]

variable {es} in
/-- A handle without a number gets none unless its line is new. -/
theorem replay_eq_none (h : T id = none) (hnew : ∀ line, .inserted id line ∉ es) :
    replay T es id = none := by
  induction es generalizing T with
  | nil => exact h
  | cons x es ih =>
    simp only [List.mem_cons, not_or] at hnew
    refine ih ?_ fun line => (hnew line).2
    cases x with
    | edited => exact h
    | inserted j line =>
      have hj : id ≠ j := fun hj => (hnew line).1 (hj ▸ rfl)
      exact (if_neg hj).trans h
    | removed j =>
      simp only [Change.replay]
      rw [h, ite_self]
    | shifted shifts =>
      simp only [Change.replay]
      rw [h, Option.map_none]

end

/-! ## Shifts of lines -/

namespace SymbolIndex

theorem moveIndex_add {n d : Nat} (h : n + d ≤ maxIndex) : moveIndex n d = n + d := by
  simp only [moveIndex]
  omega

theorem moveIndex_sub {n d : Nat} (h : n ≤ maxIndex) (hd : d ≤ n) :
    moveIndex n (-(d : Int)) = n - d := by
  simp only [moveIndex]
  omega

theorem target_singleton (s : Shift) (line : Nat) :
    target [s] line =
      if s.start ≤ line ∧ line < s.stop then moveIndex line s.delta else line := by
  by_cases h : s.start ≤ line ∧ line < s.stop <;> simp [target, Shift.firstTarget?, Shift.target?, h]

theorem target_pair (start stop start' stop' line : Nat) (d d' : Int) :
    target [⟨start, stop, d⟩, ⟨start', stop', d'⟩] line =
      if start ≤ line ∧ line < stop then moveIndex line d
      else if start' ≤ line ∧ line < stop' then moveIndex line d' else line := by
  by_cases h : start ≤ line ∧ line < stop <;> by_cases h' : start' ≤ line ∧ line < stop' <;>
    simp [target, Shift.firstTarget?, Shift.target?, h, h']

theorem target_onward_of_lt {start line : Nat} {d : Int} (h : line < start) :
    target [.onward start d] line = line := by
  rw [target_singleton, if_neg (by simp only [Shift.onward]; omega)]

theorem target_onward_of_le {start line : Nat} {d : Int} (h : start ≤ line) (hl : line < maxIndex) :
    target [.onward start d] line = moveIndex line d := by
  rw [target_singleton, if_pos ⟨h, hl⟩]
  rfl

end SymbolIndex

/-! ## Line numbers of a list of lines -/

namespace Buffer

open SymbolIndex

variable {above upper lower below old : List Line} {id : LineId} {l : Line}

/-- Where the line with a handle stands in a list of lines. -/
def place (ls : List Line) (id : LineId) : Option Nat := ls.findIdx? (·.id == id)

theorem indexOf?_eq (b : Buffer) : b.indexOf? = place b.lines := rfl

@[simp] theorem place_nil : place [] id = none := rfl

theorem place_append (ls ms : List Line) (id : LineId) :
    place (ls ++ ms) id = (place ls id).or ((place ms id).map (· + ls.length)) :=
  List.findIdx?_append

theorem place_cons (l : Line) (ls : List Line) (id : LineId) :
    place (l :: ls) id = if l.id = id then some 0 else (place ls id).map (· + 1) := by
  rw [place, List.findIdx?_cons, ← place]
  simp only [beq_iff_eq]

theorem place_lt {ls : List Line} {i : Nat} (h : place ls id = some i) : i < ls.length :=
  (List.findIdx?_eq_some_iff_findIdx_eq.1 h).1

theorem place_eq_none {ls : List Line} : place ls id = none ↔ id ∉ ls.map (·.id) := by
  simp only [place, List.findIdx?_eq_none_iff, beq_eq_false_iff_ne, List.mem_map, not_exists, not_and]

/-- No line stands in both of two parts. -/
theorem place_eq_none_or {ls ms : List Line} (hnd : ((ls ++ ms).map (·.id)).Nodup) (id : LineId) :
    place ls id = none ∨ place ms id = none := by
  rw [place_eq_none, place_eq_none, ← not_and_or]
  rintro ⟨hl, hm⟩
  rw [List.map_append, List.nodup_append] at hnd
  exact hnd.2.2 id hl id hm rfl

theorem place_congr {ls ms : List Line} (h : ls.map (·.id) = ms.map (·.id)) :
    place ls = place ms := by
  funext id
  have hls : place ls id = (ls.map (·.id)).findIdx? (· == id) := by simp [place, Function.comp_def]
  have hms : place ms id = (ms.map (·.id)).findIdx? (· == id) := by simp [place, Function.comp_def]
  rw [hls, hms, h]

theorem place_eq_some_iff {ls : List Line} (hnd : (ls.map (·.id)).Nodup) {i : Nat} :
    place ls id = some i ↔ (ls[i]?.map (·.id)) = some id := by
  rw [place, List.findIdx?_eq_some_iff_getElem, Option.map_eq_some_iff]
  constructor
  · rintro ⟨h, hi, -⟩
    exact ⟨_, List.getElem?_eq_getElem h, by simpa using hi⟩
  · rintro ⟨l, hl, rfl⟩
    obtain ⟨hi, rfl⟩ := List.getElem?_eq_some_iff.1 hl
    refine ⟨hi, by simp, fun j hj hji => ?_⟩
    have hlt : j < (ls.map (·.id)).length := by rw [List.length_map]; exact Nat.lt_trans hj hi
    have hlt' : i < (ls.map (·.id)).length := by rwa [List.length_map]
    have heq : (ls.map (·.id))[j] = (ls.map (·.id))[i] := by
      simpa using hji
    exact Nat.ne_of_lt hj (hnd.getElem_inj_iff.1 heq)

theorem indexOf?_congr {b c : Buffer} (h : c.ids = b.ids) : c.indexOf? = b.indexOf? := by
  rw [indexOf?_eq, indexOf?_eq]
  exact place_congr h

/-- A buffer around the line with a handle. -/
theorem exists_of_indexOf? {b : Buffer} {line : Nat} (h : b.indexOf? id = some line) :
    ∃ above l below, b.lines = above ++ l :: below ∧ above.length = line ∧ l.id = id := by
  obtain ⟨hlt, hid, -⟩ := List.findIdx?_eq_some_iff_getElem.1 h
  obtain ⟨above, below, hs, hn⟩ := exists_split (List.getElem?_eq_getElem hlt)
  exact ⟨above, _, below, hs, hn, by simpa using hid⟩

/-- The table has a wrong number for no handle. It may have none for some lines. -/
def Places (b : Buffer) (T : LineId → Option Nat) : Prop :=
  ∀ id i, T id = some i → b.indexOf? id = some i

theorem Places.exists_line {b : Buffer} {T : LineId → Option Nat} (P : b.Places T)
    (h : (T id).isSome) : ∃ l ∈ b.lines, l.id = id := by
  obtain ⟨i, hi⟩ := Option.isSome_iff_exists.1 h
  obtain ⟨above, l, below, hlines, -, hid⟩ := exists_of_indexOf? (P id i hi)
  exact ⟨l, hlines ▸ List.mem_append_right _ List.mem_cons_self, hid⟩

/-- No two lines have one number. -/
theorem Places.inj {b : Buffer} {T : LineId → Option Nat} (P : b.Places T) (hnd : b.ids.Nodup)
    {i j : LineId} {n : Nat} (hi : T i = some n) (hj : T j = some n) : i = j := by
  have hi' := (place_eq_some_iff hnd).1 (P i n hi)
  have hj' := (place_eq_some_iff hnd).1 (P j n hj)
  exact Option.some.inj (hi'.symm.trans hj')

/-! ## What a log does to line numbers -/

theorem replay_removals (table : LineId → Option Nat) (old : List Line) (id : LineId) :
    replay table (removals old) id = if id ∈ old.map (·.id) then none else table id := by
  induction old generalizing table with
  | nil => simp [removals]
  | cons l old ih =>
    rw [removals, List.map_cons, replay_cons, ← removals, ih, List.map_cons]
    by_cases h : id = l.id <;> by_cases h' : id ∈ old.map (·.id) <;> simp [Change.replay, h, h']

theorem replay_insertions (table : LineId → Option Nat) (line : Nat) {new : List Line}
    (hnd : (new.map (·.id)).Nodup) (id : LineId) :
    replay table (insertions line new) id = ((place new id).map (· + line)).or (table id) := by
  induction new generalizing table line with
  | nil => simp [insertions]
  | cons l new ih =>
    rw [List.map_cons, List.nodup_cons] at hnd
    rw [insertions, replay_cons, ih _ _ hnd.2, place_cons]
    by_cases h : l.id = id
    · subst h
      simp [place_eq_none.2 hnd.1, Change.replay]
    · rw [if_neg h, Option.map_map]
      simp only [Change.replay, if_neg (Ne.symm h)]
      congr 2
      funext i
      simp only [Function.comp]
      omega

theorem replay_renumbering_of_lt {table : LineId → Option Nat} {below : List Line}
    {line i : Nat} {d : Int} (h : table id = some i) (hi : i < line) :
    replay table (renumbering below line d) id = some i := by
  rw [renumbering]
  split
  · exact h
  · simp [Change.replay, h, target_onward_of_lt hi]

theorem replay_renumbering_of_le {table : LineId → Option Nat} {below : List Line}
    {line i : Nat} {d : Int} (h : table id = some i) (hb : below ≠ []) (hi : line ≤ i)
    (hm : i < maxIndex) : replay table (renumbering below line d) id = some (moveIndex i d) := by
  rw [renumbering, if_neg (by simpa using hb)]
  simp [Change.replay, h, target_onward_of_le hi hm]

theorem replay_renumbering_of_none {table : LineId → Option Nat} {below : List Line}
    {line : Nat} {d : Int} (h : table id = none) :
    replay table (renumbering below line d) id = none := by
  rw [renumbering]
  split
  · exact h
  · simp [Change.replay, h]

/-! ## Line numbers after a step -/

theorem numbers_edit {t : Text} : place (above ++ l :: below) =
    place (above ++ ({ id := l.id, text := t } : Line) :: below) :=
  place_congr (by simp)

/-- Room is made below, then the new lines are entered. -/
theorem numbers_insert {new : List Line} (hnd : ((above ++ new ++ below).map (·.id)).Nodup)
    (fits : (above ++ new ++ below).length ≤ maxIndex) :
    replay (place (above ++ below))
        (renumbering below above.length new.length ++ insertions above.length new) =
      place (above ++ new ++ below) := by
  funext id
  have hmid : ((above ++ new).map (·.id)).Nodup := by
    rw [List.map_append] at hnd
    exact hnd.of_append_left
  have hnew : (new.map (·.id)).Nodup := by
    rw [List.map_append] at hmid
    exact hmid.of_append_right
  rw [replay_append, replay_insertions _ _ hnew, place_append (above ++ new), place_append above new,
    List.length_append]
  have hold := place_append above below id
  cases ha : place above id with
  | some i =>
    have hi := place_lt ha
    have hn : place new id = none := (place_eq_none_or hmid id).resolve_left (by simp [ha])
    rw [ha, Option.some_or] at hold
    rw [hn, replay_renumbering_of_lt hold hi]
    rfl
  | none =>
    rw [ha, Option.none_or] at hold
    cases hb : place below id with
    | none =>
      rw [hb] at hold
      rw [replay_renumbering_of_none hold]
      simp
    | some i =>
      have hi := place_lt hb
      have hne : below ≠ [] := by rintro rfl; cases hb
      rw [hb, Option.map_some] at hold
      simp only [List.length_append] at fits
      rw [replay_renumbering_of_le hold hne (by omega) (by omega), moveIndex_add (by omega)]
      simp only [Option.none_or, Option.map_some]
      congr 2
      omega

/-- The old lines are struck out, then those below them move up. -/
theorem numbers_delete (hnd : ((above ++ old ++ below).map (·.id)).Nodup)
    (fits : (above ++ old ++ below).length ≤ maxIndex) :
    replay (place (above ++ old ++ below))
        (removals old ++ renumbering below (above.length + old.length) (-(old.length : Int))) =
      place (above ++ below) := by
  funext id
  rw [replay_append, place_append]
  have hall : place (above ++ old ++ below) id =
      ((place above id).or ((place old id).map (· + above.length))).or
        ((place below id).map (· + (above.length + old.length))) := by
    rw [place_append, place_append, List.length_append]
  have hrest := replay_removals (place (above ++ old ++ below)) old id
  by_cases ho : id ∈ old.map (·.id)
  · rw [if_pos ho] at hrest
    rw [replay_renumbering_of_none hrest]
    have hold : place old id ≠ none := fun h => place_eq_none.1 h ho
    have hmid : ((above ++ old).map (·.id)).Nodup := by
      rw [List.map_append] at hnd
      exact hnd.of_append_left
    have ha : place above id = none := (place_eq_none_or hmid id).resolve_right hold
    have hb : place below id = none := (place_eq_none_or hnd id).resolve_left (by
      simp [place_append, hold])
    simp [ha, hb]
  · rw [if_neg ho, hall, place_eq_none.2 ho] at hrest
    cases ha : place above id with
    | some i =>
      have hi := place_lt ha
      rw [ha] at hrest
      rw [replay_renumbering_of_lt hrest (by omega)]
      rfl
    | none =>
      cases hb : place below id with
      | none =>
        rw [ha, hb] at hrest
        rw [replay_renumbering_of_none hrest]
        rfl
      | some i =>
        have hi := place_lt hb
        have hne : below ≠ [] := by rintro rfl; cases hb
        simp only [ha, hb, Option.map_none, Option.none_or, Option.map_some] at hrest
        simp only [List.length_append] at fits
        rw [replay_renumbering_of_le hrest hne (by omega) (by omega), moveIndex_sub (by omega)
          (by omega)]
        simp only [Option.none_or, Option.map_some]
        congr 1
        omega

/-- The lower block moves up by the size of the upper one, and the upper block down by that of the
lower one, both by the numbers before. -/
theorem numbers_rotate (hnd : ((above ++ upper ++ lower ++ below).map (·.id)).Nodup)
    (fits : (above ++ upper ++ lower ++ below).length ≤ maxIndex) :
    replay (place (above ++ upper ++ lower ++ below))
        [.shifted [⟨above.length + upper.length, above.length + upper.length + lower.length,
            -(upper.length : Int)⟩,
          ⟨above.length, above.length + upper.length, (lower.length : Int)⟩]] =
      place (above ++ (lower ++ upper) ++ below) := by
  funext id
  have hul : place upper id = none ∨ place lower id = none := by
    refine place_eq_none_or ?_ id
    simp only [List.map_append, List.append_assoc] at hnd ⊢
    rw [← List.append_assoc (upper.map _)] at hnd
    exact hnd.of_append_right.of_append_left
  simp only [List.length_append] at fits
  rw [replay_cons, replay_nil, Change.replay]
  simp only [place_append, List.length_append]
  cases ha : place above id with
  | some i =>
    have hi := place_lt ha
    simp only [Option.some_or, Option.map_some]
    rw [target_pair, if_neg (by omega), if_neg (by omega)]
  | none =>
    simp only [Option.none_or]
    cases hu : place upper id with
    | some i =>
      have hi := place_lt hu
      have hl : place lower id = none := hul.resolve_left (by simp [hu])
      simp only [hl, Option.map_some, Option.some_or, Option.map_none, Option.none_or]
      rw [target_pair, if_neg (by omega), if_pos ⟨by omega, by omega⟩, moveIndex_add (by omega)]
      congr 1
      omega
    | none =>
      cases hl : place lower id with
      | some i =>
        have hi := place_lt hl
        simp only [Option.map_none, Option.none_or, Option.map_some, Option.some_or]
        rw [target_pair, if_pos ⟨by omega, by omega⟩, moveIndex_sub (by omega) (by omega)]
        congr 1
        omega
      | none =>
        cases hb : place below id with
        | none => rfl
        | some i =>
          simp only [Option.map_none, Option.none_or, Option.map_some]
          rw [target_pair, if_neg (by omega), if_neg (by omega)]
          congr 1
          omega

end Buffer
end LogicEditor
