import LogicEditor.Proofs.Buffer.Replay

/-!
# The log as a difference

`Buffer.Diff` says that a list of changes leads from one buffer to another: replayed over the line
numbers of the first it gives those of the second, and it names every line that is new, gone, or has
another text. Every step of a buffer logs such a difference (`Step.diff`), and differences compose
(`Diff.trans`), so the log of any number of steps is one.
-/

namespace LogicEditor
namespace Buffer

variable {b c d : Buffer} {es fs : List Change} {above upper lower below old : List Line}
  {id : LineId} {l : Line} {x : Change}

/-! ## Differences -/

/-- The changes `es` lead from `b` to `c`. -/
structure Diff (b : Buffer) (es : List Change) (c : Buffer) : Prop where
  log : c.log = b.log ++ es
  /-- Replayed over the line numbers before, the changes give those after. -/
  numbers : replay b.indexOf? es = c.indexOf?
  /-- A line that is neither new nor edited is the very line it was, with its tokens. -/
  kept : ∀ l ∈ c.lines, .edited l.id ∉ es → (∀ line, .inserted l.id line ∉ es) → l ∈ b.lines
  inserted : ∀ id ∈ c.ids, id ∉ b.ids → ∃ line, .inserted id line ∈ es
  removed : ∀ id ∈ b.ids, id ∉ c.ids → .removed id ∈ es
  fresh : ∀ id line, .inserted id line ∈ es → b.nextId ≤ id ∧ id < c.nextId
  gone : ∀ id, .removed id ∈ es → id ∉ c.ids ∧ id < c.nextId
  nextId_le : b.nextId ≤ c.nextId

theorem Diff.refl (b : Buffer) : Diff b [] b where
  log := by simp
  numbers := rfl
  kept := fun _ h _ _ => h
  inserted := fun _ h h' => absurd h h'
  removed := fun _ h h' => absurd h h'
  fresh := by simp
  gone := by simp
  nextId_le := Nat.le_refl _

theorem Diff.mark (b : Buffer) : Diff b [] b.markModified :=
  let H := Diff.refl b
  ⟨H.log, H.numbers, H.kept, H.inserted, H.removed, H.fresh, H.gone, H.nextId_le⟩

theorem Diff.save (b : Buffer) : Diff b [] b.markSaved :=
  let H := Diff.refl b
  ⟨H.log, H.numbers, H.kept, H.inserted, H.removed, H.fresh, H.gone, H.nextId_le⟩

theorem Diff.trans (H : Diff b es c) (H' : Diff c fs d) : Diff b (es ++ fs) d where
  log := by rw [H'.log, H.log, List.append_assoc]
  numbers := by rw [replay_append, H.numbers, H'.numbers]
  kept := by
    intro l hl he hi
    simp only [List.mem_append, not_or] at he hi
    exact H.kept l (H'.kept l hl he.2 fun line => (hi line).2) he.1 fun line => (hi line).1
  inserted := by
    intro id hd hb
    by_cases hc : id ∈ c.ids
    · obtain ⟨line, h⟩ := H.inserted id hc hb
      exact ⟨line, List.mem_append_left _ h⟩
    · obtain ⟨line, h⟩ := H'.inserted id hd hc
      exact ⟨line, List.mem_append_right _ h⟩
  removed := by
    intro id hb hd
    by_cases hc : id ∈ c.ids
    · exact List.mem_append_right _ (H'.removed id hc hd)
    · exact List.mem_append_left _ (H.removed id hb hc)
  fresh := by
    intro id line h
    rcases List.mem_append.1 h with h | h
    · exact ⟨(H.fresh id line h).1, Nat.lt_of_lt_of_le (H.fresh id line h).2 H'.nextId_le⟩
    · exact ⟨Nat.le_trans H.nextId_le (H'.fresh id line h).1, (H'.fresh id line h).2⟩
  gone := by
    intro id h
    rcases List.mem_append.1 h with h | h
    · obtain ⟨hc, hlt⟩ := H.gone id h
      refine ⟨fun hd => ?_, Nat.lt_of_lt_of_le hlt H'.nextId_le⟩
      -- a handle that was dropped before `c` cannot come back, as new handles are larger
      obtain ⟨line, h'⟩ := H'.inserted id hd hc
      exact absurd (H'.fresh id line h').1 (Nat.not_le.2 hlt)
    · exact H'.gone id h
  nextId_le := Nat.le_trans H.nextId_le H'.nextId_le

/-! ## Differences of steps -/

theorem mem_removals : x ∈ removals old ↔ ∃ l ∈ old, .removed l.id = x := List.mem_map

theorem mem_insertions {line : Nat} {new : List Line} (h : x ∈ insertions line new) :
    ∃ l ∈ new, ∃ n, x = .inserted l.id n := by
  induction new generalizing line with
  | nil => simp [insertions] at h
  | cons l new ih =>
    rcases List.mem_cons.1 h with rfl | h
    · exact ⟨l, List.mem_cons_self, _, rfl⟩
    · obtain ⟨m, hm, n, rfl⟩ := ih h
      exact ⟨m, List.mem_cons_of_mem _ hm, n, rfl⟩

theorem inserted_mem_insertions {line : Nat} {new : List Line} (h : l ∈ new) :
    ∃ n, .inserted l.id n ∈ insertions line new := by
  induction new generalizing line with
  | nil => cases h
  | cons m new ih =>
    rcases List.mem_cons.1 h with rfl | h
    · exact ⟨line, List.mem_cons_self⟩
    · obtain ⟨n, hn⟩ := ih h
      exact ⟨n, List.mem_cons_of_mem _ hn⟩

theorem eq_shifted_of_mem_renumbering {line : Nat} {delta : Int}
    (h : x ∈ renumbering below line delta) : ∃ shifts, x = .shifted shifts := by
  rw [renumbering] at h
  split at h
  · cases h
  · exact ⟨_, List.mem_singleton.1 h⟩

theorem Diff.edit {t : Text} (h : b.lines = above ++ l :: below) :
    Diff b [.edited l.id]
      ({ b with lines := above ++ ({ id := l.id, text := t } : Line) :: below }.record
        [.edited l.id]) where
  log := rfl
  numbers := by
    rw [indexOf?_eq, indexOf?_eq, h]
    exact numbers_edit
  kept := by
    intro m hm he _
    simp only [record, List.mem_append, List.mem_cons, List.not_mem_nil, or_false,
      Change.edited.injEq, h] at hm he ⊢
    rcases hm with hm | rfl | hm
    · exact .inl hm
    · exact absurd rfl he
    · exact .inr (.inr hm)
  inserted := by
    intro id hc hb
    simp only [ids, record, h, List.map_append, List.map_cons] at hc hb
    exact absurd hc hb
  removed := by
    intro id hb hc
    simp only [ids, record, h, List.map_append, List.map_cons] at hc hb
    exact absurd hb hc
  fresh := by simp
  gone := by simp
  nextId_le := Nat.le_refl _

theorem Diff.insert {ts : List Text} (h : b.lines = above ++ below)
    (hnd : ((above ++ freshLines b.nextId ts ++ below).map (·.id)).Nodup)
    (fits : b.lineCount + ts.length ≤ maxIndex) :
    let new := freshLines b.nextId ts
    let es := renumbering below above.length ts.length ++ insertions above.length new
    Diff b es ({ b with
      lines := above ++ new ++ below, nextId := b.nextId + ts.length }.record es) where
  log := rfl
  numbers := by
    rw [indexOf?_eq, indexOf?_eq, h]
    have := numbers_insert hnd (by
      rw [lineCount, h] at fits
      simp only [List.length_append, length_freshLines] at fits ⊢
      omega)
    rwa [length_freshLines] at this
  kept := by
    intro m hm _ hi
    simp only [record, List.mem_append, h] at hm ⊢
    rcases hm with (hm | hm) | hm
    · exact .inl hm
    · obtain ⟨n, hn⟩ := inserted_mem_insertions hm
      exact absurd (List.mem_append_right _ hn) (hi n)
    · exact .inr hm
  inserted := by
    intro id hc hb
    simp only [ids, record, h, List.map_append, List.mem_append, List.mem_map, not_or] at hc hb
    rcases hc with (hc | ⟨m, hm, rfl⟩) | hc
    · exact absurd hc hb.1
    · obtain ⟨n, hn⟩ := inserted_mem_insertions hm
      exact ⟨n, List.mem_append_right _ hn⟩
    · exact absurd hc hb.2
  removed := by
    intro id hb hc
    simp only [ids, record, h, List.map_append, List.mem_append, not_or] at hc hb
    exact absurd hb (not_or.2 ⟨hc.1.1, hc.2⟩)
  fresh := by
    intro id line hx
    rcases List.mem_append.1 hx with hx | hx
    · obtain ⟨_, hx⟩ := eq_shifted_of_mem_renumbering hx
      cases hx
    · obtain ⟨m, hm, n, hx⟩ := mem_insertions hx
      cases hx
      exact le_id_of_mem_freshLines hm
  gone := by
    intro id hx
    rcases List.mem_append.1 hx with hx | hx
    · obtain ⟨_, hx⟩ := eq_shifted_of_mem_renumbering hx
      cases hx
    · obtain ⟨m, hm, n, hx⟩ := mem_insertions hx
      cases hx
  nextId_le := Nat.le_add_right _ _

theorem Diff.delete (h : b.lines = above ++ old ++ below) (W : b.WellFormed) (F : b.Fits) :
    let es := removals old ++ renumbering below (above.length + old.length) (-(old.length : Int))
    Diff b es ({ b with lines := above ++ below }.record es) where
  log := rfl
  numbers := by
    rw [indexOf?_eq, indexOf?_eq, h]
    exact numbers_delete (h ▸ W.nodup) (h ▸ F)
  kept := by
    intro m hm _ _
    simp only [record, List.mem_append, h] at hm ⊢
    exact hm.elim (fun hm => .inl (.inl hm)) .inr
  inserted := by
    intro id hc hb
    simp only [ids, record, h, List.map_append, List.mem_append, not_or] at hc hb
    exact absurd hc (not_or.2 ⟨hb.1.1, hb.2⟩)
  removed := by
    intro id hb hc
    simp only [ids, record, h, List.map_append, List.mem_append, List.mem_map, not_or] at hc hb
    rcases hb with (hb | ⟨m, hm, rfl⟩) | hb
    · exact absurd hb hc.1
    · exact List.mem_append_left _ (mem_removals.2 ⟨m, hm, rfl⟩)
    · exact absurd hb hc.2
  fresh := by
    intro id line hx
    rcases List.mem_append.1 hx with hx | hx
    · obtain ⟨m, -, hx⟩ := mem_removals.1 hx
      cases hx
    · obtain ⟨_, hx⟩ := eq_shifted_of_mem_renumbering hx
      cases hx
  gone := by
    intro id hx
    rcases List.mem_append.1 hx with hx | hx
    · obtain ⟨m, hm, hx⟩ := mem_removals.1 hx
      cases hx
      have hnd := W.nodup
      have hlt := W.below m.id
      simp only [ids, h, List.map_append, List.mem_append] at hnd hlt
      have hmo := List.mem_map_of_mem (f := (·.id)) hm
      refine ⟨?_, hlt (.inl (.inr hmo))⟩
      simp only [ids, record, List.map_append, List.mem_append]
      rintro (ha | hb)
      · exact (List.nodup_append.1 hnd.of_append_left).2.2 _ ha _ hmo rfl
      · exact (List.nodup_append.1 hnd).2.2 _ (List.mem_append_right _ hmo) _ hb rfl
    · obtain ⟨_, hx⟩ := eq_shifted_of_mem_renumbering hx
      cases hx
  nextId_le := Nat.le_refl _

/-- Emptying is deleting all lines, then inserting one. -/
theorem Diff.clear (W : b.WellFormed) (F : b.Fits) :
    let es := removals b.lines ++ insertions 0 (freshLines b.nextId [[]])
    Diff b es ({ b with
      lines := freshLines b.nextId [[]], nextId := b.nextId + 1 }.record es) := by
  have hall : b.lines = [] ++ b.lines ++ [] := by simp
  have hnone : ({ b with lines := [] }.record (removals b.lines)).lines = [] ++ [] := rfl
  have hd := Diff.delete hall W F
  have fits : ({ b with lines := [] }.record (removals b.lines)).lineCount + [([] : Text)].length ≤
      maxIndex := by simp [record, lineCount, maxIndex]
  have hi := Diff.insert hnone (by simp [freshLines]) fits
  have := Diff.trans (by simpa [renumbering] using hd) hi
  simpa [renumbering, record] using this

theorem Diff.rotate (h : b.lines = above ++ upper ++ lower ++ below) (W : b.WellFormed)
    (F : b.Fits) :
    let es : List Change :=
      [.shifted [⟨above.length + upper.length, above.length + upper.length + lower.length,
          -(upper.length : Int)⟩,
        ⟨above.length, above.length + upper.length, (lower.length : Int)⟩]]
    Diff b es ({ b with lines := above ++ (lower ++ upper) ++ below }.record es) where
  log := rfl
  numbers := by
    rw [indexOf?_eq, indexOf?_eq, h]
    exact numbers_rotate (h ▸ W.nodup) (h ▸ F)
  kept := by
    intro m hm _ _
    simp only [record, List.mem_append, h] at hm ⊢
    tauto
  inserted := by
    intro id hc hb
    simp only [ids, record, h, List.map_append, List.mem_append] at hc hb
    tauto
  removed := by
    intro id hb hc
    simp only [ids, record, h, List.map_append, List.mem_append] at hc hb
    tauto
  fresh := by simp
  gone := by simp
  nextId_le := Nat.le_refl _

theorem Step.diff (H : Step maxIndex b c) (W : b.WellFormed) (F : b.Fits) : ∃ es, Diff b es c := by
  cases H with
  | edit h => exact ⟨_, .edit h⟩
  | insert h ht fits => exact ⟨_, .insert h ((Step.insert h ht fits).wellFormed W).nodup fits⟩
  | delete h => exact ⟨_, .delete h W F⟩
  | clear => exact ⟨_, .clear W F⟩
  | rotate h => exact ⟨_, .rotate h W F⟩
  | mark => exact ⟨_, .mark b⟩

/-- Any number of steps logs the difference that it makes. -/
theorem Steps.diff (H : Steps maxIndex b c) (W : b.WellFormed) (F : b.Fits) : ∃ es, Diff b es c := by
  induction H with
  | refl => exact ⟨_, .refl b⟩
  | tail H h ih =>
    obtain ⟨es, hes⟩ := ih
    obtain ⟨fs, hfs⟩ := h.diff (Steps.wellFormed H W) (Steps.fits H F)
    exact ⟨_, hes.trans hfs⟩

section
variable {T : LineId → Option Nat} (P : b.Places T) (D : Diff b es c) (W : b.WellFormed)
include P D W

/-- A line that has a number in the table, or is new, has the right one after the changes. -/
theorem Places.replay_eq (h : (∃ line, .inserted id line ∈ es) ∨ (T id).isSome) :
    replay T es id = c.indexOf? id := by
  have hsame : T id = b.indexOf? id := by
    cases hT : T id with
    | some k => exact (P id k hT).symm
    | none =>
      obtain ⟨line, hnew⟩ := h.resolve_right (by rw [hT]; exact Bool.false_ne_true)
      refine (place_eq_none.2 fun hid => ?_).symm
      exact Nat.not_lt.2 (D.fresh id line hnew).1 (W.below id hid)
  rw [← D.numbers, replay_congr es hsame]

/-- No other line has a number after the changes. -/
theorem Places.replay_isSome : (replay T es id).isSome ↔
    id ∈ c.ids ∧ ((∃ line, .inserted id line ∈ es) ∨ (T id).isSome) := by
  have hplace : (c.indexOf? id).isSome ↔ id ∈ c.ids := by
    rw [Option.isSome_iff_ne_none, ne_eq, indexOf?_eq, place_eq_none, not_not]
    rfl
  constructor
  · intro h
    have hnew : (∃ line, .inserted id line ∈ es) ∨ (T id).isSome := by
      by_contra hnew
      rw [not_or, not_exists, Option.not_isSome_iff_eq_none] at hnew
      rw [replay_eq_none hnew.2 hnew.1] at h
      cases h
    rw [P.replay_eq D W hnew, hplace] at h
    exact ⟨h, hnew⟩
  · rintro ⟨hid, hnew⟩
    rw [P.replay_eq D W hnew]
    exact hplace.2 hid

/-- A table that has a wrong number for no handle stays so when the changes are replayed over it. -/
theorem Places.diff : c.Places (replay T es) := by
  intro id i h
  have hsome := (P.replay_isSome D W).1 (Option.isSome_of_eq_some h)
  rw [← P.replay_eq D W hsome.2, h]

end

end Buffer
end LogicEditor
