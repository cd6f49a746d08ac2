import LogicEditor.Proofs.Buffer.Run

/-!
# Pending logs

What the log of a buffer tells somebody who knew nothing of the buffer before. Until the log is first
drained it tells of all lines (`Buffer.Undrained.diff`). After that it leads to the numbers of the
lines that it reports as new, and gives no other line a number (`Buffer.Reports`): of the lines that
were there when it was drained, it says at most that they were edited or are gone.
-/

namespace LogicEditor
namespace Buffer

variable {a b c : Buffer} {es : List Change} {id : LineId}

/-! ## Logs that were not drained -/

theorem Diff.ofText (t : Text) (F : (ofText t).Fits) :
    Diff (blank (ofText t).ending) (ofText t).log (ofText t) := by
  have hblank : (blank (.detect t)).lines = [] ++ [] := rfl
  rw [ofText_eq] at F ⊢
  have fits : (blank (.detect t)).lineCount + t.lines.length ≤ maxIndex := by
    simpa [Fits, lineCount, blank] using F
  have := Diff.insert hblank (by simp [blank, List.nodup_range']) fits
  simpa [renumbering, record, blank] using this

/-- If the first buffer has no lines, tokens kept with lines of the second do not matter, as all its
lines are new. -/
theorem Diff.setTokens (D : Diff b es c) (hb : b.lines = []) (line : Nat) (tokens : List Token) :
    Diff b es (c.setTokens line tokens) := by
  have hids := ids_setTokens c line tokens
  refine ⟨D.log, ?_, fun l hl he hi => ?_, fun id h => D.inserted id (hids ▸ h),
    fun id hb h => D.removed id hb (hids ▸ h), D.fresh, fun id h => hids ▸ D.gone id h, D.nextId_le⟩
  · rw [D.numbers, indexOf?_congr hids]
  · have hid : l.id ∈ c.ids := hids ▸ List.mem_map_of_mem hl
    obtain ⟨m, hm, hml⟩ := List.mem_map.1 hid
    have := D.kept m hm (hml ▸ he) (hml ▸ hi)
    rw [hb] at this
    cases this

theorem New.diff (H : New b) : Diff (blank b.ending) b.log b := by
  cases H with
  | ofText t fits => exact .ofText t fits
  | ofLines ls fits => exact .ofText _ fits

/-- Until the log is first drained, it tells of all lines. -/
theorem Undrained.diff (ha : New a) (H : Undrained a b) :
    b.WellFormed ∧ b.Fits ∧ Diff (blank a.ending) b.log b := by
  induction H with
  | refl => exact ⟨ha.wellFormed, ha.fits, ha.diff⟩
  | @tail b c _ h ih =>
    obtain ⟨W, F, D⟩ := ih
    refine ⟨Moment.wellFormed W (.event h), Moment.fits (.event h) F, ?_⟩
    cases h with
    | op h =>
      obtain ⟨es, D'⟩ := (h.steps W).diff W F
      rw [D'.log]
      exact D.trans D'
    | setTokens line tokens => exact D.setTokens rfl line tokens
    | markSaved => simpa [Buffer.markSaved] using D.trans (.save _)

/-! ## Logs of which a part was drained -/

/-- The log reports the line as new. -/
def Reported (b : Buffer) (id : LineId) : Prop := ∃ line, .inserted id line ∈ b.log

/-- The log leads from nothing to the numbers of the lines that it reports as new, and to no others.
A handle that it reports as gone does not come back. -/
structure Reports (b : Buffer) : Prop where
  numbers : ∀ id, b.Reported id → replay (fun _ => none) b.log id = b.indexOf? id
  others : ∀ id, ¬b.Reported id → replay (fun _ => none) b.log id = none
  gone : ∀ id, .removed id ∈ b.log → id ∉ b.ids ∧ id < b.nextId

theorem not_reported_of_log_eq_nil (h : b.log = []) (id : LineId) : ¬b.Reported id := by
  rintro ⟨line, hline⟩
  rw [h] at hline
  cases hline

theorem Reports.of_log_eq_nil (h : b.log = []) : b.Reports := by
  refine ⟨fun id hnew => ?_, fun id _ => ?_, fun id hgone => ?_⟩
  · exact absurd hnew (not_reported_of_log_eq_nil h id)
  · rw [h]
    rfl
  · rw [h] at hgone
    cases hgone

/-- The numbers of lines do not depend on the tokens that are kept with them. -/
theorem Reports.congr (R : b.Reports) (hids : c.ids = b.ids) (hlog : c.log = b.log)
    (hnext : c.nextId = b.nextId) : c.Reports := by
  have hreported (id : LineId) : c.Reported id ↔ b.Reported id := by rw [Reported, Reported, hlog]
  refine ⟨fun id => ?_, fun id => ?_, ?_⟩
  · rw [hreported, hlog, indexOf?_congr hids]
    exact R.numbers id
  · rw [hreported, hlog]
    exact R.others id
  · rw [hlog, hids, hnext]
    exact R.gone

theorem Reports.places (R : b.Reports) : b.Places (replay (fun _ => none) b.log) := by
  intro id i h
  by_cases hnew : b.Reported id
  · rwa [← R.numbers id hnew]
  · rw [R.others id hnew] at h
    cases h

theorem Diff.reports (D : Diff b es c) (hb : b.lines = []) (hlog : b.log = []) : c.Reports := by
  have hes : c.log = es := by rw [D.log, hlog, List.nil_append]
  have hnone : b.indexOf? = fun _ => none := by rw [indexOf?_eq, hb]; rfl
  refine ⟨fun id _ => ?_, fun id hnew => replay_eq_none rfl (not_exists.1 hnew), fun id h => ?_⟩
  · rw [hes, ← D.numbers, hnone]
  · exact D.gone id (hes ▸ h)

theorem Reports.step (R : b.Reports) (D : Diff b es c) (W : b.WellFormed) : c.Reports := by
  refine ⟨fun id ⟨line, hnew⟩ => ?_, fun id hnew => replay_eq_none rfl (not_exists.1 hnew),
    fun id hgone => ?_⟩
  · rw [D.log, replay_append, ← D.numbers]
    rw [D.log] at hnew
    refine replay_congr es ?_
    -- a line that these changes report as new has no number before them, in the buffer or the table
    rcases List.mem_append.1 hnew with hold | hnew
    · exact R.numbers id ⟨line, hold⟩
    · have hfresh := (D.fresh id line hnew).1
      have hb : b.indexOf? id = none :=
        place_eq_none.2 fun hid => Nat.not_lt.2 hfresh (W.below id hid)
      by_cases hold : b.Reported id
      · exact R.numbers id hold
      · rw [hb, R.others id hold]
  · rw [D.log] at hgone
    rcases List.mem_append.1 hgone with hold | hgone
    · obtain ⟨hid, hlt⟩ := R.gone id hold
      refine ⟨fun hc => ?_, Nat.lt_of_lt_of_le hlt D.nextId_le⟩
      obtain ⟨line, hline⟩ := D.inserted id hc hid
      exact Nat.not_lt.2 (D.fresh id line hline).1 hlt
    · exact D.gone id hgone

theorem Moment.reports (H : Moment b c) (W : b.WellFormed) (F : b.Fits) (R : b.Reports) :
    c.Reports := by
  cases H with
  | drain => exact .of_log_eq_nil rfl
  | event h =>
    cases h with
    | op h =>
      obtain ⟨es, D⟩ := (h.steps W).diff W F
      exact R.step D W
    | setTokens line tokens => exact R.congr (ids_setTokens b line tokens) rfl rfl
    | markSaved => exact R.congr rfl rfl rfl

theorem Undrained.reachable (ha : New a) (H : Undrained a b) : b.Reachable :=
  ⟨a, ha, Relation.ReflTransGen.mono (fun _ _ => .event) _ _ H⟩

/-- Whatever happened to a buffer, its log reports the lines that came since it was drained. -/
theorem Reachable.reports (H : Reachable b) : b.Reports := by
  obtain ⟨a, ha, H⟩ := H
  induction H with
  | refl => exact ha.diff.reports rfl rfl
  | tail H h ih =>
    exact h.reports (History.wellFormed ha.wellFormed H) (History.fits H ha.fits) ih

end Buffer
end LogicEditor
