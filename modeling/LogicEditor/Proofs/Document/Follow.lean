import LogicEditor.Document
import LogicEditor.Proofs.Buffer.Diff
import LogicEditor.Proofs.Symbol.Scan

/-!
# Following the log

What a document knows of its lines after it went through a log: the numbers are those that the log
gives when it is replayed, what was kept for a line is gone if the line is, and every line that was
edited or is new is marked as dirty.
-/

namespace LogicEditor

variable {id j : LineId} {es : List Change} {x : Change}

theorem foldl_proj {σ β γ : Type} {f : σ → β → σ} {g : σ → γ} (h : ∀ s e, g (f s e) = g s)
    (es : List β) (s : σ) : g (es.foldl f s) = g s := by
  induction es generalizing s with
  | nil => rfl
  | cons e es ih => rw [List.foldl_cons, ih, h]

/-! ## Ledgers -/

namespace Ledger

/-- What a change does to a ledger. -/
def follow (L : Ledger) : Change → Ledger
  | .edited _ => L
  | .inserted id line => L.track id line
  | .removed id => L.remove id
  | .shifted shifts => L.shift shifts

theorem line?_follow (L : Ledger) (x : Change) : (L.follow x).line? = x.replay L.line? := by
  cases x <;> rfl

theorem line?_follow_all (L : Ledger) (es : List Change) :
    (es.foldl follow L).line? = replay L.line? es := by
  induction es generalizing L with
  | nil => rfl
  | cons x es ih => rw [List.foldl_cons, ih, line?_follow, replay_cons]

theorem mentions_follow (L : Ledger) (x : Change) (id : LineId) :
    (L.follow x).mentions id = if x = .removed id then [] else L.mentions id := by
  cases x <;> simp [follow, eq_comm]

theorem mentions_follow_all (L : Ledger) (es : List Change) (id : LineId) :
    (es.foldl follow L).mentions id = if .removed id ∈ es then [] else L.mentions id := by
  induction es generalizing L with
  | nil => rfl
  | cons x es ih =>
    rw [List.foldl_cons, ih, mentions_follow]
    by_cases h : .removed id ∈ es <;> by_cases h' : x = .removed id <;> simp [h, h', eq_comm]

end Ledger

/-! ## Stylings -/

namespace StyleCache

variable (c : StyleCache LineId)

theorem get?_restyle (id j : LineId) (tokens : List Token) :
    (c.restyle id tokens).get? j = if j = id then some (styleLine tokens) else c.get? j := by
  rw [get?, restyle, Std.TreeMap.getElem?_insert, get?]
  simp [eq_comm (a := id)]

theorem get?_forget (id j : LineId) :
    (c.forget id).get? j = if j = id then none else c.get? j := by
  rw [get?, forget, Std.TreeMap.getElem?_erase, get?]
  simp [eq_comm (a := id)]

end StyleCache

/-! ## Documents -/

namespace Document

variable {s : Document × Backlog} {L : Ledger}

theorem buffer_follow_all (es : List Change) (s : Document × Backlog) :
    (es.foldl follow s).1.buffer = s.1.buffer :=
  foldl_proj (g := fun s => s.1.buffer) (fun _ x => by cases x <;> rfl) es s

theorem table_follow_all (es : List Change) (s : Document × Backlog) :
    (es.foldl follow s).1.table = s.1.table :=
  foldl_proj (g := fun s => s.1.table) (fun _ x => by cases x <;> rfl) es s

theorem keeps_follow (K : s.1.symbols.Keeps L) (x : Change) :
    (follow s x).1.symbols.Keeps (L.follow x) := by
  cases x with
  | edited => exact K
  | inserted id line => exact K.track id line
  | removed id => exact K.remove id
  | shifted shifts => exact K.shift shifts

theorem keeps_follow_all (K : s.1.symbols.Keeps L) (es : List Change) :
    (es.foldl follow s).1.symbols.Keeps (es.foldl Ledger.follow L) := by
  induction es generalizing s L with
  | nil => exact K
  | cons x es ih => exact ih (keeps_follow K x)

theorem styles_follow (s : Document × Backlog) (x : Change) (id : LineId) :
    (follow s x).1.styles.get? id =
      if x = .removed id then none else s.1.styles.get? id := by
  cases x with
  | removed j => simp [follow, StyleCache.get?_forget, eq_comm]
  | edited | inserted | shifted => simp [follow]

theorem styles_follow_all (es : List Change) (s : Document × Backlog) (id : LineId) :
    (es.foldl follow s).1.styles.get? id =
      if .removed id ∈ es then none else s.1.styles.get? id := by
  induction es generalizing s with
  | nil => rfl
  | cons x es ih =>
    rw [List.foldl_cons, ih, styles_follow]
    by_cases h : .removed id ∈ es <;> by_cases h' : x = .removed id <;> simp [h, h', eq_comm]

theorem mem_dirty_follow (h : x ≠ .removed id) : id ∈ (follow s x).2.dirty ↔
    id ∈ s.2.dirty ∨ x = .edited id ∨ ∃ line, x = .inserted id line := by
  cases x with
  | edited j => simp [follow, Std.TreeSet.mem_insert, or_comm]
  | inserted j line => simp [follow, Std.TreeSet.mem_insert, or_comm]
  | removed j =>
    have hj : j ≠ id := fun hj => h (hj ▸ rfl)
    simp [follow, Std.TreeSet.mem_erase, hj]
  | shifted => simp [follow]

theorem mem_dirty_follow_all (h : .removed id ∉ es) : id ∈ (es.foldl follow s).2.dirty ↔
    id ∈ s.2.dirty ∨ .edited id ∈ es ∨ ∃ line, .inserted id line ∈ es := by
  induction es generalizing s with
  | nil => simp
  | cons x es ih =>
    rw [List.mem_cons, not_or] at h
    rw [List.foldl_cons, ih h.2, mem_dirty_follow (Ne.symm h.1)]
    simp only [List.mem_cons, exists_or, eq_comm (b := x)]
    tauto

theorem mem_moved_follow (h : x ≠ .removed id) (hid : id ∈ s.2.moved) :
    id ∈ (follow s x).2.moved := by
  cases x with
  | edited | inserted => exact hid
  | removed j =>
    have hj : j ≠ id := fun hj => h (hj ▸ rfl)
    simpa [follow, Std.TreeSet.mem_erase, hj] using hid
  | shifted => exact Std.TreeSet.mem_insertMany_list.2 (.inl hid)

theorem mem_moved_follow_all (h : .removed id ∉ es) (hid : id ∈ s.2.moved) :
    id ∈ (es.foldl follow s).2.moved := by
  induction es generalizing s with
  | nil => exact hid
  | cons x es ih =>
    rw [List.mem_cons, not_or] at h
    exact ih h.2 (mem_moved_follow (Ne.symm h.1) hid)

/-- A line that was there and stays, and was not marked as moved, has the number it had. -/
theorem line?_of_not_mem_moved (K : s.1.symbols.Keeps L) (hgone : .removed id ∉ es)
    (hnew : ∀ line, .inserted id line ∉ es) (h : id ∉ (es.foldl follow s).2.moved) :
    (es.foldl Ledger.follow L).line? id = L.line? id := by
  induction es generalizing s L with
  | nil => rfl
  | cons x es ih =>
    simp only [List.mem_cons, not_or] at hgone hnew
    rw [List.foldl_cons] at h
    have hmoved : id ∉ (follow s x).2.moved := fun hx => h (mem_moved_follow_all hgone.2 hx)
    rw [List.foldl_cons, ih (keeps_follow K x) hgone.2 (fun line => (hnew line).2) h]
    cases x with
    | edited => rfl
    | inserted j line =>
      have hj : id ≠ j := fun hj => (hnew line).1 (hj ▸ rfl)
      rw [Ledger.follow, Ledger.line?_track, if_neg hj]
    | removed j =>
      have hj : id ≠ j := fun hj => hgone.1 (hj ▸ rfl)
      rw [Ledger.follow, Ledger.line?_remove, if_neg hj]
    | shifted shifts =>
      have hstays : id ∉ s.1.symbols.movedBy shifts := fun hm =>
        hmoved (Std.TreeSet.mem_insertMany_list.2 (.inr (List.contains_iff_mem.2 hm)))
      rw [K.mem_movedBy, not_exists] at hstays
      cases hline : L.line? id with
      | none => rw [Ledger.follow, Ledger.line?_shift, hline, Option.map_none]
      | some line => exact not_not.1 fun hne => hstays line ⟨hline, hne⟩

end Document
end LogicEditor
