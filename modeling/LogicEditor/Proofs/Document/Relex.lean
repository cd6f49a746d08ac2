import LogicEditor.Proofs.Document.Follow

/-!
# Lexing lines anew

What becomes of a document when some of its lines are lexed, one after the other. A line is lexed if
it is among those asked for and the document has a number for it (`Ledger.due`). It gets the tokens,
the names and the styling of its text, and all else stays (`Document.Relexed`), in whatever order the
lines come and however often one of them does. The document need not be up to date for this, nor know
of all lines; it must not have a wrong number for one (`Buffer.Places`).
-/

namespace LogicEditor

variable {b c : Buffer} {id j : LineId} {line : Nat} {tokens : List Token} {above below : List Line}
  {l m : Line}

namespace Buffer

theorem setTokens_split (h : b.lines = above ++ l :: below) (hn : above.length = line)
    (tokens : List Token) :
    (b.setTokens line tokens).lines =
      above ++ { l with tokens? := some tokens } :: below := by
  subst hn
  have hl : above.length < (above ++ l :: below).length := by simp
  rw [setTokens, h, List.modify_eq_take_cons_drop hl]
  simp

end Buffer

/-- The lines among some that have a number. -/
def Ledger.due (L : Ledger) (ids : List LineId) (id : LineId) : Bool :=
  ids.contains id && (L.line? id).isSome

namespace Ledger

variable (L : Ledger) (id : LineId) (ids : List LineId)

theorem due_cons : L.due (id :: ids) = fun j => L.due [id] j || L.due ids j := by
  funext j
  simp only [due, List.contains_cons, List.contains_nil, Bool.or_false, Bool.and_or_distrib_right]

theorem due_singleton : L.due [id] = fun j => j == id && (L.line? id).isSome := by
  funext j
  rw [due, List.contains_cons, List.contains_nil, Bool.or_false]
  by_cases h : j = id
  · rw [h]
  · rw [beq_eq_false_iff_ne.2 h, Bool.false_and, Bool.false_and]

variable {L id ids} in
theorem due_iff : L.due ids id ↔ id ∈ ids ∧ (L.line? id).isSome := by
  rw [due, Bool.and_eq_true, List.contains_iff_mem]

variable {L id ids} in
theorem due_eq_false (h : id ∉ ids ∨ L.line? id = none) : L.due ids id = false := by
  rw [← Bool.not_eq_true, due_iff]
  rintro ⟨hmem, hline⟩
  rcases h with h | h
  · exact h hmem
  · rw [h] at hline
    cases hline

theorem due_congr {L L' : Ledger} (h : L.line? = L'.line?) : L.due = L'.due := by
  funext ids id
  rw [due, due, h]

end Ledger

namespace Document

variable {d d₁ d₂ : Document} {L L₁ L₂ : Ledger} {due due' : LineId → Bool}

/-! ## One line -/

/-- The document with one of its lines lexed. -/
def lexed (d : Document) (line : Nat) (l : Line) : Document :=
  { d with
    symbols := d.symbols.update l.id line l.text (tokenize d.table l.text)
    styles := d.styles.restyle l.id (tokenize d.table l.text)
    buffer := d.buffer.setTokens line (tokenize d.table l.text) }

theorem relex_of_none (h : d.symbols.position? id = none) : d.relex id = d := by
  rw [relex, h]

theorem relex_split (h : d.symbols.position? l.id = some line)
    (hlines : d.buffer.lines = above ++ l :: below) (hn : above.length = line) :
    d.relex l.id = d.lexed line l := by
  have htext : d.buffer.lineText line = l.text := Buffer.lineText_split hlines hn
  rw [relex, h]
  simp only [htext]
  rfl

theorem bare_relex (d : Document) (id : LineId) : (d.relex id).buffer.bare = d.buffer.bare := by
  rw [relex]
  split
  · exact Buffer.bare_setTokens ..
  · rfl

theorem table_relex (d : Document) (id : LineId) : (d.relex id).table = d.table := by
  rw [relex]
  split <;> rfl

/-- Lexing a line tells the index nothing about where lines are. -/
theorem position?_relex (d : Document) (id : LineId) :
    (d.relex id).symbols.position? j = d.symbols.position? j := by
  rw [relex]
  split
  · rename_i line h
    show ((d.symbols.withdraw id).track id line).position? j = d.symbols.position? j
    rw [SymbolIndex.position?_track]
    split
    · rw [‹j = id›, h]
    · rfl
  · rfl

theorem passes_relex (d : Document) (id : LineId) : (d.relex id).styles.passes =
    d.styles.passes + if (d.symbols.position? id).isSome then 1 else 0 := by
  rw [relex]
  cases d.symbols.position? id <;> rfl

/-! ## Any lines -/

/-- A line of the document, with the tokens of its text if it is due. -/
def relexedLine (d : Document) (due : LineId → Bool) (l : Line) : Line :=
  if due l.id then { l with tokens? := some (tokenize d.table l.text) } else l

/-- The second document is the first with the lines lexed that were due. -/
structure Relexed (d : Document) (L : Ledger) (due : LineId → Bool) (d₁ : Document) (L₁ : Ledger) :
    Prop where
  keeps : d₁.symbols.Keeps L₁
  numbers : L₁.line? = L.line?
  table : d₁.table = d.table
  buffer : d₁.buffer = { d.buffer with lines := d.buffer.lines.map (d.relexedLine due) }
  fresh : ∀ l ∈ d.buffer.lines, due l.id →
    L₁.mentions l.id = mentionsOf l.text (tokenize d.table l.text) ∧
      d₁.styles.get? l.id = some (styleLine (tokenize d.table l.text))
  kept : ∀ id, due id = false →
    L₁.mentions id = L.mentions id ∧ d₁.styles.get? id = d.styles.get? id

@[simp] theorem id_relexedLine (d : Document) (due : LineId → Bool) (l : Line) :
    (d.relexedLine due l).id = l.id := by
  rw [relexedLine]
  split <;> rfl

@[simp] theorem text_relexedLine (d : Document) (due : LineId → Bool) (l : Line) :
    (d.relexedLine due l).text = l.text := by
  rw [relexedLine]
  split <;> rfl

theorem relexedLine_of_due (h : due l.id) :
    d.relexedLine due l = { l with tokens? := some (tokenize d.table l.text) } := if_pos h

theorem relexedLine_of_not_due (h : due l.id = false) : d.relexedLine due l = l :=
  if_neg (Bool.not_eq_true _ ▸ h)

theorem relexedLine_relexedLine (h : d₁.table = d.table) (l : Line) :
    d₁.relexedLine due' (d.relexedLine due l) =
      d.relexedLine (fun id => due id || due' id) l := by
  rw [relexedLine, id_relexedLine, text_relexedLine, h]
  cases h' : due' l.id with
  | true =>
    have hdue : (fun id => due id || due' id) l.id = true := Bool.or_eq_true_iff.2 (.inr h')
    rw [if_pos rfl, relexedLine_of_due hdue]
  | false =>
    rw [if_neg Bool.false_ne_true, relexedLine, relexedLine, h', Bool.or_false]

theorem Relexed.none (K : d.symbols.Keeps L) : Relexed d L (fun _ => false) d L where
  keeps := K
  numbers := rfl
  table := rfl
  buffer := congrArg (fun ls => { d.buffer with lines := ls }) (List.map_id d.buffer.lines).symm
  fresh _ _ h := nomatch h
  kept _ _ := ⟨rfl, rfl⟩

theorem Relexed.lines (R : Relexed d L due d₁ L₁) :
    d₁.buffer.lines = d.buffer.lines.map (d.relexedLine due) := congrArg Buffer.lines R.buffer

theorem Relexed.ids (R : Relexed d L due d₁ L₁) : d₁.buffer.ids = d.buffer.ids := by
  rw [Buffer.ids, Buffer.ids, R.lines, List.map_map]
  exact List.map_congr_left fun l _ => id_relexedLine d due l

theorem Relexed.texts (R : Relexed d L due d₁ L₁) : d₁.buffer.texts = d.buffer.texts := by
  rw [Buffer.texts, Buffer.texts, R.lines, List.map_map]
  exact List.map_congr_left fun l _ => text_relexedLine d due l

/-- Lines that are lexed twice are as if they were lexed once. -/
theorem Relexed.trans (R : Relexed d L due d₁ L₁) (R' : Relexed d₁ L₁ due' d₂ L₂) :
    Relexed d L (fun id => due id || due' id) d₂ L₂ where
  keeps := R'.keeps
  numbers := R'.numbers.trans R.numbers
  table := R'.table.trans R.table
  buffer := by
    rw [R'.buffer, R.buffer, List.map_map]
    exact congrArg (fun ls => { d.buffer with lines := ls })
      (List.map_congr_left fun l _ => relexedLine_relexedLine R.table l)
  fresh l hl hdue := by
    have hl' : d.relexedLine due l ∈ d₁.buffer.lines := R.lines ▸ List.mem_map_of_mem hl
    have hfresh := R'.fresh _ hl'
    rw [id_relexedLine, text_relexedLine, R.table] at hfresh
    cases h' : due' l.id with
    | true => exact hfresh h'
    | false =>
      obtain ⟨hmentions, hstyles⟩ := R'.kept l.id h'
      rw [h', Bool.or_false] at hdue
      rw [hmentions, hstyles]
      exact R.fresh l hl hdue
  kept id hdue := by
    rw [Bool.or_eq_false_iff] at hdue
    obtain ⟨hmentions, hstyles⟩ := R'.kept id hdue.2
    rw [hmentions, hstyles]
    exact R.kept id hdue.1

/-- Lexing one line of which the document has the number. -/
theorem Relexed.lexed (K : d.symbols.Keeps L) (hnd : d.buffer.ids.Nodup)
    (h : L.line? l.id = some line) (hlines : d.buffer.lines = above ++ l :: below)
    (hn : above.length = line) : Relexed d L (· == l.id) (d.lexed line l)
      (L.update l.id line l.text (tokenize d.table l.text)) where
  keeps := K.update ..
  numbers := by
    funext j
    rw [Ledger.line?_update]
    split
    · rw [‹j = l.id›, h]
    · rfl
  table := rfl
  buffer := by
    -- the lines around the lexed one have other handles
    rw [Buffer.ids, hlines, List.map_append, List.map_cons, List.nodup_append, List.nodup_cons] at hnd
    have hsame {ms : List Line} (hne : ∀ m ∈ ms, m.id ≠ l.id) :
        ms.map (d.relexedLine (· == l.id)) = ms := by
      refine (List.map_congr_left fun m hm => ?_).trans (List.map_id ms)
      exact if_neg (by simpa using hne m hm)
    have habove : ∀ m ∈ above, m.id ≠ l.id := fun m hm =>
      hnd.2.2 _ (List.mem_map_of_mem hm) _ List.mem_cons_self
    have hbelow : ∀ m ∈ below, m.id ≠ l.id := fun m hm hid =>
      hnd.2.1.1 (hid ▸ List.mem_map_of_mem hm)
    refine congrArg (fun ls => { d.buffer with lines := ls })
      ((Buffer.setTokens_split hlines hn _).trans ?_)
    rw [hlines, List.map_append, List.map_cons, hsame habove, hsame hbelow, relexedLine,
      if_pos (beq_self_eq_true l.id)]
  fresh m hm hid := by
    obtain rfl : m = l := by
      refine List.inj_on_of_nodup_map hnd hm ?_ (beq_iff_eq.1 hid)
      exact hlines ▸ List.mem_append_right _ List.mem_cons_self
    exact ⟨if_pos rfl, (StyleCache.get?_restyle ..).trans (if_pos rfl)⟩
  kept id hid := by
    rw [beq_eq_false_iff_ne] at hid
    exact ⟨if_neg hid, (StyleCache.get?_restyle ..).trans (if_neg hid)⟩

theorem exists_relexed (K : d.symbols.Keeps L) (P : d.buffer.Places L.line?)
    (hnd : d.buffer.ids.Nodup) (id : LineId) : ∃ L₁, Relexed d L (L.due [id]) (d.relex id) L₁ := by
  rw [L.due_singleton]
  cases h : L.line? id with
  | none =>
    rw [relex_of_none ((K.position id).trans h)]
    simp only [Option.isSome_none, Bool.and_false]
    exact ⟨L, .none K⟩
  | some line =>
    obtain ⟨above, l, below, hlines, hn, rfl⟩ := Buffer.exists_of_indexOf? (P id line h)
    rw [relex_split ((K.position l.id).trans h) hlines hn]
    simp only [Option.isSome_some, Bool.and_true]
    exact ⟨_, .lexed K hnd h hlines hn⟩

/-- Lexing lines one after the other is lexing those that are due. -/
theorem exists_relexed_all (K : d.symbols.Keeps L) (P : d.buffer.Places L.line?)
    (hnd : d.buffer.ids.Nodup) (ids : List LineId) :
    ∃ L₁, Relexed d L (L.due ids) (ids.foldl relex d) L₁ := by
  induction ids generalizing d L with
  | nil => exact ⟨L, .none K⟩
  | cons id ids ih =>
    obtain ⟨L₁, R⟩ := exists_relexed K P hnd id
    have hids := R.ids
    have P₁ : (d.relex id).buffer.Places L₁.line? := by
      rw [R.numbers, Buffer.Places, Buffer.indexOf?_congr hids]
      exact P
    obtain ⟨L₂, R'⟩ := ih R.keeps P₁ (hids ▸ hnd)
    rw [Ledger.due_congr R.numbers] at R'
    rw [L.due_cons]
    exact ⟨L₂, R.trans R'⟩

theorem bare_relex_all (ids : List LineId) (d : Document) :
    (ids.foldl Document.relex d).buffer.bare = d.buffer.bare :=
  foldl_proj (g := fun d => d.buffer.bare) bare_relex ids d

theorem table_relex_all (ids : List LineId) (d : Document) :
    (ids.foldl Document.relex d).table = d.table :=
  foldl_proj (g := Document.table) table_relex ids d

/-- Every line that is lexed makes one pass. -/
theorem passes_relex_all (ids : List LineId) (d : Document) :
    (ids.foldl Document.relex d).styles.passes =
      d.styles.passes + ids.countP fun id => (d.symbols.position? id).isSome := by
  induction ids generalizing d with
  | nil => rfl
  | cons id ids ih =>
    simp only [List.foldl_cons, ih, passes_relex, position?_relex, List.countP_cons]
    omega

end Document
end LogicEditor
