import Mathlib.Data.List.Sort
import Mathlib.Data.Set.Card
import Mathlib.Order.Bounds.Basic
import LogicEditor.Symbol.Index

/-!
# Ledgers

The naive picture of a symbol index. A ledger stores of each line its number and what it mentions,
and nothing else; there are no names in it to be kept up to date. What a name denotes and where it
stands is read off the lines (`Ledger.Describes`), as often as somebody asks.
-/

namespace LogicEditor

/-- A list in ascending order of some keys is determined by its members. -/
theorem eq_of_ascending {α β : Type} [LT β] (asymm : ∀ {i j : β}, i < j → ¬j < i) {key : α → β}
    {as bs : List α} (ha : as.Pairwise (key · < key ·)) (hb : bs.Pairwise (key · < key ·))
    (h : ∀ a, a ∈ as ↔ a ∈ bs) : as = bs := by
  have : Std.Irrefl fun a b : α => key a < key b := ⟨fun _ hlt => asymm hlt hlt⟩
  have : Std.Antisymm fun a b : α => key a < key b := ⟨fun _ _ hab hba => absurd hba (asymm hab)⟩
  exact ha.eq_of_mem_iff hb h

/-- What a name denotes as far as one of its roles tells. -/
def SymbolRole.kind : SymbolRole → SymbolKind
  | .labelDef => .label
  | .variableDef => .variable
  | .labelRef | .variableRef => .implicit

/-- The number and the mentions of each line. -/
structure Ledger where
  line? : LineId → Option Nat := fun _ => none
  mentions : LineId → List Mention := fun _ => []

namespace Ledger

variable {L : Ledger} {s s' : Symbol} {name : String} {k k' : SymbolKind}

/-! ## Entries -/

/-- A line has a number. -/
def track (L : Ledger) (id : LineId) (line : Nat) : Ledger :=
  { L with line? := fun j => if j = id then some line else L.line? j }

/-- A line has a number and new tokens. -/
def update (L : Ledger) (id : LineId) (line : Nat) (text : Text) (tokens : List Token) : Ledger where
  line? := (L.track id line).line?
  mentions j := if j = id then mentionsOf text tokens else L.mentions j

/-- A line is gone. -/
def remove (L : Ledger) (id : LineId) : Ledger where
  line? j := if j = id then none else L.line? j
  mentions j := if j = id then [] else L.mentions j

/-- The lines get new numbers: each goes where the first shift that covers it takes it. -/
def shift (L : Ledger) (shifts : List Shift) : Ledger :=
  { L with line? := fun j => (L.line? j).map fun n => (Shift.firstTarget? shifts n).getD n }

section
variable (L : Ledger) (id j : LineId) (line : Nat) (text : Text) (tokens : List Token)
  (shifts : List Shift)

@[simp] theorem line?_track :
    (L.track id line).line? j = if j = id then some line else L.line? j := rfl

@[simp] theorem mentions_track : (L.track id line).mentions j = L.mentions j := rfl

@[simp] theorem line?_update :
    (L.update id line text tokens).line? j = if j = id then some line else L.line? j := rfl

@[simp] theorem mentions_update : (L.update id line text tokens).mentions j =
    if j = id then mentionsOf text tokens else L.mentions j := rfl

@[simp] theorem line?_remove : (L.remove id).line? j = if j = id then none else L.line? j := rfl

@[simp] theorem mentions_remove :
    (L.remove id).mentions j = if j = id then [] else L.mentions j := rfl

@[simp] theorem line?_shift :
    (L.shift shifts).line? j = (L.line? j).map (SymbolIndex.target shifts) := rfl

@[simp] theorem mentions_shift : (L.shift shifts).mentions j = L.mentions j := rfl

end

/-! ## Names -/

/-- Some line mentions the name in a role that makes it this kind. -/
def Has (L : Ledger) (name : String) (k : SymbolKind) : Prop :=
  ∃ id role, role.kind = k ∧ ⟨name, role⟩ ∈ L.mentions id

/-- The names that some line mentions. -/
def names (L : Ledger) : Set String := {name | ∃ k, L.Has name k}

/-- What a name denotes: labels come before variables, and what is neither is implicit. -/
def Denotes (L : Ledger) (name : String) : SymbolKind → Prop
  | .label => L.Has name .label
  | .variable => ¬L.Has name .label ∧ L.Has name .variable
  | .implicit => ¬L.Has name .label ∧ ¬L.Has name .variable

/-- The numbers of the lines that mention a name in a role of this kind. -/
def linesOf (L : Ledger) (name : String) (k : SymbolKind) : Set Nat :=
  {line | ∃ id role, role.kind = k ∧ ⟨name, role⟩ ∈ L.mentions id ∧ L.line? id = some line}

/-- A symbol says of its name what the ledger says. -/
structure Describes (L : Ledger) (s : Symbol) : Prop where
  kind : L.Denotes s.name s.kind
  defining : ∀ line, s.definingLine? = some line ↔
    s.kind ≠ .implicit ∧ IsLeast (L.linesOf s.name s.kind) line
  references : ∀ line, line ∈ s.references ↔ line ∈ L.linesOf s.name .implicit
  ascending : s.references.Pairwise (· < ·)

theorem Denotes.unique (h : L.Denotes name k) (h' : L.Denotes name k') : k = k' := by
  cases k <;> cases k' <;> simp_all [Denotes]

section
variable {L' : Ledger} (hm : L.mentions = L'.mentions)
  (hl : ∀ id, L.mentions id ≠ [] → L.line? id = L'.line? id)
include hm

theorem has_congr : L.Has = L'.Has := by
  unfold Has
  rw [hm]

theorem names_congr : L.names = L'.names := by
  rw [names, names, has_congr hm]

theorem denotes_congr : L.Denotes = L'.Denotes := by
  funext n k
  cases k <;> simp only [Denotes, has_congr hm]

include hl

theorem linesOf_congr : L.linesOf = L'.linesOf := by
  funext n k
  refine Set.ext fun line => ⟨?_, ?_⟩
  · rintro ⟨id, role, hr, h, hline⟩
    exact ⟨id, role, hr, hm ▸ h, hl id (List.ne_nil_of_mem h) ▸ hline⟩
  · rintro ⟨id, role, hr, h, hline⟩
    rw [← hm] at h
    exact ⟨id, role, hr, h, (hl id (List.ne_nil_of_mem h)).symm ▸ hline⟩

/-- The numbers of lines that mention nothing do not matter. -/
theorem Describes.congr (H : L.Describes s) : L'.Describes s where
  kind := denotes_congr hm ▸ H.kind
  defining := linesOf_congr hm hl ▸ H.defining
  references := linesOf_congr hm hl ▸ H.references
  ascending := H.ascending

end

/-- There is nothing more to say of a name. -/
theorem Describes.unique (H : L.Describes s) (H' : L.Describes s') (h : s.name = s'.name) :
    s = s' := by
  have hk : s.kind = s'.kind := H.kind.unique (h ▸ H'.kind)
  have hd : s.definingLine? = s'.definingLine? := by
    refine Option.ext fun line => ?_
    rw [H.defining, H'.defining, h, hk]
  have hr : s.references = s'.references :=
    eq_of_ascending Nat.lt_asymm H.ascending H'.ascending fun line => by
      rw [H.references, H'.references, h]
  cases s
  cases s'
  simp_all

end Ledger
end LogicEditor
