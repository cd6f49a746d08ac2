import LogicEditor.Options
import LogicEditor.Proofs.Text.Numeral

/-!
# Directives applied

What each directive does to the options, as one equation per sort of directive. No directive lets a
number out of the range of positive indices (`Options.Valid.apply`), whether it is accepted or fails
partway, so all options that anyone can set are valid (`Options.Reachable.valid`).
-/

namespace LogicEditor

variable {o p : Options}

/-! ## Running commands on options -/

namespace OptionM

variable {α β : Type}

/-- What a command returns and what it leaves behind. -/
def outcome (command : OptionM α) (o : Options) : Except OptionError α × Options :=
  (ExceptT.run command).run o

theorem outcome_bind_ok {x : OptionM α} {f : α → OptionM β} {a : α}
    (h : x.outcome o = (.ok a, p)) : (x >>= f).outcome o = (f a).outcome p := by
  simp only [outcome, ExceptT.run_bind, StateT.run_bind] at h ⊢
  rw [h]
  rfl

theorem outcome_bind_error {x : OptionM α} {f : α → OptionM β} {e : OptionError}
    (h : x.outcome o = (.error e, p)) : (x >>= f).outcome o = (.error e, p) := by
  simp only [outcome, ExceptT.run_bind, StateT.run_bind] at h ⊢
  rw [h]
  rfl

end OptionM

namespace Options

open OptionM

theorem outcome_changeFlag (name : String) (f : Bool → Bool) :
    (changeFlag name f).outcome o =
      match OptionName.named? name with
      | none => (.error (.unknown name), o)
      | some (.number _) => (.error (.wrongSort name), o)
      | some (.flag x) => (.ok ⟨⟩, o.setFlag (f (o.flag x)) x) := by
  rw [changeFlag, resolve]
  cases OptionName.named? name with
  | none => rfl
  | some x => cases x <;> rfl

theorem outcome_assignNumber (name value : String) :
    (assignNumber name value).outcome o =
      match OptionName.named? name, (Text.index? value.toList).filter (0 < ·) with
      | none, _ => (.error (.unknown name), o)
      | some (.flag _), _ => (.error (.wrongSort (name ++ "=" ++ value)), o)
      | some (.number x), none => (.error (.invalidValue x.name value), o)
      | some (.number x), some n => (.ok ⟨⟩, o.setNumber n x) := by
  rw [assignNumber, resolve]
  cases OptionName.named? name with
  | none => rfl
  | some x =>
    cases x with
    | flag x => rfl
    | number x => cases (Text.index? value.toList).filter (0 < ·) <;> rfl

/-! ## Values after a change -/

theorem number_setNumber (o : Options) (n : Nat) (x y : NumberOption) :
    (o.setNumber n x).number y = if x = y then n else o.number y := by
  cases x <;> cases y <;> rfl

theorem number_setFlag (o : Options) (v : Bool) (x : FlagOption) (y : NumberOption) :
    (o.setFlag v x).number y = o.number y := by
  cases x <;> cases y <;> rfl

theorem flag_setNumber (o : Options) (n : Nat) (x : NumberOption) (y : FlagOption) :
    (o.setNumber n x).flag y = o.flag y := by
  cases x <;> cases y <;> rfl

theorem flag_setFlag (o : Options) (v : Bool) (x y : FlagOption) :
    (o.setFlag v x).flag y = if x = y then v else o.flag y := by
  cases x <;> cases y <;> rfl

/-! ## Valid options -/

/-- Every number is an index, and none is zero. -/
def Valid (o : Options) : Prop := ∀ x, 0 < o.number x ∧ o.number x ≤ maxIndex

theorem valid_default : ({} : Options).Valid := by
  intro x
  cases x <;> decide

theorem valid_bind {α β : Type} {x : OptionM α} {f : α → OptionM β} (hx : (x.outcome o).2.Valid)
    (hf : ∀ a p, p.Valid → ((f a).outcome p).2.Valid) : ((x >>= f).outcome o).2.Valid := by
  rcases h : x.outcome o with ⟨e | a, p⟩
  · rw [h] at hx
    rwa [outcome_bind_error h]
  · rw [h] at hx
    rw [outcome_bind_ok h]
    exact hf a p hx

namespace Valid

variable (V : o.Valid)
include V

theorem setNumber {n : Nat} (hpos : 0 < n) (hle : n ≤ maxIndex) (x : NumberOption) :
    (o.setNumber n x).Valid := by
  intro y
  rw [number_setNumber]
  split
  · exact ⟨hpos, hle⟩
  · exact V y

theorem setFlag (v : Bool) (x : FlagOption) : (o.setFlag v x).Valid := by
  intro y
  rw [number_setFlag]
  exact V y

theorem changeFlag (name : String) (f : Bool → Bool) :
    ((Options.changeFlag name f).outcome o).2.Valid := by
  rw [outcome_changeFlag]
  split
  · exact V
  · exact V
  · exact V.setFlag _ _

theorem assignNumber (name value : String) :
    ((Options.assignNumber name value).outcome o).2.Valid := by
  rw [outcome_assignNumber]
  split
  · exact V
  · exact V
  · exact V
  · rename_i hn
    obtain ⟨hn, hpos⟩ := Option.filter_eq_some_iff.1 hn
    exact V.setNumber (of_decide_eq_true hpos) (Text.le_of_index? hn) _

theorem apply (d : Directive) : ((Options.apply d).outcome o).2.Valid := by
  cases d with
  | showAll | showChanged => exact V
  | query name =>
    refine valid_bind ?_ fun _ _ h => h
    rw [resolve]
    split <;> exact V
  | on name | off name | toggle name => exact valid_bind (V.changeFlag _ _) fun _ _ h => h
  | assign name value => exact valid_bind (V.assignNumber _ _) fun _ _ h => h

/-- Directives keep options valid, also those before one that fails. -/
theorem applyAll (ds : List Directive) : ((Options.applyAll ds).outcome o).2.Valid := by
  induction ds generalizing o with
  | nil => exact V
  | cons d ds ih => exact valid_bind (V.apply d) fun _ _ h => valid_bind (ih h) fun _ _ h => h

end Valid

/-- Options that somebody can get by lines of directives, be they accepted or not. -/
inductive Reachable : Options → Prop
  | default : Reachable {}
  | setLine {o : Options} (H : Reachable o) (line : Text) : Reachable ((setLine line).outcome o).2

theorem Reachable.valid (H : o.Reachable) : o.Valid := by
  induction H with
  | default => exact valid_default
  | setLine _ line ih => exact ih.applyAll _

end Options
end LogicEditor
