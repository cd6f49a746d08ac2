import LogicEditor.Proofs.Options.Apply
import LogicEditor.Proofs.Text.Field

/-!
# Listings that are replayed

A listing shows options as words, and each word is read as the directive that sets its option to the
value it shows (`Options.ofWord_display`). So a line of such words carries the shown values over to
other options (`Options.outcome_setLine_displays`), and listings say all there is to say
(`Options.listings_replay`).
-/

namespace LogicEditor
namespace Options

open OptionM

variable {o p : Options} {x : OptionName} {xs : List OptionName}

/-! ## Values carried over -/

/-- The directive that gives an option the value that it has in `o`. -/
def directive (o : Options) : OptionName → Directive
  | .number x => .assign x.name (toString (o.number x))
  | .flag x => if o.flag x then .on x.name else .off x.name

/-- The options `p` with one value taken from `o`. -/
def carry (o p : Options) : OptionName → Options
  | .number x => p.setNumber (o.number x) x
  | .flag x => p.setFlag (o.flag x) x

/-- An option has the same value. -/
def Agree (o p : Options) : OptionName → Prop
  | .number x => o.number x = p.number x
  | .flag x => o.flag x = p.flag x

theorem eq_of_agree (h : ∀ x, o.Agree p x) : o = p := by
  have htab := h (.number .tabstop)
  have hmax := h (.number .maxCompletions)
  have hcase := h (.flag .ignoreCase)
  have hword := h (.flag .wholeWord)
  have hregex := h (.flag .regex)
  have hwrap := h (.flag .wrapScan)
  cases o
  cases p
  simp_all [Agree, number, flag]

theorem agree_carry {y : OptionName} (h : x = y ∨ o.Agree p y) : o.Agree (o.carry p x) y := by
  cases x with
  | number x =>
    cases y with
    | number y =>
      rw [Agree, carry, number_setNumber]
      split
      · rename_i hxy
        rw [hxy]
      · rename_i hxy
        exact h.resolve_left fun h => hxy (OptionName.number.inj h)
    | flag y =>
      rw [Agree, carry, flag_setNumber]
      exact h.resolve_left nofun
  | flag x =>
    cases y with
    | number y =>
      rw [Agree, carry, number_setFlag]
      exact h.resolve_left nofun
    | flag y =>
      rw [Agree, carry, flag_setFlag]
      split
      · rename_i hxy
        rw [hxy]
      · rename_i hxy
        exact h.resolve_left fun h => hxy (OptionName.flag.inj h)

/-- Carrying values over leaves the options with all of them, if the others were alike before. -/
theorem foldl_carry (h : ∀ y, y ∈ xs ∨ o.Agree p y) : xs.foldl o.carry p = o := by
  induction xs generalizing p with
  | nil => exact (eq_of_agree fun y => (h y).resolve_left List.not_mem_nil).symm
  | cons x xs ih =>
    refine ih fun y => ?_
    rcases h y with hy | hy
    · rcases List.mem_cons.1 hy with rfl | hy
      · exact .inr (agree_carry (.inl rfl))
      · exact .inl hy
    · exact .inr (agree_carry (.inr hy))

/-! ## Words that are shown -/

theorem cut?_append {sep : Char} {t u : Text} (h : sep ∉ t) :
    Text.cut? sep (t ++ sep :: u) = some (t, u) := by
  induction t with
  | nil => rw [List.nil_append, Text.cut?, if_pos rfl]
  | cons c t ih =>
    rw [List.mem_cons, not_or] at h
    rw [List.cons_append, Text.cut?, if_neg (Ne.symm h.1), ih h.2]
    rfl

theorem named?_name (x : NumberOption) : OptionName.named? x.name = some (.number x) := by
  cases x <;> rfl

/-- What is shown of an option is read as the directive that sets the value. -/
theorem ofWord_display (o : Options) (x : OptionName) :
    Directive.ofWord (o.display x).toList = o.directive x := by
  cases x with
  | number x =>
    have hcut : Text.cut? '=' (o.display (.number x)).toList =
        some (x.name.toList, (toString (o.number x)).toList) := by
      have h : (o.display (.number x)).toList =
          x.name.toList ++ '=' :: (toString (o.number x)).toList := by
        rw [display, String.toList_append, String.toList_append, List.append_assoc]
        rfl
      rw [h]
      exact cut?_append (by cases x <;> decide)
    have hall : (o.display (.number x)).toList ≠ ['a', 'l', 'l'] := by
      intro h
      rw [h] at hcut
      cases hcut
    rw [Directive.ofWord, if_neg hall, hcut]
    simp only [String.ofList_toList]
    rfl
  | flag x =>
    rw [display, directive]
    cases o.flag x <;> cases x <;> decide

theorem isSpace_of_isDigit {c : Char} (h : Text.isDigit c = true) : Text.isSpace c = false := by
  rw [Text.isDigit_eq, Char.isDigit_iff_toNat] at h
  have h48 : 48 ≤ c.toNat := h.1
  have h57 : c.toNat ≤ 57 := h.2
  simp only [Text.isSpace, Bool.or_eq_false_iff, Bool.and_eq_false_iff, decide_eq_false_iff_not,
    beq_eq_false_iff_ne]
  omega

theorem display_ne_nil (o : Options) (x : OptionName) : (o.display x).toList ≠ [] := by
  cases x with
  | number x =>
    intro h
    have hword := o.ofWord_display (.number x)
    rw [h] at hword
    cases hword
  | flag x =>
    rw [display]
    cases o.flag x <;> cases x <;> decide

theorem isSpace_of_mem {t : Text} (ht : (t.all fun c => !Text.isSpace c) = true) {c : Char}
    (h : c ∈ t) : Text.isSpace c = false := by
  simpa using List.all_eq_true.1 ht c h

theorem isSpace_of_mem_display {c : Char} (h : c ∈ (o.display x).toList) :
    Text.isSpace c = false := by
  cases x with
  | number x =>
    rw [display, String.toList_append, String.toList_append, Text.toList_toString, List.append_assoc,
      List.mem_append] at h
    rcases h with h | h
    · have hname : (x.name.toList.all fun c => !Text.isSpace c) = true := by cases x <;> decide
      exact isSpace_of_mem hname h
    · rcases List.mem_cons.1 h with rfl | h
      · rfl
      · exact isSpace_of_isDigit (Text.isDigit_of_mem_toDigits h)
  | flag x =>
    rw [display] at h
    have hname (on : Bool) : ((if on then x.name else "no" ++ x.name).toList.all fun c =>
        !Text.isSpace c) = true := by cases on <;> cases x <;> decide
    exact isSpace_of_mem (hname (o.flag x)) h

/-- A line of what is shown of options is read as directives that set them. -/
theorem ofText_displays (o : Options) (hne : xs ≠ []) :
    Directive.ofText (" ".intercalate (xs.map o.display)).toList = xs.map o.directive := by
  have hfields : Text.fields Text.isSpace (" ".intercalate (xs.map o.display)).toList =
      (xs.map o.display).map String.toList := by
    rw [String.toList_intercalate]
    refine Text.fields_intercalate rfl ?_
    simp only [List.forall_mem_map]
    exact fun x _ => ⟨o.display_ne_nil x, fun c => isSpace_of_mem_display⟩
  have hwords : ((xs.map o.display).map String.toList).map Directive.ofWord = xs.map o.directive := by
    rw [List.map_map, List.map_map]
    exact List.map_congr_left fun x _ => o.ofWord_display x
  rw [Directive.ofText, hfields, hwords]
  split
  · rename_i h
    exact absurd (List.map_eq_nil_iff.1 h) hne
  · rfl

/-! ## Replaying -/

theorem outcome_changeFlag_name (p : Options) (x : FlagOption) (f : Bool → Bool) :
    (changeFlag x.name f).outcome p = (.ok ⟨⟩, p.setFlag (f (p.flag x)) x) := by
  rw [outcome_changeFlag]
  cases x <;> rfl

theorem outcome_assignNumber_name (V : o.Valid) (p : Options) (x : NumberOption) :
    (assignNumber x.name (toString (o.number x))).outcome p =
      (.ok ⟨⟩, p.setNumber (o.number x) x) := by
  obtain ⟨hpos, hle⟩ := V x
  have hindex : (Text.index? (toString (o.number x)).toList).filter (0 < ·) =
      some (o.number x) := by
    rw [Text.toList_toString, Text.index?_toDigits hle, Option.filter_some, if_pos (decide_eq_true hpos)]
  rw [outcome_assignNumber, named?_name, hindex]

theorem outcome_directive (V : o.Valid) (p : Options) (x : OptionName) :
    (apply (o.directive x)).outcome p = (.ok [], o.carry p x) := by
  cases x with
  | number x => exact outcome_bind_ok (outcome_assignNumber_name V p x)
  | flag x =>
    rw [directive, carry]
    cases o.flag x with
    | false => exact outcome_bind_ok (outcome_changeFlag_name p x _)
    | true => exact outcome_bind_ok (outcome_changeFlag_name p x _)

theorem outcome_directives (V : o.Valid) (p : Options) (xs : List OptionName) :
    (applyAll (xs.map o.directive)).outcome p = (.ok [], xs.foldl o.carry p) := by
  induction xs generalizing p with
  | nil => rfl
  | cons x xs ih =>
    rw [List.map_cons, applyAll, outcome_bind_ok (outcome_directive V p x),
      outcome_bind_ok (ih (o.carry p x))]
    rfl

/-- A line of what is shown of options carries their values over and shows nothing. -/
theorem outcome_setLine_displays (V : o.Valid) (p : Options) (hne : xs ≠ []) :
    (setLine (" ".intercalate (xs.map o.display)).toList).outcome p =
      (.ok [], xs.foldl o.carry p) := by
  rw [setLine, ofText_displays o hne, outcome_directives V]

/-- The options that are shown by a listing of those with other values than at first. -/
def changed (o : Options) : List OptionName :=
  OptionName.all.filter fun x => o.display x != display {} x

theorem mem_all (x : OptionName) : x ∈ OptionName.all := by
  cases x with
  | number x => cases x <;> decide
  | flag x => cases x <;> decide

theorem agree_of_display_eq (h : o.display x = p.display x) : o.Agree p x := by
  have hdirective : o.directive x = p.directive x := by
    rw [← ofWord_display, ← ofWord_display, h]
  cases x with
  | number x =>
    injection hdirective with _ hvalue
    have hdigits := congrArg String.toList hvalue
    rw [Text.toList_toString, Text.toList_toString] at hdigits
    show o.number x = p.number x
    rw [← Text.decimalValue_toDigits (o.number x), hdigits, Text.decimalValue_toDigits]
  | flag x =>
    rw [directive, directive] at hdirective
    show o.flag x = p.flag x
    cases ho : o.flag x <;> cases hp : p.flag x <;> simp_all

theorem agree_default_of_not_mem (h : x ∉ o.changed) : o.Agree {} x := by
  refine agree_of_display_eq ?_
  by_contra hne
  exact h (List.mem_filter.2 ⟨mem_all x, bne_iff_ne.2 hne⟩)

/-- A directive that shows something is all there is on its line. -/
theorem outcome_applyAll_singleton {d : Directive} {shown : List String}
    (h : (apply d).outcome o = (.ok shown, o)) : (applyAll [d]).outcome o = (.ok shown, o) := by
  rw [applyAll, outcome_bind_ok h]
  exact Prod.ext (congrArg Except.ok (List.append_nil shown)) rfl

theorem outcome_setLine_all (o : Options) :
    (setLine "all".toList).outcome o = (.ok (OptionName.all.map o.display), o) := by
  have hword : ∀ w ∈ ["all".toList], w ≠ [] ∧ ∀ c ∈ w, Text.isSpace c = false := by
    rintro w hw
    obtain rfl := List.mem_singleton.1 hw
    exact ⟨List.cons_ne_nil _ _, fun c => isSpace_of_mem (by decide)⟩
  have hfields : Text.fields Text.isSpace "all".toList = ["all".toList] :=
    Text.fields_intercalate (s := ' ') rfl hword
  rw [setLine, Directive.ofText, hfields]
  exact outcome_applyAll_singleton rfl

theorem outcome_setLine_nil (o : Options) :
    (setLine []).outcome o = (.ok (o.changed.map o.display), o) := by
  rw [setLine, Directive.ofText, Text.fields_nil]
  exact outcome_applyAll_singleton rfl

/-- The words of all options make any options those that they are of. -/
theorem outcome_setLine_all_displays (V : o.Valid) (p : Options) :
    (setLine (" ".intercalate (OptionName.all.map o.display)).toList).outcome p = (.ok [], o) := by
  have hall : OptionName.all ≠ [] := List.cons_ne_nil _ _
  rw [outcome_setLine_displays V p hall, foldl_carry fun x => .inl (mem_all x)]

/-- All valid options can be set. -/
theorem reachable_iff_valid : o.Reachable ↔ o.Valid := by
  refine ⟨Reachable.valid, fun V => ?_⟩
  have H := Reachable.setLine .default (" ".intercalate (OptionName.all.map o.display)).toList
  rwa [outcome_setLine_all_displays V] at H

/-- A listing of all options makes any options those that it shows, and a listing of the changed ones
makes them of the options that all start with. Neither shows anything when it is replayed. -/
theorem listings_replay (H : o.Reachable) (p : Options) : ∃ shown differing,
    (setLine "all".toList).outcome o = (.ok shown, o) ∧
    (setLine (" ".intercalate shown).toList).outcome p = (.ok [], o) ∧
    (setLine []).outcome o = (.ok differing, o) ∧
    (setLine (" ".intercalate differing).toList).outcome {} = (.ok [], o) := by
  have V := H.valid
  refine ⟨_, _, outcome_setLine_all o, outcome_setLine_all_displays V p, outcome_setLine_nil o, ?_⟩
  have hcarry : o.changed.foldl o.carry {} = o :=
    foldl_carry fun x => or_iff_not_imp_left.2 agree_default_of_not_mem
  by_cases hnone : o.changed = []
  · rw [hnone] at hcarry ⊢
    exact hcarry ▸ outcome_setLine_nil {}
  · rw [outcome_setLine_displays V {} hnone, hcarry]

/-- A line that fails at its second word, replayed over options with other values. -/
theorem listings_replay_partway :
    let o := ((setLine "ts=007 bogus mc=3".toList).outcome {}).2
    let p : Options := { maxCompletions := 9, ignoreCase := false, regex := true }
    o.tabstop = 7 ∧ o.maxCompletions = 50 ∧ ∃ shown differing,
      (setLine "all".toList).outcome o = (.ok shown, o) ∧
      (setLine (" ".intercalate shown).toList).outcome p = (.ok [], o) ∧
      (setLine []).outcome o = (.ok differing, o) ∧
      (setLine (" ".intercalate differing).toList).outcome {} = (.ok [], o) := by
  intro o p
  have ho : o = { tabstop := 7 } := by decide +kernel
  exact ⟨congrArg tabstop ho, congrArg maxCompletions ho, listings_replay (.setLine .default _) p⟩

end Options
end LogicEditor
