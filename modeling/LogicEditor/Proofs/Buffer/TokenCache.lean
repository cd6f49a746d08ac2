import LogicEditor.Proofs.Rope.Refine

/-!
# Tokens kept with lines

Whoever lexes a buffer keeps the tokens with its lines. A step of a buffer carries a line over as it is,
with its tokens, or makes a line without any, and then it logs the line as edited or as new
(`Buffer.CarriesOver`). So tokens are never those of another text than the line has
(`Buffer.tokens_fresh`), however lines are joined, split and moved, and they are there as long as the
log does not say that the line was edited.
-/

namespace LogicEditor

/-- If the action keeps tokens with a line, they are those that `f` makes of the text of the line. -/
def Action.Lexes (f : Text → List Token) (b : Buffer) : Action → Prop
  | .setTokens line tokens => ∀ t, b.text? line = some t → tokens = f t
  | _ => True

namespace Buffer

variable {limit : Nat} {b c d : Buffer} {es fs : List Change} {l : Line} {f : Text → List Token}
  {actions : List Action}

/-! ## Lines carried over -/

/-- On the way from `b` to `c` the changes `es` are logged, and each line of `c` is a line of `b`, or it
has no tokens and is edited or new. -/
structure CarriesOver (b : Buffer) (es : List Change) (c : Buffer) : Prop where
  log : c.log = b.log ++ es
  line : ∀ l ∈ c.lines, l ∈ b.lines ∨ l.tokens? = none ∧ (.edited l.id ∈ es ∨ b.nextId ≤ l.id)
  nextId_le : b.nextId ≤ c.nextId

/-- Nothing but the order and the number of lines changes. -/
theorem CarriesOver.of_subset (h : ∀ l ∈ c.lines, l ∈ b.lines) (hlog : c.log = b.log ++ es)
    (hnext : c.nextId = b.nextId) : CarriesOver b es c :=
  ⟨hlog, fun l hl => .inl (h l hl), Nat.le_of_eq hnext.symm⟩

theorem CarriesOver.trans (H : CarriesOver b es c) (H' : CarriesOver c fs d) :
    CarriesOver b (es ++ fs) d where
  log := by rw [H'.log, H.log, List.append_assoc]
  line := by
    intro l hl
    rcases H'.line l hl with hc | ⟨hnone, hedit | hnew⟩
    · rcases H.line l hc with hb | ⟨hnone, hedit | hnew⟩
      · exact .inl hb
      · exact .inr ⟨hnone, .inl (List.mem_append_left _ hedit)⟩
      · exact .inr ⟨hnone, .inr hnew⟩
    · exact .inr ⟨hnone, .inl (List.mem_append_right _ hedit)⟩
    · exact .inr ⟨hnone, .inr (Nat.le_trans H.nextId_le hnew)⟩
  nextId_le := Nat.le_trans H.nextId_le H'.nextId_le

theorem tokens?_of_mem_freshLines {id : LineId} {ts : List Text} (h : l ∈ freshLines id ts) :
    l.tokens? = none := by
  induction ts generalizing id with
  | nil => cases h
  | cons t ts ih =>
    rcases List.mem_cons.1 h with rfl | h
    · rfl
    · exact ih h

theorem Step.carriesOver (H : Step limit b c) : ∃ es, CarriesOver b es c := by
  cases H with
  | edit h =>
    refine ⟨_, rfl, fun m hm => ?_, Nat.le_refl _⟩
    rw [h]
    rcases List.mem_append.1 hm with hm | hm
    · exact .inl (List.mem_append_left _ hm)
    · rcases List.mem_cons.1 hm with rfl | hm
      · exact .inr ⟨rfl, .inl List.mem_cons_self⟩
      · exact .inl (List.mem_append_right _ (List.mem_cons_of_mem _ hm))
  | insert h =>
    refine ⟨_, rfl, fun m hm => ?_, Nat.le_add_right _ _⟩
    rw [h]
    rcases List.mem_append.1 hm with hm | hm
    · rcases List.mem_append.1 hm with hm | hm
      · exact .inl (List.mem_append_left _ hm)
      · exact .inr ⟨tokens?_of_mem_freshLines hm, .inr (le_id_of_mem_freshLines hm).1⟩
    · exact .inl (List.mem_append_right _ hm)
  | delete h =>
    refine ⟨_, .of_subset (fun m hm => ?_) rfl rfl⟩
    rw [h]
    rcases List.mem_append.1 hm with hm | hm
    · exact List.mem_append_left _ (List.mem_append_left _ hm)
    · exact List.mem_append_right _ hm
  | clear =>
    exact ⟨_, rfl, fun m hm => .inr ⟨tokens?_of_mem_freshLines hm, .inr (le_id_of_mem_freshLines hm).1⟩,
      Nat.le_succ _⟩
  | rotate h =>
    refine ⟨_, .of_subset (fun m hm => ?_) rfl rfl⟩
    rw [h]
    simp only [record, List.mem_append] at hm ⊢
    tauto
  | mark => exact ⟨[], .of_subset (fun _ h => h) (List.append_nil _).symm rfl⟩

theorem Steps.carriesOver (H : Steps limit b c) : ∃ es, CarriesOver b es c := by
  induction H with
  | refl => exact ⟨[], .of_subset (fun _ h => h) (List.append_nil _).symm rfl⟩
  | tail _ h ih =>
    obtain ⟨es, hes⟩ := ih
    obtain ⟨fs, hfs⟩ := h.carriesOver
    exact ⟨_, hes.trans hfs⟩

/-- A command carries lines over, be it accepted or rejected. -/
theorem Op.carriesOver (W : b.WellFormed) (op : Op) : ∃ es, CarriesOver b es (op.run.outcome b).2 := by
  rw [op.snd_outcome_run]
  exact ((op.sound W).steps (Nat.le_refl _)).carriesOver

/-! ## Fresh tokens -/

/-- The tokens kept with a line are those that `f` makes of its text. -/
def Fresh (f : Text → List Token) (b : Buffer) : Prop :=
  ∀ l ∈ b.lines, ∀ ts, l.tokens? = some ts → ts = f l.text

/-- All tokens that actions keep with a line are those that `f` makes of the text that the line has at
that time. -/
def LexesAll (f : Text → List Token) : Buffer → List Action → Prop
  | _, [] => True
  | b, a :: as => a.Lexes f b ∧ LexesAll f (b.act a) as

/-- The change is logged on the way from `b` to `c`. -/
def Logs (b c : Buffer) (x : Change) : Prop := ∃ es, c.log = b.log ++ es ∧ x ∈ es

theorem CarriesOver.fresh (H : CarriesOver b es c) (F : b.Fresh f) : c.Fresh f := by
  intro l hl ts hts
  rcases H.line l hl with hb | ⟨hnone, -⟩
  · exact F l hb ts hts
  · rw [hnone] at hts
    cases hts

/-- The lines after tokens were kept with one of them. -/
theorem mem_lines_setTokens {line : Nat} {tokens : List Token} (h : l ∈ (b.setTokens line tokens).lines) :
    l ∈ b.lines ∨ ∃ m ∈ b.lines, b.text? line = some m.text ∧ l = { m with tokens? := some tokens } := by
  obtain ⟨i, hi⟩ := List.mem_iff_getElem?.1 h
  rw [setTokens, List.getElem?_modify] at hi
  obtain ⟨m, hm, rfl⟩ := Option.map_eq_some_iff.1 hi
  by_cases hline : line = i
  · subst hline
    exact .inr ⟨m, List.mem_of_getElem? hm, by rw [text?, hm]; rfl, by rw [if_pos rfl]⟩
  · rw [if_neg hline]
    exact .inl (List.mem_of_getElem? hm)

theorem Fresh.act (F : b.Fresh f) (W : b.WellFormed) {a : Action} (ha : a.Lexes f b) :
    (b.act a).Fresh f := by
  cases a with
  | command op =>
    obtain ⟨es, H⟩ := op.carriesOver W
    exact H.fresh F
  | setTokens line tokens =>
    intro l hl ts hts
    rcases mem_lines_setTokens hl with hb | ⟨m, -, ht, rfl⟩
    · exact F l hb ts hts
    · cases hts
      exact ha m.text ht
  | drain | markSaved => exact F

theorem Fresh.after (F : b.Fresh f) (W : b.WellFormed) (h : LexesAll f b actions) :
    (b.after actions).Fresh f ∧ (b.after actions).WellFormed := by
  induction actions generalizing b with
  | nil => exact ⟨F, W⟩
  | cons a actions ih => exact ih (F.act W h.1) (wellFormed_act W a) h.2

theorem fresh_make (s : Source) : (make s).Fresh f := by
  have hnone : ∀ t l, l ∈ (ofText t).lines → l.tokens? = none := by
    intro t l hl
    rw [ofText_eq] at hl
    exact tokens?_of_mem_freshLines hl
  intro l hl ts hts
  rw [show l.tokens? = none by cases s <;> exact hnone _ l hl] at hts
  cases hts

/-! ## Tokens that stay -/

/-- The line with a handle is the only one with it. -/
theorem WellFormed.eq_of_id_eq (W : b.WellFormed) {m : Line} (hl : l ∈ b.lines) (hm : m ∈ b.lines)
    (h : m.id = l.id) : m = l :=
  List.inj_on_of_nodup_map W.nodup hm hl h

/-- A line that an action does not edit keeps its text and its tokens. -/
theorem Fresh.line_act (F : b.Fresh f) (W : b.WellFormed) {a : Action} (ha : a.Lexes f b) {m : Line}
    (hl : l ∈ b.lines) (hm : m ∈ (b.act a).lines) (hid : m.id = l.id)
    (he : ¬Logs b (b.act a) (.edited l.id)) :
    m.text = l.text ∧ ∀ ts, l.tokens? = some ts → m.tokens? = some ts := by
  cases a with
  | command op =>
    obtain ⟨es, H⟩ := op.carriesOver W
    rcases H.line m hm with hb | ⟨-, hedit | hnew⟩
    · obtain rfl := W.eq_of_id_eq hl hb hid
      exact ⟨rfl, fun _ h => h⟩
    · exact absurd ⟨es, H.log, hid ▸ hedit⟩ he
    · exact absurd (W.below l.id (List.mem_map_of_mem hl)) (Nat.not_lt.2 (hid ▸ hnew))
  | setTokens line tokens =>
    rcases mem_lines_setTokens hm with hb | ⟨k, hk, ht, rfl⟩
    · obtain rfl := W.eq_of_id_eq hl hb hid
      exact ⟨rfl, fun _ h => h⟩
    · obtain rfl := W.eq_of_id_eq hl hk hid
      exact ⟨rfl, fun ts hts => by rw [ha k.text ht, F k hk ts hts]⟩
  | drain | markSaved =>
    obtain rfl := W.eq_of_id_eq hl hm hid
    exact ⟨rfl, fun _ h => h⟩

/-- All tokens that are kept with lines are those that `f` makes of the texts of the lines, if they were
so when they were put there. A line that an action does not log as edited keeps its text and, if it has
any, its tokens. What is read off a rope and its slots is the same. -/
theorem tokens_fresh (R : Type) [Rope R] [LawfulRope R] (f : Text → List Token) (s : Source)
    (hf : LexesAll f (make s) actions) :
    let b := (make s).after actions
    b.Fresh f ∧
    (∀ a : Action, a.Lexes f b → ∀ l ∈ b.lines, ∀ m ∈ (b.act a).lines, m.id = l.id →
      ¬Logs b (b.act a) (.edited l.id) →
      m.text = l.text ∧ ∀ ts, l.tokens? = some ts → m.tokens? = some ts) ∧
    ((∀ a ∈ actions, a.Ordered) →
      ((RopeBuffer.make s : RopeBuffer R).after actions).shown = b) := by
  intro b
  obtain ⟨F, W⟩ := (fresh_make s).after (wellFormed_make s) hf
  refine ⟨F, fun a ha l hl m hm hid he => F.line_act W ha hl hm hid he, fun ho => ?_⟩
  obtain ⟨H, -, -⟩ := (RopeBuffer.represents_make (R := R) s).after (wellFormed_make s) ho
  exact H.shown_eq W

/-- The second line is lexed, goes up, and a text with a break is put in below it. -/
theorem tokens_fresh_rotate :
    let f : Text → List Token := fun t => [⟨⟨0, t.length⟩, .unknown, none, 0⟩]
    let actions : List Action := [.setTokens 1 (f ['b']), .command (.rotate 0 1 2),
      .command (.insertText ⟨1, 0⟩ "x\ny".toList)]
    let b := (make (.text "a\nb".toList)).after actions
    let r := (RopeBuffer.make (.text "a\nb".toList) : RopeBuffer Text).after actions
    b.Fresh f ∧ r.shown.Fresh f ∧ b.texts = [['b'], ['x'], ['y', 'a']] ∧
      (List.range 3).map r.shown.tokens? = [some (f ['b']), none, none] := by
  intro f actions b r
  have hf : LexesAll f (make (.text "a\nb".toList)) actions :=
    ⟨fun t ht => by cases ht; rfl, trivial, trivial, trivial⟩
  obtain ⟨F, -, hshown⟩ := tokens_fresh Text f (.text "a\nb".toList) hf
  have ho : ∀ a ∈ actions, a.Ordered := by
    simp only [actions, List.forall_mem_cons]
    exact ⟨trivial, trivial, trivial, fun _ h => nomatch h⟩
  exact ⟨F, (hshown ho).symm ▸ F, by decide +kernel, by decide +kernel⟩

end Buffer
end LogicEditor
