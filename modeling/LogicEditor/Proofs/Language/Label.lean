import LogicEditor.Proofs.Language.Regular
import LogicEditor.Proofs.Language.Role
import LogicEditor.Proofs.Language.Site

/-!
# Names of labels

A line declares a label with a colon behind the name, and a jump refers to it by the name alone. Each
place has its own test for names: a declared one has to be an identifier (`names_labelDef_iff`), and
what a jump refers to is any plain word but a constant (`names_labelRef_iff`). On plain words the two
tests differ in punctuation only (`Word.isIdentifier_iff`), so a label can be declared and not be
referred to just if it has the name of a constant, and the other way round just if the word starts with
punctuation or holds a colon (`refersToLabel_iff_declaresLabel`).
-/

namespace LogicEditor

open Lexeme Word

variable {table : InstructionTable} {line w : Text} {role : SymbolRole}

/-! ## Words as names -/

/-- Some token of the line has the role, and the word as its text. -/
def Names (table : InstructionTable) (line : Text) (role : SymbolRole) (w : Text) : Prop :=
  ∃ u ∈ tokenize table line, u.role = some role ∧ u.text line = w

instance (table : InstructionTable) (line : Text) (role : SymbolRole) (w : Text) :
    Decidable (Names table line role w) :=
  inferInstanceAs (Decidable (∃ u ∈ tokenize table line, u.role = some role ∧ u.text line = w))

/-- The word and a colon declare a label. -/
def DeclaresLabel (w : Text) : Prop := Names .stock (w ++ [':']) .labelDef w

/-- A jump to the word refers to a label. -/
def RefersToLabel (w : Text) : Prop :=
  Names .stock ("jump ".toList ++ (w ++ " always".toList)) .labelRef w

instance (w : Text) : Decidable (DeclaresLabel w) := inferInstanceAs (Decidable (Names ..))

instance (w : Text) : Decidable (RefersToLabel w) := inferInstanceAs (Decidable (Names ..))

/-- A plain word is an identifier unless punctuation is in the way. -/
theorem Word.isIdentifier_iff (hw : IsFragment w) (hplain : isPlain w = true) :
    isIdentifier w = true ↔ (∀ c, w.head? = some c → Text.isPunct c = false) ∧ ':' ∉ w := by
  obtain ⟨c, t, rfl⟩ := List.exists_cons_of_ne_nil hw.1
  have hstart : isNameStart c = true ↔ Text.isPunct c = false := by
    have hdigit : Text.isDigit c = false := (isPlain_iff.1 hplain).2.2.2
    have hspace := (isFragmentPart_iff.1 (hw.2 c List.mem_cons_self)).1
    have hat : Text.isPunct c = false → c ≠ '@' := by
      rintro hpunct rfl
      cases hpunct
    simpa [isNameStart, hdigit, hspace] using hat
  have hpart (d : Char) (hd : d ∈ t) : isNamePart d = true ↔ d ≠ ':' := by
    have := isFragmentPart_iff.1 (hw.2 d (List.mem_cons_of_mem _ hd))
    simp [isNamePart, this]
  rw [isIdentifier, Bool.and_eq_true, hstart, List.all_eq_true]
  constructor
  · rintro ⟨hc, ht⟩
    refine ⟨?_, fun hcolon => ?_⟩
    · rintro d ⟨⟩
      exact hc
    · rcases List.mem_cons.1 hcolon with rfl | hcolon
      · cases hc
      · exact (hpart _ hcolon).1 (ht _ hcolon) rfl
  · rintro ⟨hc, hcolon⟩
    refine ⟨hc c rfl, fun d hd => (hpart d hd).2 ?_⟩
    rintro rfl
    exact hcolon (List.mem_cons_of_mem _ hd)

/-! ## Declarations -/

/-- A word with a colon behind it declares a label if and only if it is an identifier. -/
theorem names_labelDef_iff (hw : IsFragment w) :
    Names table (w ++ [':']) .labelDef w ↔ isIdentifier w = true := by
  constructor
  · rintro ⟨u, hu, hrole, htext⟩
    obtain ⟨l, hl, hk, ⟨name, hhead, hname, -, hlabel⟩ | rfl⟩ := exists_origin_of_role hu hrole
    · rw [← htext]
      exact (exists_colon_of_label table hl hk hhead hname hlabel).2.1
    · exact absurd rfl (classify_eq_some_role hrole).2.2
  · intro h
    -- the line is one lexeme
    have hfragment : IsFragment (w ++ [':']) := by
      refine ⟨by simp, fun c hc => ?_⟩
      rcases List.mem_append.1 hc with hc | hc
      · exact hw.2 c hc
      · obtain rfl := List.mem_singleton.1 hc
        rfl
    have hl : Place.origin.lexeme .fragment (w ++ [':']) ∈ ofLine (w ++ [':']) := by
      have hnil : EndsFragment [] := fun c hc => nomatch hc
      have hscan := Place.scan_fragment (s := .origin) hfragment hnil
      rw [List.append_nil] at hscan
      show _ ∈ Place.origin.scan (w ++ [':'])
      rw [hscan]
      exact List.mem_cons_self
    have hname : (Place.origin.lexeme .fragment (w ++ [':'])).labelName? = some w :=
      labelName?_eq_some.2 ⟨rfl, h⟩
    obtain ⟨us, hus⟩ := exists_cons_of_label table hl rfl rfl hname
    refine ⟨_, hus ▸ List.mem_append_left us List.mem_cons_self, rfl, ?_⟩
    exact (text_labelTokens hl rfl hname).1

/-! ## References -/

theorem isPlain_of_names (h : Names table line role w) (hrole : role ≠ .labelDef) :
    isPlain w = true ∧ table.isConstant (String.ofList w) = false := by
  obtain ⟨u, hu, hu', rfl⟩ := h
  obtain ⟨l, hl, -, ⟨name, -, -, rfl, -⟩ | rfl⟩ := exists_origin_of_role hu hu'
  · exact absurd rfl hrole
  · have htext : (l.plainToken table (lineOpcode? table line)).text line = l.text :=
      text_toToken hl _ _
    rw [htext]
    obtain ⟨hplain, hconstant, -⟩ := classify_eq_some_role hu'
    exact ⟨hplain, hconstant⟩

/-- A plain word that fills an argument has the role of the argument. -/
theorem names_of_argument {pre post : Text} {ls : List Lexeme} {e : Place} {arg : Argument}
    (S : Site pre post ls e) (hfree : e.inWord = false) (hword : e.word ≠ 0)
    (harg : (lineOpcode? table pre).bind (·.argumentOfWord? e.word) = some arg)
    (hkind : arg.kind ≠ .constant) (hw : IsFragment w) (hplain : isPlain w = true)
    (hconstant : table.isConstant (String.ofList w) = false) :
    Names table (pre ++ (w ++ post)) (roleIn arg.kind) w := by
  have hopcode : lineOpcode? table (pre ++ (w ++ post)) = lineOpcode? table pre := by
    rw [S.lineOpcode?_congr (w := []) hword, List.append_nil]
  have hhead : (e.lexeme .fragment w).isHead = false := by
    simp [isHead, Place.lexeme, hword]
  have hslot : (e.lexeme .fragment w).argument? (lineOpcode? table pre) = some arg := by
    rw [Lexeme.argument?, Place.lexeme, hfree]
    exact harg
  have hl : e.lexeme .fragment w ∈ ofLine (pre ++ (w ++ post)) :=
    S.ofLine_eq hw ▸ List.mem_append_right _ List.mem_cons_self
  refine ⟨(e.lexeme .fragment w).plainToken table (lineOpcode? table pre), ?_, ?_, ?_⟩
  · apply S.mem_tokenize hw
    rw [hopcode, tokens_of_isHead_eq_false rfl hhead]
    exact List.mem_cons_self
  · show (classify table ((e.lexeme .fragment w).argument? (lineOpcode? table pre)) w).2 = _
    rw [hslot, classify_some hplain, if_neg hkind, hconstant]
    rfl
  · exact text_toToken hl _ _

theorem site_jump : Site "jump ".toList " always".toList
    [Place.origin.lexeme .fragment "jump".toList] ⟨5, 1, false⟩ where
  reads := .fragment (w := "jump".toList) (d := ' ') (by decide) rfl (.space rfl .nil)
  ends := endsFragment_cons rfl

/-- A jump refers to a word if and only if the word is plain and no constant. -/
theorem names_labelRef_iff (hw : IsFragment w) : RefersToLabel w ↔
    isPlain w = true ∧ InstructionTable.isConstant .stock (String.ofList w) = false := by
  constructor
  · intro h
    exact isPlain_of_names h (by decide)
  · rintro ⟨hplain, hconstant⟩
    have htarget : (lineOpcode? .stock "jump ".toList).bind (·.argumentOfWord? 1) =
        some (Stock.label "target") := by decide +kernel
    exact names_of_argument site_jump rfl Nat.one_ne_zero htarget (by decide) hw hplain hconstant

theorem isConstant_stock_eq_false {name : String} :
    InstructionTable.isConstant .stock name = false ↔ name ∉ ["true", "false", "null"] := by
  rw [InstructionTable.isConstant, Bool.eq_false_iff, Ne, List.contains_iff_mem]
  rfl

/-! ## Both places -/

/-- What can be declared can be referred to, unless it is a constant. What can be referred to can be
declared, unless it starts with punctuation or holds a colon. -/
theorem refersToLabel_iff_declaresLabel (hw : IsFragment w) :
    (DeclaresLabel w ↔ isIdentifier w = true) ∧
    (DeclaresLabel w → (RefersToLabel w ↔ String.ofList w ∉ ["true", "false", "null"])) ∧
    (RefersToLabel w → (DeclaresLabel w ↔
      (∀ c, w.head? = some c → Text.isPunct c = false) ∧ ':' ∉ w)) := by
  rw [names_labelRef_iff hw, DeclaresLabel, names_labelDef_iff hw]
  refine ⟨Iff.rfl, ?_, ?_⟩
  · intro h
    rw [and_iff_right (isPlain_of_isIdentifier h)]
    exact isConstant_stock_eq_false
  · rintro ⟨hplain, -⟩
    exact isIdentifier_iff hw hplain

/-- The name of an opcode is one of a label like any other. -/
theorem refersToLabel_iff_declaresLabel_opcode :
    IsFragment "set".toList ∧ DeclaresLabel "set".toList ∧ RefersToLabel "set".toList := by
  have hw : IsFragment "set".toList := by decide
  obtain ⟨hdeclares, hrefers, -⟩ := refersToLabel_iff_declaresLabel hw
  have hset : DeclaresLabel "set".toList := hdeclares.2 (by decide)
  exact ⟨hw, hset, (hrefers hset).2 (by decide)⟩

/-- A constant can be declared and not be referred to. A colon or punctuation in front keeps a word from
being declared, and not from being referred to. -/
theorem not_refersToLabel_iff_declaresLabel :
    (IsFragment "true".toList ∧ DeclaresLabel "true".toList ∧ ¬RefersToLabel "true".toList) ∧
    (IsFragment "a:b".toList ∧ ¬DeclaresLabel "a:b".toList ∧ RefersToLabel "a:b".toList) ∧
    IsFragment "-a".toList ∧ ¬DeclaresLabel "-a".toList ∧ RefersToLabel "-a".toList := by
  decide +kernel

end LogicEditor
