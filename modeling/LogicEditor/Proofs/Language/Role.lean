import LogicEditor.Proofs.Language.Tiling

/-!
# Roles

What the names of a line mean. The opcode of a line is what its first token names
(`lineOpcode?_eq_some_iff`). A name is a label declared by the line, or it starts a word that fills an
argument of the opcode, and then the kind of the argument decides its role; all other tokens have none
(`rolesFollow_tokenize`).
-/

namespace LogicEditor

open Lexeme

variable {table : InstructionTable} {line t : Text} {us : List Token} {u v : Token} {l : Lexeme}
  {i : Instruction} {arg : Argument} {arg? : Option Argument} {role : SymbolRole} {n : Nat}

/-! ## Signatures -/

/-- The role of a name in an argument of some kind. The words of a constant are no names. -/
def ArgumentKind.role? : ArgumentKind → Option SymbolRole
  | .label => some .labelRef
  | .output => some .variableDef
  | .value => some .variableRef
  | .constant => none

/-- A line whose first token is a keyword that names an opcode. -/
def StartsWith (table : InstructionTable) (line : Text) (us : List Token) (i : Instruction) : Prop :=
  ∃ u, us[0]? = some u ∧ u.kind = .keyword ∧ table.lookup (String.ofList (u.text line)) = some i

/-- What names mean in a line follows from the signature of its opcode. -/
structure RolesFollow (table : InstructionTable) (line : Text) (us : List Token) : Prop where
  identifier : ∀ u ∈ us, u.role ≠ none → u.kind = .identifier
  /-- Only the first token can declare a label, and its colon comes right behind it. -/
  label : ∀ n u, us[n]? = some u → u.role = some .labelDef →
    n = 0 ∧ Word.isIdentifier (u.text line) = true ∧
      ∃ v, us[1]? = some v ∧ v.kind = .operator ∧ v.text line = [':'] ∧
        v.span = ⟨u.span.stop, u.span.stop + 1⟩ ∧ v.word = u.word
  argument : ∀ u ∈ us, ∀ role, u.role = some role → role ≠ .labelDef →
    1 ≤ u.word ∧ ∃ i arg, StartsWith table line us i ∧ i.argument? (u.word - 1) = some arg ∧
      arg.kind.role? = some role
  /-- A name that starts a word, for no token ends where it starts, has the role of its argument. -/
  complete : ∀ u ∈ us, u.kind = .identifier → 1 ≤ u.word → (∀ v ∈ us, v.span.stop ≠ u.span.start) →
    ∀ i arg, StartsWith table line us i → i.argument? (u.word - 1) = some arg →
      ∃ role, arg.kind.role? = some role ∧ u.role = some role

theorem Lexeme.role?_eq_some {kind : ArgumentKind} (h : kind ≠ .constant) :
    kind.role? = some (roleIn kind) := by
  cases kind with
  | constant => exact absurd rfl h
  | _ => rfl

theorem Lexeme.exists_argument_of_role (h : (classify table arg? t).2 = some role) :
    ∃ arg, arg? = some arg ∧ arg.kind.role? = some role := by
  obtain ⟨hrole, hconstant⟩ := snd_classify_of_identifier (fst_classify_of_role h)
  rw [h, eq_comm, Option.map_eq_some_iff] at hrole
  obtain ⟨arg, harg, rfl⟩ := hrole
  exact ⟨arg, harg, role?_eq_some (hconstant arg harg)⟩

theorem Lexeme.argument?_eq_some {opcode? : Option Instruction} : l.argument? opcode? = some arg ↔
    l.isFirst = true ∧ ∃ i, opcode? = some i ∧ i.argumentOfWord? l.word = some arg := by
  rw [Lexeme.argument?, Option.ite_none_right_eq_some, Option.bind_eq_some_iff]

theorem Instruction.argumentOfWord?_eq_some :
    i.argumentOfWord? n = some arg ↔ 1 ≤ n ∧ i.argument? (n - 1) = some arg := by
  cases n with
  | zero => exact iff_of_false (fun h => nomatch h) (fun h => nomatch h.1)
  | succ n => exact (and_iff_right (Nat.succ_pos n)).symm

/-! ## The opcode -/

theorem Lexeme.tokens_of_labelName? {opcode? : Option Instruction} {name : Text}
    (hk : l.kind = .fragment) (h : l.isHead = true) (hname : l.labelName? = some name) :
    l.tokens table opcode? = l.labelTokens := by
  simp [tokens, hk, h, hname]

theorem Lexeme.isHead_of_head? (h : (ofLine t).head? = some l) (hk : l.kind = .fragment) :
    l.isHead = true := by
  obtain ⟨hfirst, hword⟩ := isFirst_of_head? (s := .origin) rfl h
  rw [isHead, hk, hword, hfirst]
  rfl

/-- The first token of a line is the first one of its first lexeme. -/
theorem exists_head_of_head? (h : (tokenize table t).head? = some u) : ∃ l,
    (ofLine t).head? = some l ∧ (l.tokens table (lineOpcode? table t)).head? = some u := by
  cases hls : ofLine t with
  | nil =>
    rw [tokenize, hls] at h
    cases h
  | cons l ls =>
    refine ⟨l, rfl, ?_⟩
    rw [tokenize, hls, List.flatMap_cons, List.head?_append] at h
    have H := tokens_tokens table (lineOpcode? table t) l
    generalize l.tokens table (lineOpcode? table t) = us at h H
    cases H <;> exact h

/-- The opcode of a line is what its first token names, if that is a keyword. -/
theorem lineOpcode?_eq_some_iff :
    lineOpcode? table t = some i ↔ StartsWith table t (tokenize table t) i := by
  constructor
  · intro h
    obtain ⟨l, us, hl, hk, -, hlookup, hus⟩ := exists_cons_of_lineOpcode? h
    exact ⟨l.toToken .keyword, by rw [hus]; rfl, rfl, by rw [text_toToken hl]; exact hlookup⟩
  · rintro ⟨u, hu, hkeyword, hlookup⟩
    obtain ⟨l, hl, hu⟩ := exists_head_of_head? (List.head?_eq_getElem?.trans hu)
    have hmem : l ∈ ofLine t := List.mem_of_mem_head? hl
    -- a declared label is no keyword, so the first lexeme does not declare one
    have hname : l.kind = .fragment → l.labelName? = none := fun hk => by
      refine Option.eq_none_iff_forall_ne_some.2 fun name hname => ?_
      rw [tokens_of_labelName? hk (isHead_of_head? hl hk) hname] at hu
      cases hu
      cases hkeyword
    have H := tokens_tokens table (lineOpcode? table t) l
    generalize l.tokens table (lineOpcode? table t) = us at hu H
    rw [lineOpcode?, hl, Option.bind_some]
    cases H with
    | comment | string | label =>
      cases hu
      cases hkeyword
    | opcode hk | plain hk =>
      cases hu
      have htext (kind : TokenKind) (role : Option SymbolRole) := text_toToken hmem kind role
      refine opcode?_eq_some.2 ⟨isHead_of_head? hl hk, hname hk, ?_⟩
      rwa [← htext]

/-! ## Labels -/

theorem exists_cons_of_label (table : InstructionTable) (hl : l ∈ ofLine t)
    (hk : l.kind = .fragment) (h : l.isHead = true) {name : Text} (hname : l.labelName? = some name) :
    ∃ us, tokenize table t = l.labelTokens ++ us := by
  obtain ⟨ls, hls⟩ := List.head?_eq_some_iff.1 (head?_eq_of_isHead hl h)
  exact ⟨_, by rw [tokenize, hls, List.flatMap_cons, tokens_of_labelName? hk h hname]⟩

theorem text_labelTokens (hl : l ∈ ofLine t) (hk : l.kind = .fragment) {name : Text}
    (hname : l.labelName? = some name) :
    t.slice l.start (l.stop - 1) = name ∧ t.slice (l.stop - 1) l.stop = [':'] := by
  obtain ⟨htext, -⟩ := labelName?_eq_some.1 hname
  obtain ⟨-, hstop⟩ := length_of_labelName? hname
  obtain ⟨pre, post, rfl, hpre, -⟩ := exists_split_of_fragment hl hk
  have hlen : (pre ++ name).length = l.start + name.length := by rw [List.length_append, hpre]
  refine ⟨(isName_of_labelName? hl hk hname).2, ?_⟩
  rw [hstop, Nat.add_sub_cancel, ← hlen, htext, List.append_assoc, ← List.append_assoc pre]
  exact Text.slice_append

/-- A label that a line declares is its first token, and its colon is the second one. -/
theorem exists_colon_of_label (table : InstructionTable) (hl : l ∈ ofLine t)
    (hk : l.kind = .fragment) (h : l.isHead = true) {name : Text} (hname : l.labelName? = some name)
    (hu : l.labelTokens[0]? = some u) :
    (tokenize table t)[0]? = some u ∧ Word.isIdentifier (u.text t) = true ∧
      ∃ v, (tokenize table t)[1]? = some v ∧ v.kind = .operator ∧ v.text t = [':'] ∧
        v.span = ⟨u.span.stop, u.span.stop + 1⟩ ∧ v.word = u.word := by
  obtain ⟨us, hus⟩ := exists_cons_of_label table hl hk h hname
  obtain ⟨htext, hcolon⟩ := text_labelTokens hl hk hname
  have hidentifier : Word.isIdentifier (t.slice l.start (l.stop - 1)) = true :=
    htext ▸ (labelName?_eq_some.1 hname).2
  have hstop : l.stop = l.stop - 1 + 1 := by
    rw [(length_of_labelName? hname).2, Nat.add_sub_cancel]
  cases hu
  rw [hus]
  exact ⟨rfl, hidentifier, { span := ⟨l.stop - 1, l.stop⟩, kind := .operator, word := l.word }, rfl, rfl,
    hcolon, congrArg (Span.mk (l.stop - 1)) hstop, rfl⟩

/-- Where a role of a token comes from. -/
theorem exists_origin_of_role (hu : u ∈ tokenize table t) (h : u.role = some role) :
    ∃ l ∈ ofLine t, l.kind = .fragment ∧
      ((∃ name, l.isHead = true ∧ l.labelName? = some name ∧ role = .labelDef ∧
        l.labelTokens[0]? = some u) ∨
      u = l.plainToken table (lineOpcode? table t)) := by
  rw [tokenize, List.mem_flatMap] at hu
  obtain ⟨l, hl, hu⟩ := hu
  have H := tokens_tokens table (lineOpcode? table t) l
  generalize l.tokens table (lineOpcode? table t) = us at hu H
  cases H with
  | comment | string | opcode =>
    obtain rfl := List.mem_singleton.1 hu
    cases h
  | @label name hk hhead hname =>
    simp only [labelTokens, List.mem_cons, List.not_mem_nil, or_false] at hu
    rcases hu with rfl | rfl
    · cases h
      exact ⟨l, hl, hk, .inl ⟨name, hhead, hname, rfl, rfl⟩⟩
    · cases h
  | plain hk => exact ⟨l, hl, hk, .inr (List.mem_singleton.1 hu)⟩

/-! ## Names that start words -/

/-- No token ends where the first lexeme of a word starts, and only there. -/
theorem isFirst_of_forall_stop_ne (hl : l ∈ ofLine t)
    (h : ∀ v ∈ tokenize table t, v.span.stop ≠ l.start) : l.isFirst = true := by
  by_contra hfirst
  rcases exists_stop_eq (s := .origin) hl (Bool.eq_false_iff.2 hfirst) with ⟨hin, -⟩ | ⟨k, hk, hstop⟩
  · cases hin
  · have hpos := List.length_pos_iff.2 (text_ne_nil hk)
    obtain ⟨v, hv, -, hle⟩ := exists_token_at table (lineOpcode? table t)
      (l := k) (Nat.lt_add_of_pos_right hpos) (Nat.le_refl _)
    have hwithin := (within_of_mem (text_ne_nil hk) hv).2.2.2
    refine h v (List.mem_flatMap.2 ⟨k, hk, hv⟩) ?_
    rw [← hstop]
    exact Nat.le_antisymm hwithin hle

/-- The role of the argument that a name fills. -/
theorem exists_role_of_argument (hu : u ∈ tokenize table t) (hkind : u.kind = .identifier)
    (hpos : 1 ≤ u.word) (hstart : ∀ v ∈ tokenize table t, v.span.stop ≠ u.span.start)
    (hi : StartsWith table t (tokenize table t) i) (harg : i.argument? (u.word - 1) = some arg) :
    ∃ role, arg.kind.role? = some role ∧ u.role = some role := by
  rw [← lineOpcode?_eq_some_iff] at hi
  rw [tokenize, List.mem_flatMap] at hu
  obtain ⟨l, hl, hu⟩ := hu
  have hwithin := within_of_mem (text_ne_nil hl) hu
  have H := tokens_tokens table (lineOpcode? table t) l
  generalize l.tokens table (lineOpcode? table t) = us at hu H
  cases H with
  | comment | string | opcode =>
    obtain rfl := List.mem_singleton.1 hu
    cases hkind
  | label _ hhead =>
    -- labels are declared in the first word only
    rw [isHead, Bool.and_eq_true, Bool.and_eq_true, beq_iff_eq, beq_iff_eq] at hhead
    rw [hwithin.1, hhead.1.2] at hpos
    cases hpos
  | plain hk =>
    obtain rfl := List.mem_singleton.1 hu
    have hfirst := isFirst_of_forall_stop_ne hl hstart
    have hargument : l.argument? (lineOpcode? table t) = some arg :=
      argument?_eq_some.2 ⟨hfirst, i, hi, Instruction.argumentOfWord?_eq_some.2 ⟨hpos, harg⟩⟩
    obtain ⟨hrole, hconstant⟩ := snd_classify_of_identifier hkind
    exact ⟨_, role?_eq_some (hconstant arg hargument),
      hrole.trans (congrArg (Option.map (roleIn ·.kind)) hargument)⟩

/-- Names mean what the signature of the opcode says, or declare a label. -/
theorem rolesFollow_tokenize (table : InstructionTable) (line : Text) :
    RolesFollow table line (tokenize table line) where
  identifier u hu h := by
    obtain ⟨role, hrole⟩ := Option.ne_none_iff_exists'.1 h
    obtain ⟨l, -, -, ⟨name, -, -, -, hlabel⟩ | rfl⟩ := exists_origin_of_role hu hrole
    · cases hlabel
      rfl
    · exact fst_classify_of_role hrole
  label n u hn h := by
    obtain ⟨l, hl, hk, ⟨name, hhead, hname, -, hlabel⟩ | rfl⟩ :=
      exists_origin_of_role (List.mem_of_getElem? hn) h
    · obtain ⟨hfirst, hcolon⟩ := exists_colon_of_label table hl hk hhead hname hlabel
      exact ⟨(tiles_tokenize table line).partition.index_unique hn hfirst, hcolon⟩
    · exact absurd rfl (classify_eq_some_role h).2.2
  argument u hu role h hne := by
    obtain ⟨l, hl, hk, ⟨name, -, -, rfl, -⟩ | rfl⟩ := exists_origin_of_role hu h
    · exact absurd rfl hne
    · obtain ⟨arg, harg, hrole⟩ := exists_argument_of_role h
      obtain ⟨-, i, hi, harg⟩ := argument?_eq_some.1 harg
      obtain ⟨hpos, harg⟩ := Instruction.argumentOfWord?_eq_some.1 harg
      exact ⟨hpos, i, arg, lineOpcode?_eq_some_iff.1 hi, harg, hrole⟩
  complete u hu hkind hpos hstart i arg hi harg :=
    exists_role_of_argument hu hkind hpos hstart hi harg

end LogicEditor
