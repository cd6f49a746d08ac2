import LogicEditor.Proofs.Language.Line

/-!
# Tilings

A line falls into white space and the texts of its tokens. `Tiles` says so of what follows a place, one
token after the other; `tiles_tokenize` says it of every line. What the tokens of a line have to do with
its text is read off from the tiling: that they stand apart and leave out only white space, that a
comment ends the line, and how their words are counted (`partition_tokenize`).
-/

namespace LogicEditor

open Lexeme Text

variable {table : InstructionTable} {opcode? : Option Instruction} {s : Place} {t w line : Text}
  {us vs ws : List Token} {u v : Token} {c : Char} {i col : Nat}

/-! ## Tilings -/

/-- From a place on, a text falls into white space and the texts of some tokens. A token that starts at
the place belongs to its word. -/
inductive Tiles : Place → Text → List Token → Prop
  | nil {s : Place} : Tiles s [] []
  | gap {s : Place} {c : Char} {t : Text} {us : List Token} (hc : isSpace c = true)
      (H : Tiles ⟨s.col + 1, s.next, false⟩ t us) : Tiles s (c :: t) us
  | token {s : Place} {w t : Text} {u : Token} {us : List Token} (hw : w ≠ [])
      (hspan : u.span = ⟨s.col, s.col + w.length⟩) (hword : u.word = s.word)
      (hblank : ∀ c ∈ w, isSpace c = true → u.kind = .string ∨ u.kind = .comment)
      (hcomment : u.kind = .comment → t = []) (H : Tiles (s.after w.length) t us) :
    Tiles s (w ++ t) (u :: us)

theorem Lexeme.Place.after_after (s : Place) (m n : Nat) : (s.after m).after n = s.after (m + n) := by
  rw [after, after, after, Nat.add_assoc]

/-- The tokens of a lexeme tile it. -/
theorem Tiles.lexeme {k : LexemeKind} (hw : w ≠ [])
    (hfragment : k = .fragment → ∀ c ∈ w, isSpace c = false) (hcomment : k = .comment → t = [])
    (H : Tiles (s.after w.length) t us) :
    Tiles s (w ++ t) ((s.lexeme k w).tokens table opcode? ++ us) := by
  have visible (hk : k = .fragment) (kind : TokenKind) :
      ∀ c ∈ w, isSpace c = true → kind = .string ∨ kind = .comment := fun c hc hs => by
    rw [hfragment hk c hc] at hs
    cases hs
  have T := tokens_tokens table opcode? (s.lexeme k w)
  generalize (s.lexeme k w).tokens table opcode? = vs at T
  cases T with
  | comment hk => exact .token hw rfl rfl (fun _ _ _ => .inr rfl) (fun _ => hcomment hk) H
  | string => exact .token hw rfl rfl (fun _ _ _ => .inl rfl) (fun h => nomatch h) H
  | opcode hk => exact .token hw rfl rfl (visible hk _) (fun h => nomatch h) H
  | plain hk =>
    exact .token hw rfl rfl (visible hk _) (fun h => absurd h fst_classify_ne_comment) H
  | @label name hk _ hname =>
    obtain ⟨hpos, hstop⟩ := length_of_labelName? hname
    -- a label falls into two tokens, and its colon starts where the name ends
    obtain rfl : w = name ++ [':'] := (labelName?_eq_some.1 hname).1
    have hstop : (s.lexeme k (name ++ [':'])).stop = s.col + name.length + 1 := hstop
    rw [List.length_append, ← Place.after_after] at H
    rw [List.append_assoc]
    refine .token (List.length_pos_iff.1 hpos) ?_ rfl (fun c hc => ?_) (fun h => nomatch h)
      (.token (List.cons_ne_nil _ _) ?_ rfl (fun c hc => ?_) (fun h => nomatch h) H)
    · show Span.mk s.col ((s.lexeme k (name ++ [':'])).stop - 1) = _
      rw [hstop, Nat.add_sub_cancel]
    · exact visible hk _ c (List.mem_append_left _ hc)
    · show Span.mk ((s.lexeme k (name ++ [':'])).stop - 1) (s.lexeme k (name ++ [':'])).stop = _
      rw [hstop, Nat.add_sub_cancel]
      rfl
    · exact visible hk _ c (List.mem_append_right _ hc)

theorem Tiles.last {k : LexemeKind} (hw : w ≠ []) (hk : k ≠ .fragment) :
    Tiles s w ([s.lexeme k w].flatMap (·.tokens table opcode?)) := by
  have H : Tiles s (w ++ []) ((s.lexeme k w).tokens table opcode? ++ []) :=
    .lexeme hw (fun h => absurd h hk) (fun _ => rfl) .nil
  rwa [List.append_nil] at H

theorem tiles_scan (table : InstructionTable) (opcode? : Option Instruction) (s : Place) (t : Text) :
    Tiles s t ((s.scan t).flatMap (·.tokens table opcode?)) := by
  induction t using scan_induction generalizing s with
  | nil => rw [Place.scan_nil]; exact .nil
  | space c t hc ih => rw [Place.scan_space hc]; exact .gap hc (ih _)
  | comment t =>
    rw [Place.scan_comment]
    exact .last (List.cons_ne_nil _ _) (fun h => nomatch h)
  | unclosed body hb =>
    rw [Place.scan_unclosed hb]
    exact .last (List.cons_ne_nil _ _) (fun h => nomatch h)
  | string body t hb ih =>
    rw [Place.scan_string hb, List.flatMap_cons]
    exact .lexeme (quoted_ne_nil body) (fun h => nomatch h) (fun h => nomatch h) (ih _)
  | fragment w t hw ht ih =>
    rw [Place.scan_fragment hw ht, List.flatMap_cons]
    exact .lexeme hw.1 (fun _ c hc => (isFragmentPart_iff.1 (hw.2 c hc)).1) (fun h => nomatch h)
      (ih _)

theorem tiles_tokenize (table : InstructionTable) (line : Text) :
    Tiles .origin line (tokenize table line) :=
  tiles_scan table (lineOpcode? table line) .origin line

/-! ## What a tiling says -/

namespace Tiles

/-- The tokens of a tiling have characters, and lie between its place and the end of its text. -/
theorem bounds (H : Tiles s t us) (h : u ∈ us) :
    s.col ≤ u.span.start ∧ u.span.start < u.span.stop ∧ u.span.stop ≤ s.col + t.length := by
  induction H with
  | nil => cases h
  | gap _ _ ih =>
    have := ih h
    simp only [List.length_cons] at this ⊢
    omega
  | @token s w t v us hw hspan _ _ _ _ ih =>
    rw [List.length_append]
    rcases List.mem_cons.1 h with rfl | h
    · have := List.length_pos_iff.2 hw
      simp only [hspan]
      omega
    · have := ih h
      simp only [Place.after] at this
      omega

/-- The tokens of a tiling stand one after the other. -/
theorem pairwise (H : Tiles s t us) : us.Pairwise fun u v => u.span.stop ≤ v.span.start := by
  induction H with
  | nil => exact .nil
  | gap _ _ ih => exact ih
  | token _ hspan _ _ _ H ih =>
    refine .cons (fun v hv => ?_) ih
    rw [hspan]
    exact (H.bounds hv).1

theorem countP_eq_zero (H : Tiles s t us) (h : col < s.col) :
    us.countP (·.span.contains col) = 0 := by
  refine List.countP_eq_zero.2 fun u hu => ?_
  have := (H.bounds hu).1
  simp only [Span.contains, Bool.and_eq_true, decide_eq_true_eq]
  omega

/-- A character that is no white space is in one token. -/
theorem countP_eq_one (H : Tiles s t us) (ht : t[i]? = some c) (hc : isSpace c = false) :
    us.countP (·.span.contains (s.col + i)) = 1 := by
  induction H generalizing i with
  | nil => cases ht
  | @gap s d t us hd _ ih =>
    cases i with
    | zero =>
      obtain rfl : d = c := Option.some.inj ht
      rw [hd] at hc
      cases hc
    | succ i =>
      rw [Nat.add_comm i, ← Nat.add_assoc]
      exact ih ht
  | @token s w t u us _ hspan _ _ _ H ih =>
    rw [List.countP_cons]
    by_cases hi : i < w.length
    · rw [H.countP_eq_zero (Nat.add_lt_add_left hi _), if_pos (by simp [Span.contains, hspan, hi])]
    · obtain ⟨j, rfl⟩ := Nat.exists_eq_add_of_le (Nat.not_lt.1 hi)
      rw [List.getElem?_append_right (Nat.le_add_right _ _), Nat.add_sub_cancel_left] at ht
      rw [if_neg (by simp [Span.contains, hspan]), ← Nat.add_assoc]
      exact ih ht

theorem exists_split (H : Tiles s t us) (h : u ∈ us) : ∃ pre w post, t = pre ++ (w ++ post) ∧
    u.span = ⟨s.col + pre.length, s.col + pre.length + w.length⟩ ∧
    ∀ c ∈ w, isSpace c = true → u.kind = .string ∨ u.kind = .comment := by
  induction H with
  | nil => cases h
  | @gap s d t us _ _ ih =>
    obtain ⟨pre, w, post, rfl, hspan, hblank⟩ := ih h
    refine ⟨d :: pre, w, post, rfl, ?_, hblank⟩
    rw [hspan, List.length_cons, Nat.add_assoc s.col, Nat.add_comm 1]
  | @token s w t v us _ hspan _ hblank _ _ ih =>
    rcases List.mem_cons.1 h with rfl | h
    · exact ⟨[], w, t, rfl, hspan, hblank⟩
    · obtain ⟨pre, w', post, rfl, hspan, hblank⟩ := ih h
      refine ⟨w ++ pre, w', post, (List.append_assoc ..).symm, ?_, hblank⟩
      rw [hspan, List.length_append, ← Nat.add_assoc]
      rfl

theorem eq_nil (H : Tiles s [] us) : us = [] := by
  generalize ht : ([] : Text) = t at H
  cases H with
  | nil => rfl
  | gap => cases ht
  | token hw => exact absurd (List.append_eq_nil_iff.1 ht.symm).1 hw

/-- What has no tokens is white space. -/
theorem isSpace_of_nil (H : Tiles s t []) (hc : c ∈ t) : isSpace c = true := by
  generalize hus : ([] : List Token) = us at H
  induction H with
  | nil => cases hc
  | gap hd _ ih =>
    rcases List.mem_cons.1 hc with rfl | hc
    · exact hd
    · exact ih hc hus
  | token => cases hus

/-- A comment comes last and goes to the end of the text. -/
theorem comment (H : Tiles s t us) (h : us[i]? = some u) (hu : u.kind = .comment) :
    i + 1 = us.length ∧ u.span.stop = s.col + t.length := by
  induction H generalizing i with
  | nil => cases h
  | gap _ _ ih =>
    obtain ⟨hi, hstop⟩ := ih h
    exact ⟨hi, by rw [hstop, List.length_cons, Nat.add_assoc, Nat.add_comm 1]⟩
  | @token s w t v us _ hspan _ _ hcomment H ih =>
    cases i with
    | zero =>
      obtain rfl : v = u := Option.some.inj h
      obtain rfl := hcomment hu
      obtain rfl := H.eq_nil
      exact ⟨rfl, by rw [hspan, List.append_nil]⟩
    | succ i =>
      obtain ⟨hi, hstop⟩ := ih h
      rw [List.length_cons, hi, hstop, List.length_append, ← Nat.add_assoc]
      exact ⟨rfl, rfl⟩

/-- The first token belongs to the word of the place if it starts there, else to the next one. -/
theorem word_of_head? (H : Tiles s t us) (h : us.head? = some u) :
    u.word = if u.span.start = s.col then s.word else s.next := by
  induction H with
  | nil => cases h
  | gap _ H ih =>
    -- behind a blank the place and the token both count to the next word
    have hstart := (H.bounds (List.mem_of_mem_head? h)).1
    rw [if_neg (Nat.ne_of_gt hstart)]
    exact (ih h).trans (ite_self _)
  | token _ hspan hword =>
    cases h
    rw [hspan, if_pos rfl, hword]

/-- The next token belongs to the same word if it starts where the one before ends, else to the next
word. -/
theorem word_of_getElem? (H : Tiles s t us) (hu : us[i]? = some u) (hv : us[i + 1]? = some v) :
    v.word = if v.span.start = u.span.stop then u.word else u.word + 1 := by
  induction H generalizing i with
  | nil => cases hu
  | gap _ _ ih => exact ih hu hv
  | token _ hspan hword _ _ H ih =>
    cases i with
    | zero =>
      cases hu
      rw [hspan, hword]
      exact H.word_of_head? (List.head?_eq_getElem?.trans hv)
    | succ i => exact ih hu hv

end Tiles

/-! ## Tokens of a line -/

/-- A line has no tokens if it is blank, and only then. -/
theorem tokenize_eq_nil_iff : tokenize table line = [] ↔ line.isBlank = true := by
  rw [Text.isBlank, List.all_eq_true]
  constructor
  · intro h c hc
    exact (h ▸ tiles_tokenize table line).isSpace_of_nil hc
  · intro h
    have hscan : Place.origin.scan (line ++ []) = _ := Place.scan_spaces h rfl
    rw [List.append_nil, Place.scan_nil] at hscan
    show (Place.origin.scan line).flatMap _ = []
    rw [hscan, List.flatMap_nil]

/-- What the tokens of a line have to do with its text. -/
structure Partition (t : Text) (us : List Token) : Prop where
  inside : ∀ u ∈ us, u.span.start < u.span.stop ∧ u.span.stop ≤ t.length
  ordered : us.Pairwise fun u v => u.span.start < v.span.start ∧ u.span.stop ≤ v.span.start
  /-- Every character that is no white space lies in exactly one token. -/
  covered : ∀ col c, t[col]? = some c → isSpace c = false →
    us.countP (·.span.contains col) = 1
  blank : ∀ u ∈ us, ∀ c ∈ u.text t, isSpace c = true → u.kind = .string ∨ u.kind = .comment
  comment : ∀ i u, us[i]? = some u → u.kind = .comment →
    i + 1 = us.length ∧ u.span.stop = t.length
  firstWord : ∀ u, us[0]? = some u → u.word = 0
  nextWord : ∀ i u v, us[i]? = some u → us[i + 1]? = some v →
    v.word = if v.span.start = u.span.stop then u.word else u.word + 1

/-- No token of a line occurs twice. -/
theorem Partition.index_unique (H : Partition line us) {m n : Nat} (hm : us[m]? = some u)
    (hn : us[n]? = some u) : m = n := by
  have hnodup : us.Nodup := H.ordered.imp fun {a b} h (heq : a = b) => by
    subst heq
    exact Nat.lt_irrefl _ h.1
  exact (List.getElem?_inj (List.getElem?_eq_some_iff.1 hm).1 hnodup).1 (hm.trans hn.symm)

theorem Tiles.text_eq (H : Tiles .origin line us) (h : u ∈ us) : ∃ pre w post,
    line = pre ++ (w ++ post) ∧ u.text line = w ∧
    ∀ c ∈ w, isSpace c = true → u.kind = .string ∨ u.kind = .comment := by
  obtain ⟨pre, w, post, rfl, hspan, hblank⟩ := H.exists_split h
  refine ⟨pre, w, post, rfl, ?_, hblank⟩
  rw [Token.text, sliceSpan, hspan]
  simp only [Place.origin, Nat.zero_add]
  exact slice_append

theorem Tiles.partition (H : Tiles .origin line us) : Partition line us where
  inside u hu := by
    obtain ⟨-, hpos, hstop⟩ := H.bounds hu
    exact ⟨hpos, (Nat.zero_add line.length) ▸ hstop⟩
  ordered := by
    refine List.Pairwise.imp_of_mem (fun hu _ h => ?_) H.pairwise
    exact ⟨Nat.lt_of_lt_of_le (H.bounds hu).2.1 h, h⟩
  covered col c h hc := (Nat.zero_add col) ▸ H.countP_eq_one h hc
  blank u hu := by
    obtain ⟨-, w, -, -, htext, hblank⟩ := H.text_eq hu
    rwa [htext]
  comment i u hi hu := (Nat.zero_add line.length) ▸ H.comment hi hu
  firstWord u hu := by
    rw [H.word_of_head? (List.head?_eq_getElem?.trans hu)]
    exact ite_self 0
  nextWord i u v hu hv := H.word_of_getElem? hu hv

/-- The tokens of a line partition its visible text. -/
theorem partition_tokenize (table : InstructionTable) (line : Text) :
    Partition line (tokenize table line) :=
  (tiles_tokenize table line).partition

end LogicEditor
