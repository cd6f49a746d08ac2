import Mathlib.Data.List.TakeWhile
import LogicEditor.Language.Lexeme

/-!
# Scanning

How a line falls into lexemes, as a relation on its parts. `Lexeme.scan_induction` takes a text apart
the way the scanner does. `Lexeme.Reads` says that a text is read to its end whatever follows it: after
it stands a gap, a closed string, or nothing. So what follows can be changed without a change of the
lexemes before (`Lexeme.Reads.scan`), and a text can be put in wherever no lexeme is broken by it
(`Lexeme.exists_reads_of_fragment`, `Lexeme.exists_reads_of_gap`).
-/

namespace LogicEditor
namespace Lexeme

open Text (isSpace)

variable {t w body : Text} {c : Char} {n : Nat} {l : Lexeme} {ls : List Lexeme}

/-! ## Parts of a line -/

/-- The characters of one fragment. -/
def IsFragment (w : Text) : Prop := w ≠ [] ∧ ∀ c ∈ w, isFragmentPart c = true

/-- No fragment goes on into this text. -/
def EndsFragment (t : Text) : Prop := ∀ c, t.head? = some c → isFragmentPart c = false

theorem endsFragment_cons (h : isFragmentPart c = false) : EndsFragment (c :: t) := by
  rintro _ ⟨⟩
  exact h

theorem not_endsFragment (hw : IsFragment w) : ¬EndsFragment (w ++ t) := by
  obtain ⟨c, w, rfl⟩ := List.exists_cons_of_ne_nil hw.1
  intro h
  exact Bool.false_ne_true ((h c rfl).symm.trans (hw.2 c List.mem_cons_self))

theorem isFragmentPart_iff :
    isFragmentPart c = true ↔ isSpace c = false ∧ c ≠ commentMark ∧ c ≠ '"' := by
  simp [isFragmentPart, and_assoc]

theorem takeWhile_fragment (hw : ∀ c ∈ w, isFragmentPart c = true) (ht : EndsFragment t) :
    (w ++ t).takeWhile isFragmentPart = w := by
  cases t with
  | nil => rw [List.append_nil, List.takeWhile_eq_self_iff.2 hw]
  | cons d t => exact Text.takeWhile_append_cons hw (ht d rfl) t

theorem dropWhile_fragment (hw : ∀ c ∈ w, isFragmentPart c = true) (ht : EndsFragment t) :
    (w ++ t).dropWhile isFragmentPart = t := by
  cases t with
  | nil => rw [List.append_nil, List.dropWhile_eq_nil_iff.2 hw]
  | cons d t => exact Text.dropWhile_append_cons hw (ht d rfl) t

/-- A closed string. -/
def quoted (body : Text) : Text := '"' :: (body ++ ['"'])

theorem quoted_append (body t : Text) : quoted body ++ t = '"' :: (body ++ '"' :: t) := by
  simp [quoted]

theorem quoted_ne_nil (body : Text) : quoted body ≠ [] := List.cons_ne_nil _ _

theorem ne_quote (hb : '"' ∉ body) : ∀ c ∈ body, (c != '"') = true := by
  rintro c hc
  exact bne_iff_ne.2 fun h => hb (h ▸ hc)

/-- A text is taken apart the way it is scanned. -/
@[elab_as_elim]
theorem scan_induction {motive : Text → Prop} (nil : motive [])
    (space : ∀ c t, isSpace c = true → motive t → motive (c :: t))
    (comment : ∀ t, motive (commentMark :: t))
    (string : ∀ body t, '"' ∉ body → motive t → motive (quoted body ++ t))
    (unclosed : ∀ body, '"' ∉ body → motive ('"' :: body))
    (fragment : ∀ w t, IsFragment w → EndsFragment t → motive t → motive (w ++ t)) (t : Text) :
    motive t := by
  match t with
  | [] => exact nil
  | c :: rest =>
    by_cases hs : isSpace c
    · exact space c rest hs
        (scan_induction nil space comment string unclosed fragment rest)
    by_cases hc : c = commentMark
    · subst hc
      exact comment rest
    by_cases hq : c = '"'
    · subst hq
      have hbody : '"' ∉ rest.takeWhile (· != '"') := fun h => by
        simpa using List.mem_takeWhile_imp h
      have hlen := Text.length_dropWhile_le (· != '"') rest
      have hsplit := List.takeWhile_append_dropWhile (p := (· != '"')) (l := rest)
      cases hafter : rest.dropWhile (· != '"') with
      | nil =>
        rw [hafter, List.append_nil] at hsplit
        exact unclosed rest (hsplit ▸ hbody)
      | cons d after =>
        obtain rfl : d = '"' := by
          have := List.head?_dropWhile_not (· != '"') rest
          rw [hafter] at this
          simpa using this
        rw [hafter] at hsplit hlen
        have hlt : after.length < rest.length := hlen
        rw [← hsplit, ← quoted_append]
        exact string _ after hbody
          (scan_induction nil space comment string unclosed fragment after)
    · have hpart : isFragmentPart c = true :=
        isFragmentPart_iff.2 ⟨Bool.eq_false_iff.2 hs, hc, hq⟩
      have hlen := Text.length_dropWhile_le isFragmentPart rest
      have hends : EndsFragment (rest.dropWhile isFragmentPart) := fun d hd => by
        have := List.head?_dropWhile_not isFragmentPart rest
        rw [hd] at this
        simpa using this
      have hw : IsFragment (c :: rest.takeWhile isFragmentPart) := by
        refine ⟨List.cons_ne_nil _ _, fun d hd => ?_⟩
        rcases List.mem_cons.1 hd with rfl | hd
        · exact hpart
        · exact List.mem_takeWhile_imp hd
      have := fragment _ _ hw hends
        (scan_induction nil space comment string unclosed fragment (rest.dropWhile isFragmentPart))
      rwa [List.cons_append, List.takeWhile_append_dropWhile] at this
termination_by t.length
decreasing_by all_goals (simp only [List.length_cons] at *; omega)

/-! ## Places -/

/-- A place in a line where scanning goes on: its column, the number of the current word, and whether
a lexeme of that word ends there. -/
structure Place where
  col : Nat
  word : Nat
  inWord : Bool

namespace Place

/-- The start of a line. -/
def origin : Place := ⟨0, 0, false⟩

/-- The number of the word that starts after a gap. -/
def next (s : Place) : Nat := if s.inWord then s.word + 1 else s.word

/-- The place in the same word after `n` characters of a lexeme. -/
def after (s : Place) (n : Nat) : Place := ⟨s.col + n, s.word, true⟩

/-- The lexeme of some characters at a place. -/
def lexeme (s : Place) (kind : LexemeKind) (t : Text) : Lexeme := ⟨kind, s.col, t, s.word, !s.inWord⟩

/-- The lexemes of the rest of a line. -/
def scan (s : Place) (t : Text) : List Lexeme := Lexeme.scan s.col s.word s.inWord t

variable {s e : Place}

theorem scan_nil : s.scan [] = [] := by rw [scan, Lexeme.scan]

theorem scan_space (h : isSpace c = true) : s.scan (c :: t) = scan ⟨s.col + 1, s.next, false⟩ t := by
  rw [scan, Lexeme.scan, if_pos h]
  rfl

/-- Before the first word there is only white space. -/
theorem scan_spaces (hw : ∀ c ∈ w, isSpace c = true) (hs : s.inWord = false) :
    s.scan (w ++ t) = scan ⟨s.col + w.length, s.word, false⟩ t := by
  induction w generalizing s with
  | nil =>
    rw [List.nil_append, List.length_nil, Nat.add_zero, ← hs]
  | cons c w ih =>
    obtain ⟨hc, hw⟩ := List.forall_mem_cons.1 hw
    have hnext : s.next = s.word := by rw [next, hs]; rfl
    rw [List.cons_append, scan_space hc, hnext, ih hw rfl, List.length_cons, Nat.add_assoc,
      Nat.add_comm 1]

theorem scan_comment : s.scan (commentMark :: t) = [s.lexeme .comment (commentMark :: t)] := by
  rw [scan, Lexeme.scan, if_neg (by decide), if_pos rfl]
  rfl

theorem scan_unclosed (hb : '"' ∉ body) : s.scan ('"' :: body) = [s.lexeme .string ('"' :: body)] := by
  have htake : body.takeWhile (· != '"') = body := List.takeWhile_eq_self_iff.2 (ne_quote hb)
  have hdrop : body.dropWhile (· != '"') = [] := List.dropWhile_eq_nil_iff.2 (ne_quote hb)
  rw [scan, Lexeme.scan, if_neg (by decide), if_neg (by decide), if_pos rfl]
  simp only [htake, hdrop, List.take_nil, List.drop_nil, List.append_nil, Lexeme.scan]
  rfl

theorem scan_string (hb : '"' ∉ body) : s.scan (quoted body ++ t) =
    s.lexeme .string (quoted body) :: (s.after (quoted body).length).scan t := by
  have htake : (body ++ '"' :: t).takeWhile (· != '"') = body :=
    Text.takeWhile_append_cons (ne_quote hb) rfl t
  have hdrop : (body ++ '"' :: t).dropWhile (· != '"') = '"' :: t :=
    Text.dropWhile_append_cons (ne_quote hb) rfl t
  have hlength : (quoted body).length = body.length + 2 := by simp [quoted]
  rw [scan, quoted_append, Lexeme.scan, if_neg (by decide), if_neg (by decide), if_pos rfl]
  simp only [htake, hdrop, hlength]
  rfl

theorem scan_fragment (hw : IsFragment w) (ht : EndsFragment t) :
    s.scan (w ++ t) = s.lexeme .fragment w :: (s.after w.length).scan t := by
  obtain ⟨c, w, rfl⟩ := List.exists_cons_of_ne_nil hw.1
  have hparts : ∀ d ∈ w, isFragmentPart d = true := fun d hd => hw.2 d (List.mem_cons_of_mem _ hd)
  obtain ⟨hs, hc, hq⟩ := isFragmentPart_iff.1 (hw.2 c List.mem_cons_self)
  rw [scan, List.cons_append, Lexeme.scan, if_neg (Bool.eq_false_iff.1 hs), if_neg hc, if_neg hq]
  simp only [takeWhile_fragment hparts ht, dropWhile_fragment hparts ht]
  rfl

end Place

/-! ## Order of lexemes -/

variable {s e : Place}

/-- What a lexeme that is scanned from a place on has to do with the place. -/
structure Follows (s : Place) (l : Lexeme) : Prop where
  start : s.col ≤ l.start
  word : s.word ≤ l.word
  first : l.isFirst = true → s.next ≤ l.word
  text : l.text ≠ []

theorem Place.next_le (s : Place) : s.word ≤ s.next ∧ s.next ≤ s.word + 1 := by
  rw [next]
  split <;> omega

theorem Follows.lexeme (k : LexemeKind) (h : t ≠ []) : Follows s (s.lexeme k t) := by
  refine ⟨Nat.le_refl _, Nat.le_refl _, fun hf => ?_, h⟩
  have hout : s.inWord = false := by simpa [Place.lexeme] using hf
  rw [Place.next, hout]
  exact Nat.le_refl _

theorem Follows.of_space (H : Follows ⟨s.col + 1, s.next, false⟩ l) : Follows s l :=
  ⟨Nat.le_of_succ_le H.start, Nat.le_trans s.next_le.1 H.word, H.first, H.text⟩

theorem Follows.of_after (H : Follows (s.after n) l) : Follows s l :=
  ⟨Nat.le_of_add_right_le H.start, H.word, fun h => Nat.le_trans s.next_le.2 (H.first h), H.text⟩

theorem follows_of_mem (h : l ∈ s.scan t) : Follows s l := by
  induction t using scan_induction generalizing s with
  | nil => rw [Place.scan_nil] at h; cases h
  | space c t hc ih =>
    rw [Place.scan_space hc] at h
    exact (ih h).of_space
  | comment t =>
    rw [Place.scan_comment, List.mem_singleton] at h
    exact h ▸ .lexeme _ (List.cons_ne_nil _ _)
  | unclosed body hb =>
    rw [Place.scan_unclosed hb, List.mem_singleton] at h
    exact h ▸ .lexeme _ (List.cons_ne_nil _ _)
  | string body t hb ih =>
    rw [Place.scan_string hb] at h
    rcases List.mem_cons.1 h with rfl | h
    · exact .lexeme _ (quoted_ne_nil body)
    · exact (ih h).of_after
  | fragment w t hw ht ih =>
    rw [Place.scan_fragment hw ht] at h
    rcases List.mem_cons.1 h with rfl | h
    · exact .lexeme _ hw.1
    · exact (ih h).of_after

/-- The characters of a lexeme are those of the text where it stands. -/
theorem exists_split_of_mem (h : l ∈ s.scan t) :
    ∃ pre post, t = pre ++ (l.text ++ post) ∧ l.start = s.col + pre.length := by
  have here {s : Place} {k : LexemeKind} {w : Text} (post : Text) (h : l = s.lexeme k w) :
      ∃ pre post', w ++ post = pre ++ (l.text ++ post') ∧ l.start = s.col + pre.length := by
    subst h
    exact ⟨[], post, rfl, rfl⟩
  have behind {s : Place} {w t : Text}
      (h : ∃ pre post, t = pre ++ (l.text ++ post) ∧ l.start = (s.after w.length).col + pre.length) :
      ∃ pre post, w ++ t = pre ++ (l.text ++ post) ∧ l.start = s.col + pre.length := by
    obtain ⟨pre, post, rfl, hstart⟩ := h
    refine ⟨w ++ pre, post, (List.append_assoc ..).symm, ?_⟩
    rw [hstart, Place.after, List.length_append, Nat.add_assoc]
  induction t using scan_induction generalizing s with
  | nil => rw [Place.scan_nil] at h; cases h
  | space c t hc ih =>
    rw [Place.scan_space hc] at h
    obtain ⟨pre, post, rfl, hstart⟩ := ih h
    refine ⟨c :: pre, post, rfl, ?_⟩
    rw [hstart, List.length_cons, Nat.add_assoc, Nat.add_comm 1]
  | comment t =>
    rw [Place.scan_comment, List.mem_singleton] at h
    have := here [] h
    rwa [List.append_nil] at this
  | unclosed body hb =>
    rw [Place.scan_unclosed hb, List.mem_singleton] at h
    have := here [] h
    rwa [List.append_nil] at this
  | string body t hb ih =>
    rw [Place.scan_string hb] at h
    rcases List.mem_cons.1 h with h | h
    · exact here t h
    · exact behind (ih h)
  | fragment w t hw ht ih =>
    rw [Place.scan_fragment hw ht] at h
    rcases List.mem_cons.1 h with h | h
    · exact here t h
    · exact behind (ih h)

/-- Lexemes stand one after the other, and the first lexeme of a word comes after all lexemes of the
words before. -/
theorem pairwise_scan (s : Place) (t : Text) :
    (s.scan t).Pairwise fun a b => a.stop ≤ b.start ∧ (b.isFirst = true → a.word < b.word) := by
  induction t using scan_induction generalizing s with
  | nil => rw [Place.scan_nil]; exact .nil
  | space c t hc ih => rw [Place.scan_space hc]; exact ih _
  | comment t => rw [Place.scan_comment]; exact List.pairwise_singleton _ _
  | unclosed body hb => rw [Place.scan_unclosed hb]; exact List.pairwise_singleton _ _
  | string body t hb ih =>
    rw [Place.scan_string hb]
    refine .cons (fun l hl => ?_) (ih _)
    have H := follows_of_mem hl
    exact ⟨H.start, H.first⟩
  | fragment w t hw ht ih =>
    rw [Place.scan_fragment hw ht]
    refine .cons (fun l hl => ?_) (ih _)
    have H := follows_of_mem hl
    exact ⟨H.start, H.first⟩

/-- The first lexeme of a text starts a word, unless one goes on. -/
theorem isFirst_of_head? (hs : s.inWord = false) (h : (s.scan t).head? = some l) :
    l.isFirst = true ∧ l.word = s.word := by
  have start {s : Place} (hs : s.inWord = false) {k : LexemeKind} {w : Text} :
      (s.lexeme k w).isFirst = true ∧ (s.lexeme k w).word = s.word :=
    ⟨congrArg Bool.not hs, rfl⟩
  induction t using scan_induction generalizing s with
  | nil => rw [Place.scan_nil] at h; cases h
  | space c t hc ih =>
    rw [Place.scan_space hc, Place.next, hs] at h
    exact ih (s := ⟨s.col + 1, s.word, false⟩) rfl h
  | comment t => rw [Place.scan_comment] at h; cases h; exact start hs
  | unclosed body hb => rw [Place.scan_unclosed hb] at h; cases h; exact start hs
  | string body t hb ih => rw [Place.scan_string hb] at h; cases h; exact start hs
  | fragment w t hw ht ih => rw [Place.scan_fragment hw ht] at h; cases h; exact start hs

/-- A lexeme that starts no word stands right behind another one. -/
theorem exists_stop_eq (h : l ∈ s.scan t) (hl : l.isFirst = false) :
    s.inWord = true ∧ l.start = s.col ∨ ∃ k ∈ s.scan t, k.stop = l.start := by
  have here {s : Place} {k : LexemeKind} {w : Text} (h : l = s.lexeme k w) :
      s.inWord = true ∧ l.start = s.col := by
    subst h
    exact ⟨by simpa [Place.lexeme] using hl, rfl⟩
  -- the next lexeme either stands right behind this one or behind a later one
  have behind {s : Place} {k : LexemeKind} {w t : Text}
      (ih : l ∈ (s.after w.length).scan t → (s.after w.length).inWord = true ∧
        l.start = (s.after w.length).col ∨ ∃ k ∈ (s.after w.length).scan t, k.stop = l.start)
      (h : l ∈ s.lexeme k w :: (s.after w.length).scan t) :
      s.inWord = true ∧ l.start = s.col ∨
        ∃ j ∈ s.lexeme k w :: (s.after w.length).scan t, j.stop = l.start := by
    rcases List.mem_cons.1 h with h | h
    · exact .inl (here h)
    · rcases ih h with ⟨-, hstart⟩ | ⟨j, hj, hstop⟩
      · exact .inr ⟨_, List.mem_cons_self, hstart.symm⟩
      · exact .inr ⟨j, List.mem_cons_of_mem _ hj, hstop⟩
  induction t using scan_induction generalizing s with
  | nil => rw [Place.scan_nil] at h; cases h
  | space c t hc ih =>
    rw [Place.scan_space hc] at h ⊢
    rcases ih h with ⟨hs, -⟩ | hk
    · cases hs
    · exact .inr hk
  | comment t =>
    rw [Place.scan_comment, List.mem_singleton] at h
    exact .inl (here h)
  | unclosed body hb =>
    rw [Place.scan_unclosed hb, List.mem_singleton] at h
    exact .inl (here h)
  | string body t hb ih =>
    rw [Place.scan_string hb] at h ⊢
    exact behind ih h
  | fragment w t hw ht ih =>
    rw [Place.scan_fragment hw ht] at h ⊢
    exact behind ih h

/-! ## Texts read to the end -/

/-- From one place to another a text is read as some lexemes, whatever follows it. -/
inductive Reads : Place → Text → List Lexeme → Place → Prop
  | nil {s : Place} : Reads s [] [] s
  | space {s e : Place} {c : Char} {t : Text} {ls : List Lexeme} (hc : isSpace c = true)
      (h : Reads ⟨s.col + 1, s.next, false⟩ t ls e) : Reads s (c :: t) ls e
  | string {s e : Place} {body t : Text} {ls : List Lexeme} (hb : '"' ∉ body)
      (h : Reads (s.after (quoted body).length) t ls e) :
    Reads s (quoted body ++ t) (s.lexeme .string (quoted body) :: ls) e
  | fragment {s e : Place} {w t : Text} {d : Char} {ls : List Lexeme} (hw : IsFragment w)
      (hd : isFragmentPart d = false) (h : Reads (s.after w.length) (d :: t) ls e) :
    Reads s (w ++ d :: t) (s.lexeme .fragment w :: ls) e

namespace Reads

/-- What follows is scanned from the place that was reached. -/
theorem scan (H : Reads s t ls e) (rest : Text) : s.scan (t ++ rest) = ls ++ e.scan rest := by
  induction H with
  | nil => rfl
  | space hc _ ih => rw [List.cons_append, Place.scan_space hc, ih]
  | string hb _ ih =>
    rw [List.append_assoc, Place.scan_string hb, ih, List.cons_append]
  | @fragment s e w t d ls hw hd _ ih =>
    have hends : EndsFragment (d :: t ++ rest) := endsFragment_cons hd
    rw [List.append_assoc, Place.scan_fragment hw hends, ih, List.cons_append]

theorem col (H : Reads s t ls e) : e.col = s.col + t.length := by
  induction H with
  | nil => rfl
  | space _ _ ih => rw [ih, List.length_cons, Nat.add_assoc, Nat.add_comm 1]
  | string _ _ ih | fragment _ _ _ ih => rw [ih, Place.after, List.length_append, Nat.add_assoc]

theorem stop_le (H : Reads s t ls e) (h : l ∈ ls) : l.stop ≤ e.col := by
  induction H with
  | nil => cases h
  | space _ _ ih => exact ih h
  | string _ H ih | fragment _ _ H ih =>
    rcases List.mem_cons.1 h with rfl | h
    · rw [H.col]
      exact Nat.le_add_right _ _
    · exact ih h

/-- The words that were read are those before the next one. -/
theorem words (H : Reads s t ls e) : s.next ≤ e.next ∧ (ls = [] → e.next = s.next) ∧
    (∀ l ∈ ls, l.word < e.next) ∧ (ls ≠ [] → ∃ l ∈ ls, l.word + 1 = e.next) := by
  have advance {s e : Place} {ls : List Lexeme} {k : LexemeKind} {w : Text} {n : Nat}
      (h : (s.after n).next ≤ e.next ∧ (ls = [] → e.next = (s.after n).next) ∧
        (∀ l ∈ ls, l.word < e.next) ∧ (ls ≠ [] → ∃ l ∈ ls, l.word + 1 = e.next)) :
      s.next ≤ e.next ∧ (s.lexeme k w :: ls = [] → e.next = s.next) ∧
        (∀ l ∈ s.lexeme k w :: ls, l.word < e.next) ∧
        (s.lexeme k w :: ls ≠ [] → ∃ l ∈ s.lexeme k w :: ls, l.word + 1 = e.next) := by
    obtain ⟨h1, h2, h3, h4⟩ := h
    have hnext : (s.after n).next = s.word + 1 := rfl
    refine ⟨Nat.le_trans s.next_le.2 h1, fun h => absurd h (List.cons_ne_nil _ _), ?_, fun _ => ?_⟩
    · rintro l hl
      rcases List.mem_cons.1 hl with rfl | hl
      · exact h1
      · exact h3 l hl
    · by_cases hls : ls = []
      · exact ⟨_, List.mem_cons_self, (hnext.symm.trans (h2 hls).symm)⟩
      · obtain ⟨l, hl, hw⟩ := h4 hls
        exact ⟨l, List.mem_cons_of_mem _ hl, hw⟩
  induction H with
  | nil => exact ⟨Nat.le_refl _, fun _ => rfl, fun l hl => (List.not_mem_nil hl).elim, fun h => absurd rfl h⟩
  | space _ _ ih => exact ih
  | string _ _ ih | fragment _ _ _ ih => exact advance ih

theorem getLast?_append_cons (u t : Text) (d : Char) :
    (u ++ d :: t).getLast? = (d :: t).getLast? := by
  rw [List.getLast?_append, List.getLast?_cons, Option.some_or]

theorem eq_of_nil (H : Reads s [] ls e) : ls = [] ∧ e = s := by
  generalize ht : ([] : Text) = t at H
  cases H with
  | nil => exact ⟨rfl, rfl⟩
  | space | string => cases ht
  | fragment => exact absurd ht.symm (by simp)

/-- A word goes on right behind a text just if the text ends with a string. -/
theorem inWord_iff (H : Reads s t ls e) (ht : t ≠ []) :
    e.inWord = true ↔ t.getLast? = some '"' := by
  induction H with
  | nil => exact absurd rfl ht
  | @space s e c t ls hc H ih =>
    by_cases hnil : t = []
    · subst hnil
      obtain ⟨-, rfl⟩ := H.eq_of_nil
      refine iff_of_false Bool.false_ne_true fun h => ?_
      obtain rfl : c = '"' := Option.some.inj h
      cases hc
    · rw [ih hnil, List.getLast?_cons_of_ne_nil hnil]
  | @string s e body t ls hb H ih =>
    rw [quoted_append, ← List.cons_append, getLast?_append_cons]
    by_cases hnil : t = []
    · subst hnil
      obtain ⟨-, rfl⟩ := H.eq_of_nil
      exact iff_of_true rfl rfl
    · rw [ih hnil, List.getLast?_cons_of_ne_nil hnil]
  | fragment _ _ _ ih =>
    rw [ih (List.cons_ne_nil _ _), getLast?_append_cons]

end Reads

/-! ## Where texts are read to -/

/-- What stands before a fragment is read whatever stands in its place. -/
theorem exists_reads_of_fragment (h : l ∈ s.scan t) (hk : l.kind = .fragment) :
    ∃ pre post ls, t = pre ++ (l.text ++ post) ∧ Reads s pre ls ⟨l.start, l.word, !l.isFirst⟩ ∧
      IsFragment l.text ∧ EndsFragment post := by
  induction t using scan_induction generalizing s with
  | nil => rw [Place.scan_nil] at h; cases h
  | space c t hc ih =>
    rw [Place.scan_space hc] at h
    obtain ⟨pre, post, ls, rfl, H, hrest⟩ := ih h
    exact ⟨c :: pre, post, ls, rfl, .space hc H, hrest⟩
  | comment t =>
    rw [Place.scan_comment, List.mem_singleton] at h
    subst h
    cases hk
  | unclosed body hb =>
    rw [Place.scan_unclosed hb, List.mem_singleton] at h
    subst h
    cases hk
  | string body t hb ih =>
    rw [Place.scan_string hb] at h
    rcases List.mem_cons.1 h with rfl | h
    · cases hk
    · obtain ⟨pre, post, ls, rfl, H, hrest⟩ := ih h
      exact ⟨quoted body ++ pre, post, _, by simp, .string hb H, hrest⟩
  | fragment w t hw ht ih =>
    rw [Place.scan_fragment hw ht] at h
    rcases List.mem_cons.1 h with rfl | h
    · refine ⟨[], t, [], rfl, ?_, hw, ht⟩
      simp only [Place.lexeme, Bool.not_not]
      exact .nil
    · obtain ⟨pre, post, ls, rfl, H, hl, hpost⟩ := ih h
      cases pre with
      | nil =>
        have ht : EndsFragment (l.text ++ post) := ht
        exact absurd ht (not_endsFragment hl)
      | cons d pre =>
        exact ⟨w ++ d :: pre, post, _, by simp, .fragment hw (ht d rfl) H, hl, hpost⟩

/-- A lexeme that neither goes on nor ends at a column ends before it, if it does not start there. -/
theorem exists_eq_length_add {k : LexemeKind}
    (h : (s.lexeme k w).start < s.col + n → (s.lexeme k w).stop < s.col + n) :
    n = 0 ∨ ∃ m, n = w.length + (m + 1) := by
  rcases Nat.eq_zero_or_pos n with hn | hn
  · exact .inl hn
  · have hstop : s.col + w.length < s.col + n := h (Nat.lt_add_of_pos_right hn)
    obtain ⟨m, rfl⟩ := Nat.exists_eq_add_of_lt (Nat.lt_of_add_lt_add_left hstop)
    exact .inr ⟨m, rfl⟩

/-- What stands before a column at which no lexeme goes on or ends is read whatever comes there. -/
theorem exists_reads_of_gap (hn : n ≤ t.length)
    (h : ∀ l ∈ s.scan t, l.start < s.col + n → l.stop < s.col + n) :
    ∃ ls e, Reads s (t.take n) ls e ∧ (e.inWord = true → s.inWord = true ∧ n = 0) := by
  have later {s : Place} {k : LexemeKind} {w t : Text} {m : Nat}
      (h : ∀ l ∈ s.lexeme k w :: (s.after w.length).scan t,
        l.start < s.col + (w.length + (m + 1)) → l.stop < s.col + (w.length + (m + 1))) :
      ∀ l ∈ (s.after w.length).scan t, l.start < (s.after w.length).col + (m + 1) →
        l.stop < (s.after w.length).col + (m + 1) := by
    rw [Place.after, Nat.add_assoc]
    exact fun l hl => h l (List.mem_cons_of_mem _ hl)
  induction t using scan_induction generalizing s n with
  | nil => exact ⟨[], s, by rw [List.take_nil]; exact .nil, fun h => ⟨h, Nat.le_zero.1 hn⟩⟩
  | space c t hc ih =>
    cases n with
    | zero => exact ⟨[], s, .nil, fun h => ⟨h, rfl⟩⟩
    | succ n =>
      rw [Place.scan_space hc] at h
      have hlater : ∀ l ∈ Place.scan ⟨s.col + 1, s.next, false⟩ t,
          l.start < s.col + 1 + n → l.stop < s.col + 1 + n := by
        rwa [Nat.add_assoc, Nat.add_comm 1]
      obtain ⟨ls, e, H, he⟩ := ih (Nat.le_of_succ_le_succ hn) hlater
      exact ⟨ls, e, .space hc H, fun h => absurd (he h).1 Bool.false_ne_true⟩
  | comment t =>
    rw [Place.scan_comment] at h
    obtain rfl | ⟨m, rfl⟩ := exists_eq_length_add (h _ List.mem_cons_self)
    · exact ⟨[], s, .nil, fun h => ⟨h, rfl⟩⟩
    · omega
  | unclosed body hb =>
    rw [Place.scan_unclosed hb] at h
    obtain rfl | ⟨m, rfl⟩ := exists_eq_length_add (h _ List.mem_cons_self)
    · exact ⟨[], s, .nil, fun h => ⟨h, rfl⟩⟩
    · omega
  | string body t hb ih =>
    rw [Place.scan_string hb] at h
    obtain rfl | ⟨m, rfl⟩ := exists_eq_length_add (h _ List.mem_cons_self)
    · exact ⟨[], s, .nil, fun h => ⟨h, rfl⟩⟩
    · rw [List.length_append, Nat.add_le_add_iff_left] at hn
      obtain ⟨ls, e, H, he⟩ := ih hn (later h)
      have H' := Reads.string hb H
      rw [← List.take_length_add_append] at H'
      exact ⟨_, e, H', fun h => absurd (he h).2 (Nat.succ_ne_zero m)⟩
  | fragment w t hw ht ih =>
    rw [Place.scan_fragment hw ht] at h
    obtain rfl | ⟨m, rfl⟩ := exists_eq_length_add (h _ List.mem_cons_self)
    · exact ⟨[], s, .nil, fun h => ⟨h, rfl⟩⟩
    · rw [List.length_append, Nat.add_le_add_iff_left] at hn
      obtain ⟨ls, e, H, he⟩ := ih hn (later h)
      cases t with
      | nil => cases hn
      | cons d t =>
        have H' := Reads.fragment hw (ht d rfl) H
        rw [← List.take_succ_cons, ← List.take_length_add_append] at H'
        exact ⟨_, e, H', fun h => absurd (he h).2 (Nat.succ_ne_zero m)⟩

end Lexeme
end LogicEditor
