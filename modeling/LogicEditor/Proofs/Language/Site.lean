import LogicEditor.Proofs.Language.Token

/-!
# Words put in

A site is a place in a line where a fragment can stand. Whatever fragment is put there becomes one
lexeme, and the lexemes before it stay as they are (`Lexeme.Site.ofLine_eq`). So past the first word it
does not change the opcode of the line (`Lexeme.Site.lineOpcode?_congr`).
-/

namespace LogicEditor
namespace Lexeme

variable {table : InstructionTable} {opcode? : Option Instruction} {pre w v post : Text}
  {ls : List Lexeme} {e : Place} {l : Lexeme} {u : Token}

/-! ## Tokens of fragments -/

theorem tokens_of_isHead_eq_false (hk : l.kind = .fragment) (h : l.isHead = false) :
    l.tokens table opcode? = [l.plainToken table opcode?] := by
  have hopcode : l.opcode? table = none := by
    rw [Lexeme.opcode?, h, Bool.false_and, if_neg Bool.false_ne_true]
  simp [tokens, hk, h, hopcode]

theorem tokens_of_isHead (hk : l.kind = .fragment) (h : l.isHead = true)
    (hlabel : l.text.getLast? ≠ some ':')
    (hlookup : (table.lookup (String.ofList l.text)).isSome = true) :
    l.tokens table opcode? = [l.toToken .keyword] := by
  have hname : l.labelName? = none := by
    rw [labelName?, Text.beforeLast?, if_neg hlabel, Option.filter_none]
  have hopcode : (l.opcode? table).isSome = true := by
    rw [Lexeme.opcode?, h, hname]
    exact hlookup
  simp [tokens, hk, hname, hopcode]

/-! ## Sites -/

/-- A place where a fragment can stand: what comes before it is read whatever stands there, and no
fragment goes on behind it. -/
structure Site (pre post : Text) (ls : List Lexeme) (e : Place) : Prop where
  reads : Reads .origin pre ls e
  ends : EndsFragment post

namespace Site

variable (S : Site pre post ls e)
include S

theorem col_eq : e.col = pre.length := S.reads.col.trans (Nat.zero_add _)

/-- A word goes on at the site just if a string ends there. -/
theorem inWord_iff : e.inWord = true ↔ pre.getLast? = some '"' := by
  by_cases hpre : pre = []
  · subst hpre
    obtain ⟨-, rfl⟩ := S.reads.eq_of_nil
    exact iff_of_false Bool.false_ne_true fun h => nomatch h
  · exact S.reads.inWord_iff hpre

theorem ne_nil (h : e.word ≠ 0) : ls ≠ [] := fun hls => by
  have hnext : e.next = 0 := S.reads.words.2.1 hls
  have := e.next_le.1
  omega

theorem ofLine_eq (hw : IsFragment w) : ofLine (pre ++ (w ++ post)) =
    ls ++ e.lexeme .fragment w :: (e.after w.length).scan post :=
  (S.reads.scan _).trans (congrArg _ (Place.scan_fragment hw S.ends))

/-- The opcode of a line does not depend on what stands past the first word. -/
theorem lineOpcode?_congr (h : e.word ≠ 0) :
    lineOpcode? table (pre ++ v) = lineOpcode? table (pre ++ w) := by
  have hhead (v : Text) : (ofLine (pre ++ v)).head? = ls.head? := by
    show (Place.origin.scan (pre ++ v)).head? = _
    obtain ⟨l, ls', hls⟩ := List.exists_cons_of_ne_nil (S.ne_nil h)
    rw [S.reads.scan, hls, List.cons_append, List.head?_cons, List.head?_cons]
  rw [lineOpcode?, lineOpcode?, hhead, hhead]

theorem mem_tokenize (hw : IsFragment w)
    (hu : u ∈ (e.lexeme .fragment w).tokens table (lineOpcode? table (pre ++ (w ++ post)))) :
    u ∈ tokenize table (pre ++ (w ++ post)) := by
  rw [tokenize, S.ofLine_eq hw]
  exact List.mem_flatMap.2 ⟨_, List.mem_append_right _ List.mem_cons_self, hu⟩

/-- Only tokens of the fragment start where it starts. -/
theorem mem_tokens (hw : IsFragment w) (hu : u ∈ tokenize table (pre ++ (w ++ post)))
    (hstart : u.span.start = e.col) :
    u ∈ (e.lexeme .fragment w).tokens table (lineOpcode? table (pre ++ (w ++ post))) := by
  rw [tokenize, List.mem_flatMap] at hu
  obtain ⟨l, hl, hu⟩ := hu
  have hwithin := within_of_mem (follows_of_mem (s := .origin) hl).text hu
  rw [S.ofLine_eq hw] at hl
  rcases List.mem_append.1 hl with hl | hl
  · have := S.reads.stop_le hl
    omega
  · rcases List.mem_cons.1 hl with rfl | hl
    · exact hu
    · have hcol : e.col + w.length ≤ l.start := (follows_of_mem hl).start
      have := List.length_pos_iff.2 hw.1
      omega

end Site

end Lexeme
end LogicEditor
