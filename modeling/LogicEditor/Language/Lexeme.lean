import LogicEditor.Language.Word

/-! # Lexemes

A line falls into lexemes, from left to right and without regard to the instruction table: strings,
a comment, and words. White space separates words. A comment runs from its mark to the end of the
line, a string to its closing quote or, if there is none, to the end of the line. Whatever is left
falls into fragments, each up to white space, a comment mark or a quote. Lexemes without white space
between them belong to one word. -/

namespace LogicEditor

inductive LexemeKind
  | fragment
  | string
  | comment
deriving DecidableEq, Repr

/-- A lexeme: its first column, its characters, the number of its word, and whether it is the first
lexeme of that word. -/
structure Lexeme where
  kind : LexemeKind
  start : Nat
  text : Text
  word : Nat
  isFirst : Bool
deriving DecidableEq, Repr

namespace Lexeme

open Text (isSpace)

/-- The column after the lexeme. -/
def stop (l : Lexeme) : Nat := l.start + l.text.length

/-- Whether a character continues a fragment. -/
def isFragmentPart (c : Char) : Bool := !isSpace c && c != commentMark && c != '"'

/-- The lexemes of the rest of a line that starts in column `col`. The current word has number
`word`, and `inWord` tells whether a lexeme of it ends at `col`. -/
def scan (col word : Nat) (inWord : Bool) : Text → List Lexeme
  | [] => []
  | c :: rest =>
    if isSpace c then scan (col + 1) (if inWord then word + 1 else word) false rest
    else if c = commentMark then [⟨.comment, col, c :: rest, word, !inWord⟩]
    else if c = '"' then
      let body := rest.takeWhile (· != '"')
      let after := rest.dropWhile (· != '"')
      ⟨.string, col, c :: (body ++ after.take 1), word, !inWord⟩ ::
        scan (col + (body.length + 2)) word true (after.drop 1)
    else
      let body := rest.takeWhile isFragmentPart
      ⟨.fragment, col, c :: body, word, !inWord⟩ ::
        scan (col + (body.length + 1)) word true (rest.dropWhile isFragmentPart)
termination_by t => t.length
decreasing_by
  · exact Nat.lt_succ_self _
  · exact Nat.lt_succ_of_le
      (Nat.le_trans (List.drop_sublist ..).length_le (Text.length_dropWhile_le ..))
  · exact Nat.lt_succ_of_le (Text.length_dropWhile_le ..)

def ofLine (line : Text) : List Lexeme := scan 0 0 false line

end Lexeme
end LogicEditor
