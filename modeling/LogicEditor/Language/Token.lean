import LogicEditor.Text.Basic

/-! # Tokens

A token is a column range of one line with a lexical category. An identifier may also have a role:
what it means for the symbols of the program. -/

namespace LogicEditor

/-- The columns from `start` up to but not including `stop`. -/
structure Span where
  start : Nat
  stop : Nat
deriving DecidableEq, Repr

namespace Span

/-- The number of columns. -/
def length (s : Span) : Nat := s.stop - s.start

/-- Whether the span has no columns. -/
def isEmpty (s : Span) : Bool := s.start == s.stop

/-- Whether a column lies in the span. -/
def contains (s : Span) (col : Nat) : Bool := s.start ≤ col && col < s.stop

end Span

/-- The part of a text in a span. -/
def Text.sliceSpan (t : Text) (s : Span) : Text := t.slice s.start s.stop

/-- The lexical category of a token. -/
inductive TokenKind
  /-- An opcode, a choice of a constant argument, or a constant. -/
  | keyword
  | identifier
  | number
  | string
  | comment
  | operator
  /-- A word that starts with `@`. -/
  | builtin
  /-- A word of no other category. -/
  | unknown
deriving DecidableEq, Repr

/-- What an identifier means for the symbols of the program. -/
inductive SymbolRole
  /-- The name before a colon at the start of a line. -/
  | labelDef
  /-- A jump target. -/
  | labelRef
  /-- A variable that is assigned to. -/
  | variableDef
  /-- A variable that is read. -/
  | variableRef
deriving DecidableEq, Repr

/-- Whether the role defines a name. -/
def SymbolRole.isDefinition : SymbolRole → Bool
  | .labelDef | .variableDef => true
  | .labelRef | .variableRef => false

/-- A token of a line. Its word is the number of the blank-separated word that it belongs to. -/
structure Token where
  span : Span
  kind : TokenKind
  role : Option SymbolRole := none
  word : Nat
deriving DecidableEq, Repr

/-- The text of a token within its line. -/
def Token.text (t : Token) (line : Text) : Text := line.sliceSpan t.span

end LogicEditor
