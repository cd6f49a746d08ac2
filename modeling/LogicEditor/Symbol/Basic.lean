import LogicEditor.Language.Token

/-! # Symbols

A name of a program is a label, a variable, or merely mentioned. What it is follows from the roles
of the tokens that mention it: a label while some line declares it, else a variable while some line
assigns to it, else implicit. -/

namespace LogicEditor

/-- What a name denotes. -/
inductive SymbolKind
  | label
  | variable
  /-- Mentioned, but nowhere defined. -/
  | implicit
deriving DecidableEq, Repr

/-- The name shown to users. -/
def SymbolKind.name : SymbolKind → String
  | .label => "label"
  | .variable => "variable"
  | .implicit => "implicit"

/-- What is known of one name, in current line numbers. -/
structure Symbol where
  name : String
  kind : SymbolKind
  /-- The first line that defines the name as what it is; none for an implicit name. -/
  definingLine? : Option Nat
  /-- The lines that mention the name without defining it, ascending. -/
  references : List Nat
deriving DecidableEq, Repr

/-- Whether some line defines the name. -/
def Symbol.isDefined (s : Symbol) : Bool := s.definingLine?.isSome

/-- A name in a role, as one line contributes it. -/
structure Mention where
  name : String
  role : SymbolRole
deriving DecidableEq, Repr

/-- The name that a token of the given line contributes, if it has a role. An empty name is none. -/
def Token.mention? (t : Token) (line : Text) : Option Mention :=
  match t.role with
  | some role => if (t.text line).isEmpty then none else some ⟨String.ofList (t.text line), role⟩
  | none => none

/-- What a line with these tokens contributes. -/
def mentionsOf (line : Text) (tokens : List Token) : List Mention :=
  tokens.filterMap (·.mention? line)

end LogicEditor
