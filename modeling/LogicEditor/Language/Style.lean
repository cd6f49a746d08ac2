import Std.Data.TreeMap
import LogicEditor.Language.Token

/-! # Styling

Each token is shown in the style of its category, so the styling of a line depends on its tokens
only. `StyleCache` keeps the last styling of each line under a key that stays with the line, and
counts how often it had to style one. -/

namespace LogicEditor

/-- A display style. -/
inductive StyleTag
  | keyword
  | identifier
  | number
  | string
  | comment
  | operator
  | special
  | error
deriving DecidableEq, Repr

namespace StyleTag

/-- The short name of a style. -/
def name : StyleTag → String
  | .keyword => "kw"
  | .identifier => "id"
  | .number => "num"
  | .string => "str"
  | .comment => "cm"
  | .operator => "op"
  | .special => "sv"
  | .error => "err"

/-- The style of a category. -/
def ofKind : TokenKind → StyleTag
  | .keyword => .keyword
  | .identifier => .identifier
  | .number => .number
  | .string => .string
  | .comment => .comment
  | .operator => .operator
  | .builtin => .special
  | .unknown => .error

end StyleTag

/-- A column range in one style. -/
structure StyledSpan where
  span : Span
  tag : StyleTag
deriving DecidableEq, Repr

/-- The styling of a line with these tokens, in their order. -/
def styleLine (tokens : List Token) : List StyledSpan :=
  tokens.map fun t => ⟨t.span, .ofKind t.kind⟩

/-- The last styling of each line, by key. -/
structure StyleCache (κ : Type) [Ord κ] where
  styled : Std.TreeMap κ (List StyledSpan) := ∅
  /-- How often a line was styled. -/
  passes : Nat := 0

namespace StyleCache

variable {κ : Type} [Ord κ]

/-- Styles a line and keeps the result. -/
def restyle (c : StyleCache κ) (key : κ) (tokens : List Token) : StyleCache κ where
  styled := c.styled.insert key (styleLine tokens)
  passes := c.passes + 1

/-- The styling kept for a line. -/
def get? (c : StyleCache κ) (key : κ) : Option (List StyledSpan) := c.styled[key]?

/-- Drops the styling of a line. -/
def forget (c : StyleCache κ) (key : κ) : StyleCache κ := { c with styled := c.styled.erase key }

/-- The number of lines with a styling. -/
def size (c : StyleCache κ) : Nat := c.styled.size

end StyleCache
end LogicEditor
