import LogicEditor.Text.Basic

/-! # Written patterns

The syntax tree of a regular expression, as it is written: flags and classes are not resolved yet.
`PatternError` lists what can be wrong with a pattern. -/

namespace LogicEditor
namespace Pattern

/-- Why a pattern is refused. -/
inductive PatternError
  /-- A group is not closed, or a closing parenthesis has no group. -/
  | unbalancedGroup
  /-- A group has no name where one is announced, or one with wrong characters. -/
  | badGroupName
  /-- Two groups have the same name. -/
  | duplicateGroupName
  /-- A flag is unknown or repeated, or a minus sign stands alone. -/
  | badFlags
  /-- Looking ahead or behind is not supported. -/
  | lookaround
  /-- Referring back to a group is not supported. -/
  | backreference
  /-- Nothing stands before a repetition. -/
  | nothingToRepeat
  /-- The counts of a repetition are malformed. -/
  | badCount
  /-- An escape sequence is unknown or not complete. -/
  | badEscape
  /-- A hexadecimal number is malformed or names no character. -/
  | badCodePoint
  /-- A class is not closed. -/
  | unclosedClass
  /-- A range of a class is backward or has an end that is no character. -/
  | badRange
  /-- There is no character property of this name. -/
  | unknownProperty
  /-- The part of the pattern would match single bytes of a character. -/
  | bytes
  /-- Groups and repetitions are nested too deep. -/
  | tooDeep
  /-- The pattern takes too much memory. -/
  | tooLarge
deriving DecidableEq, Repr

/-- The text shown for the error. -/
def PatternError.message : PatternError → String
  | .unbalancedGroup => "unbalanced group"
  | .badGroupName => "bad group name"
  | .duplicateGroupName => "duplicate group name"
  | .badFlags => "bad flags"
  | .lookaround => "look-around is not supported"
  | .backreference => "backreferences are not supported"
  | .nothingToRepeat => "nothing to repeat"
  | .badCount => "bad repetition count"
  | .badEscape => "bad escape sequence"
  | .badCodePoint => "bad code point"
  | .unclosedClass => "unclosed class"
  | .badRange => "bad range in class"
  | .unknownProperty => "unknown property"
  | .bytes => "does not match whole characters"
  | .tooDeep => "nested too deep"
  | .tooLarge => "too large"

/-- The flags of a pattern. -/
inductive Flag
  /-- `i`: letters match in either case. -/
  | ignoreCase
  /-- `m`: `^` and `$` match at every line. -/
  | multiLine
  /-- `s`: `.` matches line feeds. -/
  | dotAll
  /-- `U`: repetitions are lazy unless marked greedy. -/
  | swapGreed
  /-- `u`: classes and word boundaries are those of Unicode. -/
  | unicode
  /-- `R`: carriage returns end lines too. -/
  | crlf
  /-- `x`: white space and comments in the pattern are ignored. -/
  | verbose
deriving DecidableEq, Repr

/-- A change of flags: what is switched on, and what is switched off after the minus sign. -/
structure FlagChange where
  on : List Flag := []
  off : List Flag := []
deriving DecidableEq, Repr

/-- What a change does to a flag. -/
def FlagChange.state? (c : FlagChange) (f : Flag) : Option Bool :=
  if c.on.contains f then some true else if c.off.contains f then some false else none

/-- A place in the text that a pattern asks for. -/
inductive Anchor
  /-- `^` -/
  | lineStart
  /-- `$` -/
  | lineEnd
  /-- `\A` -/
  | textStart
  /-- `\z` -/
  | textEnd
  /-- `\b` -/
  | wordBoundary
  /-- `\B` -/
  | notWordBoundary
  /-- `\b{start}` -/
  | wordStart
  /-- `\b{end}` -/
  | wordEnd
  /-- `\b{start-half}` -/
  | wordStartHalf
  /-- `\b{end-half}` -/
  | wordEndHalf
deriving DecidableEq, Repr

/-- A character, and whether it was written as a byte: `\x` and two digits. -/
structure Literal where
  char : Char
  isByte : Bool := false
deriving DecidableEq, Repr

/-- The classes with a letter of their own: `\d`, `\s` and `\w`. -/
inductive LetterClass
  | digit
  | space
  | word
deriving DecidableEq, Repr

/-- The classes with a name between colons, such as `[:alpha:]`. -/
inductive NamedClass
  | alnum | alpha | ascii | blank | cntrl | digit | graph | lower | print | punct | space | upper
  | word | xdigit
deriving DecidableEq, Repr

def NamedClass.ofName? : String → Option NamedClass
  | "alnum" => some .alnum
  | "alpha" => some .alpha
  | "ascii" => some .ascii
  | "blank" => some .blank
  | "cntrl" => some .cntrl
  | "digit" => some .digit
  | "graph" => some .graph
  | "lower" => some .lower
  | "print" => some .print
  | "punct" => some .punct
  | "space" => some .space
  | "upper" => some .upper
  | "word" => some .word
  | "xdigit" => some .xdigit
  | _ => none

/-- A character property asked for by name, or by name and value. -/
inductive PropertyQuery
  | named (name : Text)
  | valued (name value : Text)
deriving DecidableEq, Repr

/-- How two sets of a class are combined. -/
inductive SetOperator
  /-- `&&` -/
  | intersection
  /-- `--` -/
  | difference
  /-- `~~` -/
  | symmetricDifference
deriving DecidableEq, Repr

mutual

inductive ClassItem
  | literal (l : Literal)
  | range (lo hi : Literal)
  | named (c : NamedClass) (negated : Bool)
  | letter (c : LetterClass) (negated : Bool)
  | property (q : PropertyQuery) (negated : Bool)
  | bracketed (negated : Bool) (set : ClassSet)

/-- What stands between the brackets of a class. -/
inductive ClassSet
  | union (items : List ClassItem)
  | binary (op : SetOperator) (left right : ClassSet)

end

/-- A regular expression as written. -/
inductive Ast
  | empty
  | flags (change : FlagChange)
  | literal (l : Literal)
  | dot
  | anchor (a : Anchor)
  | letter (c : LetterClass) (negated : Bool)
  | property (q : PropertyQuery) (negated : Bool)
  | bracketed (negated : Bool) (set : ClassSet)
  /-- A repetition; without `max?` it has no upper bound. -/
  | repeated (min : Nat) (max? : Option Nat) (greedy : Bool) (sub : Ast)
  /-- A group that only groups, with the flags that hold within. -/
  | group (change : FlagChange) (sub : Ast)
  /-- A group that captures what it matches, with its number. -/
  | capture (index : Nat) (sub : Ast)
  | concat (parts : List Ast)
  | alternation (branches : List Ast)

/-! ## Depth -/

mutual

/-- How deep the brackets of a class item are nested. -/
def ClassItem.depth : ClassItem → Nat
  | .bracketed _ set => set.depth + 1
  | _ => 0

/-- How deep the brackets and operators of a class are nested. A union of several items counts as
one level. -/
def ClassSet.depth : ClassSet → Nat
  | .union items =>
    let d := depthOfItems items
    if items.length ≤ 1 then d else d + 1
  | .binary _ left right => max left.depth right.depth + 1

/-- The greatest depth among some items. -/
def depthOfItems : List ClassItem → Nat
  | [] => 0
  | i :: is => max i.depth (depthOfItems is)

end

mutual

/-- How deep groups, repetitions, alternatives, sequences and classes are nested. -/
def Ast.depth : Ast → Nat
  | .bracketed _ set => set.depth + 1
  | .repeated _ _ _ sub | .group _ sub | .capture _ sub => sub.depth + 1
  | .concat parts => depthOfParts parts + 1
  | .alternation branches => depthOfParts branches + 1
  | _ => 0

/-- The greatest depth among some expressions. -/
def depthOfParts : List Ast → Nat
  | [] => 0
  | a :: as => max a.depth (depthOfParts as)

end

end Pattern
end LogicEditor
