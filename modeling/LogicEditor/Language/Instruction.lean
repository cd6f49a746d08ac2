/-! # Instructions

An instruction of the logic language has an opcode name, a one-line summary and a list of declared
arguments. A variadic instruction repeats its last declared argument. -/

namespace LogicEditor

/-- What an argument slot expects. -/
inductive ArgumentKind
  /-- A number, string, variable or built-in variable. -/
  | value
  /-- A jump target. -/
  | label
  /-- One of a fixed set of words. -/
  | constant
  /-- A variable that the instruction assigns to. -/
  | output
deriving DecidableEq, Repr

/-- A declared argument. Only the choices of a `constant` argument have a meaning. -/
structure Argument where
  name : String
  kind : ArgumentKind
  choices : List String := []
deriving DecidableEq, Repr

namespace Argument

/-- Whether `word` is one of the choices of a constant argument. -/
def accepts (a : Argument) (word : String) : Bool :=
  a.kind == .constant && a.choices.contains word

/-- Whether the argument is a constant that no word can fill. -/
def isUnfillable (a : Argument) : Bool := a.kind == .constant && a.choices.isEmpty

end Argument

/-- How many arguments an instruction takes. -/
inductive Arity
  /-- Exactly so many. -/
  | fixed (n : Nat)
  /-- At least so many. -/
  | variadic (min : Nat)
deriving DecidableEq, Repr

/-- The signature of one opcode. -/
structure Instruction where
  name : String
  summary : String := ""
  isVariadic : Bool := false
  arguments : List Argument := []
deriving DecidableEq, Repr

namespace Instruction

/-- A variadic instruction may drop the argument that it repeats. -/
def arity (i : Instruction) : Arity :=
  if i.isVariadic then .variadic (i.arguments.length - 1) else .fixed i.arguments.length

/-- The argument in a slot, counted from 0 after the opcode. Past the declared arguments a variadic
instruction repeats the last one and any other has none. -/
def argument? (i : Instruction) (slot : Nat) : Option Argument :=
  if i.isVariadic then i.arguments[slot]? <|> i.arguments.getLast? else i.arguments[slot]?

/-- The argument that a word of a line fills. Word 0 is the opcode itself. -/
def argumentOfWord? (i : Instruction) : (word : Nat) → Option Argument
  | 0 => none
  | slot + 1 => i.argument? slot

end Instruction
end LogicEditor
