import LogicEditor.Language.Instruction

/-! # Instruction tables

A table lists the opcodes of a processor in ascending order of their names, its built-in variables
in ascending order, and the constants that are valid in place of any value. `InstructionTable.ofDeclarations`
builds one from declarations in any order; it refuses declarations that are incomplete or repeat a
name. -/

namespace LogicEditor

/-- What a syntax description declares, in the order in which it does. -/
structure Declarations where
  instructions : List Instruction
  builtins : List String := []
  constants : List String := []
deriving DecidableEq, Repr

/-- Why a syntax description is refused. -/
inductive TableError
  /-- The text is no JSON or does not have the shape of a description. -/
  | malformed
  /-- Two instructions have this name. -/
  | duplicate (name : String)
  /-- The variadic instruction has no argument to repeat. -/
  | emptyVariadic (name : String)
  /-- The constant argument has no choices. -/
  | noChoices (instruction argument : String)
deriving DecidableEq, Repr

/-- The text shown for the error. -/
def TableError.message : TableError → String
  | .malformed => "malformed syntax description: not a description of instructions"
  | .duplicate name => "instruction `" ++ name ++ "` is declared twice"
  | .emptyVariadic name =>
    "variadic instruction `" ++ name ++ "` declares no arguments to repeat"
  | .noChoices instruction argument =>
    "argument `" ++ argument ++ "` of `" ++ instruction ++ "` is a constant with no choices"

/-- The opcodes, built-in variables and constants of a processor. -/
structure InstructionTable where
  opcodes : List Instruction := []
  builtins : List String := []
  constants : List String := []
deriving DecidableEq, Repr

namespace Instruction

/-- What is wrong with one declaration by itself. -/
def defect? (i : Instruction) : Option TableError :=
  if i.isVariadic && i.arguments.isEmpty then some (.emptyVariadic i.name)
  else (i.arguments.find? (·.isUnfillable)).map fun a => .noChoices i.name a.name

end Instruction

namespace InstructionTable

/-- The first name that two neighbours share. -/
def repeatedName? : List Instruction → Option String
  | i :: j :: rest => if i.name = j.name then some i.name else repeatedName? (j :: rest)
  | _ => none

/-- The table of some declarations. Defects of single declarations are reported before repeated
names, and the first in the order of declaration wins; of repeated names the least one is
reported. -/
def ofDeclarations (d : Declarations) : Except TableError InstructionTable :=
  match d.instructions.findSome? (·.defect?) with
  | some e => .error e
  | none =>
    let opcodes := d.instructions.mergeSort fun i j => i.name ≤ j.name
    match repeatedName? opcodes with
    | some name => .error (.duplicate name)
    | none =>
      .ok {
        opcodes
        builtins := (d.builtins.mergeSort (· ≤ ·)).eraseReps
        constants := d.constants }

/-- The opcode with this name. -/
def lookup (t : InstructionTable) (name : String) : Option Instruction :=
  t.opcodes.find? (·.name == name)

def isOpcode (t : InstructionTable) (name : String) : Bool := (t.lookup name).isSome

/-- Whether the word is a built-in variable. -/
def isBuiltin (t : InstructionTable) (word : String) : Bool := t.builtins.contains word

/-- Whether the word is a constant that is valid in place of any value. -/
def isConstant (t : InstructionTable) (word : String) : Bool := t.constants.contains word

end InstructionTable
end LogicEditor
