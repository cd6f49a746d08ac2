import LogicEditor.Json.Basic
import LogicEditor.Language.Table

/-! # Syntax descriptions

A syntax description is a JSON text that declares instructions, built-in variables (member
`special_variables`) and constants. A record is an object or, with its members in the declared
order, an array. Members with a default may be left out; an object may have members of other names,
but none twice. -/

namespace LogicEditor
namespace Description

/-- A member of a record: its name, and what it is when left out, if it may be. -/
structure Field where
  name : String
  fallback? : Option Json := none

/-- The value of one member of an object. The outer `none` says that it is given twice, or not at
all without a fallback. -/
def member? (members : List (Option String × Json)) (f : Field) : Option Json :=
  match members.filter fun m => m.1 == some f.name with
  | [] => f.fallback?
  | [m] => some m.2
  | _ => none

/-- The items of an array, in place of the members of a record. -/
def positional? : List Field → List Json → Option (List Json)
  | [], [] => some []
  | [], _ :: _ => none
  | f :: fs, [] => do
    let v ← f.fallback?
    let vs ← positional? fs []
    pure (v :: vs)
  | _ :: fs, v :: items => (positional? fs items).map (v :: ·)

/-- The values of the members of a record, in the order of its fields. -/
def record? (fields : List Field) : Json → Option (List Json)
  | .object members =>
    if members.all (·.1.isSome) then fields.mapM (member? members) else none
  | .array items => positional? fields items
  | _ => none

/-- A text. -/
def string? : Json → Option String
  | .string s => some s
  | _ => none

/-- A truth value. -/
def bool? : Json → Option Bool
  | .bool b => some b
  | _ => none

/-- A list whose items are all read by `f`. -/
def list? {α : Type} (f : Json → Option α) : Json → Option (List α)
  | .array items => items.mapM f
  | _ => none

/-- The kind that a word names. -/
def kindNamed? : String → Option ArgumentKind
  | "value" => some .value
  | "label" => some .label
  | "constant" => some .constant
  | "output" => some .output
  | _ => none

/-- An argument kind: its name, or an object whose only member has that name and is null. -/
def kind? : Json → Option ArgumentKind
  | .string s => kindNamed? s
  | .object [(some s, .null)] => kindNamed? s
  | _ => none

def argument? (j : Json) : Option Argument := do
  match ← record? [⟨"name", none⟩, ⟨"kind", none⟩, ⟨"choices", some (.array [])⟩] j with
  | [name, kind, choices] =>
    pure { name := ← string? name, kind := ← kind? kind, choices := ← list? string? choices }
  | _ => none

def instruction? (j : Json) : Option Instruction := do
  let fields : List Field :=
    [⟨"name", none⟩, ⟨"summary", some (.string "")⟩, ⟨"variadic", some (.bool false)⟩,
      ⟨"args", some (.array [])⟩]
  match ← record? fields j with
  | [name, summary, variadic, args] =>
    pure {
      name := ← string? name
      summary := ← string? summary
      isVariadic := ← bool? variadic
      arguments := ← list? argument? args }
  | _ => none

/-- The declarations of a description. -/
def declarations? (j : Json) : Option Declarations := do
  let fields : List Field :=
    [⟨"instructions", none⟩, ⟨"special_variables", some (.array [])⟩,
      ⟨"constants", some (.array [])⟩]
  match ← record? fields j with
  | [instructions, builtins, constants] =>
    pure {
      instructions := ← list? instruction? instructions
      builtins := ← list? string? builtins
      constants := ← list? string? constants }
  | _ => none

end Description

/-- The table that a syntax description declares. -/
def InstructionTable.ofDescription (source : Text) : Except TableError InstructionTable :=
  match (Json.ofText? source).bind Description.declarations? with
  | some d => ofDeclarations d
  | none => .error .malformed

end LogicEditor
