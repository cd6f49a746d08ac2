import Std.Data.TreeMap
import Std.Data.TreeSet
import LogicEditor.Buffer.Change
import LogicEditor.Symbol.Basic

/-! # Symbol index

The index knows what each line contributes, under the handle of the line, and where each line is. A
second table leads back from a name to the lines that mention it. A change of one line therefore
costs no more than the names of that line, and moving lines changes their numbers only. -/

namespace LogicEditor

/-- The lines that mention one name. -/
structure Occurrences where
  labels : Std.TreeSet LineId := ∅
  assignments : Std.TreeSet LineId := ∅
  references : Std.TreeSet LineId := ∅

namespace Occurrences

/-- Changes the set of lines that belongs to a role. All references share one set. -/
def modify (o : Occurrences) (role : SymbolRole)
    (f : Std.TreeSet LineId → Std.TreeSet LineId) : Occurrences :=
  match role with
  | .labelDef => { o with labels := f o.labels }
  | .variableDef => { o with assignments := f o.assignments }
  | .labelRef | .variableRef => { o with references := f o.references }

/-- Whether no line mentions the name. -/
def isEmpty (o : Occurrences) : Bool :=
  o.labels.isEmpty && o.assignments.isEmpty && o.references.isEmpty

/-- What the name denotes. -/
def kind (o : Occurrences) : SymbolKind :=
  if !o.labels.isEmpty then .label else if !o.assignments.isEmpty then .variable else .implicit

/-- The lines that define the name as what it denotes. -/
def definitions (o : Occurrences) : List LineId :=
  match o.kind with
  | .label => o.labels.toList
  | .variable => o.assignments.toList
  | .implicit => []

end Occurrences

/-- The names of a program and where they stand. -/
structure SymbolIndex where
  contributions : Std.TreeMap LineId (List Mention) := ∅
  positions : Std.TreeMap LineId Nat := ∅
  names : Std.TreeMap String Occurrences := ∅

namespace SymbolIndex

/-! ## Names -/

def enter (id : LineId) (names : Std.TreeMap String Occurrences) (m : Mention) :
    Std.TreeMap String Occurrences :=
  names.alter m.name fun o => some ((o.getD {}).modify m.role (·.insert id))

/-- Strikes one mention of a line out. A name without mentions disappears. -/
def strike (id : LineId) (names : Std.TreeMap String Occurrences) (m : Mention) :
    Std.TreeMap String Occurrences :=
  names.alter m.name fun
    | some o =>
      let rest := o.modify m.role (·.erase id)
      if rest.isEmpty then none else some rest
    | none => none

/-- Takes back what a line contributes. -/
def withdraw (x : SymbolIndex) (id : LineId) : SymbolIndex :=
  { x with
    contributions := x.contributions.erase id
    names := (x.contributions.getD id []).foldl (strike id) x.names }

/-! ## Updates -/

/-- Notes the number of a line and leaves alone what it contributes. -/
def track (x : SymbolIndex) (id : LineId) (line : Nat) : SymbolIndex :=
  { x with positions := x.positions.insert id line }

/-- The line has a new text with new tokens, and a number. -/
def update (x : SymbolIndex) (id : LineId) (line : Nat) (text : Text) (tokens : List Token) :
    SymbolIndex :=
  let rest := x.withdraw id
  let mentions := mentionsOf text tokens
  { contributions := rest.contributions.insert id mentions
    positions := rest.positions.insert id line
    names := mentions.foldl (enter id) rest.names }

/-- The line is gone. -/
def remove (x : SymbolIndex) (id : LineId) : SymbolIndex :=
  let rest := x.withdraw id
  { rest with positions := rest.positions.erase id }

/-- Where a list of shifts takes a line. A line that no shift covers stays. -/
def target (shifts : List Shift) (line : Nat) : Nat :=
  (Shift.firstTarget? shifts line).getD line

/-- The lines get new numbers. -/
def shift (x : SymbolIndex) (shifts : List Shift) : SymbolIndex :=
  { x with positions := x.positions.map fun _ line => target shifts line }

/-- The lines whose numbers change under a list of shifts, by ascending handle. -/
def movedBy (x : SymbolIndex) (shifts : List Shift) : List LineId :=
  (x.positions.toList.filter fun p => target shifts p.2 != p.2).map (·.1)

/-! ## Queries -/

/-- The number of names. -/
def size (x : SymbolIndex) : Nat := x.names.size

/-- The number of a line. -/
def position? (x : SymbolIndex) (id : LineId) : Option Nat := x.positions[id]?

/-- The numbers of some lines, ascending and each once. Lines without a number are left out. -/
def linesOf (x : SymbolIndex) (ids : List LineId) : List Nat :=
  (Std.TreeSet.ofList (ids.filterMap x.position?)).toList

/-- What is known of a name with these occurrences. -/
def symbol (x : SymbolIndex) (name : String) (o : Occurrences) : Symbol where
  name
  kind := o.kind
  definingLine? := (x.linesOf o.definitions).head?
  references := x.linesOf o.references.toList

/-- What is known of a name. -/
def get? (x : SymbolIndex) (name : String) : Option Symbol := x.names[name]?.map (x.symbol name)

/-- What a name denotes. -/
def kind? (x : SymbolIndex) (name : String) : Option SymbolKind := x.names[name]?.map (·.kind)

/-- What is known of all names, in ascending order of the names. -/
def all (x : SymbolIndex) : List Symbol := x.names.toList.map fun p => x.symbol p.1 p.2

end SymbolIndex
end LogicEditor
