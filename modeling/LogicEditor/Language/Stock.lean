import LogicEditor.Language.Table

/-! # The stock processor

The instruction table of the processors of the stock game. -/

namespace LogicEditor
namespace Stock

/-- An argument that takes any value. -/
def value (name : String) : Argument := { name, kind := .value }

/-- An argument that names a jump target. -/
def label (name : String) : Argument := { name, kind := .label }

/-- An argument that is assigned to. -/
def output (name : String) : Argument := { name, kind := .output }

/-- An argument that is one of some words. -/
def constant (name : String) (choices : List String) : Argument :=
  { name, kind := .constant, choices }

/-- The comparisons of a conditional jump. -/
def conditions : List String := [
  "equal", "notEqual", "lessThan", "lessThanEq", "greaterThan", "greaterThanEq", "strictEqual",
  "always"]

/-- The opcodes, in ascending order. -/
def opcodes : List Instruction := [
  { name := "control"
    summary := "Control a linked building"
    isVariadic := true
    arguments := [
      constant "property" ["enabled", "shoot", "shootp", "config", "color"],
      value "argument"] },
  { name := "draw"
    summary := "Add a graphics operation to the draw buffer"
    isVariadic := true
    arguments := [
      constant "operation" [
        "clear", "color", "col", "stroke", "line", "rect", "lineRect", "poly", "linePoly",
        "triangle", "image"],
      value "argument"] },
  { name := "drawflush"
    summary := "Flush the draw buffer to a display"
    arguments := [value "display"] },
  { name := "end"
    summary := "Jump back to the top of the program"
    arguments := [] },
  { name := "getlink"
    summary := "Get a linked building by index"
    arguments := [output "result", value "index"] },
  { name := "jump"
    summary := "Conditionally jump to a label or line"
    arguments := [label "target", constant "condition" conditions, value "a", value "b"] },
  { name := "lookup"
    summary := "Look up a content type by id"
    arguments := [
      constant "type" ["block", "unit", "item", "liquid"],
      output "result",
      value "id"] },
  { name := "noop"
    summary := "Do nothing"
    arguments := [] },
  { name := "op"
    summary := "Perform an arithmetic or logic operation"
    arguments := [
      constant "operation" [
        "add", "sub", "mul", "div", "idiv", "mod", "pow", "equal", "notEqual", "land", "lessThan",
        "lessThanEq", "greaterThan", "greaterThanEq", "strictEqual", "shl", "shr", "or", "and",
        "xor", "not", "max", "min", "angle", "angleDiff", "len", "noise", "abs", "log", "log10",
        "floor", "ceil", "sqrt", "rand", "sin", "cos", "tan", "asin", "acos", "atan"],
      output "result",
      value "a",
      value "b"] },
  { name := "packcolor"
    summary := "Pack RGBA components into a single number"
    arguments := [output "result", value "r", value "g", value "b", value "a"] },
  { name := "print"
    summary := "Append text to the print buffer"
    arguments := [value "text"] },
  { name := "printflush"
    summary := "Flush the print buffer to a message block"
    arguments := [value "message"] },
  { name := "radar"
    summary := "Locate units around a building"
    arguments := [
      constant "target1" ["any", "enemy", "ally", "player", "attacker", "flying", "boss", "ground"],
      constant "target2" ["any", "enemy", "ally", "player", "attacker", "flying", "boss", "ground"],
      constant "target3" ["any", "enemy", "ally", "player", "attacker", "flying", "boss", "ground"],
      constant "sort" ["distance", "health", "shield", "armor", "maxHealth"],
      value "building",
      value "order",
      output "result"] },
  { name := "read"
    summary := "Read a number from a memory cell"
    arguments := [output "result", value "cell", value "address"] },
  { name := "sensor"
    summary := "Read a property of a building or unit"
    arguments := [output "result", value "target", value "property"] },
  { name := "set"
    summary := "Assign a value to a variable"
    arguments := [output "result", value "value"] },
  { name := "stop"
    summary := "Halt execution of the processor"
    arguments := [] },
  { name := "ubind"
    summary := "Bind to the next unit of a type"
    arguments := [value "type"] },
  { name := "ucontrol"
    summary := "Control the currently bound unit"
    isVariadic := true
    arguments := [
      constant "command" [
        "idle", "stop", "move", "approach", "pathfind", "autoPathfind", "boost", "target",
        "targetp", "itemDrop", "itemTake", "payDrop", "payTake", "payEnter", "mine", "flag",
        "build", "getBlock", "within", "unbind"],
      value "argument"] },
  { name := "ulocate"
    summary := "Locate a building or ore with the bound unit"
    arguments := [
      constant "find" ["building", "ore", "spawn", "damaged"],
      constant "group" ["core", "storage", "generator", "turret", "factory", "repair", "battery", "reactor"],
      value "enemy",
      value "ore",
      output "outX",
      output "outY",
      output "found",
      output "building"] },
  { name := "uradar"
    summary := "Locate units around the bound unit"
    arguments := [
      constant "target1" ["any", "enemy", "ally", "player", "attacker", "flying", "boss", "ground"],
      constant "target2" ["any", "enemy", "ally", "player", "attacker", "flying", "boss", "ground"],
      constant "target3" ["any", "enemy", "ally", "player", "attacker", "flying", "boss", "ground"],
      constant "sort" ["distance", "health", "shield", "armor", "maxHealth"],
      value "unused",
      value "order",
      output "result"] },
  { name := "wait"
    summary := "Wait a number of seconds"
    arguments := [value "seconds"] },
  { name := "write"
    summary := "Write a number to a memory cell"
    arguments := [value "value", value "cell", value "address"] }]

/-- The built-in variables, in ascending order. -/
def builtins : List String := [
  "@ammo", "@ammoCapacity", "@blast-compound", "@boosting", "@coal", "@color", "@config",
  "@controlled", "@controller", "@copper", "@counter", "@cryofluid", "@dagger", "@dead",
  "@efficiency", "@enabled", "@firstItem", "@flag", "@flare", "@graphite", "@health", "@heat",
  "@horizon", "@ipt", "@itemCapacity", "@lead", "@links", "@liquidCapacity", "@mace", "@maph",
  "@mapw", "@maxHealth", "@metaglass", "@mineX", "@mineY", "@mining", "@minute", "@mono", "@name",
  "@oil", "@payloadCount", "@payloadType", "@phase-fabric", "@plastanium", "@poly",
  "@powerCapacity", "@powerNetCapacity", "@powerNetIn", "@powerNetOut", "@powerNetStored",
  "@progress", "@pyratite", "@range", "@rotation", "@sand", "@scrap", "@second", "@server",
  "@shootX", "@shootY", "@shooting", "@silicon", "@size", "@slag", "@speed", "@spore-pod",
  "@surge-alloy", "@team", "@this", "@thisx", "@thisy", "@thorium", "@tick", "@time",
  "@timescale", "@titanium", "@totalAmmo", "@totalItems", "@totalLiquids", "@totalPower", "@type",
  "@unit", "@water", "@waveNumber", "@waveTime", "@x", "@y"]

end Stock

/-- The table of the stock processor. -/
def InstructionTable.stock : InstructionTable where
  opcodes := Stock.opcodes
  builtins := Stock.builtins
  constants := ["true", "false", "null"]

end LogicEditor
