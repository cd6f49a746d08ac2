import LogicEditor.Text.Numeral

/-! # Options

The settings of a user and the directives that show and change them. A line of directives is a list
of words:

* `name` switches a flag on or shows a number, `noname` switches a flag off, `name!` switches it
  over, `name?` shows the value and `name=n` sets a number;
* `all` shows all options, and a line without words shows those that differ from their defaults.

Each option has a full name and a short one. -/

namespace LogicEditor

/-- The options with a number. -/
inductive NumberOption
  /-- The distance of tab stops. -/
  | tabstop
  /-- The largest number of completions. -/
  | maxCompletions
deriving DecidableEq, Repr

/-- The options that are on or off. -/
inductive FlagOption
  /-- Searches take upper and lower case for the same. -/
  | ignoreCase
  /-- Searches find whole words only. -/
  | wholeWord
  /-- Search patterns are regular expressions. -/
  | regex
  /-- Searches go on at the other end of the buffer. -/
  | wrapScan
deriving DecidableEq, Repr

inductive OptionName
  | number (o : NumberOption)
  | flag (o : FlagOption)
deriving DecidableEq, Repr

/-- The full name of a number option. -/
def NumberOption.name : NumberOption → String
  | .tabstop => "tabstop"
  | .maxCompletions => "maxcompletions"

/-- The full name of a flag. -/
def FlagOption.name : FlagOption → String
  | .ignoreCase => "ignorecase"
  | .wholeWord => "wholeword"
  | .regex => "regex"
  | .wrapScan => "wrapscan"

namespace OptionName

/-- All options, in the order of listings. -/
def all : List OptionName :=
  [.number .tabstop, .number .maxCompletions, .flag .ignoreCase, .flag .wholeWord, .flag .regex,
    .flag .wrapScan]

/-- The option with this full or short name. -/
def named? : String → Option OptionName
  | "tabstop" | "ts" => some (.number .tabstop)
  | "maxcompletions" | "mc" => some (.number .maxCompletions)
  | "ignorecase" | "ic" => some (.flag .ignoreCase)
  | "wholeword" | "ww" => some (.flag .wholeWord)
  | "regex" | "re" => some (.flag .regex)
  | "wrapscan" | "ws" => some (.flag .wrapScan)
  | _ => none

/-- Whether the name is that of an option. -/
def isKnown (name : String) : Bool := (named? name).isSome

def isFlag (name : String) : Bool :=
  match named? name with
  | some (.flag _) => true
  | _ => false

/-- Whether the name is that of a number option. -/
def isNumber (name : String) : Bool :=
  match named? name with
  | some (.number _) => true
  | _ => false

end OptionName

/-! ## Directives -/

/-- One word of a line of directives. -/
inductive Directive
  | on (name : String)
  | off (name : String)
  | toggle (name : String)
  | query (name : String)
  | assign (name value : String)
  | showChanged
  | showAll
deriving DecidableEq, Repr

namespace Directive

/-- The directive that a word gives. An assignment is seen first, then the marks at the end, and last
`no` at the start, which counts only before the name of a flag. -/
def ofWord (word : Text) : Directive :=
  if word = ['a', 'l', 'l'] then .showAll
  else
    match Text.cut? '=' word, Text.beforeLast? '?' word, Text.beforeLast? '!' word with
    | some (name, value), _, _ => .assign (String.ofList name) (String.ofList value)
    | none, some name, _ => .query (String.ofList name)
    | none, none, some name => .toggle (String.ofList name)
    | none, none, none =>
      match (Text.afterLead? ['n', 'o'] word).map String.ofList with
      | some name => if OptionName.isFlag name then .off name else plain (String.ofList word)
      | none => plain (String.ofList word)
where
  /-- A bare name shows a number and switches everything else on. -/
  plain (name : String) : Directive := if OptionName.isNumber name then .query name else .on name

def ofText (line : Text) : List Directive :=
  match (Text.fields Text.isSpace line).map ofWord with
  | [] => [.showChanged]
  | ds => ds

end Directive

/-! ## Values -/

/-- Why a directive is refused. -/
inductive OptionError
  /-- No option has this name. -/
  | unknown (name : String)
  /-- The directive suits options of the other sort only. -/
  | wrongSort (directive : String)
  /-- The value is no positive number. -/
  | invalidValue (name value : String)
deriving DecidableEq, Repr

/-- The text shown for the error. -/
def OptionError.message : OptionError → String
  | .unknown name => "unknown option: " ++ name
  | .wrongSort directive => "invalid argument: " ++ directive
  | .invalidValue name value => "invalid value for " ++ name ++ ": " ++ value

/-- The values of all options. -/
structure Options where
  tabstop : Nat := 4
  maxCompletions : Nat := 50
  ignoreCase : Bool := true
  wholeWord : Bool := false
  regex : Bool := false
  wrapScan : Bool := true
deriving DecidableEq, Repr

namespace Options

/-- The value of a number option. -/
def number (o : Options) : NumberOption → Nat
  | .tabstop => o.tabstop
  | .maxCompletions => o.maxCompletions

/-- Gives a number option a value. -/
def setNumber (o : Options) (n : Nat) : NumberOption → Options
  | .tabstop => { o with tabstop := n }
  | .maxCompletions => { o with maxCompletions := n }

/-- The value of a flag. -/
def flag (o : Options) : FlagOption → Bool
  | .ignoreCase => o.ignoreCase
  | .wholeWord => o.wholeWord
  | .regex => o.regex
  | .wrapScan => o.wrapScan

/-- Gives a flag a value. -/
def setFlag (o : Options) (v : Bool) : FlagOption → Options
  | .ignoreCase => { o with ignoreCase := v }
  | .wholeWord => { o with wholeWord := v }
  | .regex => { o with regex := v }
  | .wrapScan => { o with wrapScan := v }

/-- An option with its value. -/
def display (o : Options) : OptionName → String
  | .number n => n.name ++ "=" ++ toString (o.number n)
  | .flag f => if o.flag f then f.name else "no" ++ f.name

/-- All options, for diagnosis. -/
def debug (o : Options) : String :=
  "Options \x7b tabstop: " ++ toString o.tabstop ++
    ", maxcompletions: " ++ toString o.maxCompletions ++
    ", ignorecase: " ++ toString o.ignoreCase ++ ", wholeword: " ++ toString o.wholeWord ++
    ", regex: " ++ toString o.regex ++ ", wrapscan: " ++ toString o.wrapScan ++ " \x7d"

end Options

/-! ## Applying directives -/

/-- A command on options. What it did before it failed stays done. -/
abbrev OptionM := ExceptT OptionError (StateM Options)

namespace Options

def resolve (name : String) : OptionM OptionName :=
  match OptionName.named? name with
  | some o => pure o
  | none => throw (.unknown name)

def changeFlag (name : String) (f : Bool → Bool) : OptionM Unit := do
  match ← resolve name with
  | .flag o => modify fun v => v.setFlag (f (v.flag o)) o
  | .number _ => throw (.wrongSort name)

/-- Gives the number option with this name a value. -/
def assignNumber (name value : String) : OptionM Unit := do
  match ← resolve name with
  | .number o =>
    match (Text.index? value.toList).filter (0 < ·) with
    | some n => modify (·.setNumber n o)
    | none => throw (.invalidValue o.name value)
  | .flag _ => throw (.wrongSort (name ++ "=" ++ value))

/-- Applies a directive and returns the lines that it shows. -/
def apply : Directive → OptionM (List String)
  | .showAll => do
    let v ← get
    return OptionName.all.map v.display
  | .showChanged => do
    let v ← get
    return (OptionName.all.filter fun o => v.display o != display {} o).map v.display
  | .query name => do
    let o ← resolve name
    return [(← get).display o]
  | .on name => do
    changeFlag name fun _ => true
    return []
  | .off name => do
    changeFlag name fun _ => false
    return []
  | .toggle name => do
    changeFlag name (!·)
    return []
  | .assign name value => do
    assignNumber name value
    return []

/-- Applies directives in order, up to the first that fails, and returns the lines that they show. -/
def applyAll : List Directive → OptionM (List String)
  | [] => pure []
  | d :: ds => do
    let shown ← apply d
    return shown ++ (← applyAll ds)

/-- Applies a line of directives. -/
def setLine (line : Text) : OptionM (List String) := applyAll (Directive.ofText line)

end Options
end LogicEditor
