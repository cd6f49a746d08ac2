import LogicEditor.Pattern.Syntax
import LogicEditor.Text.CharClass

/-! # Reading patterns

A pattern is read from left to right by functions on the rest of its characters. With flag `x`, white
space and comments between the elements of a pattern are skipped; which elements that concerns is
part of the syntax. The functions that nest carry fuel, which `Ast.ofText` takes from the length of
the pattern: every element takes at least one character. -/

namespace LogicEditor
namespace Pattern

open Text (isSpace isDigit isHexDigit isAlphabetic isAlphanumeric hexValue)

/-- What is left to read, whether white space is skipped, and the number and names of the groups so
far. -/
structure Rest where
  text : Text
  verbose : Bool := false
  groups : Nat := 0
  names : List Text := []

/-- A reader of a part of a pattern. -/
abbrev Reader := StateT Rest (Except PatternError)

namespace Reader

/-! ## Characters -/

/-- The text without leading white space and comments; a comment runs through the next line feed. -/
def dropBlank : (inComment : Bool) → Text → Text
  | _, [] => []
  | true, c :: t => dropBlank (c != '\n') t
  | false, c :: t =>
    if isSpace c then dropBlank false t
    else if c = '#' then dropBlank true t
    else c :: t

/-- The next character. -/
def peek? : Reader (Option Char) := return (← get).text.head?

/-- The next character, which must not be missing. -/
def peek (e : PatternError) : Reader Char := do
  match ← peek? with
  | some c => pure c
  | none => throw e

/-- Passes over `n` characters. -/
def skip (n : Nat := 1) : Reader Unit := modify fun r => { r with text := r.text.drop n }

/-- Passes over white space and comments, if they are to be skipped. -/
def skipBlank : Reader Unit :=
  modify fun r => if r.verbose then { r with text := dropBlank false r.text } else r

/-- Passes over a character, and over white space and comments after it. -/
def skipToNext : Reader Unit := do
  skip
  skipBlank

/-- The first character that is not white space, where one number sign at the start does not count
either; without any, the first character. -/
def firstVisible? (t : Text) : Option Char :=
  let visible :=
    match t.dropWhile isSpace with
    | '#' :: u => u.dropWhile isSpace
    | u => u
  visible.head? <|> t.head?

/-- The character after the next. With flag `x` the white space between them does not count, nor does
the sign of a comment; but the comment itself does. -/
def peekSecondVisible? : Reader (Option Char) := do
  let r ← get
  let t := r.text.drop 1
  return if r.verbose then firstVisible? t else t.head?

/-- Passes over `lead`, if the text starts with it, and tells whether it did. -/
def skipOver (lead : String) : Reader Bool := do
  let r ← get
  match Text.afterLead? lead.toList r.text with
  | some t =>
    set { r with text := t }
    return true
  | none => return false

/-- Takes characters as long as they pass a test, with white space and comments skipped after each. -/
def takeVisible (p : Char → Bool) : (fuel : Nat) → Reader Text
  | 0 => return []
  | fuel + 1 => do
    match ← peek? with
    | some c =>
      if p c then
        skipToNext
        return c :: (← takeVisible p fuel)
      else return []
    | none => return []

/-- Takes all characters up to the closing brace, with white space and comments skipped after each,
and passes over the brace. -/
def takeBraced : Reader Text := do
  skipToNext
  let t ← takeVisible (· != '\x7d') (← get).text.length
  let _ ← peek .badEscape
  return t

/-! ## Numbers -/

/-- The largest number that may be written. -/
def maxNumber : Nat := 4294967295

/-- A count of a repetition: decimal digits, between which white space counts as the flags say and
around which it never does. -/
def count : Reader Nat := do
  modify fun r => { r with text := r.text.dropWhile isSpace }
  let digits ← takeVisible isDigit (← get).text.length
  let _ ← takeVisible isSpace (← get).text.length
  let n := digits.foldl (fun n c => 10 * n + hexValue c) 0
  if digits.isEmpty || maxNumber < n then throw .badCount
  return n

/-- The character with a hexadecimal code point. -/
def codePoint (digits : Text) : Reader Char := do
  let n := digits.foldl (fun n c => 16 * n + hexValue c) 0
  if n < 0xD800 ∨ 0xDFFF < n ∧ n ≤ 0x10FFFF then return Char.ofNat n
  throw .badCodePoint

/-- A number of hexadecimal digits exactly. White space and comments are skipped after each. -/
def hexDigits : (n : Nat) → Reader Text
  | 0 => return []
  | n + 1 => do
    let c ← peek .badEscape
    if !isHexDigit c then throw .badCodePoint
    skipToNext
    return c :: (← hexDigits n)

/-- A character by its code point, after the letter that announces it: between braces, or with as
many digits as the letter asks for. -/
def hexLiteral (letter : Char) : Reader Literal := do
  skipToNext
  if (← peek .badEscape) = '\x7b' then
    let digits ← takeBraced
    skipToNext
    if digits.isEmpty || !digits.all isHexDigit then throw .badCodePoint
    return { char := ← codePoint digits }
  else
    let digits ← hexDigits (if letter = 'x' then 2 else if letter = 'u' then 4 else 8)
    return { char := ← codePoint digits, isByte := letter = 'x' }

/-! ## Escape sequences -/

/-- What a single element of a pattern is. -/
inductive Primitive
  | literal (l : Literal)
  | dot
  | anchor (a : Anchor)
  | letter (c : LetterClass) (negated : Bool)
  | property (q : PropertyQuery) (negated : Bool)

/-- Whether a backslash makes the character stand for itself: ASCII characters other than letters,
digits and angle brackets. -/
def isEscapable (c : Char) : Bool :=
  c.toNat < 128 && !c.isAlphanum && c != '<' && c != '>'

/-- The property asked for between braces, and whether it must not hold: a name, or name and value
around the first `!=`, `:` or `=`. -/
def propertyQuery (t : Text) : PropertyQuery × Bool :=
  match unequal? t with
  | some (name, value) => (.valued name value, true)
  | none =>
    match Text.cut? ':' t with
    | some (name, value) => (.valued name value, false)
    | none =>
      match Text.cut? '=' t with
      | some (name, value) => (.valued name value, false)
      | none => (.named t, false)
where
  /-- The texts around the first `!=`. -/
  unequal? : Text → Option (Text × Text)
  | [] => none
  | '!' :: '=' :: t => some ([], t)
  | c :: t => (unequal? t).map fun (a, b) => (c :: a, b)

/-- A property class, after its backslash: `p` or `P` and one letter, or a query between braces. -/
def propertyClass : Reader Primitive := do
  let negated := (← peek .badEscape) = 'P'
  skipToNext
  let c ← peek .badEscape
  if c = '\x7b' then
    let t ← takeBraced
    skip
    let (query, isUnequal) := propertyQuery t
    return .property query (negated != isUnequal)
  else if c = '\\' then throw .badEscape
  else
    skipToNext
    return .property (.named [c]) negated

/-- Whether a character may stand in the name of a word boundary. -/
def isBoundaryChar (c : Char) : Bool :=
  ('a' ≤ c && c ≤ 'z') || ('A' ≤ c && c ≤ 'Z') || c == '-'

/-- A word boundary, after `\b`: it may have a name between braces. Braces that do not start with a
letter or a hyphen are left for a repetition. -/
def boundary : Reader Anchor := do
  if (← peek?) != some '\x7b' then return .wordBoundary
  let before ← get
  skipToNext
  if !isBoundaryChar (← peek .badEscape) then
    set before
    return .wordBoundary
  let name ← takeVisible isBoundaryChar (← get).text.length
  if (← peek?) != some '\x7d' then throw .badEscape
  skip
  match String.ofList name with
  | "start" => return .wordStart
  | "end" => return .wordEnd
  | "start-half" => return .wordStartHalf
  | "end-half" => return .wordEndHalf
  | _ => throw .badEscape

/-- A character given by a letter after a backslash. -/
def controlChar? : Char → Option Char
  | 'a' => some '\x07'
  | 'f' => some '\x0c'
  | 't' => some '\t'
  | 'n' => some '\n'
  | 'r' => some '\r'
  | 'v' => some '\x0b'
  | _ => none

/-- A place given by a character after a backslash. -/
def anchor? : Char → Option Anchor
  | 'A' => some .textStart
  | 'z' => some .textEnd
  | 'B' => some .notWordBoundary
  | '<' => some .wordStart
  | '>' => some .wordEnd
  | _ => none

/-- A class given by a letter after a backslash; the capital letter negates it. -/
def letterClass? : Char → Option Primitive
  | 'd' => some (.letter .digit false)
  | 'D' => some (.letter .digit true)
  | 's' => some (.letter .space false)
  | 'S' => some (.letter .space true)
  | 'w' => some (.letter .word false)
  | 'W' => some (.letter .word true)
  | _ => none

/-- An element that starts with a backslash. -/
def escaped : Reader Primitive := do
  skip
  let c ← peek .badEscape
  if isDigit c then throw .backreference
  if c = 'x' || c = 'u' || c = 'U' then return .literal (← hexLiteral c)
  if c = 'p' || c = 'P' then propertyClass
  else
    skip
    if let some p := letterClass? c then return p
    if isEscapable c then return .literal { char := c }
    if let some d := controlChar? c then return .literal { char := d }
    if c = 'b' then return .anchor (← boundary)
    if let some a := anchor? c then return .anchor a
    throw .badEscape

/-- A single element. -/
def primitive : Reader Primitive := do
  match ← peek .badEscape with
  | '\\' => escaped
  | '.' =>
    skip
    return .dot
  | '^' =>
    skip
    return .anchor .lineStart
  | '$' =>
    skip
    return .anchor .lineEnd
  | c =>
    skip
    return .literal { char := c }

/-! ## Classes -/

/-- A single element of a class, in which dots and anchors have no special meaning. -/
def classPrimitive : Reader Primitive := do
  match ← peek .unclosedClass with
  | '\\' => escaped
  | c =>
    skip
    return .literal { char := c }

/-- The character that an element of a class is; ranges have no other ends. -/
def Primitive.toLiteral : Primitive → Reader Literal
  | .literal l => return l
  | _ => throw .badRange

/-- An element as an item of a class. -/
def Primitive.toClassItem : Primitive → Reader ClassItem
  | .literal l => return .literal l
  | .letter c negated => return .letter c negated
  | .property q negated => return .property q negated
  | .dot | .anchor _ => throw .badEscape

/-- An element of a class, or a range of two. A hyphen before the closing bracket or before another
hyphen makes no range. -/
def classItem : Reader ClassItem := do
  let first ← classPrimitive
  skipBlank
  let c ← peek .unclosedClass
  let next? ← peekSecondVisible?
  if c != '-' || next? == some ']' || next? == some '-' then first.toClassItem
  else
    skipToNext
    let _ ← peek .unclosedClass
    let second ← classPrimitive
    let lo ← first.toLiteral
    let hi ← second.toLiteral
    if hi.char < lo.char then throw .badRange
    return .range lo hi

/-- A class with a name, such as `[:alpha:]`, if the text starts with one. -/
def namedClass? (t : Text) : Option (ClassItem × Text) := do
  let t ← Text.afterLead? ['[', ':'] t
  let (negated, t) := match t with
    | '^' :: t' => (true, t')
    | _ => (false, t)
  let (name, t) ← Text.cut? ':' t
  let t ← Text.afterLead? [']'] t
  let c ← NamedClass.ofName? (String.ofList name)
  pure (.named c negated, t)

/-- A set operator, if the next two characters are one. -/
def setOperator? : Reader (Option SetOperator) := do
  match (← get).text with
  | '&' :: '&' :: _ => return some .intersection
  | '-' :: '-' :: _ => return some .difference
  | '~' :: '~' :: _ => return some .symmetricDifference
  | _ => return none

/-- The set of the items after a pending operator. Operators group to the left. -/
def combine (pending? : Option (SetOperator × ClassSet)) (items : List ClassItem) : ClassSet :=
  match pending? with
  | some (op, left) => .binary op left (.union items)
  | none => .union items

/-- Hyphens right after the opening bracket, which stand for themselves. -/
def leadingHyphens : (fuel : Nat) → Reader (List ClassItem)
  | 0 => return []
  | fuel + 1 => do
    if (← peek .unclosedClass) = '-' then
      skipToNext
      return .literal { char := '-' } :: (← leadingHyphens fuel)
    else return []

/-- The opening of a class: whether it is negated, and the hyphens or the bracket that stand for
themselves there. -/
def classOpening : Reader (Bool × List ClassItem) := do
  skipToNext
  let negated := (← peek .unclosedClass) = '^'
  if negated then skipToNext
  let hyphens ← leadingHyphens (← get).text.length
  if hyphens.isEmpty && (← peek .unclosedClass) = ']' then
    skipToNext
    let _ ← peek .unclosedClass
    return (negated, [.literal { char := ']' }])
  else
    let _ ← peek .unclosedClass
    return (negated, hyphens)

mutual

/-- A class: whether it is negated, and its set. -/
def bracketed : (fuel : Nat) → Reader (Bool × ClassSet)
  | 0 => throw .tooDeep
  | fuel + 1 => do
    let (negated, items) ← classOpening
    return (negated, ← classBody fuel none items)

/-- The rest of a class after some items and a pending operator, up to the closing bracket. -/
def classBody : (fuel : Nat) → Option (SetOperator × ClassSet) → List ClassItem → Reader ClassSet
  | 0, _, _ => throw .tooDeep
  | fuel + 1, pending?, items => do
    skipBlank
    match ← peek .unclosedClass with
    | '[' =>
      let r ← get
      match namedClass? r.text with
      | some (item, t) =>
        set { r with text := t }
        classBody fuel pending? (items ++ [item])
      | none =>
        let (negated, s) ← bracketed fuel
        classBody fuel pending? (items ++ [.bracketed negated s])
    | ']' =>
      skip
      return combine pending? items
    | _ =>
      match ← setOperator? with
      | some op =>
        skip 2
        classBody fuel (some (op, combine pending? items)) []
      | none => classBody fuel pending? (items ++ [← classItem])

end

/-! ## Groups and repetitions -/

/-- The flag of a letter. -/
def flag? : Char → Option Flag
  | 'i' => some .ignoreCase
  | 'm' => some .multiLine
  | 's' => some .dotAll
  | 'U' => some .swapGreed
  | 'u' => some .unicode
  | 'R' => some .crlf
  | 'x' => some .verbose
  | _ => none

/-- Flags up to a colon or a closing parenthesis. No flag may be given twice, and the minus sign not
twice nor last. -/
def flagChange (minus : Bool) (change : FlagChange) : (fuel : Nat) → Reader FlagChange
  | 0 => throw .badFlags
  | fuel + 1 => do
    match ← peek .badFlags with
    | ':' | ')' =>
      if minus && change.off.isEmpty then throw .badFlags
      return change
    | '-' =>
      if minus then throw .badFlags
      skip
      flagChange true change fuel
    | c =>
      match flag? c with
      | some f =>
        if (change.state? f).isSome then throw .badFlags
        skip
        if minus then flagChange minus { change with off := change.off ++ [f] } fuel
        else flagChange minus { change with on := change.on ++ [f] } fuel
      | none => throw .badFlags

/-- Whether a character may start the name of a group. -/
def isNameStart (c : Char) : Bool := c == '_' || isAlphabetic c

/-- Whether a character may continue the name of a group. -/
def isNamePart (c : Char) : Bool :=
  c == '_' || c == '.' || c == '[' || c == ']' || isAlphanumeric c

/-- The name of a group up to the closing angle bracket. -/
def groupName : Reader Unit := do
  let r ← get
  match Text.cut? '>' r.text with
  | none => throw .badGroupName
  | some ([], _) => throw .badGroupName
  | some (c :: name, t) =>
    if !isNameStart c || !name.all isNamePart then throw .badGroupName
    if r.names.contains (c :: name) then throw .duplicateGroupName
    set { r with text := t, names := (c :: name) :: r.names }

/-- How a parenthesis opens. -/
inductive Opening
  /-- It only changes flags and is closed already. -/
  | flags (change : FlagChange)
  /-- It opens the group with this number. -/
  | capture (index : Nat)
  /-- It opens a group with these flags that does not capture. -/
  | group (change : FlagChange)

/-- Counts a group and tells its number. -/
def nextGroup : Reader Nat := do
  modify fun r => { r with groups := r.groups + 1 }
  return (← get).groups

/-- What follows an opening parenthesis. -/
def opening : Reader Opening := do
  skip
  skipBlank
  if (← skipOver "?=") || (← skipOver "?!") || (← skipOver "?<=") || (← skipOver "?<!") then
    throw .lookaround
  if (← skipOver "?P<") || (← skipOver "?<") then
    groupName
    return .capture (← nextGroup)
  if ← skipOver "?" then
    let change ← flagChange false {} ((← get).text.length + 1)
    let closing ← peek .badFlags
    skip
    if closing = ')' then
      if change.on.isEmpty && change.off.isEmpty then throw .nothingToRepeat
      return .flags change
    return .group change
  return .capture (← nextGroup)

/-- What a repetition repeats: the last expression of a sequence, given backwards. Flags cannot be
repeated. -/
def lastPart : List Ast → Reader (Ast × List Ast)
  | [] | .empty :: _ | .flags _ :: _ => throw .nothingToRepeat
  | a :: before => return (a, before)

/-- Whether a repetition is greedy: it is unless a question mark follows. -/
def greediness : Reader Bool := do
  if (← peek?) = some '?' then
    skip
    return false
  return true

/-- The counts of a repetition between braces, after the opening brace. -/
def counts : Reader (Nat × Option Nat) := do
  skipToNext
  let _ ← peek .badCount
  let least ← count
  let c ← peek .badCount
  let bounds ←
    if c = ',' then
      skipToNext
      if (← peek .badCount) = '\x7d' then pure (least, none)
      else
        let most ← count
        pure (least, some most)
    else pure (least, some least)
  if (← peek .badCount) != '\x7d' then throw .badCount
  skipToNext
  return bounds

/-- A sequence of expressions, given backwards, as one expression. -/
def sequence : List Ast → Ast
  | [] => .empty
  | [a] => a
  | as => .concat as.reverse

/-- A primitive as an expression. -/
def Primitive.toAst : Primitive → Ast
  | .literal l => .literal l
  | .dot => .dot
  | .anchor a => .anchor a
  | .letter c negated => .letter c negated
  | .property q negated => .property q negated

mutual

/-- An expression up to the end of the pattern or of its group. -/
def expression : (fuel : Nat) → Reader Ast
  | 0 => throw .tooDeep
  | fuel + 1 => do
    let first ← parts fuel []
    let others ← branches fuel
    return if others.isEmpty then first else .alternation (first :: others)

/-- The further branches of an alternation. -/
def branches : (fuel : Nat) → Reader (List Ast)
  | 0 => throw .tooDeep
  | fuel + 1 => do
    if (← peek?) = some '|' then
      skip
      let a ← parts fuel []
      return a :: (← branches fuel)
    else return []

/-- The rest of a sequence after some expressions, which are given backwards. -/
def parts : (fuel : Nat) → List Ast → Reader Ast
  | 0, _ => throw .tooDeep
  | fuel + 1, before => do
    skipBlank
    match ← peek? with
    | none | some ')' | some '|' => return sequence before
    | some '(' =>
      let outer := (← get).verbose
      match ← opening with
      | .flags change =>
        modify fun r => { r with verbose := (change.state? .verbose).getD outer }
        parts fuel (.flags change :: before)
      | .capture index => parts fuel (.capture index (← body fuel {}) :: before)
      | .group change => parts fuel (.group change (← body fuel change) :: before)
    | some '[' =>
      let (negated, s) ← bracketed fuel
      parts fuel (.bracketed negated s :: before)
    | some '?' => repetition fuel 0 (some 1) before
    | some '*' => repetition fuel 0 none before
    | some '+' => repetition fuel 1 none before
    | some '\x7b' =>
      let (a, before) ← lastPart before
      let (least, most?) ← counts
      let greedy ← greediness
      if most?.any (· < least) then throw .badCount
      parts fuel (.repeated least most? greedy a :: before)
    | some _ => parts fuel ((← primitive).toAst :: before)

/-- A repetition given by one character, and the rest of its sequence. -/
def repetition : (fuel : Nat) → Nat → Option Nat → List Ast → Reader Ast
  | 0, _, _, _ => throw .tooDeep
  | fuel + 1, least, most?, before => do
    let (a, before) ← lastPart before
    skip
    let greedy ← greediness
    parts fuel (.repeated least most? greedy a :: before)

/-- The body of a group up to its closing parenthesis. The flag `x` of the group ends with it. -/
def body : (fuel : Nat) → FlagChange → Reader Ast
  | 0, _ => throw .tooDeep
  | fuel + 1, change => do
    let outer := (← get).verbose
    modify fun r => { r with verbose := (change.state? .verbose).getD outer }
    let a ← expression fuel
    if (← peek?) != some ')' then throw .unbalancedGroup
    modify fun r => { r with verbose := outer }
    skip
    return a

end

end Reader

/-- How deep a pattern may be nested. -/
def maxDepth : Nat := 250

/-- The expression that a whole text writes. -/
def Ast.ofText (t : Text) : Except PatternError Ast := do
  let (a, rest) ← (Reader.expression (4 * t.length + 4)).run { text := t }
  if !rest.text.isEmpty then throw .unbalancedGroup
  if maxDepth < a.depth then throw .tooDeep
  return a

end Pattern
end LogicEditor
