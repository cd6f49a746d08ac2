import LogicEditor.Pattern.Expr
import LogicEditor.Pattern.Property
import LogicEditor.Text.CharClass

/-! # Resolving patterns

The meaning of a written pattern. Flags that are switched on in a group hold up to its end, across
its branches. Without the flag `u` a pattern must still match whole characters, so that classes are
sets of ASCII characters and none of them can be negated. -/

namespace LogicEditor
namespace Pattern

open Text

/-! ## Flags -/

/-- The state of the flags that bear on the meaning of a pattern. -/
structure Modes where
  ignoreCase : Bool := false
  multiLine : Bool := false
  dotAll : Bool := false
  swapGreed : Bool := false
  unicode : Bool := true
  crlf : Bool := false
deriving DecidableEq, Repr

def Modes.after (m : Modes) (change : FlagChange) : Modes where
  ignoreCase := (change.state? .ignoreCase).getD m.ignoreCase
  multiLine := (change.state? .multiLine).getD m.multiLine
  dotAll := (change.state? .dotAll).getD m.dotAll
  swapGreed := (change.state? .swapGreed).getD m.swapGreed
  unicode := (change.state? .unicode).getD m.unicode
  crlf := (change.state? .crlf).getD m.crlf

namespace Modes

/-! ## Sets -/

/-- The set in both cases, if case is ignored. -/
def fold (m : Modes) (s : CharSet) : CharSet :=
  if !m.ignoreCase then s else if m.unicode then s.closeCase else s.closeAsciiCase

def negate (m : Modes) (negated : Bool) (s : CharSet) : Except PatternError CharSet :=
  if !negated then .ok s else if m.unicode then .ok s.negated else .error .bytes

/-- The character that a literal stands for. A byte above the ASCII range is none unless the flag `u`
makes it a code point. -/
def charOf (m : Modes) (l : Literal) : Except PatternError Char :=
  if !m.unicode && l.isByte && 127 < l.char.toNat then .error .bytes else .ok l.char

/-- The character of a literal in a class. -/
def classChar (m : Modes) (l : Literal) : Except PatternError Char := do
  let c ← m.charOf l
  if !m.unicode && 127 < c.toNat then throw .bytes
  return c

/-- The set of `\d`, `\s` or `\w`. -/
def letterSet (m : Modes) : LetterClass → CharSet
  | .digit => if m.unicode then Category.set .decimalNumber else .range 0x30 0x39
  | .space => if m.unicode then Property.whiteSpace else .ofTable "9-D 20"
  | .word => if m.unicode then Property.word else .ofTable "30-39 41-5A 5F 61-7A"

end Modes

/-- The ASCII characters of a named class. -/
def NamedClass.set : NamedClass → CharSet
  | .alnum => .ofTable "30-39 41-5A 61-7A"
  | .alpha => .ofTable "41-5A 61-7A"
  | .ascii => .range 0 0x7F
  | .blank => .ofTable "9 20"
  | .cntrl => .ofTable "0-1F 7F"
  | .digit => .range 0x30 0x39
  | .graph => .range 0x21 0x7E
  | .lower => .range 0x61 0x7A
  | .print => .range 0x20 0x7E
  | .punct => .ofTable "21-2F 3A-40 5B-60 7B-7E"
  | .space => .ofTable "9-D 20"
  | .upper => .range 0x41 0x5A
  | .word => .ofTable "30-39 41-5A 5F 61-7A"
  | .xdigit => .ofTable "30-39 41-46 61-66"

/-- Two sets combined. -/
def SetOperator.apply : SetOperator → CharSet → CharSet → CharSet
  | .intersection => CharSet.inter
  | .difference => CharSet.diff
  | .symmetricDifference => CharSet.symmDiff

namespace Modes

def propertySet (m : Modes) (q : PropertyQuery) (negated : Bool) : Except PatternError CharSet := do
  if !m.unicode then throw .bytes
  match q.set? with
  | some s => m.negate negated (m.fold s)
  | none => throw .unknownProperty

mutual

def itemSet (m : Modes) : ClassItem → Except PatternError CharSet
  | .literal l => return .single (← m.classChar l)
  | .range lo hi => return .range (← m.classChar lo).toNat (← m.classChar hi).toNat
  | .named c negated => m.negate negated (m.fold c.set)
  | .letter c negated => m.negate negated (m.letterSet c)
  | .property q negated => m.propertySet q negated
  | .bracketed negated s => do m.negate negated (m.fold (← m.classSet s))

/-- The set between the brackets of a class. -/
def classSet (m : Modes) : ClassSet → Except PatternError CharSet
  | .union items => m.itemsSet items
  | .binary op left right => do
    return op.apply (m.fold (← m.classSet left)) (m.fold (← m.classSet right))

/-- The union of the sets of some items. -/
def itemsSet (m : Modes) : List ClassItem → Except PatternError CharSet
  | [] => return .empty
  | i :: is => return (← m.itemSet i).union (← m.itemsSet is)

end

/-- The set that a dot stands for. -/
def dotSet (m : Modes) : Except PatternError CharSet :=
  if !m.unicode then .error .bytes
  else if m.dotAll then .ok .all
  else if m.crlf then .ok (CharSet.ofTable "A D").negated
  else .ok (CharSet.single '\n').negated

/-- The condition of a place. -/
def look (m : Modes) : Anchor → Look
  | .lineStart => if !m.multiLine then .textStart else if m.crlf then .crlfStart else .lineStart
  | .lineEnd => if !m.multiLine then .textEnd else if m.crlf then .crlfEnd else .lineEnd
  | .textStart => .textStart
  | .textEnd => .textEnd
  | .wordBoundary => .word (!m.unicode) .boundary
  | .notWordBoundary => .word (!m.unicode) .notBoundary
  | .wordStart => .word (!m.unicode) .start
  | .wordEnd => .word (!m.unicode) .stop
  | .wordStartHalf => .word (!m.unicode) .startHalf
  | .wordEndHalf => .word (!m.unicode) .stopHalf

end Modes

/-- The expression that matches a text, in either case if case is ignored. -/
def Expr.ofText (m : Modes) (t : Text) : Expr :=
  .sequence (t.map fun c => .ofSet (m.fold (.single c)))

mutual

/-- What a written pattern means under some flags, and the flags after it. -/
def Ast.resolve (m : Modes) : Ast → Except PatternError (Expr × Modes)
  | .empty => return (.empty, m)
  | .flags change => return (.empty, m.after change)
  | .literal l => return (.ofSet (m.fold (.single (← m.charOf l))), m)
  | .dot => return (.ofSet (← m.dotSet), m)
  | .anchor a => return (.look (m.look a), m)
  | .letter c negated => return (.ofSet (← m.negate negated (m.letterSet c)), m)
  | .property q negated => return (.ofSet (← m.propertySet q negated), m)
  | .bracketed negated s => return (.ofSet (← m.negate negated (m.fold (← m.classSet s))), m)
  | .repeated min max? greedy sub => do
    let (e, _) ← sub.resolve m
    return (.repetition min max? (greedy != m.swapGreed) e, m)
  | .group change sub => do
    let (e, _) ← sub.resolve (m.after change)
    return (e, m)
  | .capture index sub => do
    let (e, _) ← sub.resolve m
    return (.capture index e, m)
  | .concat parts => do
    let (es, m) ← resolveEach m parts
    return (.sequence es, m)
  | .alternation branches => do
    let (es, m) ← resolveEach m branches
    return (.alternation es, m)

/-- What some parts mean, each under the flags that the parts before it leave. -/
def resolveEach (m : Modes) : List Ast → Except PatternError (List Expr × Modes)
  | [] => return ([], m)
  | a :: as => do
    let (e, m) ← a.resolve m
    let (es, m) ← resolveEach m as
    return (e :: es, m)

end

end Pattern
end LogicEditor
