import LogicEditor.Buffer.Edit
import LogicEditor.Options
import LogicEditor.Pattern.Compile
import LogicEditor.Text.CharClass

/-! # Search and replacement

Matches lie within one line and are not empty. `Matcher.lineMatches` finds those of a line; all else
is made of it. What takes the place of a match is put in as it is and not searched again. The search
within a text is left to an engine (`Engine`), which is that of `Pattern.Program` if no other is
named. -/

namespace LogicEditor

/-- How a pattern is searched for. -/
structure SearchFlags where
  caseSensitive : Bool := false
  /-- No word character may stand next to a match. -/
  wholeWord : Bool := false
  /-- The pattern is a regular expression. -/
  regex : Bool := false
  /-- After the last line comes the first. -/
  wrap : Bool := false
deriving DecidableEq, Repr

namespace SearchFlags

/-- Flags without wish of the user: the search wraps around. -/
def standard : SearchFlags := { wrap := true }

/-- The flags of either. -/
def union (f g : SearchFlags) : SearchFlags where
  caseSensitive := f.caseSensitive || g.caseSensitive
  wholeWord := f.wholeWord || g.wholeWord
  regex := f.regex || g.regex
  wrap := f.wrap || g.wrap

/-- The flags as bits of a number. -/
def bits (f : SearchFlags) : Nat :=
  f.caseSensitive.toNat + 2 * f.wholeWord.toNat + 4 * f.regex.toNat + 8 * f.wrap.toNat

end SearchFlags

/-- The flags that the options ask for. -/
def Options.searchFlags (o : Options) : SearchFlags where
  caseSensitive := !o.ignoreCase
  wholeWord := o.wholeWord
  regex := o.regex
  wrap := o.wrapScan

/-- Where a search goes. -/
inductive SearchDirection
  | forward
  | backward
deriving DecidableEq, Repr

/-- The other direction. -/
def SearchDirection.opposite : SearchDirection → SearchDirection
  | .forward => .backward
  | .backward => .forward

/-- A match: where it starts, and how many characters it has. -/
structure Match where
  start : Position
  length : Nat
deriving DecidableEq, Repr

def Match.range (m : Match) : Range :=
  .onLine m.start.line m.start.col (m.start.col + m.length)

/-- An engine that makes programs from patterns and searches texts with them. -/
class Engine (R : Type) where
  /-- The program of a regular expression. -/
  compile? (ignoreCase : Bool) (pattern : Text) : Except Pattern.PatternError R
  /-- The program that searches for a text itself. -/
  literal? (ignoreCase : Bool) (pattern : Text) : Except Pattern.PatternError R
  /-- The matches in a text, from left to right. -/
  spans (program : R) (t : Text) : List Span

instance : Engine Pattern.Program where
  compile? := Pattern.compile?
  literal? := Pattern.literal?
  spans := Pattern.Program.spans

/-- A pattern made ready for searching. -/
structure Matcher (R : Type) where
  program : R
  wholeWord : Bool

namespace Matcher

variable {R : Type} [Engine R]

/-- Makes a pattern ready. -/
def make (pattern : Text) (flags : SearchFlags) : Except EditError (Matcher R) :=
  let ignoreCase := !flags.caseSensitive
  match if flags.regex then Engine.compile? ignoreCase pattern
    else Engine.literal? ignoreCase pattern with
  | .ok program => .ok ⟨program, flags.wholeWord⟩
  | .error e => .error (.invalidPattern e)

/-- Whether no word character stands next to a span. -/
def isWholeWord (line : Text) (s : Span) : Bool :=
  !((line.take s.start).getLast?.any Text.isWordChar) && !((line.drop s.stop).head?.any Text.isWordChar)

/-- The matches in a line, from left to right. Empty ones do not count. -/
def lineMatches (m : Matcher R) (line : Text) : List Span :=
  ((Engine.spans m.program line).filter fun s => !s.isEmpty).filter fun s =>
    !m.wholeWord || isWholeWord line s

/-- The matches in line number `line` with text `t`. -/
def matchesOn (m : Matcher R) (line : Nat) (t : Text) : List Match :=
  (m.lineMatches t).map fun s => ⟨⟨line, s.start⟩, s.length⟩

end Matcher

/-- The text with each of some spans replaced. The text starts in column `col`, and the spans
ascend. -/
def Text.replaceSpans (new : Text) (col : Nat) : List Span → Text → Text
  | [], t => t
  | s :: ss, t =>
    t.take (s.start - col) ++ (new ++ replaceSpans new s.stop ss (t.drop (s.stop - col)))

namespace Buffer

section
variable {R : Type} [Engine R]

/-- The match on a line that is met first in the given direction, among those whose first column
passes the test. -/
def matchOn? (b : Buffer) (m : Matcher R) (d : SearchDirection) (keep : Nat → Bool) (line : Nat) :
    Option Match :=
  let found := (m.matchesOn line (b.lineText line)).filter fun x => keep x.start.col
  match d with
  | .forward => found.head?
  | .backward => found.getLast?

/-- The next match from a position on, not at it. With wrapping the search goes on from the other end
of the buffer and can come back to the position itself. -/
def nextMatch? (b : Buffer) (m : Matcher R) (wrap : Bool) (start : Position) (d : SearchDirection) :
    Option Match :=
  let above := List.range start.line
  let below := List.range' (start.line + 1) (b.lineCount - (start.line + 1))
  let anywhere := b.matchOn? m d fun _ => true
  match d with
  | .forward =>
    b.matchOn? m d (fun col => start.col < col) start.line <|> below.findSome? anywhere <|>
      if wrap then
        above.findSome? anywhere <|> b.matchOn? m d (fun col => col ≤ start.col) start.line
      else none
  | .backward =>
    b.matchOn? m d (fun col => col < start.col) start.line <|> above.reverse.findSome? anywhere <|>
      if wrap then
        below.reverse.findSome? anywhere <|> b.matchOn? m d (fun col => start.col ≤ col) start.line
      else none

end

/-- The next match of a pattern. An empty pattern has no matches. -/
def find (b : Buffer) (pattern : Text) (start : Position) (d : SearchDirection)
    (flags : SearchFlags) (R : Type := Pattern.Program) [Engine R] :
    Except EditError (Option Match) := do
  if let some e := b.lineError? start.line then throw e
  if pattern.isEmpty then return none
  let m : Matcher R ← Matcher.make pattern flags
  return b.nextMatch? m flags.wrap start d

/-- The matches of a pattern in the lines from `first` up to but not including `stop`. -/
def findAll (b : Buffer) (pattern : Text) (first stop : Nat) (flags : SearchFlags)
    (R : Type := Pattern.Program) [Engine R] : Except EditError (List Match) := do
  if pattern.isEmpty then return []
  let m : Matcher R ← Matcher.make pattern flags
  return (List.range' first (min stop b.lineCount - first)).flatMap fun line =>
    m.matchesOn line (b.lineText line)

end Buffer

namespace Edit

/-- Puts a text in place of a match and returns the position after it. -/
def replaceMatch (m : Match) (new : Text) : EditM Buffer Position := do
  stopIf (Buffer.columnOverflows ((← get).lineText m.start.line) (m.start.col + m.length))
  replaceRange m.range new

/-- Replaces the matches in line number `line` and in those below it, line after line, in so many
steps at most, and returns the number of replacements. It looks at the buffer as it has become, and
goes on behind the lines that take the place of a line. -/
def replaceLines {R : Type} [Engine R] (m : Matcher R) (new : Text) :
    (steps line : Nat) → EditM Buffer Nat
  | 0, _ => pure 0
  | steps + 1, line => do
    let b ← get
    if b.lineCount ≤ line then return 0
    let t := b.lineText line
    let spans := m.lineMatches t
    if spans.isEmpty then replaceLines m new steps (line + 1)
    else
      let replaced := Text.replaceSpans new 0 spans t
      setLine line replaced
      let n ← replaceLines m new steps (line + (Text.lines replaced).length)
      return spans.length + n

/-- Replaces the matches of a pattern, line after line, and returns the number of replacements. There
is a step for each line. A command that is cancelled after some steps leaves the lines after them
alone. -/
def replaceUntil (pattern new : Text) (flags : SearchFlags) (cancelled : Option Nat)
    (R : Type := Pattern.Program) [Engine R] : EditM Buffer Nat := do
  if pattern.isEmpty then return 0
  let m ← (Matcher.make pattern flags : Except EditError (Matcher R))
  replaceLines m new (cancelled.getD (← get).lineCount) 0

/-- Replaces all matches of a pattern and returns their number. Nothing is replaced if the command
was cancelled before it started. -/
def replaceAll (pattern new : Text) (flags : SearchFlags) (cancelled : Bool := false)
    (R : Type := Pattern.Program) [Engine R] : EditM Buffer Nat :=
  replaceUntil pattern new flags (if cancelled then some 0 else none) R

end Edit
end LogicEditor
