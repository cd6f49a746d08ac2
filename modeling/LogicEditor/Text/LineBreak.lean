import LogicEditor.Text.Basic

/-! # Line breaks

A text breaks into lines at line feeds, at carriage returns, and at a carriage return followed by a
line feed, which counts as one break. -/

namespace LogicEditor

/-- The break that a text writes between its lines. -/
inductive LineEnding
  | lf
  | crlf
  | cr
deriving DecidableEq, Repr

namespace LineEnding

/-- The characters of the break. -/
def text : LineEnding → Text
  | .lf => ['\n']
  | .crlf => ['\r', '\n']
  | .cr => ['\r']

/-- The name shown to users. -/
def display : LineEnding → String
  | .lf => "LF"
  | .crlf => "CRLF"
  | .cr => "CR"

/-- The name used for diagnosis. -/
def debug : LineEnding → String
  | .lf => "Lf"
  | .crlf => "CrLf"
  | .cr => "Cr"

/-- The first break of a text; a text without breaks has line feeds. -/
def detect : Text → LineEnding
  | [] => .lf
  | '\n' :: _ => .lf
  | '\r' :: '\n' :: _ => .crlf
  | '\r' :: _ => .cr
  | _ :: t => detect t

end LineEnding

namespace Text

/-- Whether a character is part of a line break. -/
def isBreakChar (c : Char) : Bool := c == '\n' || c == '\r'

/-- Whether the text has a line break. -/
def hasBreak (t : Text) : Bool := t.any isBreakChar

/-- A list of lines with a character put before the first. -/
def consLine (c : Char) : List Text → List Text
  | [] => [[c]]
  | l :: ls => (c :: l) :: ls

/-- The lines of a text. There is at least one. -/
def lines : Text → List Text
  | [] => [[]]
  | '\r' :: '\n' :: t => [] :: lines t
  | c :: t => if isBreakChar c then [] :: lines t else consLine c (lines t)

/-- The lines as one text, with a break between neighbours. -/
def joinLines (ending : LineEnding) (ls : List Text) : Text := ending.text.intercalate ls

end Text
end LogicEditor
