import LogicEditor.Text.Recent

/-! # Classes of characters

The tests on single characters that the lexer, the word search, the option reader and lower-casing use.
ASCII characters are decided directly, others by the property tables. -/

namespace LogicEditor
namespace Text

/-- White space. -/
def isSpace (c : Char) : Bool :=
  let n := c.toNat
  (9 ≤ n && n ≤ 13) || n == 0x20 || n == 0x85 || n == 0xA0 || n == 0x1680 ||
    (0x2000 ≤ n && n ≤ 0x200A) || n == 0x2028 || n == 0x2029 || n == 0x202F || n == 0x205F ||
    n == 0x3000

/-- Letters and other alphabetic characters. -/
def isAlphabetic (c : Char) : Bool :=
  if c.toNat < 128 then c.isAlpha else Recent.alphabetic.contains c

/-- Alphabetic and numeric characters. -/
def isAlphanumeric (c : Char) : Bool :=
  if c.toNat < 128 then c.isAlphanum else Recent.alphanumeric.contains c

/-- Decimal digits of ASCII. -/
def isDigit (c : Char) : Bool := '0' ≤ c && c ≤ '9'

/-- Hexadecimal digits of ASCII. -/
def isHexDigit (c : Char) : Bool :=
  isDigit c || ('a' ≤ c && c ≤ 'f') || ('A' ≤ c && c ≤ 'F')

/-- The value of a hexadecimal digit. -/
def hexValue (c : Char) : Nat :=
  if isDigit c then c.toNat - 48
  else if 'a' ≤ c && c ≤ 'f' then c.toNat - 87
  else c.toNat - 55

/-- Characters that belong to a word for whole-word search: alphanumeric ones and `_`. -/
def isWordChar (c : Char) : Bool := isAlphanumeric c || c == '_'

/-- Punctuation: all that is neither alphanumeric, nor `_`, nor white space. -/
def isPunct (c : Char) : Bool := !isAlphanumeric c && c != '_' && !isSpace c

/-- Characters with case. -/
def isCased (c : Char) : Bool := if c.toNat < 128 then c.isAlpha else Recent.cased.contains c

/-- Characters that do not separate cased ones. -/
def isCaseIgnorable (c : Char) : Bool :=
  if c.toNat < 128 then [0x27, 0x2E, 0x3A, 0x5E, 0x60].contains c.toNat
  else Recent.caseIgnorable.contains c

/-- Whether a text has nothing but white space. -/
def isBlank (t : Text) : Bool := t.all isSpace

end Text
end LogicEditor
