import LogicEditor.Text.Recent

/-! # Quoted texts

A text between double quotes, as messages show it. Backslash, quote, tab and the line breaks have
two-character escapes, NUL is `\0`, and every character that is invisible or would join the one
before it is written by its code point in braces. -/

namespace LogicEditor
namespace Text

/-- The lower-case hexadecimal digits of a number. -/
def hexDigits (n : Nat) : Text := Nat.toDigits 16 n

/-- Characters without a glyph: controls, formats, private and unassigned code points, separators
other than the space, and what else has no visible form. -/
def unprintable : CharSet :=
  ((Category.setOf (.control :: .format :: .privateUse :: Category.separators)).union
    (Recent.unassigned.union Property.defaultIgnorable)).diff (.single ' ')

/-- A character inside quotes. -/
def quotedChar (c : Char) : Text :=
  if c = '\x00' then ['\\', '0']
  else if c = '\t' then ['\\', 't']
  else if c = '\r' then ['\\', 'r']
  else if c = '\n' then ['\\', 'n']
  else if c = '"' || c = '\\' then ['\\', c]
  else if Recent.graphemeExtend.contains c || unprintable.contains c then
    ['\\', 'u', '\x7b'] ++ hexDigits c.toNat ++ ['\x7d']
  else [c]

/-- The text between double quotes. -/
def quoted (t : Text) : Text := '"' :: t.flatMap quotedChar ++ ['"']

end Text
end LogicEditor
