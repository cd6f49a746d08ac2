import LogicEditor.Text.CharClass

/-! # Words

The tests that classify a word by its characters alone: numbers, names and operators. -/

namespace LogicEditor

/-- The character that starts a comment. -/
def commentMark : Char := '#'

namespace Word

open Text (isDigit isHexDigit isSpace isPunct)

/-- The text without one leading minus sign. -/
def dropMinus : Text → Text
  | '-' :: t => t
  | t => t

/-- Whether the text is one or more digits. -/
def isDigits (t : Text) : Bool := !t.isEmpty && t.all isDigit

/-- Whether a character introduces an exponent. -/
def isExponentMark (c : Char) : Bool := c == 'e' || c == 'E'

/-- A decimal mantissa: digits, with at most one point among or around them. -/
def isMantissa (t : Text) : Bool :=
  let whole := t.takeWhile (· != '.')
  match t.dropWhile (· != '.') with
  | [] => isDigits whole
  | _ :: part => whole.all isDigit && part.all isDigit && !(whole.isEmpty && part.isEmpty)

/-- A decimal mantissa, then possibly an exponent. -/
def isDecimal (t : Text) : Bool :=
  isMantissa (t.takeWhile fun c => !isExponentMark c) &&
    match t.dropWhile fun c => !isExponentMark c with
    | [] => true
    | _ :: exponent => isDigits (dropMinus exponent)

/-- A number without sign: hexadecimal after `0x`, binary after `0b`, else decimal. -/
def isUnsigned : Text → Bool
  | '0' :: 'x' :: digits => !digits.isEmpty && digits.all isHexDigit
  | '0' :: 'b' :: digits => !digits.isEmpty && digits.all fun c => c == '0' || c == '1'
  | t => isDecimal t

/-- A number, with at most one minus sign before it. -/
def isNumber (t : Text) : Bool := isUnsigned (dropMinus t)

/-- Whether a character starts a name. -/
def isNameStart (c : Char) : Bool := !isDigit c && !isSpace c && c != '@' && !isPunct c

/-- Whether a character continues a name. -/
def isNamePart (c : Char) : Bool := !isSpace c && c != commentMark && c != '"' && c != ':'

/-- A name usable for a label or a variable. -/
def isIdentifier : Text → Bool
  | [] => false
  | c :: t => isNameStart c && t.all isNamePart

/-- A word of punctuation only. -/
def isOperator (t : Text) : Bool := !t.isEmpty && t.all isPunct

/-- A word that names a built-in variable. -/
def isBuiltin : Text → Bool
  | '@' :: _ :: _ => true
  | _ => false

/-- A word that starts with a digit. -/
def startsWithDigit : Text → Bool
  | c :: _ => isDigit c
  | [] => false

end Word
end LogicEditor
