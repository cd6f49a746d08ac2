import LogicEditor.Text.CharClass

/-! # JSON values

A reader for JSON texts. Strings are kept as far as they are texts: an escape sequence may name half
of a surrogate pair, and a string with such a half in it is read as `Json.brokenString`, so that a
value nobody asks for does no harm. Numbers are only recognised; no text of this library has one
that is used. -/

namespace LogicEditor

/-- A JSON value. A key that is no text is `none`. -/
inductive Json
  | null
  | bool (b : Bool)
  | number
  | string (s : String)
  | brokenString
  | array (items : List Json)
  | object (members : List (Option String × Json))

namespace Json

open Text (isDigit isHexDigit hexValue)

/-- The white space of JSON. -/
def isBlank (c : Char) : Bool := c == ' ' || c == '\n' || c == '\t' || c == '\r'

/-- The text after leading white space. -/
def skipBlank (t : Text) : Text := t.dropWhile isBlank

/-! ## Numbers -/

/-- The rest after one or more digits. -/
def afterDigits? (t : Text) : Option Text :=
  match t with
  | c :: _ => if isDigit c then some (t.dropWhile isDigit) else none
  | [] => none

/-- The rest after an integer part, which has no superfluous leading zero. -/
def afterInteger? : Text → Option Text
  | '0' :: t =>
    match t with
    | c :: _ => if isDigit c then none else some t
    | [] => some t
  | t => afterDigits? t

/-- The rest after a fraction, if one starts here. -/
def afterFraction? : Text → Option Text
  | '.' :: t => afterDigits? t
  | t => some t

/-- The rest after an exponent, if one starts here. -/
def afterExponent? : Text → Option Text
  | c :: t =>
    if c == 'e' || c == 'E' then
      match t with
      | s :: t' => if s == '+' || s == '-' then afterDigits? t' else afterDigits? t
      | [] => none
    else some (c :: t)
  | [] => some []

/-- The rest after a number. -/
def afterNumber? (t : Text) : Option Text := do
  let t := match t with
    | '-' :: t' => t'
    | _ => t
  let t ← afterInteger? t
  let t ← afterFraction? t
  afterExponent? t

/-! ## Strings -/

/-- One element of a string: a code unit of an escape sequence, or a character. -/
inductive Unit16
  | char (c : Char)
  | unit (n : Nat)

/-- The value of four hexadecimal digits and the rest. -/
def fourDigits? : Text → Option (Nat × Text)
  | a :: b :: c :: d :: t =>
    if isHexDigit a && isHexDigit b && isHexDigit c && isHexDigit d then
      some (((hexValue a * 16 + hexValue b) * 16 + hexValue c) * 16 + hexValue d, t)
    else none
  | _ => none

/-- The character that a one-letter escape stands for. -/
def escape? : Char → Option Char
  | '"' => some '"'
  | '\\' => some '\\'
  | '/' => some '/'
  | 'b' => some '\x08'
  | 'f' => some '\x0c'
  | 'n' => some '\n'
  | 'r' => some '\r'
  | 't' => some '\t'
  | _ => none

/-- The elements of a string up to its closing quote, and the rest. Control characters must be
escaped. -/
def units? : (fuel : Nat) → Text → Option (List Unit16 × Text)
  | 0, _ => none
  | _ + 1, [] => none
  | _ + 1, '"' :: t => some ([], t)
  | fuel + 1, '\\' :: 'u' :: t => do
    let (n, t) ← fourDigits? t
    let (us, t) ← units? fuel t
    pure (.unit n :: us, t)
  | fuel + 1, '\\' :: e :: t => do
    let c ← escape? e
    let (us, t) ← units? fuel t
    pure (.char c :: us, t)
  | fuel + 1, c :: t => do
    if c.toNat < 32 || c == '\\' then none
    let (us, t) ← units? fuel t
    pure (.char c :: us, t)

/-- The text that the elements spell, unless half of a surrogate pair stands alone. -/
def text? : List Unit16 → Option Text
  | [] => some []
  | .char c :: us => (text? us).map (c :: ·)
  | [.unit n] => if 0xD800 ≤ n && n < 0xE000 then none else some [Char.ofNat n]
  | .unit n :: .unit m :: us =>
    if 0xD800 ≤ n && n < 0xDC00 then
      if 0xDC00 ≤ m && m < 0xE000 then
        (text? us).map (Char.ofNat (0x10000 + (n - 0xD800) * 0x400 + (m - 0xDC00)) :: ·)
      else none
    else if 0xDC00 ≤ n && n < 0xE000 then none
    else (text? (.unit m :: us)).map (Char.ofNat n :: ·)
  | .unit n :: .char c :: us =>
    if 0xD800 ≤ n && n < 0xE000 then none
    else (text? us).map fun t => Char.ofNat n :: c :: t

/-- A string after its opening quote: its text, if it is one, and the rest. -/
def stringBody? (t : Text) : Option (Option String × Text) :=
  (units? (t.length + 1) t).map fun (us, rest) => ((text? us).map String.ofList, rest)

/-! ## Values -/

mutual

/-- A value and the rest. -/
def value? : (fuel : Nat) → Text → Option (Json × Text)
  | 0, _ => none
  | fuel + 1, t =>
    match skipBlank t with
    | 'n' :: 'u' :: 'l' :: 'l' :: t => some (.null, t)
    | 't' :: 'r' :: 'u' :: 'e' :: t => some (.bool true, t)
    | 'f' :: 'a' :: 'l' :: 's' :: 'e' :: t => some (.bool false, t)
    | '"' :: t => do
      let (s, t) ← stringBody? t
      pure ((match s with | some s => .string s | none => .brokenString), t)
    | '[' :: t =>
      match skipBlank t with
      | ']' :: t => some (.array [], t)
      | t => do
        let (items, t) ← items? fuel t
        pure (.array items, t)
    | '\x7b' :: t =>
      match skipBlank t with
      | '\x7d' :: t => some (.object [], t)
      | t => do
        let (members, t) ← members? fuel t
        pure (.object members, t)
    | t => (afterNumber? t).map (.number, ·)

/-- The items of an array that is not empty, after its opening bracket, and the rest. -/
def items? : (fuel : Nat) → Text → Option (List Json × Text)
  | 0, _ => none
  | fuel + 1, t => do
    let (v, t) ← value? fuel t
    match skipBlank t with
    | ',' :: t =>
      let (vs, t) ← items? fuel t
      pure (v :: vs, t)
    | ']' :: t => pure ([v], t)
    | _ => none

/-- The members of an object that is not empty, after its opening brace, and the rest. -/
def members? : (fuel : Nat) → Text → Option (List (Option String × Json) × Text)
  | 0, _ => none
  | fuel + 1, t => do
    let (key, t) ← match skipBlank t with
      | '"' :: t => stringBody? t
      | _ => none
    let (v, t) ← match skipBlank t with
      | ':' :: t => value? fuel t
      | _ => none
    match skipBlank t with
    | ',' :: t =>
      let (ms, t) ← members? fuel t
      pure ((key, v) :: ms, t)
    | '\x7d' :: t => pure ([(key, v)], t)
    | _ => none

end

/-- The value that a whole text writes. -/
def ofText? (t : Text) : Option Json := do
  let (v, rest) ← value? (2 * t.length + 2) t
  if (skipBlank rest).isEmpty then some v else none

end Json
end LogicEditor
