import LogicEditor.Text.CharClass

/-! # Decimal numbers

Reading an index from decimal digits. -/

namespace LogicEditor
namespace Text

/-- The value of a run of decimal digits. -/
def decimalValue (t : Text) : Nat := t.foldl (fun n c => 10 * n + (c.toNat - 48)) 0

/-- The index written as one or more decimal digits after at most one `+`, if it is within
`maxIndex`. -/
def index? (t : Text) : Option Nat :=
  let digits := match t with
    | '+' :: rest => rest
    | _ => t
  if digits.isEmpty || !digits.all isDigit then none
  else if decimalValue digits ≤ maxIndex then some (decimalValue digits)
  else none

/-- The decimal digits of a number. -/
def ofNat (n : Nat) : Text := Nat.toDigits 10 n

end Text
end LogicEditor
