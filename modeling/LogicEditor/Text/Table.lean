import LogicEditor.Text.Basic

/-! # Written tables

Large tables of code points are written as text: entries set apart by blanks, code points in
upper-case hexadecimal, ranges as `first-last`. This file reads them. -/

namespace LogicEditor
namespace Text

/-- The code points from `lo` to `hi`, both included. -/
structure CharRange where
  lo : Nat
  hi : Nat
deriving DecidableEq, Repr

namespace Table

/-- The value of an upper-case hexadecimal digit. -/
def hexDigit (c : Char) : Nat := if c.isDigit then c.toNat - 48 else c.toNat - 55

/-- The value of a hexadecimal number. -/
def hex (t : Text) : Nat := t.foldl (fun n c => 16 * n + hexDigit c) 0

def entries (table : String) : List Text :=
  Text.fields (fun c => c == ' ' || c == '\n') table.toList

/-- The parts of an entry. -/
def fields (sep : Char) (entry : Text) : List Text := Text.fields (· == sep) entry

/-- A range written `first-last`, or a single code point. -/
def range (entry : Text) : CharRange :=
  match fields '-' entry with
  | [lo, hi] => ⟨hex lo, hex hi⟩
  | _ => ⟨hex entry, hex entry⟩

/-- A table whose entries are ranges. -/
def ranges (table : String) : List CharRange := (entries table).map range

end Table
end Text
end LogicEditor
