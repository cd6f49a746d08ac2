import LogicEditor.Text.CharSet

/-! # Characters as bytes

Sets of characters in UTF-8: each range of code points is divided into ranges whose encodings are
all sequences of bytes from one range each. Surrogates have no encoding. -/

namespace LogicEditor
namespace Pattern

open Text (CharSet CharRange)

/-- The bytes from `lo` to `hi`, both included. -/
structure ByteRange where
  lo : Nat
  hi : Nat
deriving DecidableEq, Repr

/-- The bytes of a code point in UTF-8. -/
def utf8Bytes (n : Nat) : List Nat :=
  if n < 0x80 then [n]
  else if n < 0x800 then [0xC0 + n / 0x40, 0x80 + n % 0x40]
  else if n < 0x10000 then [0xE0 + n / 0x1000, 0x80 + n / 0x40 % 0x40, 0x80 + n % 0x40]
  else
    [0xF0 + n / 0x40000, 0x80 + n / 0x1000 % 0x40, 0x80 + n / 0x40 % 0x40, 0x80 + n % 0x40]

def textBytes (t : Text) : List Nat := t.flatMap fun c => utf8Bytes c.toNat

/-- The code point after which a range is divided: the last one of a length that ends within it, or
else an end of a block that the range does not fill and that differs in other bytes than the last
ones. -/
def divider? (r : CharRange) : Option Nat :=
  match [0x7F, 0x7FF, 0xFFFF].find? fun n => r.lo ≤ n && n < r.hi with
  | some n => some n
  | none => [0x40, 0x1000, 0x40000].findSome? fun block =>
    if r.hi < 0x80 || r.lo / block = r.hi / block then none
    else if r.lo % block ≠ 0 then some (r.lo / block * block + block - 1)
    else if r.hi % block ≠ block - 1 then some (r.hi / block * block - 1)
    else none

/-- A range as sequences of byte ranges, in ascending order. It is divided a dozen times at most. -/
def byteRanges : (fuel : Nat) → CharRange → List (List ByteRange)
  | 0, _ => []
  | fuel + 1, r =>
    if r.lo ≤ 0xD7FF ∧ 0xD7FF < r.hi then
      byteRanges fuel ⟨r.lo, 0xD7FF⟩ ++ byteRanges fuel ⟨0xE000, r.hi⟩
    else if r.hi < r.lo ∨ 0xD800 ≤ r.lo ∧ r.hi ≤ 0xDFFF then []
    else
      match divider? r with
      | some n => byteRanges fuel ⟨r.lo, n⟩ ++ byteRanges fuel ⟨n + 1, r.hi⟩
      | none => [List.zipWith ByteRange.mk (utf8Bytes r.lo) (utf8Bytes r.hi)]

/-- A set of characters as sequences of byte ranges, in ascending order. -/
def byteSequences (s : CharSet) : List (List ByteRange) := s.ranges.flatMap (byteRanges 40)

end Pattern
end LogicEditor
