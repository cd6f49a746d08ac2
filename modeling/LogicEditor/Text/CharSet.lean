import LogicEditor.Text.Table

/-! # Sets of characters

A set of characters is a list of ranges of code points, ascending and set apart by gaps. The empty
gaps are closed by `CharSet.ofRanges`, through which every set is built, so equal sets have equal
ranges. Boolean operations come from union and complement. -/

namespace LogicEditor
namespace Text

namespace CharRange

/-- Whether the range holds a code point. -/
def contains (r : CharRange) (n : Nat) : Bool := r.lo ≤ n && n ≤ r.hi

/-- Whether a code point is a surrogate, which is no character. -/
def isSurrogate (n : Nat) : Bool := 0xD800 ≤ n && n ≤ 0xDFFF

/-- The range with ends that are characters: a surrogate at an end gives way to the character on the
other side of the surrogates, so that what has no other members becomes the two next to them. -/
def withCharEnds (r : CharRange) : CharRange :=
  let lo := if isSurrogate r.lo then 0xE000 else r.lo
  let hi := if isSurrogate r.hi then 0xD7FF else r.hi
  ⟨min lo hi, max lo hi⟩

end CharRange

/-- A set of characters. -/
structure CharSet where
  ranges : List CharRange
deriving DecidableEq, Repr

namespace CharSet

/-- The largest code point. -/
def maxCode : Nat := 0x10FFFF

def empty : CharSet := ⟨[]⟩

/-- All code points. -/
def all : CharSet := ⟨[⟨0, maxCode⟩]⟩

/-- The code points from `lo` to `hi`. -/
def range (lo hi : Nat) : CharSet := ⟨[⟨lo, hi⟩]⟩

/-- The set of one character. -/
def single (c : Char) : CharSet := range c.toNat c.toNat

/-- Puts `r` before ranges that start no earlier and ascend, joining those that touch or overlap. -/
def joinAfter (r : CharRange) : List CharRange → List CharRange
  | [] => [r]
  | s :: rest =>
    if s.lo ≤ r.hi + 1 then joinAfter ⟨r.lo, max r.hi s.hi⟩ rest else r :: joinAfter s rest

/-- Joins ranges that touch or overlap, in a list that ascends by first code points. -/
def join : List CharRange → List CharRange
  | [] => []
  | r :: rest => joinAfter r rest

/-- The set of all code points of some ranges in any order. -/
def ofRanges (rs : List CharRange) : CharSet :=
  ⟨join ((rs.filter fun r => r.lo ≤ r.hi).mergeSort fun a b => a.lo ≤ b.lo)⟩

/-- The set of some code points in any order. -/
def ofCodes (ns : List Nat) : CharSet := ofRanges (ns.map fun n => ⟨n, n⟩)

/-- The set that a table of ranges lists. -/
def ofTable (table : String) : CharSet := ofRanges (Table.ranges table)

/-- Whether the set holds a code point. The ranges ascend, so the search ends at the first one that
starts later. -/
def containsCode (s : CharSet) (n : Nat) : Bool := go s.ranges
where
  /-- Looks through the ranges that are left. -/
  go : List CharRange → Bool
  | [] => false
  | r :: rest => if n < r.lo then false else n ≤ r.hi || go rest

/-- Whether the set holds a character. -/
def contains (s : CharSet) (c : Char) : Bool := s.containsCode c.toNat

/-- Whether the set holds nothing. -/
def isEmpty (s : CharSet) : Bool := s.ranges.isEmpty

/-- Whether every member is below 128. -/
def isAscii (s : CharSet) : Bool := s.ranges.all (·.hi < 128)

/-- The members of either set. -/
def union (s t : CharSet) : CharSet := ofRanges (s.ranges ++ t.ranges)

/-- The gaps of ascending ranges from `start` on. -/
def gaps (start : Nat) : List CharRange → List CharRange
  | [] => if start ≤ maxCode then [⟨start, maxCode⟩] else []
  | r :: rest =>
    if start < r.lo then ⟨start, r.lo - 1⟩ :: gaps (r.hi + 1) rest else gaps (r.hi + 1) rest

/-- The code points that are no members. -/
def compl (s : CharSet) : CharSet := ⟨gaps 0 s.ranges⟩

/-- The characters that are no members, in ranges between characters. -/
def negated (s : CharSet) : CharSet := ⟨s.compl.ranges.map CharRange.withCharEnds⟩

/-- The members of both sets. -/
def inter (s t : CharSet) : CharSet := (s.compl.union t.compl).compl

/-- The members of `s` that are none of `t`. -/
def diff (s t : CharSet) : CharSet := (s.compl.union t).compl

/-- The members of exactly one of the sets. -/
def symmDiff (s t : CharSet) : CharSet := (s.diff t).union (t.diff s)

end CharSet
end Text
end LogicEditor
