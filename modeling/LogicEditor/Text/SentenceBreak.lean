import LogicEditor.Text.Property

/-! # Sentence breaks

The classes of characters by which a text is divided into sentences. Code points of no class have no
set here. `SentenceBreak.setNamed?` finds a class by any of its names. -/

namespace LogicEditor
namespace Text
namespace SentenceBreak

/-- Marks, and other characters that extend the one before. -/
def extend : CharSet :=
  (Property.graphemeExtend.union (Category.set .spacingMark)).union (.range 0x200D 0x200D)

/-- Formats that are no joiners and do not stand before what they span. -/
def format : CharSet :=
  ((Category.set .format).diff ((extend.union Property.prependedMark).union
    (.ofTable "200C-200D"))).union (.ofTable "70F")

/-- Separators of paragraphs other than the ends of lines. -/
def separator : CharSet := .ofTable "85 2028-2029"

/-- Other white space. -/
def space : CharSet := (Property.whiteSpace.diff separator).diff (.ofTable "A D")

/-- Upper-case and title-case letters. The capitals of Georgian do not start sentences. -/
def upper : CharSet :=
  (Property.uppercase.union (Category.set .titlecaseLetter)).diff (.ofTable "1C90-1CBA 1CBD-1CBF")

/-- Lower-case letters, without those of Georgian. -/
def lower : CharSet :=
  (Property.lowercase.diff extend).diff (.ofTable "10D0-10FA 10FD-10FF")

def otherLetter : CharSet :=
  (Property.alphabetic.union (.ofTable "5F3")).diff ((lower.union upper).union extend)

/-- Digits and what belongs to numbers. -/
def numeric : CharSet :=
  (((Category.set .decimalNumber).union Property.prependedMark).union
    (.ofTable "66B-66C 19DA")).diff (.ofTable "70F")

/-- Full stops, which may end a sentence or not. -/
def fullStop : CharSet := .ofTable "2E 2024 FE52 FF0E"

/-- Punctuation that always ends a sentence. -/
def terminator : CharSet := Property.sentenceTerminal.diff fullStop

/-- Punctuation after which a sentence goes on. -/
def continuation : CharSet := .ofTable "
2C-2D 3A-3B 37E 55D 60C-60D 7F8 1802 1808 2013-2014 3001 FE10-FE11 FE13-FE14 FE31-FE32 FE50-FE51
FE54-FE55 FE58 FE63 FF0C-FF0D FF1A-FF1B FF64"

/-- Brackets and quotation marks, ornamental ones among them. -/
def bracket : CharSet :=
  (((Category.setOf [.openPunctuation, .closePunctuation, .initialPunctuation,
    .finalPunctuation]).union Property.quotationMark).diff
    (fullStop.union (.ofTable "FF02 FF07"))).union
    (.ofTable "275B-2760 2E00-2E01 2E06-2E08 2E0B 1F676-1F678")

/-- The names of each class, in lower case and without separators. -/
def named : List (List String × CharSet) := [
  (["cr"], .single '\r'),
  (["lf"], .single '\n'),
  (["ex", "extend"], extend),
  (["fo", "format"], format),
  (["se", "sep"], separator),
  (["sp"], space),
  (["up", "upper"], upper),
  (["lo", "lower"], lower),
  (["le", "oletter"], otherLetter),
  (["nu", "numeric"], numeric),
  (["at", "aterm"], fullStop),
  (["st", "sterm"], terminator),
  (["sc", "scontinue"], continuation),
  (["cl", "close"], bracket)]

/-- The characters of the class with this name. -/
def setNamed? (name : String) : Option CharSet :=
  (named.find? fun p => p.1.contains name).map (·.2)

end SentenceBreak
end Text
end LogicEditor
