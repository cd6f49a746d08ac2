import LogicEditor.Text.Property

/-! # Grapheme breaks

The classes of characters by which a text is divided into graphemes. Most follow from the character
properties; the syllables of Hangul and a few marks are listed. Code points of no class have no set
here. `GraphemeBreak.setNamed?` finds a class by any of its names. -/

namespace LogicEditor
namespace Text
namespace GraphemeBreak

open Property (graphemeExtend)

/-- Characters that extend the one before. -/
def extend : CharSet := graphemeExtend.union Property.emojiModifier

/-- Characters that always stand alone: separators, controls and formats, and code points that
would be invisible if they were assigned. -/
def control : CharSet :=
  ((Category.setOf [.lineSeparator, .paragraphSeparator, .control, .format]).union
    ((Category.set .unassigned).inter Property.defaultIgnorable)).diff
    ((Property.prependedMark.union graphemeExtend).union (.ofTable "A D 200C-200D"))

/-- Spacing marks that belong to the character before. Some marks of Myanmar and other scripts do
not, and two vowels of Thai and Lao do. -/
def spacingMark : CharSet :=
  (((Category.set .spacingMark).diff graphemeExtend).diff (.ofTable "
102B-102C 1038 1062-1064 1067-106D 1083 1087-108C 108F 109A-109C 1A61 1A63-1A64 AA7B AA7D
11720-11721")).union (.ofTable "E33 EB3")

/-- Characters that belong to the one after. -/
def prepend : CharSet := .ofTable "
600-605 6DD 70F 890-891 8E2 D4E 110BD 110CD 111C2-111C3 113D1 1193F 11941 11A3A 11A84-11A89 11D46
11F02"

/-! ## Hangul -/

/-- Leading consonants of syllables. -/
def leading : CharSet := .ofTable "1100-115F A960-A97C"

/-- Vowels of syllables. -/
def vowel : CharSet := .ofTable "1160-11A7 D7B0-D7C6 16D63 16D67-16D6A"

/-- Trailing consonants of syllables. -/
def trailing : CharSet := .ofTable "11A8-11FF D7CB-D7FB"

/-- The written syllables. -/
def syllable : CharSet := .range 0xAC00 0xD7A3

/-- Syllables without a trailing consonant: each of the twenty-eight that share their beginning
comes first. -/
def openSyllable : CharSet := .ofCodes ((List.range 399).map fun k => 0xAC00 + 28 * k)

/-- Syllables with a trailing consonant. -/
def closedSyllable : CharSet := syllable.diff openSyllable

/-! ## Names -/

/-- The names of each class, in lower case and without separators. -/
def named : List (List String × CharSet) := [
  (["cr"], .single '\r'),
  (["lf"], .single '\n'),
  (["cn", "control"], control),
  (["ex", "extend"], extend),
  (["zwj"], .range 0x200D 0x200D),
  (["ri", "regionalindicator"], Property.regionalIndicator),
  (["pp", "prepend"], prepend),
  (["sm", "spacingmark"], spacingMark),
  (["l"], leading),
  (["v"], vowel),
  (["t"], trailing),
  (["lv"], openSyllable),
  (["lvt"], closedSyllable)]

/-- The characters of the class with this name. -/
def setNamed? (name : String) : Option CharSet :=
  (named.find? fun p => p.1.contains name).map (·.2)

end GraphemeBreak
end Text
end LogicEditor
