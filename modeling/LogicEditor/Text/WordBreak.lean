import LogicEditor.Text.Script
import LogicEditor.Text.SentenceBreak

/-! # Word breaks

The classes of characters by which a text is divided into words. Scripts that write words without
blanks between them have no letters here. Code points of no class have no set. `WordBreak.setNamed?`
finds a class by any of its names. -/

namespace LogicEditor
namespace Text
namespace WordBreak

/-- Marks, and other characters that extend the one before. -/
def extend : CharSet :=
  (Property.graphemeExtend.union (Category.set .spacingMark)).union Property.emojiModifier

/-- Formats that do not divide words. -/
def format : CharSet := SentenceBreak.format.diff (.ofTable "70F 200B")

/-- Digits and what belongs to numbers. -/
def numeric : CharSet := SentenceBreak.numeric.diff (.ofTable "66C")

/-- Connectors of words and numbers. -/
def connector : CharSet := (Category.set .connectorPunctuation).union (.ofTable "202F")

/-- The Katakana script with what it shares. -/
def katakana : CharSet :=
  (Script.set "Kana").union (.ofTable "3031-3035 309B-309C 30A0 30FC FF70")

def hebrewLetter : CharSet := (Script.set "Hebr").inter (Category.set .otherLetter)

/-- The scripts that write words without blanks. -/
def unspacedScripts : CharSet :=
  .ofRanges ((["Thai", "Laoo", "Mymr", "Khmr", "Talu", "Lana", "Tavt", "Ahom", "Hira"].flatMap
    fun code => (Script.set code).ranges) ++ Table.ranges "1950-196D 1970-1974")

/-- Other letters, and modifiers and punctuation that occur in words. -/
def letter : CharSet :=
  (Property.alphabetic.diff (((Property.ideographic.union katakana).union extend).union
    (unspacedScripts.union hebrewLetter))).union (.ofTable "
2C2-2C5 2D2-2D7 2DE-2DF 2E5-2EB 2ED 2EF-2FF 55A-55C 55E 58A 5F3 70F A708-A716 A720-A721 A789-A78A
AB5B")

/-- Punctuation between letters. -/
def midLetter : CharSet := .ofTable "3A B7 387 55F 5F4 2027 FE13 FE55 FF1A"

/-- Punctuation between digits. -/
def midNumber : CharSet := .ofTable "2C 3B 37E 589 60C-60D 66C 7F8 2044 FE50 FE54 FF0C FF1B"

/-- Punctuation between letters or digits. -/
def midBoth : CharSet := .ofTable "2E 2018-2019 2024 FE52 FF07 FF0E"

/-- Line breaks other than the ends of lines. -/
def newline : CharSet := .ofTable "B-C 85 2028-2029"

def blank : CharSet := .ofTable "20 1680 2000-2006 2008-200A 205F 3000"

/-- The names of each class, in lower case and without separators. -/
def named : List (List String × CharSet) := [
  (["cr"], .single '\r'),
  (["lf"], .single '\n'),
  (["dq", "doublequote"], .single '"'),
  (["sq", "singlequote"], .single '\''),
  (["extend"], extend),
  (["fo", "format"], format),
  (["zwj"], .range 0x200D 0x200D),
  (["ri", "regionalindicator"], Property.regionalIndicator),
  (["ex", "extendnumlet"], connector),
  (["nu", "numeric"], numeric),
  (["ka", "katakana"], katakana),
  (["hl", "hebrewletter"], hebrewLetter),
  (["le", "aletter"], letter),
  (["ml", "midletter"], midLetter),
  (["mn", "midnum"], midNumber),
  (["mb", "midnumlet"], midBoth),
  (["nl", "newline"], newline),
  (["wsegspace"], blank)]

/-- The characters of the class with this name. -/
def setNamed? (name : String) : Option CharSet :=
  (named.find? fun p => p.1.contains name).map (·.2)

end WordBreak
end Text
end LogicEditor
