import LogicEditor.Pattern.Syntax
import LogicEditor.Text.Age
import LogicEditor.Text.GraphemeBreak
import LogicEditor.Text.WordBreak

/-! # Property classes

What a property class of a pattern stands for: a binary property, a general category, a script, the
code points used with a script, the characters of an age, or a class of grapheme, sentence or word
breaks. Names are compared without regard to case, blanks, hyphens and underscores, and a leading
`is` does not count. -/

namespace LogicEditor
namespace Pattern

open Text

/-- The letters and digits of a name, in lower case. -/
def bareName (t : Text) : Text :=
  (t.filter fun c => c.toNat < 128 && c != ' ' && c != '-' && c != '_').map Char.toLower

/-- A name as the tables have it. Of `isc`, which is a name of its own, nothing is dropped. -/
def tableName (t : Text) : String :=
  match t with
  | i :: s :: rest =>
    if i.toLower = 'i' ∧ s.toLower = 's' then
      let name := bareName rest
      String.ofList (if name = ['c'] then ['i', 's', 'c'] else name)
    else String.ofList (bareName t)
  | _ => String.ofList (bareName t)

/-- The set of a bare name. The names `cf`, `sc` and `lc` mean categories, although properties with a
value have them too. -/
def setNamed? (name : String) : Option CharSet :=
  Property.setNamed? name <|> Category.setNamed? name <|> (Script.code? name).map Script.set

/-- The set of a property with a value. -/
def setValued? (name value : String) : Option CharSet :=
  match name with
  | "gc" | "generalcategory" => Category.setNamed? value
  | "sc" | "script" => (Script.code? value).map Script.set
  | "scx" | "scriptextensions" => (Script.code? value).map Script.extendedSet
  | "age" => Age.setNamed? value
  | "gcb" | "graphemeclusterbreak" => GraphemeBreak.setNamed? value
  | "sb" | "sentencebreak" => SentenceBreak.setNamed? value
  | "wb" | "wordbreak" => WordBreak.setNamed? value
  | _ => none

/-- The set that a property class asks for. -/
def PropertyQuery.set? : PropertyQuery → Option CharSet
  | .named name => setNamed? (tableName name)
  | .valued name value => setValued? (tableName name) (tableName value)

end Pattern
end LogicEditor
