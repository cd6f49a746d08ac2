import LogicEditor.Text.CharClass

/-! # Lower-casing

Full lower-casing of a text. One character can become two (`İ`), and `Σ` depends on its place: at
the end of a word it becomes `ς`, elsewhere `σ`. A `Σ` ends a word if a cased character stands
before it and none after it, where characters that do not separate cased ones are skipped. -/

namespace LogicEditor
namespace Text

/-- The lower-case form of a character by itself. -/
def lowerChar (c : Char) : Text :=
  if c.toNat < 128 then [c.toLower]
  else if c = 'İ' then ['i', Char.ofNat 0x307]
  else [Char.ofNat (CaseRun.apply lowerRuns c.toNat)]

/-- Whether the first character that separates is cased. -/
def startsCased (t : Text) : Bool :=
  match t.dropWhile isCaseIgnorable with
  | c :: _ => isCased c
  | [] => false

/-- Lower-cases a text after what stands before it, which is given backwards. -/
def lowerAfter (before : Text) : Text → Text
  | [] => []
  | c :: t =>
    let image :=
      if c = 'Σ' then (if startsCased before && !startsCased t then ['ς'] else ['σ'])
      else lowerChar c
    image ++ lowerAfter (c :: before) t

/-- The text in lower case. -/
def lower (t : Text) : Text := lowerAfter [] t

end Text
end LogicEditor
