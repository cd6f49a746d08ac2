import LogicEditor.Buffer.Edit
import LogicEditor.Language.Word
import LogicEditor.Text.Width

/-! # Line commands

Commands on the lines that a selection touches. Each returns the selection to show afterwards, which
follows the lines it was on. -/

namespace LogicEditor
namespace Edit

open Buffer

/-- The lines that a selection touches; they must exist. -/
def checkBlock (sel : Selection) : EditM Buffer LineBlock := do
  checkLine sel.lineBlock.last
  return sel.lineBlock

/-- The texts of a block of lines. -/
def blockTexts (b : Buffer) (block : LineBlock) : List Text :=
  (b.texts.take (block.last + 1)).drop block.first

/-- Deletes the selected lines. The cursor goes to the start of the line that takes their place, or
of the last line. -/
def deleteLines (sel : Selection) : EditM Buffer Selection := do
  let block ← checkBlock sel
  let _ ← removeLines block.first (block.last + 1)
  return .caret ⟨min block.first ((← get).lineCount - 1), 0⟩

/-- Moves the selected lines above the line before them, if there is one. -/
def moveUp (sel : Selection) : EditM Buffer Selection := do
  let block ← checkBlock sel
  if block.first = 0 then return sel
  rotate (block.first - 1) block.first (block.last + 1)
  return sel.shifted (-1)

/-- Moves the selected lines below the line after them, if there is one. -/
def moveDown (sel : Selection) : EditM Buffer Selection := do
  let block ← checkBlock sel
  if (← get).lineCount ≤ block.last + 1 then return sel
  rotate block.first (block.last + 1) (block.last + 2)
  return sel.shifted 1

/-- Puts a copy of the selected lines above them. The selection stays on the upper copy. -/
def duplicateUp (sel : Selection) : EditM Buffer Selection := do
  let block ← checkBlock sel
  insertLines block.first (blockTexts (← get) block)
  return sel

/-- Puts a copy of the selected lines below them. The selection goes to the lower copy. -/
def duplicateDown (sel : Selection) : EditM Buffer Selection := do
  let block ← checkBlock sel
  let texts := blockTexts (← get) block
  insertLines (block.last + 1) texts
  return sel.shifted texts.length

/-! ## Comments -/

/-- The number of characters of white space that a line starts with. -/
def indentation (line : Text) : Nat := (line.takeWhile Text.isSpace).length

/-- Whether the first character after the indentation is a comment mark. -/
def isCommented (line : Text) : Bool := (line.dropWhile Text.isSpace).head? == some commentMark

/-- The line with a comment mark and a space after its indentation. -/
def commented (line : Text) : Text :=
  line.takeWhile Text.isSpace ++ (commentMark :: ' ' :: line.dropWhile Text.isSpace)

/-- How many characters uncommenting takes from what follows the indentation: the mark, and one
space if there is one. -/
def markLength : Text → Nat
  | _ :: ' ' :: _ => 2
  | _ => 1

/-- The line without its comment mark. -/
def uncommented (line : Text) : Text :=
  let rest := line.dropWhile Text.isSpace
  line.takeWhile Text.isSpace ++ rest.drop (markLength rest)

/-- A position after `added` characters were put in on its line at column `col`. A position before
them or right at their place stays. Toggling comments stops before it pushes a position to a column
that is no index (`toggleOverflows`). -/
def pushRight (line col added : Nat) (p : Position) : Position :=
  if p.line = line ∧ col < p.col then { p with col := p.col + added } else p

/-- A position after `removed` characters were taken out on its line at column `col`. -/
def pullLeft (line col removed : Nat) (p : Position) : Position :=
  if p.line = line ∧ col < p.col then { p with col := p.col - min removed (p.col - col) } else p

/-- Both ends of a selection, changed alike. -/
def mapEnds (f : Position → Position) (sel : Selection) : Selection := ⟨f sel.anchor, f sel.active⟩

/-- Comments a line, unless it is commented already. -/
def commentLine (line : Nat) (text : Text) (sel : Selection) : EditM Buffer Selection := do
  if isCommented text then return sel
  setLine line (commented text)
  return mapEnds (pushRight line (indentation text) 2) sel

/-- Uncomments a line, if it is commented. -/
def uncommentLine (line : Nat) (text : Text) (sel : Selection) : EditM Buffer Selection := do
  if !isCommented text then return sel
  setLine line (uncommented text)
  return mapEnds (pullLeft line (indentation text) (markLength (text.dropWhile Text.isSpace))) sel

/-- Runs a command on each line of a list, from number `line` on, except those to be skipped. -/
def eachLine (command : Nat → Text → Selection → EditM Buffer Selection) (skip : Text → Bool) :
    (line : Nat) → List Text → Selection → EditM Buffer Selection
  | _, [], sel => pure sel
  | line, t :: ts, sel => do
    let sel ← if skip t then pure sel else command line t sel
    eachLine command skip (line + 1) ts sel

/-- Whether a line of a block with these texts gets a mark when comments are toggled. -/
def getsMark (texts : List Text) (t : Text) : Bool :=
  !isCommented t && (texts.all Text.isBlank || !t.isBlank)

/-- Whether a position on a line of a block is pushed on by a mark to a column that is no index. -/
def pushOverflows (b : Buffer) (block : LineBlock) (p : Position) : Bool :=
  decide (block.first ≤ p.line ∧ p.line ≤ block.last) &&
    getsMark (blockTexts b block) (b.lineText p.line) &&
      columnOverflows (commented (b.lineText p.line)) (p.col + 2)

/-- Whether toggling comments stops at a column that is no index. -/
def toggleOverflows (b : Buffer) (sel : Selection) : Bool :=
  pushOverflows b sel.lineBlock sel.anchor || pushOverflows b sel.lineBlock sel.active

/-- Comments the selected lines, or uncomments them if all are comments. Blank lines take no part
unless all lines are blank, and then they are commented. -/
def toggleComment (sel : Selection) : EditM Buffer Selection := do
  let block ← checkBlock sel
  let b ← get
  stopIf (toggleOverflows b sel)
  let texts := blockTexts b block
  if texts.all Text.isBlank then
    eachLine commentLine (fun _ => false) block.first texts sel
  else if texts.all fun t => Text.isBlank t || isCommented t then
    eachLine uncommentLine Text.isBlank block.first texts sel
  else
    eachLine commentLine Text.isBlank block.first texts sel

/-! ## Tabs -/

/-- The display column after a character in display column `w`, with a tab stop every `tab`
columns. This is the exact number, also where it is no index; a tab stops there (`tabOverflows`). -/
def advance (tab w : Nat) (c : Char) : Nat :=
  if c = '\t' then (w / tab + 1) * tab else w + Text.charWidth c

/-- The display width of a text, with a tab stop every `tab` columns. -/
def displayWidth (tab : Nat) (t : Text) : Nat := t.foldl (advance tab) 0

/-- The numbers that `advance` computes. -/
def advanceNumbers (tab w : Nat) (c : Char) : List Nat :=
  if c = '\t' then [w / tab, w / tab + 1, (w / tab + 1) * tab]
  else [Text.charWidth c, w + Text.charWidth c]

/-- The numbers that the display width of a text takes, from display column `w` on. -/
def widthNumbers (tab : Nat) : (w : Nat) → Text → List Nat
  | _, [] => []
  | w, c :: t => advanceNumbers tab w c ++ widthNumbers tab (advance tab w c) t

/-- The numbers that a tab behind a text takes, each of which has to be an index: those of its display
width, how far that is beyond the last tab stop, and the number of spaces. -/
def tabNumbers (tab : Nat) (t : Text) : List Nat :=
  let width := displayWidth tab t
  widthNumbers tab 0 t ++ [width % tab, tab - width % tab]

/-- Whether a tab in place of a selection stops at a number that is no index. The text before it is
the same before the selected text is taken out and after. -/
def tabOverflows (tab : Nat) (sel : Selection) : EditM Buffer Bool := do
  let r := sel.range
  checkPosition r.start
  checkPosition r.stop
  let before := ((← get).lineText r.start.line).take r.start.col
  return (tabNumbers (max tab 1) before).any (maxIndex < ·)

/-- The most spaces that a text can be made of. -/
def maxSpaces : Nat := 9223372036854775807

/-- How many spaces there are from the end of a text to the next tab stop. -/
def spacesBehind (tab : Nat) (t : Text) : Nat := tab - displayWidth tab t % tab

/-- Puts spaces in up to the next tab stop, in place of the selected text. -/
def insertTab (tab : Nat) (sel : Selection) : EditM Buffer Selection := do
  stopIf (← tabOverflows tab sel)
  let r := sel.range
  let spaces := spacesBehind (max tab 1) (((← get).lineText r.start.line).take r.start.col)
  stopIf (maxSpaces < spaces)
  let _ ← deleteRange r
  let p ← insertText r.start (List.replicate spaces ' ')
  return .caret p

end Edit
end LogicEditor
