import LogicEditor.Language.Table
import LogicEditor.Language.Token
import LogicEditor.Language.Lexeme

/-! # Tokens of a line

Lexemes become tokens from left to right. The first word of a line is a label declaration or an
opcode; once an opcode is known, its signature decides what the first fragments of the later words
mean. Numbers, built-in variables, operators and words that start with a digit are told by their
characters alone. Every text has tokens: what fits nowhere is `TokenKind.unknown`. -/

namespace LogicEditor
namespace Lexeme

def span (l : Lexeme) : Span := ⟨l.start, l.stop⟩

def toToken (l : Lexeme) (kind : TokenKind) (role : Option SymbolRole := none) : Token :=
  { span := l.span, kind, role, word := l.word }

/-- The name that the lexeme declares as a label. -/
def labelName? (l : Lexeme) : Option Text :=
  (l.text.beforeLast? ':').filter Word.isIdentifier

/-- A label declaration as tokens: the name and the colon. -/
def labelTokens (l : Lexeme) : List Token :=
  [{ span := ⟨l.start, l.stop - 1⟩, kind := .identifier, role := some .labelDef, word := l.word },
    { span := ⟨l.stop - 1, l.stop⟩, kind := .operator, word := l.word }]

/-- The role of an identifier in an argument slot. -/
def roleIn : ArgumentKind → SymbolRole
  | .label => .labelRef
  | .output => .variableDef
  | .value | .constant => .variableRef

/-- The category and role of a word that is neither declared label nor opcode, given the argument
that it fills. -/
def classify (table : InstructionTable) (arg? : Option Argument) (text : Text) :
    TokenKind × Option SymbolRole :=
  let word := String.ofList text
  if Word.isNumber text then (.number, none)
  else if Word.isBuiltin text then (.builtin, none)
  else if Word.isOperator text then (.operator, none)
  else if Word.startsWithDigit text then (.unknown, none)
  else
    match arg? with
    | some arg =>
      if arg.kind = .constant then (if arg.accepts word then .keyword else .unknown, none)
      else if table.isConstant word then (.keyword, none)
      else (.identifier, some (roleIn arg.kind))
    | none => if table.isConstant word then (.keyword, none) else (.identifier, none)

/-- The argument that the lexeme fills: only the first fragment of a word fills one. -/
def argument? (l : Lexeme) (opcode? : Option Instruction) : Option Argument :=
  if l.isFirst then opcode?.bind (·.argumentOfWord? l.word) else none

/-- The token of a lexeme that is neither declared label nor opcode. -/
def plainToken (table : InstructionTable) (opcode? : Option Instruction) (l : Lexeme) : Token :=
  let (kind, role) := classify table (l.argument? opcode?) l.text
  l.toToken kind role

/-- Whether the lexeme is the fragment that a line starts with. -/
def isHead (l : Lexeme) : Bool := l.kind == .fragment && l.word == 0 && l.isFirst

/-- The opcode that the lexeme names as the head of a line. -/
def opcode? (table : InstructionTable) (l : Lexeme) : Option Instruction :=
  if l.isHead && l.labelName?.isNone then table.lookup (String.ofList l.text) else none

/-- The tokens of one lexeme, after the opcode of the line, if any, is known. -/
def tokens (table : InstructionTable) (opcode? : Option Instruction) (l : Lexeme) : List Token :=
  match l.kind with
  | .comment => [l.toToken .comment]
  | .string => [l.toToken .string]
  | .fragment =>
    if l.isHead && l.labelName?.isSome then l.labelTokens
    else if (l.opcode? table).isSome then [l.toToken .keyword]
    else [l.plainToken table opcode?]

end Lexeme

/-- The opcode of a line: what its first lexeme names, if that is an opcode. -/
def lineOpcode? (table : InstructionTable) (line : Text) : Option Instruction :=
  (Lexeme.ofLine line).head?.bind (·.opcode? table)

def tokenize (table : InstructionTable) (line : Text) : List Token :=
  let opcode? := lineOpcode? table line
  (Lexeme.ofLine line).flatMap (·.tokens table opcode?)

end LogicEditor
