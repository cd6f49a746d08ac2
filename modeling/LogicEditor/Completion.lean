import LogicEditor.Language.Table
import LogicEditor.Position
import LogicEditor.Symbol.Index
import LogicEditor.Text.Lowercase

/-! # Completion

What can be typed at the cursor. The token at the cursor tells the slot and the part of the word that
is typed already; the slot tells where names come from: the opcodes for the first word of a line, and
for an argument the labels, variables, built-in variables or choices that suit it. A name is offered
if it goes on with what is typed, upper and lower case being the same for this, and names that agree
in case as well come first. -/

namespace LogicEditor

/-! ## The slot at the cursor -/

/-- What the cursor is in. -/
inductive CompletionSlot
  /-- A comment, a string, a number or an operator: nothing is offered. -/
  | nothing
  | firstWord
  | argument (a : Argument)
  | anywhere
deriving DecidableEq, Repr

/-- The slot at the cursor, and the column in which the word to complete starts. -/
structure CompletionContext where
  slot : CompletionSlot
  start : Nat
deriving DecidableEq, Repr

namespace CompletionContext

/-- Whether nothing is completed within a token of this category. -/
def isClosed : TokenKind → Bool
  | .comment | .string | .number | .operator => true
  | .keyword | .identifier | .builtin | .unknown => false

/-- The token that the cursor is in or at the end of. -/
def tokenAt? (tokens : List Token) (col : Nat) : Option Token :=
  tokens.find? fun t => t.span.start < col && col ≤ t.span.stop

/-- The number of the word that would start at a column. -/
def wordAt (tokens : List Token) (col : Nat) : Nat :=
  ((tokens.filter fun t => t.span.stop ≤ col).map (·.word + 1)).foldl max 0

/-- The instruction of a line: what its keyword in word 0 names. -/
def instruction? (table : InstructionTable) (line : Text) (tokens : List Token) :
    Option Instruction :=
  (tokens.find? fun t => t.word == 0 && t.kind == .keyword).bind fun t =>
    table.lookup (String.ofList (t.text line))

def slotOfWord (table : InstructionTable) (line : Text) (tokens : List Token) (word : Nat) :
    CompletionSlot :=
  if word = 0 then .firstWord
  else
    match (instruction? table line tokens).bind (·.argumentOfWord? word) with
    | some a => .argument a
    | none => .anywhere

/-- The context of a column of a line. -/
def ofLine (table : InstructionTable) (line : Text) (tokens : List Token) (col : Nat) :
    CompletionContext :=
  match tokenAt? tokens col with
  | some t =>
    if isClosed t.kind then ⟨.nothing, col⟩
    else ⟨slotOfWord table line tokens t.word, t.span.start⟩
  | none => ⟨slotOfWord table line tokens (wordAt tokens col), col⟩

end CompletionContext

/-! ## Names to offer -/

inductive CandidateKind
  | opcode
  /-- The name of an opcode past the first word, where it is a name like any other. -/
  | opcodeName
  | label
  | variable
  | implicit
  | constant
  | builtin
deriving DecidableEq, Repr

namespace CandidateKind

/-- The category of the candidate's text at the place where it is offered. -/
def tokenKind : CandidateKind → TokenKind
  | .opcode | .constant => .keyword
  | .opcodeName | .label | .variable | .implicit => .identifier
  | .builtin => .builtin

/-- The name shown to users. -/
def name : CandidateKind → String
  | .opcode => "Opcode"
  | .opcodeName => "OpcodeName"
  | .label => "Label"
  | .variable => "Variable"
  | .implicit => "Implicit"
  | .constant => "Constant"
  | .builtin => "Builtin"

def ofSymbol : SymbolKind → CandidateKind
  | .label => .label
  | .variable => .variable
  | .implicit => .implicit

end CandidateKind

/-- A name that suits a slot. -/
structure Offer where
  name : String
  kind : CandidateKind
  /-- Whether the name is defined somewhere or has a fixed meaning. -/
  isDefined : Bool := true
  detail? : Option String := none
deriving DecidableEq, Repr

namespace Offer

/-- An opcode, with its summary. -/
def ofInstruction (kind : CandidateKind) (i : Instruction) : Offer where
  name := i.name
  kind
  detail? := some i.summary

/-- A symbol, with its line if it is defined. -/
def ofSymbol (s : Symbol) : Offer where
  name := s.name
  kind := .ofSymbol s.kind
  isDefined := s.isDefined
  detail? := s.definingLine?.map fun line => "line " ++ toString (line + 1)

/-- A built-in variable. -/
def ofBuiltin (name : String) : Offer := { name, kind := .builtin }

/-- A choice of a constant argument. -/
def ofChoice (name : String) : Offer := { name, kind := .constant }

end Offer

namespace CompletionSlot

/-- The names that suit an argument. -/
def argumentOffers (table : InstructionTable) (symbols : List Symbol) (a : Argument) : List Offer :=
  let labels := symbols.filter (·.kind == .label)
  let values := symbols.filter (·.kind != .label)
  match a.kind with
  | .label => labels.map .ofSymbol
  | .output => values.map .ofSymbol
  | .value => values.map .ofSymbol ++ table.builtins.map .ofBuiltin
  | .constant => a.choices.map .ofChoice

/-- The names that suit a slot. -/
def offers (table : InstructionTable) (symbols : List Symbol) : CompletionSlot → List Offer
  | .nothing => []
  | .firstWord => table.opcodes.map (.ofInstruction .opcode)
  | .argument a => argumentOffers table symbols a
  | .anywhere => symbols.map .ofSymbol ++ table.opcodes.map (.ofInstruction .opcodeName)

end CompletionSlot

/-! ## Ranking -/

/-- A completion: a text that can take the place of a range. -/
structure Candidate where
  text : String
  kind : CandidateKind
  detail? : Option String
  /-- Candidates of higher score come first. -/
  score : Nat
  /-- The word typed so far. -/
  replace : Range
deriving DecidableEq, Repr

namespace Offer

/-- Whether the name goes on with the typed text. Upper and lower case are the same; the typed text
itself is no completion. -/
def completes (o : Offer) (typed : Text) : Bool :=
  o.name.toList != typed && (Text.lower typed).isPrefixOf (Text.lower o.name.toList)

/-- Two for a name that goes on with the typed text in its own case, and one for a defined name. -/
def score (o : Offer) (typed : Text) : Nat :=
  (if typed.isPrefixOf o.name.toList then 2 else 0) + if o.isDefined then 1 else 0

/-- The name as a candidate for the typed text. -/
def toCandidate (o : Offer) (typed : Text) (replace : Range) : Candidate where
  text := o.name
  kind := o.kind
  detail? := o.detail?
  score := o.score typed
  replace

end Offer

namespace Candidate

/-- The length that ranks a candidate: the first word of a line is ranked without it. -/
def rankLength (slot : CompletionSlot) (c : Candidate) : Nat :=
  if slot = .firstWord then 0 else c.text.length

/-- Whether `a` is ranked no later than `b`: by score from high to low, then by length, then by
text. -/
def ranked (slot : CompletionSlot) (a b : Candidate) : Bool :=
  b.score < a.score || (a.score == b.score &&
    (a.rankLength slot < b.rankLength slot ||
      (a.rankLength slot == b.rankLength slot && a.text ≤ b.text)))

/-- The candidates without those whose text occurs earlier. -/
def distinct : List Candidate → List Candidate
  | [] => []
  | c :: cs => c :: (distinct cs).filter (·.text != c.text)

end Candidate

/-- The best completions at a position of a line, at most `limit` many. A column past the end of the
line counts as its end. -/
def completions (table : InstructionTable) (symbols : SymbolIndex) (line : Text) (tokens : List Token)
    (p : Position) (limit : Nat) : List Candidate :=
  let col := min p.col line.length
  let context := CompletionContext.ofLine table line tokens col
  let typed := line.slice context.start col
  let offers := (context.slot.offers table symbols.all).filter (·.completes typed)
  let candidates := offers.map (·.toCandidate typed (.onLine p.line context.start col))
  (Candidate.distinct (candidates.mergeSort (Candidate.ranked context.slot))).take limit

end LogicEditor
