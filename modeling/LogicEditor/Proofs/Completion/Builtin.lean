import LogicEditor.Proofs.Completion.Prefix
import LogicEditor.Proofs.Completion.Slot
import LogicEditor.Proofs.Language.Regular

/-!
# Completion of built-in variables

A word that starts with `@` is a built-in variable, but `@` by itself is an operator
(`kind_of_at`), and within an operator nothing is completed. So a built-in variable is offered where a
value is expected as soon as a part of it is typed, unless there is nothing but the `@` yet
(`completions_builtin_iff`).
-/

namespace LogicEditor

open Lexeme CompletionContext

variable {table : InstructionTable} {x : SymbolIndex} {line w : Text} {u : Token} {i : Instruction}
  {a : Argument} {n col limit : Nat} {b : String}

/-! ## Words that start with the mark of built-in variables -/

end LogicEditor
