import LogicEditor.Pattern.Reader
import LogicEditor.Pattern.Resolve
import LogicEditor.Pattern.Size
import LogicEditor.Pattern.Program

/-! # Patterns

A pattern is either read as a regular expression or taken literally. Both become programs, unless
they are too large. -/

namespace LogicEditor
namespace Pattern

/-- The program of an expression that is not too large. -/
def Expr.compile? (e : Expr) : Except PatternError Program :=
  if maxSize < e.size then .error .tooLarge else .ok e.program

/-- The program of a regular expression. -/
def compile? (ignoreCase : Bool) (source : Text) : Except PatternError Program := do
  let ast ← Ast.ofText source
  let (e, _) ← ast.resolve { ignoreCase }
  e.compile?

/-- The program that matches a text itself. -/
def literal? (ignoreCase : Bool) (text : Text) : Except PatternError Program :=
  (Expr.ofText { ignoreCase } text).compile?

end Pattern
end LogicEditor
