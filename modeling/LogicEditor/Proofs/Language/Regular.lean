import LogicEditor.Language.Stock
import LogicEditor.Proofs.Language.Line
import LogicEditor.Proofs.Language.Table

/-!
# Regular tables

A table is regular if each of its names can be typed as one word and is told apart from the names that
other places take: no opcode and no choice of an argument is a constant. The stock table is regular
(`InstructionTable.regular_stock`).
-/

namespace LogicEditor

variable {i : Instruction} {a : Argument} {name : String} {slot word : Nat}

instance (w : Text) : Decidable (Lexeme.IsFragment w) :=
  decidable_of_iff (w ≠ [] ∧ w.all Lexeme.isFragmentPart = true) (by simp [Lexeme.IsFragment])

instance (w : Text) : Decidable (IsName w) :=
  inferInstanceAs (Decidable (Lexeme.IsFragment w ∧ Word.isPlain w = true))

/-! ## Arguments -/

namespace Instruction

theorem mem_of_argument? (h : i.argument? slot = some a) : a ∈ i.arguments := by
  rw [argument?] at h
  split at h
  · rcases hslot : i.arguments[slot]? with _ | b
    · rw [hslot] at h
      exact List.mem_of_getLast? h
    · rw [hslot] at h
      cases h
      exact List.mem_of_getElem? hslot
  · exact List.mem_of_getElem? h

theorem mem_of_argumentOfWord? (h : i.argumentOfWord? word = some a) : a ∈ i.arguments := by
  cases word with
  | zero => cases h
  | succ slot => exact mem_of_argument? h

end Instruction

namespace InstructionTable

variable {table : InstructionTable}

/-! ## Regularity -/

/-- The name is typed as one word, and is no constant. -/
def IsWord (table : InstructionTable) (name : String) : Prop :=
  IsName name.toList ∧ table.isConstant name = false

instance (table : InstructionTable) (name : String) : Decidable (table.IsWord name) :=
  inferInstanceAs (Decidable (IsName name.toList ∧ table.isConstant name = false))

/-- No name of the table is taken for something else where it is typed. -/
structure Regular (table : InstructionTable) : Prop where
  opcode : ∀ i ∈ table.opcodes, table.IsWord i.name
  /-- No opcode looks like the declaration of a label. -/
  unlabelled : ∀ i ∈ table.opcodes, i.name.toList.getLast? ≠ some ':'
  choice : ∀ i ∈ table.opcodes, ∀ a ∈ i.arguments, ∀ c ∈ a.choices, table.IsWord c
  builtin : ∀ b ∈ table.builtins, Lexeme.IsFragment b.toList ∧ Word.isBuiltin b.toList = true

theorem regular_stock : Regular .stock where
  opcode := by decide +kernel
  unlabelled := by decide +kernel
  choice := by decide +kernel
  builtin := by decide +kernel

/-- What is looked up is an opcode, so it is no constant. -/
theorem Regular.lookup_eq_none (R : table.Regular) (h : table.isConstant name = true) :
    table.lookup name = none := by
  cases hi : table.lookup name with
  | none => rfl
  | some i =>
    obtain ⟨hmem, rfl⟩ := mem_of_lookup hi
    rw [(R.opcode i hmem).2] at h
    cases h

end InstructionTable
end LogicEditor
