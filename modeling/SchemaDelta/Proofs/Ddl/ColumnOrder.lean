import SchemaDelta.Ddl.ColumnOrder
import SchemaDelta.Proofs.Ddl.Table
import SchemaDelta.Proofs.Value.Sorting

/-!
# Order of columns

Whatever the options are, scripting lists each column of a table once: it neither loses a column nor
repeats one.
-/

namespace SchemaDelta

variable {table reference : Value} (options : Options)

/-- What the columns of a table are ordered by. -/
def Options.columnKey
    (column : Value) : Value :=
  if options.alphabeticalColumns then .text (column.letters "name")
  else .int (column.number "ordinal_position")

/-- The columns of a typed table are put in order. -/
theorem Options.orderedColumns_eq
    (typed : table.isTyped .table = true) :
    options.orderedColumns table =
      .ok (Value.sortedOn options.columnKey (table.rows "columns")) := by
  rw [Options.orderedColumns,
    Value.partItems_of_isTyped typed ObjectClass.table_declares_columns, Attempt.ok_bind]
  unfold Options.columnKey
  cases options.alphabeticalColumns with
  | true =>
      exact Value.sortedBy_ok (fun column => .text (column.letters "name"))
        (fun column member =>
          Value.part_text_of_isTyped (Value.column_isTyped typed member) (by decide)) (by simp)
  | false =>
      exact Value.sortedBy_part_int fun column member =>
        Value.part_int_of_isTyped (Value.column_isTyped typed member) (by decide)

theorem Options.orderedColumns_ok
    (typed : table.isTyped .table = true) :
    ∃ columns, options.orderedColumns table = .ok columns ∧
      columns.Perm (table.rows "columns") :=
  ⟨_, options.orderedColumns_eq typed, Value.sortedOn_perm _ _⟩

/-- The column that is taken and those that are left are the columns. -/
theorem takeColumn?_ok
    (wanted : String)
    {columns : List Value}
    (typed : ∀ column ∈ columns, column.isTyped .column = true) :
    takeColumn? wanted columns = .ok none ∨
      ∃ found others, takeColumn? wanted columns = .ok (some (found, others)) ∧
        columns.Perm (found :: others) := by
  induction columns with
  | nil => exact Or.inl rfl
  | cons column columns ih =>
      have named :
          column.alignmentName = .ok (Text.lower (column.letters "name")) := by
        rw [Value.alignmentName, Value.partText,
          Value.part_text_of_isTyped (typed column List.mem_cons_self) (by decide)]
        rfl
      have rest := ih fun other member => typed other (List.mem_cons_of_mem column member)
      rw [takeColumn?, named, Attempt.ok_bind]
      by_cases aligned : Text.lower (column.letters "name") = wanted
      · rw [if_pos aligned]
        exact Or.inr ⟨column, columns, rfl, List.Perm.refl _⟩
      · rw [if_neg aligned]
        rcases rest with none | ⟨found, others, taken, permuted⟩
        · rw [none]
          exact Or.inl rfl
        · rw [taken]
          refine Or.inr ⟨found, column :: others, rfl, ?_⟩
          exact (permuted.cons column).trans (List.Perm.swap found column others)

/-- Columns in the order of a reference are the columns. -/
theorem alignColumns_ok
    {references columns : List Value}
    (referencesTyped : ∀ column ∈ references, column.isTyped .column = true)
    (typed : ∀ column ∈ columns, column.isTyped .column = true) :
    ∃ aligned, alignColumns references columns = .ok aligned ∧ aligned.Perm columns := by
  induction references generalizing columns with
  | nil => exact ⟨columns, rfl, List.Perm.refl columns⟩
  | cons reference references ih =>
      have named :
          reference.alignmentName = .ok (Text.lower (reference.letters "name")) := by
        rw [Value.alignmentName, Value.partText,
          Value.part_text_of_isTyped (referencesTyped reference List.mem_cons_self) (by decide)]
        rfl
      have restTyped : ∀ column ∈ references, column.isTyped .column = true :=
        fun column member => referencesTyped column (List.mem_cons_of_mem reference member)
      rw [alignColumns, named, Attempt.ok_bind]
      rcases takeColumn?_ok (Text.lower (reference.letters "name")) typed with
        none | ⟨found, others, taken, permuted⟩
      · rw [none]
        exact ih restTyped typed
      · rcases ih restTyped fun column member =>
            typed column (permuted.symm.subset (List.mem_cons_of_mem found member)) with
          ⟨aligned, succeeds, alignedPerm⟩
        simp only [taken, Attempt.ok_bind, succeeds]
        exact ⟨found :: aligned, rfl, (alignedPerm.cons found).trans permuted.symm⟩

/-- The columns of a table are scripted once each, in whatever order. -/
theorem Options.scriptedColumns_ok
    (typed : table.isTyped .table = true)
    (referenceTyped : reference.isTyped .table = true) :
    ∃ columns, options.scriptedColumns table reference = .ok columns ∧
      columns.Perm (table.rows "columns") := by
  rcases options.orderedColumns_ok typed with ⟨columns, ordered, permuted⟩
  rcases options.orderedColumns_ok referenceTyped with
    ⟨references, referenceOrdered, referencePermuted⟩
  rw [Options.scriptedColumns, ordered, Attempt.ok_bind, referenceOrdered, Attempt.ok_bind]
  split
  · exact ⟨columns, rfl, permuted⟩
  · rcases alignColumns_ok
        (fun column member => Value.column_isTyped referenceTyped (referencePermuted.subset member))
        (fun column member => Value.column_isTyped typed (permuted.subset member)) with
      ⟨aligned, succeeds, alignedPerm⟩
    exact ⟨aligned, succeeds, alignedPerm.trans permuted⟩

end SchemaDelta
