import SchemaDelta.Proofs.Ddl.ScriptingFailure
import SchemaDelta.Proofs.Migration.AlterationCompleteness

/-!
# Alignment of columns

Beside a reference table the columns of a table are taken by their names in lower case.  Each of
them is scripted once whatever the names are.  Where the names tell the columns apart on both sides,
the shared columns stand in the order of the reference and the others follow in their own order.
-/

namespace SchemaDelta

open Attempt (bind_eq_ok_iff)

/-- The name of a column in lower case. -/
def Value.lowerName
    (column : Value) : String :=
  Text.lower (column.letters "name")

theorem Value.alignmentName_ok
    {column : Value}
    (typed : column.isTyped .column = true) :
    column.alignmentName = .ok column.lowerName := by
  rw [alignmentName, partText,
    part_text_of_isTyped typed ObjectClass.column_declares_name]
  rfl

/-- A column has a given name in lower case. -/
def Value.isCalled
    (name : String)
    (column : Value) : Bool :=
  column.lowerName == name

theorem Value.isCalled_iff
    {name : String}
    {column : Value} :
    column.isCalled name = true ↔ column.lowerName = name :=
  beq_iff_eq

/-! ## Taking columns by name -/

/-- The columns with a name in lower case are taken one after the other; the rest follows. -/
def alignedTo : List String → List Value → List Value
  | [], columns => columns
  | name :: names, columns =>
    match columns.find? (Value.isCalled name) with
    | some column =>
      column :: alignedTo names (columns.eraseP (Value.isCalled name))
    | none => alignedTo names columns

section Taking

variable {name : String} {names : List String} {columns references : List Value}

theorem takeColumn?_eq
    (typed : ∀ column ∈ columns, column.isTyped .column = true) :
    takeColumn? name columns =
      .ok ((columns.find? (Value.isCalled name)).map fun found =>
        (found, columns.eraseP (Value.isCalled name))) := by
  induction columns with
  | nil => rfl
  | cons column columns ih =>
      rw [takeColumn?, Value.alignmentName_ok (typed column List.mem_cons_self), Attempt.ok_bind]
      by_cases taken : column.lowerName = name
      · rw [if_pos taken, List.find?_cons_of_pos (Value.isCalled_iff.mpr taken),
          List.eraseP_cons_of_pos (Value.isCalled_iff.mpr taken)]
        rfl
      · have kept : ¬column.isCalled name = true :=
          fun called => taken (Value.isCalled_iff.mp called)
        rw [if_neg taken, List.find?_cons_of_neg kept, List.eraseP_cons_of_neg kept,
          ih fun other member => typed other (List.mem_cons_of_mem column member)]
        cases columns.find? (Value.isCalled name) with
        | none => rfl
        | some found => rfl

/-- The columns that are typed are taken by the names of the references. -/
theorem alignColumns_eq
    (referencesTyped : ∀ column ∈ references, column.isTyped .column = true)
    (typed : ∀ column ∈ columns, column.isTyped .column = true) :
    alignColumns references columns =
      .ok (alignedTo (references.map Value.lowerName) columns) := by
  induction references generalizing columns with
  | nil => rfl
  | cons reference references ih =>
      have restTyped : ∀ column ∈ references, column.isTyped .column = true :=
        fun column member => referencesTyped column (List.mem_cons_of_mem reference member)
      rw [alignColumns, Value.alignmentName_ok (referencesTyped reference List.mem_cons_self),
        Attempt.ok_bind, takeColumn?_eq typed, Attempt.ok_bind, List.map_cons, alignedTo]
      cases columns.find? (Value.isCalled reference.lowerName) with
      | none => exact ih restTyped typed
      | some found =>
          simp only [Option.map_some, ih restTyped fun column member =>
            typed column (List.mem_of_mem_eraseP member), Attempt.ok_bind]
          rfl

/-- What is found first and what is left without it are the whole. -/
theorem cons_eraseP_perm
    {found : Value}
    {test : Value → Bool}
    (isFirst : columns.find? test = some found) :
    (found :: columns.eraseP test).Perm columns := by
  induction columns with
  | nil => cases isFirst
  | cons column columns ih =>
      by_cases passes : test column = true
      · rw [List.find?_cons_of_pos passes, Option.some.injEq] at isFirst
        rw [List.eraseP_cons_of_pos passes, isFirst]
      · rw [List.find?_cons_of_neg passes] at isFirst
        rw [List.eraseP_cons_of_neg passes]
        exact (List.Perm.swap column found _).trans ((ih isFirst).cons column)

/-- No column is lost and none is repeated, whatever the names are. -/
theorem alignedTo_perm :
    (alignedTo names columns).Perm columns := by
  induction names generalizing columns with
  | nil => exact List.Perm.refl columns
  | cons name names ih =>
      rw [alignedTo]
      split
      · rename_i column isFirst
        exact (ih.cons column).trans (cons_eraseP_perm isFirst)
      · exact ih

/-- Without a column of a name, the columns are taken by the other names. -/
private theorem filter_bne_eq_eraseP
    (apart : (columns.map Value.lowerName).Nodup) :
    columns.eraseP (Value.isCalled name) =
      columns.filter fun column => column.lowerName != name := by
  induction columns with
  | nil => rfl
  | cons column columns ih =>
      rw [List.map_cons, List.nodup_cons] at apart
      by_cases taken : column.lowerName = name
      · have others : ∀ other ∈ columns, (other.lowerName != name) = true := by
          intro other member
          apply bne_iff_ne.mpr
          intro same
          exact apart.1 (List.mem_map.mpr ⟨other, member, same.trans taken.symm⟩)
        rw [List.eraseP_cons_of_pos (Value.isCalled_iff.mpr taken),
          List.filter_cons_of_neg (by simp [taken]), List.filter_eq_self.mpr others]
      · rw [List.eraseP_cons_of_neg (by simp [Value.isCalled_iff, taken]),
          List.filter_cons_of_pos (by simp [taken]), ih apart.2]

/-- The columns of the names, each by the first column that has it. -/
def sharedColumns
    (names : List String)
    (columns : List Value) : List Value :=
  names.filterMap fun name => columns.find? (Value.isCalled name)

/-- The shared columns have the names that columns have, in the order of the names. -/
theorem map_lowerName_sharedColumns :
    (sharedColumns names columns).map Value.lowerName =
      names.filter fun name => name ∈ columns.map Value.lowerName := by
  induction names with
  | nil => rfl
  | cons name names ih =>
      rw [sharedColumns, List.filterMap_cons]
      cases isFirst : columns.find? (Value.isCalled name) with
      | none =>
          have absent : name ∉ columns.map Value.lowerName := by
            rintro member
            rcases List.mem_map.mp member with ⟨column, held, named⟩
            exact List.find?_eq_none.mp isFirst column held (Value.isCalled_iff.mpr named)
          rw [List.filter_cons_of_neg (by simpa using absent)]
          exact ih
      | some column =>
          have named : column.lowerName = name := Value.isCalled_iff.mp (List.find?_some isFirst)
          have present : name ∈ columns.map Value.lowerName :=
            List.mem_map.mpr ⟨column, List.mem_of_find?_eq_some isFirst, named⟩
          rw [List.filter_cons_of_pos (by simpa using present), List.map_cons, named]
          exact congrArg (List.cons name) ih

/-- The columns of other names are found without the columns of a name. -/
private theorem sharedColumns_filter_bne
    (isNew : name ∉ names) :
    sharedColumns names (columns.filter fun column => column.lowerName != name) =
      sharedColumns names columns := by
  apply List.filterMap_congr
  intro other member
  have distinct : other ≠ name := fun same => isNew (same ▸ member)
  rw [List.find?_filter]
  apply congrArg (columns.find? ·)
  funext column
  by_cases called : column.lowerName = other
  · simp [Value.isCalled, called, distinct]
  · simp [Value.isCalled, called]

private theorem filter_filter_bne :
    ((columns.filter fun column => column.lowerName != name).filter
        fun column => column.lowerName ∉ names) =
      columns.filter fun column => column.lowerName ∉ name :: names := by
  rw [List.filter_filter]
  apply List.filter_congr
  intro column _
  by_cases named : column.lowerName = name <;> simp [named]

/-- Names that tell the columns apart put the shared columns first, in the order of the names. -/
theorem alignedTo_eq_shared_append
    (namesApart : names.Nodup)
    (apart : (columns.map Value.lowerName).Nodup) :
    alignedTo names columns =
      sharedColumns names columns ++ columns.filter fun column => column.lowerName ∉ names := by
  induction names generalizing columns with
  | nil => simp [alignedTo, sharedColumns]
  | cons name names ih =>
      rcases List.nodup_cons.mp namesApart with ⟨isNew, restApart⟩
      rw [alignedTo, sharedColumns, List.filterMap_cons]
      cases isFirst : columns.find? (Value.isCalled name) with
      | none =>
          have none : ∀ column ∈ columns, column.lowerName ≠ name := fun column member same =>
            List.find?_eq_none.mp isFirst column member (Value.isCalled_iff.mpr same)
          have others : (columns.filter fun column => column.lowerName ∉ name :: names) =
              columns.filter fun column => column.lowerName ∉ names := by
            apply List.filter_congr
            intro column member
            simp [none column member]
          dsimp only
          rw [ih restApart apart, others]
          rfl
      | some column =>
          have left : columns.eraseP (Value.isCalled name) =
              columns.filter fun column => column.lowerName != name :=
            filter_bne_eq_eraseP apart
          have leftApart :
              ((columns.filter fun column => column.lowerName != name).map
                Value.lowerName).Nodup :=
            apart.sublist (List.filter_sublist.map Value.lowerName)
          dsimp only
          rw [left, ih restApart leftApart, sharedColumns_filter_bne isNew, filter_filter_bne]
          rfl

/-- Columns are in the order of their own names. -/
theorem alignedTo_self :
    alignedTo (columns.map Value.lowerName) columns = columns := by
  induction columns with
  | nil => rfl
  | cons column columns ih =>
      have isFirst : column.isCalled column.lowerName = true := Value.isCalled_iff.mpr rfl
      rw [List.map_cons, alignedTo, List.find?_cons_of_pos isFirst, List.eraseP_cons_of_pos isFirst]
      exact congrArg (List.cons column) ih

end Taking

/-! ## Columns beside a reference -/

variable {options : Options} {table reference : Value} {columns : List Value}

namespace Options

/-- The columns of a table in its own order. -/
def primaryColumns
    (options : Options)
    (table : Value) : List Value :=
  Value.sortedOn options.columnKey (table.rows "columns")

/-- The columns of a table beside a reference table or null. -/
def columnsBeside
    (options : Options)
    (table reference : Value) : List Value :=
  if reference.isNull || options.ignoreReferenceOrder then options.primaryColumns table
  else alignedTo ((options.primaryColumns reference).map Value.lowerName)
    (options.primaryColumns table)

theorem primaryColumns_perm :
    (options.primaryColumns table).Perm (table.rows "columns") :=
  Value.sortedOn_perm _ _

theorem columnsBeside_perm :
    (options.columnsBeside table reference).Perm (table.rows "columns") := by
  rw [columnsBeside]
  split
  · exact primaryColumns_perm
  · exact alignedTo_perm.trans primaryColumns_perm

theorem columnsBeside_self :
    options.columnsBeside table table = options.primaryColumns table := by
  rw [columnsBeside]
  split
  · rfl
  · exact alignedTo_self

/-- Scripting puts the columns of a table in order beside null or any other table. -/
theorem scriptedColumns_eq
    (typed : table.isTyped .table = true)
    (referenceTyped : reference = .null ∨ reference.isTyped .table = true) :
    options.scriptedColumns table reference = .ok (options.columnsBeside table reference) := by
  have ofTable : ∀ {table : Value}, table.isTyped .table = true →
      ∀ column ∈ options.primaryColumns table, column.isTyped .column = true :=
    fun typed _ member => Value.column_isTyped typed (primaryColumns_perm.subset member)
  rw [scriptedColumns, options.orderedColumns_eq typed, Attempt.ok_bind, columnsBeside]
  rcases referenceTyped with rfl | referenceTyped
  · rfl
  · split
    · rfl
    · rw [options.orderedColumns_eq referenceTyped, Attempt.ok_bind]
      exact alignColumns_eq (ofTable referenceTyped) (ofTable typed)

end Options

namespace Scripter

variable {scripter : Scripter} {text : String}

/-- What a table statement says after the columns. -/
def tableClosing
    (scripter : Scripter)
    (table : Value) : String :=
  match scripter.dialect with
  | .microsoftSql => "\n)\n" ++ MicrosoftSql.batchEnd
  | .mySql => "\n);\n"
  | .postgreSql => "\n)" ++ PostgreSql.inheritsText scripter.options table.parentName? ++ ";\n"

/-- The statement of a table with given definitions of its columns. -/
def tableStatement
    (scripter : Scripter)
    (table : Value)
    (definitions : List String) : String :=
  "CREATE TABLE " ++ scripter.dialect.tableText scripter.options (table.letters "schema")
      (table.letters "name") ++ "(\n" ++
    ",\n".intercalate (definitions.map fun text => indent ++ text) ++ scripter.tableClosing table

/-- A dialect scripts the statement of a table; PostgreSQL does so for its own tables only. -/
def AcceptsTable
    (scripter : Scripter)
    (table : Value) : Prop :=
  scripter.dialect = .postgreSql → table.isA .postgreSqlTable = true

/-- What follows column lines succeeds with what it says after the lines of all definitions. -/
private theorem columnLines_bind_ok_iff
    {definition : Value → Script}
    {statement : List String → String}
    {next : String → Script}
    (continues : ∀ definitions : List String,
      next (",\n".intercalate (definitions.map fun text => indent ++ text)) =
        .ok (statement definitions)) :
    (columnLines definition (.list columns) >>= next) = .ok text ↔
      ∃ definitions, columns.mapM definition = .ok definitions ∧ text = statement definitions := by
  constructor
  · intro succeeds
    rcases bind_eq_ok_iff.mp succeeds with ⟨lines, linesOk, run⟩
    have linesOk : (columns.mapM definition >>= fun definitions =>
        return ",\n".intercalate (definitions.map fun text => indent ++ text)) = .ok lines :=
      linesOk
    rcases bind_eq_ok_iff.mp linesOk with ⟨definitions, definitionsOk, equal⟩
    cases equal
    rw [continues, Except.ok.injEq] at run
    exact ⟨definitions, definitionsOk, run.symm⟩
  · rintro ⟨definitions, definitionsOk, rfl⟩
    have linesOk : columnLines definition (.list columns) =
        .ok (",\n".intercalate (definitions.map fun text => indent ++ text)) := by
      show (columns.mapM definition >>= _) = _
      exact bind_eq_ok_iff.mpr ⟨definitions, definitionsOk, rfl⟩
    rw [linesOk, Attempt.ok_bind, continues]

/-- The statement of a table holds the definitions of the columns in their order. -/
theorem createTable_ok_iff
    (typed : table.isTyped .table = true) :
    scripter.statements.createTable scripter.options table (.list columns) = .ok text ↔
      scripter.AcceptsTable table ∧ ∃ definitions,
        columns.mapM scripter.columnDefinition = .ok definitions ∧
          text = scripter.tableStatement table definitions := by
  rcases scripter with ⟨dialect, options⟩
  cases dialect with
  | microsoftSql =>
      have isOther : Dialect.microsoftSql ≠ .postgreSql := by decide
      have accepts : AcceptsTable ⟨.microsoftSql, options⟩ table := fun same => absurd same isOther
      rw [and_iff_right accepts]
      apply columnLines_bind_ok_iff
      intro definitions
      rw [MicrosoftSql.dialect, Dialect.objectName_ok typed]
      exact congrArg Except.ok (String.append_assoc ..)
  | mySql =>
      have isOther : Dialect.mySql ≠ .postgreSql := by decide
      have accepts : AcceptsTable ⟨.mySql, options⟩ table := fun same => absurd same isOther
      rw [and_iff_right accepts]
      apply columnLines_bind_ok_iff
      intro definitions
      rw [MySql.dialect, Dialect.objectName_ok typed]
      rfl
  | postgreSql =>
      have accepted : PostgreSql.dialect.expect .postgreSqlTable table = .ok () ↔
          AcceptsTable ⟨.postgreSql, options⟩ table :=
        Dialect.expect_ok_iff.trans ⟨fun isA _ => isA, fun accepts => accepts rfl⟩
      have columnsRun : (columnLines (PostgreSql.columnDefinition options) (.list columns) >>=
            fun lines => do
              return "CREATE TABLE " ++ (← PostgreSql.dialect.objectName options table) ++ "(\n" ++
                lines ++ "\n)" ++ (← PostgreSql.inheritsClause options table) ++ ";\n") =
              .ok text ↔ ∃ definitions,
                columns.mapM (PostgreSql.columnDefinition options) = .ok definitions ∧
                  text = tableStatement ⟨.postgreSql, options⟩ table definitions := by
        apply columnLines_bind_ok_iff
        intro definitions
        rw [PostgreSql.dialect, Dialect.objectName_ok typed, Attempt.ok_bind,
          PostgreSql.inheritsClause_ok options typed, Attempt.ok_bind, tableStatement, tableClosing]
        simp only [Attempt.pure_eq_ok, String.append_assoc]
      constructor
      · intro succeeds
        rcases bind_eq_ok_iff.mp succeeds with ⟨_, expected, run⟩
        exact ⟨accepted.mp expected, columnsRun.mp run⟩
      · rintro ⟨accepts, definitions⟩
        exact bind_eq_ok_iff.mpr ⟨(), accepted.mpr accepts, columnsRun.mpr definitions⟩

/-- A table is scripted beside another one with the definitions of the columns in their order. -/
theorem tableDefinition_ok_iff
    (typed : table.isTyped .table = true)
    (referenceTyped : reference = .null ∨ reference.isTyped .table = true) :
    scripter.tableDefinition table reference = .ok text ↔
      scripter.AcceptsTable table ∧ ∃ definitions,
        (scripter.options.columnsBeside table reference).mapM scripter.columnDefinition =
            .ok definitions ∧
          text = scripter.tableStatement table definitions := by
  rw [tableDefinition, Value.required_ok typed, Attempt.ok_bind,
    Options.scriptedColumns_eq typed referenceTyped, Attempt.ok_bind]
  exact createTable_ok_iff typed

/-- Whatever the reference is, a table is scripted with the definitions of the same columns. -/
theorem exists_tableDefinition_of_ok
    {other : Value}
    (typed : table.isTyped .table = true)
    (referenceTyped : reference = .null ∨ reference.isTyped .table = true)
    (otherTyped : other = .null ∨ other.isTyped .table = true)
    (scripted : scripter.tableDefinition table reference = .ok text) :
    ∃ definitions others,
      (scripter.options.columnsBeside table reference).mapM scripter.columnDefinition =
          .ok definitions ∧
        text = scripter.tableStatement table definitions ∧
        scripter.tableDefinition table other = .ok (scripter.tableStatement table others) ∧
        others.Perm definitions ∧ definitions.length = (table.rows "columns").length := by
  rcases (tableDefinition_ok_iff typed referenceTyped).mp scripted with
    ⟨accepts, definitions, definitionsOk, rfl⟩
  have perm : (scripter.options.columnsBeside table other).Perm
      (scripter.options.columnsBeside table reference) :=
    Options.columnsBeside_perm.trans Options.columnsBeside_perm.symm
  rcases Attempt.exists_mapM_ok_of_perm definitionsOk perm with ⟨others, othersOk, othersPerm⟩
  have scriptedBeside :
      scripter.tableDefinition table other = .ok (scripter.tableStatement table others) :=
    (tableDefinition_ok_iff typed otherTyped).mpr ⟨accepts, others, othersOk, rfl⟩
  have count : definitions.length = (table.rows "columns").length := by
    rw [Attempt.length_of_mapM definitionsOk, Options.columnsBeside_perm.length_eq]
  exact ⟨definitions, others, definitionsOk, rfl, scriptedBeside, othersPerm, count⟩

/--
Columns that share their names with references come first, in the order of the references.  The
others follow in the order in which they stood.
-/
def FollowsReferences
    (references primary columns : List Value) : Prop :=
  ∃ shared,
    columns = shared ++ primary.filter (fun column =>
        column.lowerName ∉ references.map Value.lowerName) ∧
      shared.map Value.lowerName = (references.map Value.lowerName).filter fun name =>
        name ∈ primary.map Value.lowerName

/--
Beside a reference no column of a table is lost and none is repeated.  Without a reference, without
alignment and beside itself a table keeps its own order; where the names tell the columns apart on
both sides, it follows the reference.  The statement of the table holds the definitions of the
columns in this order, as many as the table has columns, and can be scripted beside any reference
when it can be scripted alone.
-/
theorem scriptedColumns_aligned
    (scripter : Scripter)
    (typed : table.isTyped .table = true)
    (referenceTyped : reference = .null ∨ reference.isTyped .table = true) :
    ∃ primary columns,
      scripter.options.orderedColumns table = .ok primary ∧
        scripter.options.scriptedColumns table reference = .ok columns ∧
        columns.Perm (table.rows "columns") ∧
        (reference = .null ∨ scripter.options.ignoreReferenceOrder = true → columns = primary) ∧
        (reference = table → columns = primary) ∧
        (reference ≠ .null → scripter.options.ignoreReferenceOrder = false →
          ∃ references, scripter.options.orderedColumns reference = .ok references ∧
            ((references.map Value.lowerName).Nodup → (primary.map Value.lowerName).Nodup →
              FollowsReferences references primary columns)) ∧
        (∀ text, scripter.tableDefinition table reference = .ok text →
          ∃ definitions alone,
            columns.mapM scripter.columnDefinition = .ok definitions ∧
              text = scripter.tableStatement table definitions ∧
              scripter.tableDefinition table .null = .ok (scripter.tableStatement table alone) ∧
              alone.Perm definitions ∧ definitions.length = (table.rows "columns").length) ∧
        ((∃ text, scripter.tableDefinition table .null = .ok text) →
          ∃ text, scripter.tableDefinition table reference = .ok text) := by
  refine ⟨scripter.options.primaryColumns table, scripter.options.columnsBeside table reference,
    scripter.options.orderedColumns_eq typed, Options.scriptedColumns_eq typed referenceTyped,
    Options.columnsBeside_perm, ?unaligned, ?itself, ?aligned, ?scripted, ?succeeds⟩
  case unaligned =>
    rintro (rfl | ignored)
    · rfl
    · rw [Options.columnsBeside, ignored, Bool.or_true, if_pos rfl]
  case itself =>
    rintro rfl
    exact Options.columnsBeside_self
  case aligned =>
    intro given aligning
    have referenceTyped := referenceTyped.resolve_left given
    refine ⟨scripter.options.primaryColumns reference,
      scripter.options.orderedColumns_eq referenceTyped, fun referencesApart apart => ?_⟩
    have notNull : reference.isNull = false := Value.isNull_of_isTyped referenceTyped
    refine ⟨sharedColumns ((scripter.options.primaryColumns reference).map Value.lowerName)
      (scripter.options.primaryColumns table), ?_, map_lowerName_sharedColumns⟩
    rw [Options.columnsBeside, notNull, aligning, Bool.or_false, if_neg Bool.false_ne_true]
    exact alignedTo_eq_shared_append referencesApart apart
  case scripted =>
    intro text scripted
    exact exists_tableDefinition_of_ok typed referenceTyped (Or.inl rfl) scripted
  case succeeds =>
    rintro ⟨text, scripted⟩
    rcases exists_tableDefinition_of_ok typed (Or.inl rfl) referenceTyped scripted with
      ⟨_, _, _, _, besideOk, _, _⟩
    exact ⟨_, besideOk⟩

end Scripter

/-! ## Letters of different case -/

private def besideReference : Value :=
  .plainTable "t" [.plainColumn "note" "text" 1, .plainColumn "id" "integer" 2] [] [] []

private def mixedCase : Value :=
  .plainTable "t"
    [.plainColumn "extra" "text" 3, .plainColumn "Id" "integer" 1, .plainColumn "Note" "text" 2]
    [] [] []

private theorem isTyped_besideReference :
    besideReference.isTyped .table = true := by
  refine Value.isTyped_plainTable "t" ?_ (by simp) (by simp) (by simp)
  simp [Value.isTyped_plainColumn]

private theorem isTyped_mixedCase :
    mixedCase.isTyped .table = true := by
  refine Value.isTyped_plainTable "t" ?_ (by simp) (by simp) (by simp)
  simp [Value.isTyped_plainColumn]

/-- Columns follow a reference that spells the shared names in lower case. -/
theorem columns_of_mixedCase_aligned :
    mixedCase.isTyped .table = true ∧ besideReference.isTyped .table = true ∧
      Options.scriptedColumns {} mixedCase besideReference =
        .ok [.plainColumn "Note" "text" 2, .plainColumn "Id" "integer" 1,
          .plainColumn "extra" "text" 3] ∧
      Scripter.FollowsReferences
        [.plainColumn "note" "text" 1, .plainColumn "id" "integer" 2]
        [.plainColumn "Id" "integer" 1, .plainColumn "Note" "text" 2,
          .plainColumn "extra" "text" 3]
        [.plainColumn "Note" "text" 2, .plainColumn "Id" "integer" 1,
          .plainColumn "extra" "text" 3] := by
  rcases Scripter.scriptedColumns_aligned ⟨.postgreSql, {}⟩ isTyped_mixedCase
      (Or.inr isTyped_besideReference) with
    ⟨primary, columns, primaryOk, columnsOk, _, _, _, aligned, _⟩
  rcases aligned (fun isNull => nomatch isNull) rfl with ⟨references, referencesOk, follows⟩
  cases primaryOk
  cases columnsOk
  cases referencesOk
  exact ⟨isTyped_mixedCase, isTyped_besideReference, rfl, follows (by decide) (by decide)⟩

end SchemaDelta
