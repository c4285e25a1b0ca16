import SchemaDelta.Ddl.FullScript
import SchemaDelta.Proofs.Ddl.ColumnDefinition
import SchemaDelta.Proofs.Ddl.ColumnOrder
import SchemaDelta.Proofs.Ddl.CreationOrder
import SchemaDelta.Proofs.Ddl.GroupOrder
import SchemaDelta.Proofs.Decimal.Style
import SchemaDelta.Proofs.Value.Rearrangement

/-!
# Scripts of rearranged objects

What is scripted of a table, a view or a type does not depend on the order of the collections of the
database, as far as their objects can be told apart: collections are either sorted or searched for
the one object that fits.
-/

namespace SchemaDelta

open Attempt (CarriesTo bind_eq_ok_iff carriesTo_bind carriesTo_of_eq carriesTo_of_fails
  carriesTo_ok ensures_bind ensures_error)
open Value (RearrangesAs listing sortedOn)

/-! ## Listed objects -/

/-- A rearranged object is listed by the same schema and name. -/
theorem Value.RearrangesAs.listing_eq
    {kind : ObjectClass}
    {object other : Value}
    (related : RearrangesAs kind object other)
    (schema : kind.isShallowAt "schema" = true)
    (name : kind.isShallowAt "name" = true) :
    listing object = listing other := by
  rw [listing, listing, related.letters_eq "schema" schema, related.letters_eq "name" name]

theorem Value.forall₂_sortedOn_listing
    {kind : ObjectClass}
    {objects others : List Value}
    (schema : kind.isShallowAt "schema" = true)
    (name : kind.isShallowAt "name" = true)
    (held : List.Forall₂ (RearrangesAs kind) objects others) :
    List.Forall₂ (RearrangesAs kind) (sortedOn listing objects) (sortedOn listing others) :=
  Value.forall₂_sortedOn (fun _ _ related => related.listing_eq schema name) held

/-! ## Order of tables -/

/-- Two tables stand under one key, and one of them is the other one rearranged. -/
structure KeyedTable.Rearranges
    (entry other : KeyedTable) : Prop where
  key : entry.key = other.key
  table : RearrangesAs .table entry.table other.table

namespace Inheritance

variable {tables others : List KeyedTable} {entry other : KeyedTable}

private theorem parentKey_eq
    {table other : Value}
    (related : RearrangesAs .table table other) :
    table.parentKey = other.parentKey := by
  have name := related.part_eq "inherited_table_name" (by decide)
  have schema := related.part_eq "inherited_table_schema" (by decide)
  rcases related with ⟨typed, rearranged⟩
  cases rearranged with
  | same => rfl
  | @object kind fields others names held =>
      cases kind with
      | postgreSqlTable => rw [Value.parentKey, Value.parentKey, name, schema]
      | _ => rfl
  | collection => cases typed

private theorem find?_rel
    (held : List.Forall₂ KeyedTable.Rearranges tables others)
    (key : Value) :
    Option.Rel KeyedTable.Rearranges (find? tables key) (find? others key) := by
  have reversed := List.rel_reverse held
  rw [find?, find?]
  generalize tables.reverse = tables at reversed ⊢
  generalize others.reverse = others at reversed ⊢
  induction reversed with
  | nil => exact .none
  | @cons entry other tables others related _ ih =>
      rw [List.find?_cons, List.find?_cons, related.key]
      cases other.key == key with
      | true => exact .some related
      | false => exact ih

/-- Where a table has a chain, the chain of the rearranged table is rearranged. -/
private theorem carriesTo_chain
    (held : List.Forall₂ KeyedTable.Rearranges tables others)
    (placed pool : List Value)
    (related : entry.Rearranges other) :
    CarriesTo (List.Forall₂ KeyedTable.Rearranges) (chain tables placed pool entry)
      (chain others placed pool other) := by
  induction size : pool.length using Nat.strongRecOn generalizing pool entry other with
  | ind count ih =>
      rw [chain, chain, related.key]
      split
      · exact carriesTo_ok .nil
      · split
        · rename_i met
          refine carriesTo_bind (carriesTo_of_eq (parentKey_eq related.table)) ?_
          rintro parentKey _ rfl
          split
          · exact carriesTo_ok (.cons related .nil)
          · refine carriesTo_bind (carriesTo_of_eq rfl) ?_
            rintro wanted _ rfl
            have parents := find?_rel held wanted
            generalize find? tables wanted = parent? at parents ⊢
            generalize find? others wanted = otherParent? at parents ⊢
            cases parents with
            | none =>
                exact carriesTo_of_fails (ensures_bind fun _ => ensures_bind fun _ =>
                  ensures_bind fun _ => ensures_bind fun _ => ensures_error)
            | some parentRelated =>
                refine carriesTo_bind (ih _ (size ▸ length_without_lt met) _ parentRelated rfl) ?_
                exact fun ancestors otherAncestors ancestorsHeld =>
                  carriesTo_ok (List.rel_append ancestorsHeld (.cons related .nil))
        · exact carriesTo_of_fails (ensures_bind fun _ => ensures_bind fun _ => ensures_error)

private theorem carriesTo_place
    (held : List.Forall₂ KeyedTable.Rearranges tables others)
    {placed otherPlaced rest otherRest : List KeyedTable}
    (placedHeld : List.Forall₂ KeyedTable.Rearranges placed otherPlaced)
    (restHeld : List.Forall₂ KeyedTable.Rearranges rest otherRest) :
    CarriesTo (List.Forall₂ KeyedTable.Rearranges) (place tables placed rest)
      (place others otherPlaced otherRest) := by
  have sameKeys : ∀ {tables others : List KeyedTable},
      List.Forall₂ KeyedTable.Rearranges tables others →
        tables.map (·.key) = others.map (·.key) := by
    intro tables others held
    induction held with
    | nil => rfl
    | cons related _ ih => rw [List.map_cons, List.map_cons, related.key, ih]
  induction restHeld generalizing placed otherPlaced with
  | nil => exact carriesTo_ok placedHeld
  | cons related _ ih =>
      rw [place, place, sameKeys held, sameKeys placedHeld]
      exact carriesTo_bind (carriesTo_chain held _ _ related) fun added otherAdded addedHeld =>
        ih (List.rel_append placedHeld addedHeld)

private theorem hasDependencies_eq
    (held : List.Forall₂ KeyedTable.Rearranges tables others) :
    hasDependencies tables = hasDependencies others := by
  rw [hasDependencies, hasDependencies]
  induction held with
  | nil => rfl
  | cons related _ ih =>
      simp only [List.anyM, parentKey_eq related.table, ih]

end Inheritance

/-- Where tables have an order, the rearranged tables have the same one. -/
theorem Dialect.carriesTo_sortTables
    {dialect : Dialect}
    {tables others : List Value}
    (held : List.Forall₂ (RearrangesAs .table) tables others) :
    CarriesTo (List.Forall₂ (RearrangesAs .table)) (dialect.sortTables false (.list tables))
      (dialect.sortTables false (.list others)) := by
  rcases Value.isTyped_of_forall₂ held with ⟨typed, othersTyped⟩
  have sorted := Value.forall₂_sortedOn_listing (by decide) (by decide) held
  by_cases inherits : dialect = .postgreSql
  · have listed : List.Forall₂ KeyedTable.Rearranges
        ((sortedOn listing tables).map fun table => ⟨listing table, table⟩)
        ((sortedOn listing others).map fun table => ⟨listing table, table⟩) :=
      List.rel_map (fun _ _ related => ⟨related.listing_eq (by decide) (by decide), related⟩) sorted
    have created := carriesTo_bind (Inheritance.carriesTo_place listed .nil listed)
      fun _ _ placed => carriesTo_ok (List.rel_map (fun _ _ related => related.table) placed)
    rw [sortTables, sortTables, if_pos inherits, if_pos inherits,
      Inheritance.order, Inheritance.order, Inheritance.listed_ok typed,
      Inheritance.listed_ok othersTyped, Attempt.ok_bind, Attempt.ok_bind,
      Inheritance.hasDependencies_eq listed]
    refine carriesTo_bind (carriesTo_of_eq rfl) ?_
    rintro inherit _ rfl
    cases inherit with
    | true => exact created
    | false => exact carriesTo_ok (List.rel_map (fun _ _ related => related.table) listed)
  · rw [sortTables_of_ne_postgreSql typed inherits,
      sortTables_of_ne_postgreSql othersTyped inherits]
    exact carriesTo_ok sorted

/-! ## Tables and views -/

/--
The parts of a table can be told apart: columns by their names and by their positions, constraints
and triggers by schema and name, and rows of indexes and foreign keys by their places in groups.
-/
structure Value.TellsPartsApart
    (table : Value) : Prop where
  columnNames : ((table.rows "columns").map fun column => column.letters "name").Nodup
  columnPositions :
    ((table.rows "columns").map fun column => column.number "ordinal_position").Nodup
  indexes : ((table.rows "indexes").map placeInGroup).Nodup
  constraints : ((table.rows "constraints").map fullName).Nodup
  foreignKeys : ((table.rows "foreign_keys").map placeInGroup).Nodup
  triggers : ((table.rows "triggers").map fullName).Nodup

namespace Value.RearrangesAs

variable {kind : ObjectClass} {value other : Value} {dialect : Dialect} {options : Options}

theorem required_eq
    (related : RearrangesAs kind value other)
    (argument : String) :
    value.required argument = other.required argument := by
  rcases related with ⟨typed, rearranged⟩
  cases rearranged with
  | same => rfl
  | object => rfl
  | collection => cases typed

theorem expect_eq
    (related : RearrangesAs kind value other)
    (expected : ObjectClass) :
    dialect.expect expected value = dialect.expect expected other := by
  rcases related with ⟨typed, rearranged⟩
  cases rearranged with
  | same => rfl
  | object => rfl
  | collection => cases typed

theorem objectName_eq
    (related : RearrangesAs kind value other)
    (schema : kind.isShallowAt "schema" = true)
    (name : kind.isShallowAt "name" = true) :
    dialect.objectName options value = dialect.objectName options other := by
  rw [Dialect.objectName, Dialect.objectName, related.required_eq, related.part_eq "schema" schema,
    related.part_eq "name" name]

/-- The statement of a table is told by its columns and by its own fields. -/
theorem createTable_eq
    (related : RearrangesAs .table value other)
    (columns : Value) :
    dialect.statements.createTable options value columns =
      dialect.statements.createTable options other columns := by
  have named : dialect.objectName options value = dialect.objectName options other :=
    related.objectName_eq (by decide) (by decide)
  cases dialect with
  | microsoftSql =>
      simp only [Dialect.statements, MicrosoftSql.statements, MicrosoftSql.createTable, named]
  | mySql => simp only [Dialect.statements, MySql.statements, MySql.createTable, named]
  | postgreSql =>
      have inherits : PostgreSql.inheritsClause options value =
          PostgreSql.inheritsClause options other := by
        rw [PostgreSql.inheritsClause, PostgreSql.inheritsClause, Inheritance.parentKey_eq related,
          related.part_eq "inherited_table_schema" (by decide),
          related.part_eq "inherited_table_name" (by decide)]
      simp only [Dialect.statements, PostgreSql.statements, PostgreSql.createTable,
        related.expect_eq, named, inherits]

/-- The statement of a view is told by its own fields. -/
theorem createView_eq
    (related : RearrangesAs .view value other) :
    dialect.statements.createView options value = dialect.statements.createView options other := by
  have named : dialect.objectName options value = dialect.objectName options other :=
    related.objectName_eq (by decide) (by decide)
  have definition := related.part_eq "view_definition" (by decide)
  cases dialect with
  | microsoftSql =>
      simp only [Dialect.statements, MicrosoftSql.statements, MicrosoftSql.ModuleKind.create,
        MicrosoftSql.ModuleKind.spelling, MicrosoftSql.createModule, partText, definition]
  | mySql =>
      simp only [Dialect.statements, MySql.statements, MySql.viewStatement, named, partText,
        definition]
  | postgreSql =>
      simp only [Dialect.statements, PostgreSql.statements, PostgreSql.createView,
        related.expect_eq, named, related.part_eq "check_option" (by decide), definition]

/-- Indexes of a view that can be scripted can be scripted in any order of the rows. -/
theorem carriesTo_createIndexes
    (related : RearrangesAs .view value other)
    (apart : ((value.rows "indexes").map placeInGroup).Nodup) :
    CarriesTo Eq (dialect.statements.createIndexes options value (.list (value.rows "indexes")))
      (dialect.statements.createIndexes options other (.list (other.rows "indexes"))) := by
  have areRows : ∀ row ∈ value.rows "indexes", row.IsRow := fun _ member =>
    isRow_of_index (isTyped_of_mem_rows related.typed ObjectClass.view_declares_indexes member)
  have areOtherRows : ∀ row ∈ other.rows "indexes", row.IsRow := fun _ member =>
    isRow_of_index (isTyped_of_mem_rows related.otherTyped ObjectClass.view_declares_indexes member)
  have named : dialect.objectName options value = dialect.objectName options other :=
    related.objectName_eq (by decide) (by decide)
  have same := sameGroups_of_perm
    (related.rows_perm ObjectClass.view_declares_indexes (by decide)) apart
  intro script scripted
  refine ⟨script, ?_, rfl⟩
  rwa [← Dialect.createIndexes_eq_of_sameGroups named areRows areOtherRows
    (Dialect.isA_of_createIndexes areRows scripted) same]

theorem orderedColumns_eq
    (related : RearrangesAs .table value other)
    (apart : value.TellsPartsApart) :
    options.orderedColumns value = options.orderedColumns other := by
  have perm := related.rows_perm ObjectClass.table_declares_columns (by decide)
  rw [Options.orderedColumns_eq options related.typed,
    Options.orderedColumns_eq options related.otherTyped]
  unfold Options.columnKey
  cases options.alphabeticalColumns with
  | true =>
      exact congrArg Except.ok ((text_ranksBy _).sortedOn_congr perm apart.columnNames)
  | false =>
      exact congrArg Except.ok ((int_ranksBy _).sortedOn_congr perm apart.columnPositions)

/-- The groups of all rows of a table do not depend on the order of the rows. -/
theorem sameRows
    (related : RearrangesAs .table value other)
    (apart : value.TellsPartsApart) :
    SameRows value other where
  primaryKeys := sameGroups_of_perm
    ((related.rows_perm ObjectClass.table_declares_indexes (by decide)).filter _)
    (apart.indexes.sublist (List.filter_sublist.map _))
  indexes := sameGroups_of_perm
    ((related.rows_perm ObjectClass.table_declares_indexes (by decide)).filter _)
    (apart.indexes.sublist (List.filter_sublist.map _))
  checks := by
    refine sameGroups_of_perm
      (related.rows_perm ObjectClass.table_declares_constraints (by decide))
      (List.Nodup.of_map (fun place => (place.1, place.2.1)) ?_)
    rw [List.map_map]
    exact apart.constraints
  foreignKeys := sameGroups_of_perm
    (related.rows_perm ObjectClass.table_declares_foreign_keys (by decide)) apart.foreignKeys

end Value.RearrangesAs

namespace Scripter

variable {scripter : Scripter} {table other : Value}
  (related : RearrangesAs .table table other) (apart : table.TellsPartsApart)

include related apart

theorem tableDefinition_eq :
    scripter.tableDefinition table .null = scripter.tableDefinition other .null := by
  rw [tableDefinition, tableDefinition, related.required_eq, Options.scriptedColumns,
    Options.scriptedColumns, related.orderedColumns_eq apart]
  simp only [statements, related.createTable_eq]

/-- Keys, constraints and indexes that can be scripted can be scripted in any order of the rows. -/
theorem carriesTo_tableKeysAndIndexes :
    CarriesTo Eq (scripter.tableKeysAndIndexes table) (scripter.tableKeysAndIndexes other) := by
  intro script scripted
  have ofClass : scripter.dialect = .microsoftSql →
      ∀ row ∈ table.secondaryRows, row.isA .microsoftSqlIndex = true := by
    have run := scripted
    rw [tableKeysAndIndexes, Value.primaryKeys_ok related.typed, Attempt.ok_bind] at run
    rcases bind_eq_ok_iff.mp run with ⟨keys, _, run⟩
    rcases bind_eq_ok_iff.mp run with ⟨constraints, _, run⟩
    rcases bind_eq_ok_iff.mp run with ⟨checks, _, run⟩
    rw [Value.secondaryIndexes_ok related.typed, Attempt.ok_bind] at run
    rcases bind_eq_ok_iff.mp run with ⟨indexes, indexesOk, _⟩
    exact Dialect.isA_of_createIndexes (fun row member =>
      Value.isRow_of_index (Value.secondaryRow_isTyped related.typed member)) indexesOk
  refine ⟨script, ?_, rfl⟩
  rwa [← tableKeysAndIndexes_eq related.typed related.otherTyped
    (related.objectName_eq (by decide) (by decide)) (related.sameRows apart) ofClass]

theorem tableForeignKeys_eq_of_rearranges :
    scripter.tableForeignKeys table = scripter.tableForeignKeys other :=
  tableForeignKeys_eq related.typed related.otherTyped
    (related.objectName_eq (by decide) (by decide)) (related.sameRows apart)

end Scripter

/-! ## Types -/

namespace PostgreSql

variable {types others : List Value}

/-- Types of PostgreSQL can be told apart by their ids. -/
def TellsTypesApart
    (types : List Value) : Prop :=
  ((types.filter (·.isA .postgreSqlDataType)).map (·.number "type_id")).Nodup

instance : DecidablePred TellsTypesApart :=
  fun _ => inferInstanceAs (Decidable (List.Nodup _))

/-- A number is equal to one integer at most. -/
private theorem equalInt_unique
    {number : Decimal.Binary64}
    {left right : Int}
    (isLeft : number.equalInt left = true)
    (isRight : number.equalInt right = true) :
    left = right := by
  cases number with
  | finite negative mantissa exponent =>
      simp only [Decimal.Binary64.equalInt, Bool.and_eq_true, Bool.or_eq_true, beq_iff_eq,
        decide_eq_true_eq] at isLeft isRight
      rcases isLeft with ⟨leftMagnitude, leftSign⟩
      rcases isRight with ⟨rightMagnitude, rightSign⟩
      have sameMagnitude : left.natAbs = right.natAbs :=
        Nat.eq_of_mul_eq_mul_right (Decimal.Binary64.magnitude_positive mantissa exponent)
          (leftMagnitude.symm.trans rightMagnitude)
      cases negative <;> simp at leftSign rightSign <;> omega
  | _ => cases isLeft

private theorem int_eq_of_agrees
    {left right : Int}
    {typeId : Value}
    (isLeft : (Value.int left).agrees typeId = true)
    (isRight : (Value.int right).agrees typeId = true) :
    left = right := by
  have sameAs : ∀ number : Int, (Value.int number).agrees typeId = true →
      (Value.int number).equal typeId = true :=
    fun _ agrees => (Bool.and_eq_true_iff.mp agrees).2
  have isLeft := sameAs left isLeft
  have isRight := sameAs right isRight
  cases typeId with
  | int number => exact (beq_iff_eq.mp isLeft).trans (beq_iff_eq.mp isRight).symm
  | bool truth => exact (beq_iff_eq.mp isLeft).trans (beq_iff_eq.mp isRight).symm
  | float number => exact equalInt_unique isLeft isRight
  | _ => cases isLeft

/-- The first item that fits is the same in any order of items of which one fits at most. -/
private theorem find?_eq_of_perm
    {test : Value → Bool}
    (perm : types.Perm others)
    (unique : ∀ left ∈ types, ∀ right ∈ types, test left = true → test right = true →
      left = right) :
    types.find? test = others.find? test := by
  cases found : types.find? test with
  | none =>
      refine (List.find?_eq_none.mpr fun other member => ?_).symm
      exact List.find?_eq_none.mp found other (perm.mem_iff.mpr member)
  | some first =>
      cases otherFound : others.find? test with
      | none =>
          exact absurd (List.find?_some found) (List.find?_eq_none.mp otherFound first
            (perm.mem_iff.mp (List.mem_of_find?_eq_some found)))
      | some other =>
          rw [unique first (List.mem_of_find?_eq_some found) other
            (perm.mem_iff.mpr (List.mem_of_find?_eq_some otherFound)) (List.find?_some found)
            (List.find?_some otherFound)]

/-- The type with an id is the same in any order of types with ids of their own. -/
theorem findType?_eq
    (typed : ∀ type ∈ types, type.isTyped .dataType = true)
    (perm : types.Perm others)
    (apart : TellsTypesApart types)
    (typeId : Value) :
    findType? (.list types) typeId = findType? (.list others) typeId := by
  refine congrArg Except.ok (find?_eq_of_perm perm ?_)
  have passes : ∀ type ∈ types, (type.isA .postgreSqlDataType &&
      (type.field? "type_id").any fun other => other.agrees typeId) = true →
        type ∈ types.filter (·.isA .postgreSqlDataType) ∧
          (Value.int (type.number "type_id")).agrees typeId = true := by
    intro type member passed
    rw [Bool.and_eq_true] at passed
    refine ⟨List.mem_filter.mpr ⟨member, passed.1⟩, ?_⟩
    have isPostgreSql := Value.isTyped_of_isA (typed type member) passed.1
    have read : type.part "type_id" = .ok (.int (type.number "type_id")) :=
      Value.part_int_of_isTyped isPostgreSql (by decide)
    rcases Value.isTyped_iff.mp isPostgreSql with ⟨special, fields, rfl, _, _⟩
    rw [Value.field?] at passed
    rw [Value.part] at read
    cases found : fields.lookup "type_id" with
    | none => rw [found] at read; cases read
    | some held =>
        rw [found] at read passed
        cases read
        exact passed.2
  intro left leftMember right rightMember leftPasses rightPasses
  rcases passes left leftMember leftPasses with ⟨leftListed, leftAgrees⟩
  rcases passes right rightMember rightPasses with ⟨rightListed, rightAgrees⟩
  exact List.inj_on_of_nodup_map apart leftListed rightListed
    (int_eq_of_agrees leftAgrees rightAgrees)

section SameTypes

variable {types others : Value}
  (same : ∀ typeId, findType? types typeId = findType? others typeId)

include same

private theorem typeName_eq :
    typeName types = typeName others := by
  have elements : elementType? types = elementType? others := by
    funext type
    simp only [elementType?, same]
  funext typeId
  simp only [typeName, same, elements]

private theorem argumentsFrom_eq
    (function : Value)
    (place : Nat)
    (typeIds : List Value) :
    argumentsFrom types function place typeIds = argumentsFrom others function place typeIds := by
  induction typeIds generalizing place with
  | nil => rfl
  | cons typeId rest ih => simp only [argumentsFrom, argument, typeName_eq same, ih]

theorem createFunction_eq
    (options : Options) :
    createFunction options types = createFunction options others := by
  funext function
  simp only [createFunction, createArguments, argumentsFrom_eq same, typeName_eq same]

theorem createType_eq
    (options : Options) :
    createType options types = createType options others := by
  funext type
  simp only [createType, attributeLines, rangeLines, typeName_eq same]

end SameTypes

end PostgreSql

/-- What is created of a type or a function is the same in any order of the types. -/
theorem Dialect.createType_eq
    {dialect : Dialect}
    {types others : List Value}
    (typed : ∀ type ∈ types, type.isTyped .dataType = true)
    (perm : types.Perm others)
    (apart : PostgreSql.TellsTypesApart types)
    (options : Options) :
    dialect.statements.createType options (.list types) =
        dialect.statements.createType options (.list others) ∧
      dialect.statements.createFunction options (.list types) =
        dialect.statements.createFunction options (.list others) := by
  have same := PostgreSql.findType?_eq typed perm apart
  cases dialect with
  | microsoftSql => exact ⟨rfl, rfl⟩
  | mySql => exact ⟨rfl, rfl⟩
  | postgreSql =>
      exact ⟨PostgreSql.createType_eq same options, PostgreSql.createFunction_eq same options⟩

end SchemaDelta
