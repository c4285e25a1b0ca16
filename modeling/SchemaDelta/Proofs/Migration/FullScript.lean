import Mathlib.Algebra.Order.Group.Multiset
import SchemaDelta.Proofs.Ddl.CreationOrder
import SchemaDelta.Proofs.Migration.Rendering

/-!
# Statements of full scripts

The full script of a database renders the statements about its objects: those about types, sequences
and tables, about functions, procedures and triggers, about keys and foreign keys, and about views.
It is made without failure but for a statement that fails or tables that have no order of creation.
-/

namespace SchemaDelta

open Attempt (bind_eq_ok_iff)
open Value (listing sortedOn)

/-- Every typed object is listed by its schema and name. -/
theorem Value.listingKey_ok_of_schemaObject
    {object : Value}
    (typed : object.isTyped .schemaObject = true) :
    object.listingKey = .ok (listing object) := by
  rw [listingKey, part_text_of_isTyped typed (by decide), Attempt.ok_bind,
    part_text_of_isTyped typed (by decide)]
  rfl

namespace ScriptPart

/-- A wanted part is its heading with the scripts of all its objects, any other one is empty. -/
theorem result_text
    (part : ScriptPart) :
    (text (.ok part)).result =
      if part.isWanted then do
        return bannerComment part.heading ++ "\n" ++
          String.join (← part.scripts.mapM fun script => script.result) ++ "\n"
      else .ok "" := by
  cases wanted : part.isWanted with
  | true =>
      simp only [text, Scripting.result_bind, Scripting.result_liftM, Attempt.ok_bind, wanted,
        Bool.not_true, Bool.false_eq_true, if_false, if_true, Scripting.result_mapM, id_eq,
        Scripting.result_pure, Attempt.pure_eq_ok]
  | false =>
      simp only [text, Scripting.result_bind, Scripting.result_liftM, Attempt.ok_bind, wanted,
        Bool.not_false, if_true, Bool.false_eq_true, if_false, Scripting.result_pure]

/-- The objects of a collection are listed by schema and name. -/
theorem ofCollection_ok
    (heading : String)
    {objects : List Value}
    (typed : ∀ object ∈ objects, object.isTyped .schemaObject = true)
    (script : Value → Scripting String) :
    ofCollection heading (.list objects) script =
      .ok ⟨heading, !objects.isEmpty, (sortedOn listing objects).map script⟩ := by
  cases objects with
  | nil => rfl
  | cons object objects =>
      have sorted := Value.sortedByName_ok fun object member =>
        Value.listingKey_ok_of_schemaObject (typed object member)
      simp only [ofCollection, Value.isTruthy, List.isEmpty_cons, Bool.not_false, if_true,
        Value.items, Attempt.ok_bind, sorted, Attempt.pure_eq_ok]

end ScriptPart

/-! ## Statements in the order of full scripts -/

namespace Value

/-- The statements about objects of a kind, listed by schema and name. -/
def listedStatements
    (kind : ObjectKind)
    (objects : List Value) : List ObjectStatement :=
  (sortedOn listing objects).flatMap fun object => object.statementsAs kind

/-- The statements that create the triggers of a table. -/
def triggerStatements
    (table : Value) : List ObjectStatement :=
  listedStatements .triggers (table.rows "triggers")

/-- The statements about a kind in full scripts; tables stand in the order of their creation. -/
def statementsInFull
    (database : Value)
    (tables : List Value) : ObjectKind → List ObjectStatement
  | .tables => tables.flatMap fun table => table.statementsAs .tables
  | .triggers => (sortedOn listing (database.rows "tables")).flatMap triggerStatements
  | kind => listedStatements kind (database.objectsIn kind)

/-- The statements of a full script, given the tables in the order of their creation. -/
def fullStatements
    (database : Value)
    (tables : List Value) : List ObjectStatement :=
  let listed := sortedOn listing (database.rows "tables")
  let about := database.statementsInFull tables
  [about .dataTypes, about .sequences, about .tables, about .functions, about .procedures,
    about .triggers, listed.flatMap keyStatements, listed.flatMap foreignKeyStatements,
    about .views].flatten

theorem listedStatements_perm
    (kind : ObjectKind)
    (objects : List Value) :
    (listedStatements kind objects).Perm
      (objects.flatMap fun object => object.statementsAs kind) :=
  (sortedOn_perm listing objects).flatMap_right _

/-- A full script says all there is to say about a database, in an order of its own. -/
theorem fullStatements_perm
    {database : Value}
    {tables : List Value}
    (created : tables.Perm (database.rows "tables")) :
    (database.fullStatements tables).Perm database.objectStatements := by
  have listed := sortedOn_perm listing (database.rows "tables")
  have kinds : ∀ kind, (database.statementsInFull tables kind).Perm
      ((database.objectsIn kind).flatMap fun object => object.statementsAs kind) := by
    intro kind
    cases kind with
    | tables => exact created.flatMap_right _
    | triggers =>
        rw [objectsIn, List.flatMap_assoc]
        exact listed.flatMap fun table _ => listedStatements_perm .triggers _
    | _ => exact listedStatements_perm _ _
  refine .trans ?_ (perm_objectStatements kinds (listed.flatMap_right keyStatements)
    (listed.flatMap_right foreignKeyStatements))
  simp only [fullStatements, ObjectKind.all, List.flatten_cons, List.flatten_nil,
    List.flatMap_cons, List.flatMap_nil, List.append_nil]
  simp only [← Multiset.coe_eq_coe, ← Multiset.coe_add]
  ac_rfl

end Value

namespace Scripter

variable {scripter : Scripter} {types : Value} {object table view database : Value}

/-! ## Scripts of single objects -/

theorem result_guardedObject
    (kind : String)
    (typed : object.isTyped .schemaObject = true)
    (script : Script) :
    (guardedObject kind object script).result = script := by
  have schemaRead : object.part "schema" = .ok (.text (object.letters "schema")) :=
    Value.part_text_of_isTyped typed (by decide)
  have nameRead : object.part "name" = .ok (.text (object.letters "name")) :=
    Value.part_text_of_isTyped typed (by decide)
  simp only [guardedObject, Scripting.result_bind, Scripting.result_liftM, schemaRead, nameRead,
    Attempt.ok_bind, Scripting.result_guarded]

theorem result_objectLines
    (kind : String)
    (typed : object.isTyped .schemaObject = true)
    (script : Script) :
    (objectLines kind object script).result = (do return (← script) ++ "\n") := by
  simp only [objectLines, Scripting.result_bind, result_guardedObject kind typed,
    Scripting.result_pure, Attempt.pure_eq_ok]

theorem result_moduleLines
    (kind : String)
    (typed : object.isTyped .schemaObject = true)
    (script : Script) :
    (scripter.moduleLines kind object script).result =
      (do return scripter.dialect.batchEnd ++ ((← script) ++ "\n")) := by
  rw [moduleLines, Scripting.result_bind, result_objectLines kind typed]
  cases script <;> rfl

/-- A view is followed by its indexes, if it has some. -/
theorem result_viewLines
    (typed : view.isTyped .view = true) :
    (scripter.viewLines view).result = (do
      let created ← (scripter.moduleLines "view" view
        (scripter.statements.createView scripter.options view)).result
      if (view.rows "indexes").isEmpty then return created
      return created ++ (← scripter.statements.createIndexes scripter.options view
        (.list (view.rows "indexes")))) := by
  have isObject : view.isTyped .schemaObject = true := Value.isTyped_of_isWithin typed (by decide)
  have truthy : (Value.list (view.rows "indexes")).isTruthy = !(view.rows "indexes").isEmpty := rfl
  simp only [viewLines, Scripting.result_bind, Scripting.result_liftM,
    Value.part_rows_of_isTyped typed ObjectClass.view_declares_indexes, Attempt.ok_bind, truthy]
  cases (view.rows "indexes").isEmpty with
  | true => rfl
  | false =>
      simp only [Bool.not_false, Bool.not_true, Bool.false_eq_true, if_false, Scripting.result_bind,
        Scripting.result_pure, result_guardedObject "view" isObject]
      rfl

private theorem isTyped_trigger
    {trigger : Value}
    (typed : table.isTyped .table = true)
    (member : trigger ∈ table.rows "triggers") :
    trigger.isTyped .schemaObject = true :=
  Value.isTyped_of_isWithin
    (Value.isTyped_of_mem_rows typed ObjectClass.table_declares_triggers member) (by decide)

/-- The triggers of a table are listed by schema and name. -/
theorem result_triggerLines
    (typed : table.isTyped .table = true) :
    (scripter.triggerLines table).result = (do
      return String.join (← (sortedOn listing (table.rows "triggers")).mapM fun trigger =>
        (scripter.moduleLines "trigger" trigger
          (scripter.statements.createTrigger scripter.options trigger)).result)) := by
  have listed := Value.partItems_of_isTyped typed ObjectClass.table_declares_triggers
  have sorted := Value.sortedByName_ok fun trigger member =>
    Value.listingKey_ok_of_schemaObject (isTyped_trigger typed member)
  simp only [triggerLines, Scripting.result_bind, Scripting.result_liftM, listed, Attempt.ok_bind,
    sorted, Scripting.result_mapM, Scripting.result_pure]
  rfl

/-! ## Statements of objects -/

/-- A statement followed by a line break. -/
private theorem renders_objectLines
    (statement : ObjectStatement)
    (kind : String)
    (typed : object.isTyped .schemaObject = true) :
    scripter.Renders types [statement]
      (objectLines kind object (scripter.statementText types statement)).result := by
  rw [result_objectLines kind typed]
  exact renders_map fun text =>
    (Dialect.madeOf_text _ text).append (Dialect.madeOf_filler .lineBreak)

/-- A statement in a batch of its own. -/
private theorem renders_moduleLines
    (statement : ObjectStatement)
    (kind : String)
    (typed : object.isTyped .schemaObject = true) :
    scripter.Renders types [statement]
      (scripter.moduleLines kind object (scripter.statementText types statement)).result := by
  rw [result_moduleLines kind typed]
  exact renders_map fun text => .filler .batchEnd
    ((Dialect.madeOf_text _ text).append (Dialect.madeOf_filler .lineBreak))

/-- A statement of which only the notice tells the object. -/
private theorem renders_guardedObject
    (statement : ObjectStatement)
    (kind : String)
    (typed : object.isTyped .schemaObject = true) :
    scripter.Renders types [statement]
      (guardedObject kind object (scripter.statementText types statement)).result := by
  rw [result_guardedObject kind typed]
  exact renders_statement scripter types statement

/-- A view is followed by its indexes. -/
private theorem renders_viewLines
    (typed : view.isTyped .view = true) :
    scripter.Renders types (view.statementsAs .views) (scripter.viewLines view).result := by
  have isObject : view.isTyped .schemaObject = true := Value.isTyped_of_isWithin typed (by decide)
  have created : scripter.Renders types [.create .views view]
      (scripter.moduleLines "view" view
        (scripter.statements.createView scripter.options view)).result :=
    renders_moduleLines (.create .views view) "view" isObject
  have rows := Value.part_rows_of_isTyped typed ObjectClass.view_declares_indexes
  rw [result_viewLines typed, Value.statementsAs]
  cases (view.rows "indexes").isEmpty with
  | true => rwa [← bind_pure (scripter.moduleLines "view" view _).result] at created
  | false =>
      have indexed := renders_statement scripter types (.createIndexes view)
      rw [statementText, rows] at indexed
      exact created.append indexed

/-- The triggers of a table, listed by schema and name. -/
private theorem renders_triggerLines
    (typed : table.isTyped .table = true) :
    scripter.Renders types table.triggerStatements (scripter.triggerLines table).result := by
  rw [result_triggerLines typed]
  exact renders_flatMap fun trigger member =>
    renders_moduleLines (.create .triggers trigger) "trigger"
      (isTyped_trigger typed (Value.mem_sortedOn.mp member))

/-- The keys of a table; of a table without keys nothing is said. -/
private theorem renders_tableKeys
    (typed : table.isTyped .table = true) :
    scripter.Renders types table.keyStatements
      (guardedObject "table" table (scripter.tableKeysAndIndexes table)).result := by
  have isObject : table.isTyped .schemaObject = true := Value.isTyped_of_isWithin typed (by decide)
  unfold Value.keyStatements
  cases keys : table.hasKeyRows with
  | true => exact renders_guardedObject (.addKeys table) "table" isObject
  | false =>
      rw [result_guardedObject "table" isObject, tableKeysAndIndexes_eq_empty typed keys]
      exact renders_nothing

/-- The foreign keys of a table; of a table without foreign keys nothing is said. -/
private theorem renders_tableForeignKeys
    (typed : table.isTyped .table = true) :
    scripter.Renders types table.foreignKeyStatements
      (guardedObject "table" table (scripter.tableForeignKeys table)).result := by
  have isObject : table.isTyped .schemaObject = true := Value.isTyped_of_isWithin typed (by decide)
  unfold Value.foreignKeyStatements
  cases keys : table.hasForeignKeyRows with
  | true => exact renders_guardedObject (.addForeignKeys table) "table" isObject
  | false =>
      rw [result_guardedObject "table" isObject, tableForeignKeys_eq_empty typed keys]
      exact renders_nothing

/-! ## Parts -/

/-- What is scripted under a heading; what is left out has nothing to say. -/
private theorem renders_part
    {items : List Value}
    {statementsOf : Value → List ObjectStatement}
    {scriptOf : Value → Scripting String}
    {heading : String}
    {isWanted : Bool}
    (unclosed : '*' ∉ heading.toList)
    (renders : ∀ item ∈ items, scripter.Renders types (statementsOf item) (scriptOf item).result)
    (wanted : ∀ item ∈ items, statementsOf item ≠ [] → isWanted = true) :
    scripter.Renders types (items.flatMap statementsOf)
      (ScriptPart.text (.ok ⟨heading, isWanted, items.map scriptOf⟩)).result := by
  rw [ScriptPart.result_text]
  cases isWanted with
  | true =>
      rw [if_pos rfl, List.mapM_map]
      have headed : scripter.dialect.MadeOf [] (bannerComment heading ++ "\n") :=
        Dialect.madeOf_filler (.banner unclosed)
      have together := (renders_flatMap renders).between headed (Dialect.madeOf_filler .lineBreak)
      simp only [bind_assoc, pure_bind] at together
      exact together
  | false =>
      have nothing : items.flatMap statementsOf = [] :=
        List.flatMap_eq_nil_iff.mpr fun item member => by
          by_contra something
          exact Bool.false_ne_true (wanted item member something)
      rw [nothing]
      exact renders_nothing

/-- The objects of a kind under a heading, listed by schema and name. -/
private theorem renders_collection
    {kind : ObjectKind}
    {scriptOf : Value → Scripting String}
    {heading : String}
    (typed : database.isTyped .database = true)
    (unclosed : '*' ∉ heading.toList)
    (renders : ∀ object, object.isTyped kind.objectClass = true →
      scripter.Renders types (object.statementsAs kind) (scriptOf object).result) :
    scripter.Renders types (Value.listedStatements kind (database.objectsIn kind))
      (ScriptPart.text (ScriptPart.ofCollection heading (.list (database.objectsIn kind))
        scriptOf)).result := by
  have objectsTyped : ∀ object ∈ database.objectsIn kind,
      object.isTyped kind.objectClass = true :=
    fun object member => Value.isTyped_of_mem_objectsIn typed member
  rw [ScriptPart.ofCollection_ok heading fun object member =>
    Value.isTyped_schemaObject (objectsTyped object member)]
  refine renders_part unclosed (fun object member =>
    renders object (objectsTyped object (Value.mem_sortedOn.mp member))) fun object member _ => ?_
  rw [Bool.not_eq_true', List.isEmpty_eq_false_iff_exists_mem]
  exact ⟨object, Value.mem_sortedOn.mp member⟩

section Database

variable (typed : database.isTyped .database = true)

include typed

theorem typePart_ok :
    scripter.typePart database =
      ScriptPart.ofCollection "User Defined Types" (.list (database.objectsIn .dataTypes))
        fun type => objectLines "type" type (scripter.statements.createType scripter.options
          (.list (database.rows "data_types")) type) := by
  rw [typePart, Value.part_rows_of_isTyped typed ObjectClass.database_declares_data_types,
    Attempt.ok_bind, Value.userTypes_ok typed, Attempt.ok_bind]

theorem sequencePart_ok :
    scripter.sequencePart database =
      ScriptPart.ofCollection "Sequences" (.list (database.objectsIn .sequences)) fun sequence =>
        objectLines "sequence" sequence
          (scripter.statements.createSequence scripter.options sequence) := by
  have declared : ObjectClass.database.declares "sequences" (.objects .sequence) = true := by
    decide
  rw [sequencePart, Value.part_rows_of_isTyped typed declared]
  rfl

theorem functionPart_ok :
    scripter.functionPart database =
      ScriptPart.ofCollection "Functions" (.list (database.objectsIn .functions)) fun function =>
        scripter.moduleLines "function" function (scripter.statements.createFunction
          scripter.options (.list (database.rows "data_types")) function) := by
  have declared : ObjectClass.database.declares "functions" (.objects .function) = true := by
    decide
  rw [functionPart, Value.part_rows_of_isTyped typed ObjectClass.database_declares_data_types,
    Attempt.ok_bind, Value.part_rows_of_isTyped typed declared]
  rfl

theorem procedurePart_ok :
    scripter.procedurePart database =
      ScriptPart.ofCollection "Stored Procedures" (.list (database.objectsIn .procedures))
        fun procedure => scripter.moduleLines "stored procedure" procedure
          (scripter.statements.createProcedure scripter.options procedure) := by
  have declared : ObjectClass.database.declares "stored_procedures"
      (.objects .storedProcedure) = true := by
    decide
  rw [procedurePart, Value.part_rows_of_isTyped typed declared]
  rfl

theorem viewPart_ok :
    scripter.viewPart database =
      ScriptPart.ofCollection "Views" (.list (database.objectsIn .views)) scripter.viewLines := by
  have declared : ObjectClass.database.declares "views" (.objects .view) = true := by
    decide
  rw [viewPart, Value.part_rows_of_isTyped typed declared]
  rfl

private theorem renders_typePart :
    scripter.Renders (.list (database.rows "data_types"))
      (Value.listedStatements .dataTypes (database.objectsIn .dataTypes))
      (ScriptPart.text (scripter.typePart database)).result := by
  rw [typePart_ok typed]
  exact renders_collection typed (by decide) fun type typed =>
    renders_objectLines (.create .dataTypes type) "type"
      (Value.isTyped_of_isWithin typed (by decide))

private theorem renders_sequencePart :
    scripter.Renders types (Value.listedStatements .sequences (database.objectsIn .sequences))
      (ScriptPart.text (scripter.sequencePart database)).result := by
  rw [sequencePart_ok typed]
  exact renders_collection typed (by decide) fun sequence typed =>
    renders_objectLines (.create .sequences sequence) "sequence"
      (Value.isTyped_of_isWithin typed (by decide))

private theorem renders_functionPart :
    scripter.Renders (.list (database.rows "data_types"))
      (Value.listedStatements .functions (database.objectsIn .functions))
      (ScriptPart.text (scripter.functionPart database)).result := by
  rw [functionPart_ok typed]
  exact renders_collection typed (by decide) fun function typed =>
    renders_moduleLines (.create .functions function) "function"
      (Value.isTyped_of_isWithin typed (by decide))

private theorem renders_procedurePart :
    scripter.Renders types (Value.listedStatements .procedures (database.objectsIn .procedures))
      (ScriptPart.text (scripter.procedurePart database)).result := by
  rw [procedurePart_ok typed]
  exact renders_collection typed (by decide) fun procedure typed =>
    renders_moduleLines (.create .procedures procedure) "stored procedure"
      (Value.isTyped_of_isWithin typed (by decide))

private theorem renders_viewPart :
    scripter.Renders types (Value.listedStatements .views (database.objectsIn .views))
      (ScriptPart.text (scripter.viewPart database)).result := by
  rw [viewPart_ok typed]
  exact renders_collection typed (by decide) fun view typed => renders_viewLines typed

end Database

section Tables

variable {tables : List Value} (typed : ∀ table ∈ tables, table.isTyped .table = true)

include typed

theorem triggerPart_ok :
    scripter.triggerPart tables =
      .ok ⟨"Triggers", tables.any fun table => !(table.rows "triggers").isEmpty,
        tables.map scripter.triggerLines⟩ := by
  have wanted : (tables.anyM fun table => do return (← table.part "triggers").isTruthy) =
      (.ok (tables.any fun table => !(table.rows "triggers").isEmpty) : Attempt Bool) :=
    Attempt.anyM_ok fun table member => by
      rw [Value.part_rows_of_isTyped (typed table member) ObjectClass.table_declares_triggers]
      rfl
  rw [triggerPart, wanted]
  rfl

theorem keyPart_ok :
    scripter.keyPart tables =
      .ok ⟨"Constraints and Indexes", tables.any Value.hasKeyRows, tables.map fun table =>
        guardedObject "table" table (scripter.tableKeysAndIndexes table)⟩ := by
  rw [keyPart, Attempt.anyM_ok fun table member => hasKeys_ok (typed table member)]
  rfl

theorem foreignKeyPart_ok :
    scripter.foreignKeyPart tables =
      .ok ⟨"Foreign Keys", tables.any Value.hasForeignKeyRows, tables.map fun table =>
        guardedObject "table" table (scripter.tableForeignKeys table)⟩ := by
  rw [foreignKeyPart, Attempt.anyM_ok fun table member => hasForeignKeys_ok (typed table member)]
  rfl

private theorem renders_tablePart
    {created : List Value}
    (createdOk : scripter.dialect.sortTables false (.list tables) = .ok created) :
    scripter.Renders types (created.flatMap fun table => table.statementsAs .tables)
      (ScriptPart.text (scripter.tablePart tables)).result := by
  have listed := (Dialect.sortTables_subperm typed createdOk).subset
  rw [tablePart, createdOk, Attempt.ok_bind]
  refine renders_part (by decide) (fun table member => ?_) fun table member _ => ?_
  · exact renders_objectLines (.create .tables table) "table"
      (Value.isTyped_of_isWithin (typed table (listed member)) (by decide))
  · cases tables with
    | nil => cases listed member
    | cons first others => rfl

private theorem renders_triggerPart :
    scripter.Renders types (tables.flatMap Value.triggerStatements)
      (ScriptPart.text (scripter.triggerPart tables)).result := by
  rw [triggerPart_ok typed]
  refine renders_part (by decide)
    (fun table member => renders_triggerLines (typed table member))
    fun table member some => List.any_eq_true.mpr ⟨table, member, ?_⟩
  by_contra none
  rw [Bool.not_eq_true, Bool.not_eq_false', List.isEmpty_iff] at none
  rw [Value.triggerStatements, none] at some
  exact some rfl

private theorem renders_keyPart :
    scripter.Renders types (tables.flatMap Value.keyStatements)
      (ScriptPart.text (scripter.keyPart tables)).result := by
  rw [keyPart_ok typed]
  refine renders_part (by decide) (fun table member => renders_tableKeys (typed table member))
    fun table member some => List.any_eq_true.mpr ⟨table, member, ?_⟩
  by_contra none
  exact some (if_neg none)

private theorem renders_foreignKeyPart :
    scripter.Renders types (tables.flatMap Value.foreignKeyStatements)
      (ScriptPart.text (scripter.foreignKeyPart tables)).result := by
  rw [foreignKeyPart_ok typed]
  refine renders_part (by decide)
    (fun table member => renders_tableForeignKeys (typed table member))
    fun table member some => List.any_eq_true.mpr ⟨table, member, ?_⟩
  by_contra none
  exact some (if_neg none)

end Tables

/-! ## Full scripts -/

section Full

variable (typed : database.isTyped .database = true)

include typed

/-- A full script is the text of its parts. -/
theorem result_fullScript :
    (scripter.fullScript database).result = (do
      let texts ← (scripter.fullParts database (sortedOn listing (database.rows "tables"))).mapM
        fun part => (ScriptPart.text part).result
      return String.join texts) := by
  rcases Value.exists_dialect typed with ⟨dialect, dialectRead, _⟩
  have nameRead : database.part "name" = .ok (.text (database.letters "name")) :=
    Value.part_text_of_isTyped typed (by decide)
  have tablesTyped : ∀ table ∈ database.rows "tables", table.isTyped .table = true :=
    fun table member => Value.isTyped_of_mem_rows typed (by decide) member
  have tablesRead := Value.partItems_of_isTyped typed ObjectClass.database_declares_tables
  have listed := Value.sortedByName_ok fun table member =>
    Value.listingKey_ok (tablesTyped table member)
  have valueRead : ∃ value, (Value.member (.dialect dialect)).part "value" = .ok value := by
    cases dialect <;> exact ⟨_, rfl⟩
  rcases valueRead with ⟨value, valueOk⟩
  simp only [fullScript, Scripting.result_bind, Scripting.result_liftM, Value.required_ok typed,
    nameRead, dialectRead, valueOk, tablesRead, listed, Attempt.ok_bind, Scripting.result_mapM,
    Scripting.result_pure]
  rfl

/-- A full script renders the statements about all objects, where the tables have an order. -/
theorem renders_fullScript
    {tables : List Value}
    (created : scripter.dialect.sortTables false
      (.list (sortedOn listing (database.rows "tables"))) = .ok tables) :
    scripter.Renders (.list (database.rows "data_types")) (database.fullStatements tables)
      (scripter.fullScript database).result := by
  have tablesTyped : ∀ table ∈ sortedOn listing (database.rows "tables"),
      table.isTyped .table = true :=
    fun table member => Value.isTyped_of_mem_rows typed (by decide) (Value.mem_sortedOn.mp member)
  rw [result_fullScript typed]
  refine renders_flatten ?_
  exact .cons (renders_typePart typed) (.cons (renders_sequencePart typed)
    (.cons (renders_tablePart tablesTyped created) (.cons (renders_functionPart typed)
      (.cons (renders_procedurePart typed) (.cons (renders_triggerPart tablesTyped)
        (.cons (renders_keyPart tablesTyped) (.cons (renders_foreignKeyPart tablesTyped)
          (.cons (renders_viewPart typed) .nil))))))))

/-- There is no full script where the tables have no order. -/
theorem exists_sortTables_of_fullScript
    {script : String}
    (scripted : (scripter.fullScript database).result = .ok script) :
    ∃ tables, scripter.dialect.sortTables false
      (.list (sortedOn listing (database.rows "tables"))) = .ok tables := by
  rw [result_fullScript typed] at scripted
  rcases bind_eq_ok_iff.mp scripted with ⟨texts, textsOk, _⟩
  cases sorted : scripter.dialect.sortTables false
      (.list (sortedOn listing (database.rows "tables"))) with
  | ok tables => exact ⟨tables, rfl⟩
  | error failure =>
      have listed : scripter.tablePart (sortedOn listing (database.rows "tables")) ∈
          scripter.fullParts database (sortedOn listing (database.rows "tables")) := by
        simp [fullParts]
      rcases Attempt.exists_ok_of_mapM textsOk _ listed with ⟨text, textOk⟩
      rw [tablePart, sorted] at textOk
      cases textOk

end Full

end Scripter

end SchemaDelta
