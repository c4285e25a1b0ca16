import SchemaDelta.Proofs.Ddl.Rearrangement
import SchemaDelta.Proofs.Migration.FullScript

/-!
# Full scripts of rearranged databases

A database whose collections come in another order has the same full script, as far as its objects,
columns and rows can be told apart.  Every part of the script lists objects by schema and name, and
what it scripts of each of them is the same.
-/

namespace SchemaDelta

open Attempt (CarriesTo carriesTo_bind carriesTo_map carriesTo_mapM carriesTo_of_eq carriesTo_ok)
open Value (RearrangesAs listing sortedOn)

/--
The objects of a database can be told apart: those of one kind by schema and name, types of
PostgreSQL also by their ids, the parts of every table, and the indexes of every view by their
places in groups.
-/
structure Value.TellsObjectsApart
    (database : Value) : Prop where
  objects : ∀ kind, kind ≠ .triggers → ((database.objectsIn kind).map fullName).Nodup
  types : PostgreSql.TellsTypesApart (database.rows "data_types")
  tables : ∀ table ∈ database.rows "tables", table.TellsPartsApart
  viewIndexes : ∀ view ∈ database.rows "views", ((view.rows "indexes").map placeInGroup).Nodup

/-! ## Listed collections -/

theorem Value.RearrangesAs.within
    {kind general : ObjectClass}
    {object other : Value}
    (related : RearrangesAs kind object other)
    (isWithin : kind.isWithin general = true) :
    RearrangesAs general object other :=
  ⟨isTyped_of_isWithin related.typed isWithin, related.rearranged⟩

/-- The objects of a kind, listed by schema and name, are the same up to what they hold. -/
theorem Value.RearrangesAs.forall₂_listed
    {database other : Value}
    {kind : ObjectKind}
    (related : RearrangesAs .database database other)
    (distinct : ((database.objectsIn kind).map fullName).Nodup)
    (notTriggers : kind ≠ .triggers) :
    List.Forall₂ (RearrangesAs kind.objectClass) (sortedOn listing (database.objectsIn kind))
      (sortedOn listing (other.objectsIn kind)) := by
  have arranged : ∃ moved, (database.objectsIn kind).Perm moved ∧
      List.Forall₂ (RearrangesAs kind.objectClass) moved (other.objectsIn kind) := by
    cases kind with
    | dataTypes =>
        have perm := related.rows_perm ObjectClass.database_declares_data_types (by decide)
        have typed : ∀ type ∈ other.objectsIn .dataTypes, type.isTyped .dataType = true :=
          fun type member => isTyped_of_mem_objectsIn related.otherTyped member
        exact ⟨_, perm.filter _, List.forall₂_same.mpr fun type member =>
          ⟨typed type member, .same type⟩⟩
    | triggers => exact absurd rfl notTriggers
    | _ => exact related.rows (ObjectKind.database_declares notTriggers)
  rcases arranged with ⟨moved, perm, held⟩
  rw [listing_ranksBy.sortedOn_congr perm distinct]
  exact forall₂_sortedOn_listing (by cases kind <;> decide) (by cases kind <;> decide) held

namespace ScriptPart

/-- A part has the text of another one if corresponding scripts are the same. -/
theorem carriesTo_text
    {items others : List Value}
    {script otherScript : Value → Scripting String}
    {heading : String}
    {isWanted : Bool}
    (carries : List.Forall₂ (fun item other =>
      CarriesTo Eq (script item).result (otherScript other).result) items others) :
    CarriesTo Eq (text (.ok ⟨heading, isWanted, items.map script⟩)).result
      (text (.ok ⟨heading, isWanted, others.map otherScript⟩)).result := by
  rw [result_text, result_text]
  cases isWanted with
  | true =>
      rw [if_pos rfl, if_pos rfl, List.mapM_map, List.mapM_map]
      exact carriesTo_map (carriesTo_mapM carries) _
  | false => exact carriesTo_ok rfl

end ScriptPart

namespace Scripter

variable {scripter : Scripter} {database other : Value}

/-! ## Scripts of single objects -/

section Lines

variable {object otherObject : Value} {script otherScript : Script}
  (related : RearrangesAs .schemaObject object otherObject)
  (carries : CarriesTo Eq script otherScript)

include related carries

private theorem carriesTo_guardedObject
    (kind : String) :
    CarriesTo Eq (guardedObject kind object script).result
      (guardedObject kind otherObject otherScript).result := by
  rwa [result_guardedObject kind related.typed, result_guardedObject kind related.otherTyped]

private theorem carriesTo_objectLines
    (kind : String) :
    CarriesTo Eq (objectLines kind object script).result
      (objectLines kind otherObject otherScript).result := by
  rw [result_objectLines kind related.typed, result_objectLines kind related.otherTyped]
  exact carriesTo_map carries _

private theorem carriesTo_moduleLines
    (kind : String) :
    CarriesTo Eq (scripter.moduleLines kind object script).result
      (scripter.moduleLines kind otherObject otherScript).result := by
  rw [result_moduleLines kind related.typed, result_moduleLines kind related.otherTyped]
  exact carriesTo_map carries _

end Lines

/-- A view keeps its script when the rows of its indexes come in another order. -/
private theorem carriesTo_viewLines
    {view otherView : Value}
    (related : RearrangesAs .view view otherView)
    (apart : ((view.rows "indexes").map Value.placeInGroup).Nodup) :
    CarriesTo Eq (scripter.viewLines view).result (scripter.viewLines otherView).result := by
  have created : CarriesTo Eq
      (scripter.moduleLines "view" view
        (scripter.statements.createView scripter.options view)).result
      (scripter.moduleLines "view" otherView
        (scripter.statements.createView scripter.options otherView)).result :=
    carriesTo_moduleLines (related.within (by decide)) (carriesTo_of_eq related.createView_eq)
      "view"
  have sameEmpty : (otherView.rows "indexes").isEmpty = (view.rows "indexes").isEmpty :=
    (related.rows_perm ObjectClass.view_declares_indexes (by decide)).symm.isEmpty_eq
  rw [result_viewLines related.typed, result_viewLines related.otherTyped, sameEmpty]
  refine carriesTo_bind created fun text otherText same => ?_
  subst same
  split
  · exact carriesTo_ok rfl
  · exact carriesTo_map (related.carriesTo_createIndexes apart) (text ++ ·)

/-- A table keeps the scripts of its triggers when these come in another order. -/
private theorem triggerLines_eq
    {table otherTable : Value}
    (related : RearrangesAs .table table otherTable)
    (apart : table.TellsPartsApart) :
    (scripter.triggerLines table).result = (scripter.triggerLines otherTable).result := by
  have perm := related.rows_perm ObjectClass.table_declares_triggers (by decide)
  rw [result_triggerLines related.typed, result_triggerLines related.otherTyped,
    Value.listing_ranksBy.sortedOn_congr perm apart.triggers]

/-! ## Parts of databases -/

section Database

variable (related : RearrangesAs .database database other) (apart : database.TellsObjectsApart)

include related apart

private theorem carriesTo_collection
    {kind : ObjectKind}
    {script otherScript : Value → Scripting String}
    (notTriggers : kind ≠ .triggers)
    (heading : String)
    (carries : ∀ object ∈ database.objectsIn kind, ∀ otherObject,
      RearrangesAs kind.objectClass object otherObject →
        CarriesTo Eq (script object).result (otherScript otherObject).result) :
    CarriesTo Eq
      (ScriptPart.text (ScriptPart.ofCollection heading (.list (database.objectsIn kind))
        script)).result
      (ScriptPart.text (ScriptPart.ofCollection heading (.list (other.objectsIn kind))
        otherScript)).result := by
  have listed := related.forall₂_listed (apart.objects kind notTriggers) notTriggers
  have sameLength : (other.objectsIn kind).length = (database.objectsIn kind).length := by
    rw [← (Value.sortedOn_perm listing _).length_eq, ← listed.length_eq,
      (Value.sortedOn_perm listing _).length_eq]
  have sameEmpty : (other.objectsIn kind).isEmpty = (database.objectsIn kind).isEmpty := by
    rw [Bool.eq_iff_iff, List.isEmpty_iff_length_eq_zero, List.isEmpty_iff_length_eq_zero,
      sameLength]
  rw [ScriptPart.ofCollection_ok heading fun object member =>
      Value.isTyped_schemaObject (Value.isTyped_of_mem_objectsIn related.typed member),
    ScriptPart.ofCollection_ok heading fun object member =>
      Value.isTyped_schemaObject (Value.isTyped_of_mem_objectsIn related.otherTyped member),
    sameEmpty]
  refine ScriptPart.carriesTo_text ?_
  exact ((List.forall₂_and_left _ _).mpr ⟨fun _ => Value.mem_sortedOn.mp, listed⟩).imp
    fun object otherObject both => carries object both.1 otherObject both.2

/-- Objects without collections of their own are scripted in the same order by the same script. -/
private theorem carriesTo_shallowCollection
    {kind : ObjectKind}
    {script : Value → Scripting String}
    (notTriggers : kind ≠ .triggers)
    (shallow : kind.objectClass.isShallow = true)
    (heading : String) :
    CarriesTo Eq
      (ScriptPart.text (ScriptPart.ofCollection heading (.list (database.objectsIn kind))
        script)).result
      (ScriptPart.text (ScriptPart.ofCollection heading (.list (other.objectsIn kind))
        script)).result :=
  carriesTo_collection related apart notTriggers heading fun _ _ _ objectRelated =>
    carriesTo_of_eq (by rw [objectRelated.eq shallow])

/-- Types and functions name the same types, in whatever order these are. -/
private theorem createType_eq_of_rearranges :
    scripter.statements.createType scripter.options (.list (database.rows "data_types")) =
        scripter.statements.createType scripter.options (.list (other.rows "data_types")) ∧
      scripter.statements.createFunction scripter.options (.list (database.rows "data_types")) =
        scripter.statements.createFunction scripter.options (.list (other.rows "data_types")) :=
  Dialect.createType_eq
    (fun _ member => Value.isTyped_of_mem_rows related.typed
      ObjectClass.database_declares_data_types member)
    (related.rows_perm ObjectClass.database_declares_data_types (by decide)) apart.types _

private theorem carriesTo_typePart :
    CarriesTo Eq (ScriptPart.text (scripter.typePart database)).result
      (ScriptPart.text (scripter.typePart other)).result := by
  rw [typePart_ok related.typed, typePart_ok related.otherTyped,
    (createType_eq_of_rearranges related apart).1]
  exact carriesTo_shallowCollection related apart (by decide) (by decide) _

private theorem carriesTo_sequencePart :
    CarriesTo Eq (ScriptPart.text (scripter.sequencePart database)).result
      (ScriptPart.text (scripter.sequencePart other)).result := by
  rw [sequencePart_ok related.typed, sequencePart_ok related.otherTyped]
  exact carriesTo_shallowCollection related apart (by decide) (by decide) _

private theorem carriesTo_functionPart :
    CarriesTo Eq (ScriptPart.text (scripter.functionPart database)).result
      (ScriptPart.text (scripter.functionPart other)).result := by
  rw [functionPart_ok related.typed, functionPart_ok related.otherTyped,
    (createType_eq_of_rearranges related apart).2]
  exact carriesTo_shallowCollection related apart (by decide) (by decide) _

private theorem carriesTo_procedurePart :
    CarriesTo Eq (ScriptPart.text (scripter.procedurePart database)).result
      (ScriptPart.text (scripter.procedurePart other)).result := by
  rw [procedurePart_ok related.typed, procedurePart_ok related.otherTyped]
  exact carriesTo_shallowCollection related apart (by decide) (by decide) _

private theorem carriesTo_viewPart :
    CarriesTo Eq (ScriptPart.text (scripter.viewPart database)).result
      (ScriptPart.text (scripter.viewPart other)).result := by
  rw [viewPart_ok related.typed, viewPart_ok related.otherTyped]
  exact carriesTo_collection related apart (by decide) _ fun view member _ viewRelated =>
    carriesTo_viewLines viewRelated (apart.viewIndexes view member)

end Database

/-! ## Parts of tables -/

section Tables

variable {tables others : List Value} (held : List.Forall₂ (RearrangesAs .table) tables others)
  (apart : ∀ table ∈ tables, table.TellsPartsApart)

include held apart

/-- A part scripts all tables, or none of them, in corresponding ways. -/
private theorem carriesTo_tableTexts
    {script : Value → Scripting String}
    {heading : String}
    {isWanted : Bool}
    (carries : ∀ table otherTable, RearrangesAs .table table otherTable → table.TellsPartsApart →
      CarriesTo Eq (script table).result (script otherTable).result) :
    CarriesTo Eq (ScriptPart.text (.ok ⟨heading, isWanted, tables.map script⟩)).result
      (ScriptPart.text (.ok ⟨heading, isWanted, others.map script⟩)).result :=
  ScriptPart.carriesTo_text (((List.forall₂_and_left _ _).mpr ⟨apart, held⟩).imp
    fun table otherTable both => carries table otherTable both.2 both.1)

omit apart in
/-- Some table has rows exactly when some rearranged table has. -/
private theorem any_eq
    {test : Value → Bool}
    (same : ∀ table otherTable, RearrangesAs .table table otherTable →
      test table = test otherTable) :
    tables.any test = others.any test := by
  induction held with
  | nil => rfl
  | cons related _ ih => rw [List.any_cons, List.any_cons, same _ _ related, ih]

private theorem carriesTo_tablePart :
    CarriesTo Eq (ScriptPart.text (scripter.tablePart tables)).result
      (ScriptPart.text (scripter.tablePart others)).result := by
  have typed := (Value.isTyped_of_forall₂ held).1
  have sorted : CarriesTo (List.Forall₂ (RearrangesAs .table))
      (scripter.dialect.sortTables false (.list tables))
      (scripter.dialect.sortTables false (.list others)) :=
    Dialect.carriesTo_sortTables held
  intro text texted
  cases created : scripter.dialect.sortTables false (.list tables) with
  | error failure =>
      rw [tablePart, created] at texted
      cases texted
  | ok placed =>
      rcases sorted placed created with ⟨otherPlaced, otherCreated, placedHeld⟩
      have among := (Dialect.sortTables_subperm typed created).subset
      have sameEmpty : others.isEmpty = tables.isEmpty := by
        cases held <;> rfl
      rw [tablePart, created] at texted
      rw [tablePart, otherCreated, Attempt.ok_bind, sameEmpty]
      refine carriesTo_tableTexts placedHeld (fun table member => apart table (among member))
        (fun table otherTable related apart => ?_) text texted
      exact carriesTo_objectLines (related.within (by decide))
        (carriesTo_of_eq (tableDefinition_eq related apart)) "table"

private theorem carriesTo_triggerPart :
    CarriesTo Eq (ScriptPart.text (scripter.triggerPart tables)).result
      (ScriptPart.text (scripter.triggerPart others)).result := by
  rcases Value.isTyped_of_forall₂ held with ⟨typed, othersTyped⟩
  rw [triggerPart_ok typed, triggerPart_ok othersTyped, any_eq held]
  · exact carriesTo_tableTexts held apart fun table otherTable related apart =>
      carriesTo_of_eq (triggerLines_eq related apart)
  · intro table otherTable related
    rw [(related.rows_perm ObjectClass.table_declares_triggers (by decide)).isEmpty_eq]

private theorem carriesTo_keyPart :
    CarriesTo Eq (ScriptPart.text (scripter.keyPart tables)).result
      (ScriptPart.text (scripter.keyPart others)).result := by
  rcases Value.isTyped_of_forall₂ held with ⟨typed, othersTyped⟩
  rw [keyPart_ok typed, keyPart_ok othersTyped, any_eq held]
  · exact carriesTo_tableTexts held apart fun table otherTable related apart =>
      carriesTo_guardedObject (related.within (by decide))
        (carriesTo_tableKeysAndIndexes related apart) "table"
  · intro table otherTable related
    rw [Value.hasKeyRows, Value.hasKeyRows,
      (related.rows_perm ObjectClass.table_declares_indexes (by decide)).isEmpty_eq,
      (related.rows_perm ObjectClass.table_declares_constraints (by decide)).isEmpty_eq]

private theorem carriesTo_foreignKeyPart :
    CarriesTo Eq (ScriptPart.text (scripter.foreignKeyPart tables)).result
      (ScriptPart.text (scripter.foreignKeyPart others)).result := by
  rcases Value.isTyped_of_forall₂ held with ⟨typed, othersTyped⟩
  rw [foreignKeyPart_ok typed, foreignKeyPart_ok othersTyped, any_eq held]
  · exact carriesTo_tableTexts held apart fun table otherTable related apart =>
      carriesTo_guardedObject (related.within (by decide))
        (carriesTo_of_eq (tableForeignKeys_eq_of_rearranges related apart)) "table"
  · intro table otherTable related
    rw [Value.hasForeignKeyRows, Value.hasForeignKeyRows,
      (related.rows_perm ObjectClass.table_declares_foreign_keys (by decide)).isEmpty_eq]

end Tables

/-! ## Full scripts -/

/--
The full script of a database does not depend on the order of its collections: where there is a
script, any rearranged database has the same one.
-/
theorem fullScript_of_rearranges
    {script : String}
    (typed : database.isTyped .database = true)
    (apart : database.TellsObjectsApart)
    (rearranged : Value.Rearranges database other)
    (scripted : (scripter.fullScript database).result = .ok script) :
    (scripter.fullScript other).result = .ok script := by
  have related : RearrangesAs .database database other := ⟨typed, rearranged⟩
  have tablesHeld : List.Forall₂ (RearrangesAs .table)
      (sortedOn listing (database.objectsIn .tables))
      (sortedOn listing (other.objectsIn .tables)) :=
    related.forall₂_listed (apart.objects .tables (by decide)) (by decide)
  have tablesApart : ∀ table ∈ sortedOn listing (database.rows "tables"), table.TellsPartsApart :=
    fun table member => apart.tables table (Value.mem_sortedOn.mp member)
  have carries : CarriesTo Eq (scripter.fullScript database).result
      (scripter.fullScript other).result := by
    rw [result_fullScript typed, result_fullScript related.otherTyped]
    refine carriesTo_map (carriesTo_mapM ?_) String.join
    exact .cons (carriesTo_typePart related apart) (.cons (carriesTo_sequencePart related apart)
      (.cons (carriesTo_tablePart tablesHeld tablesApart)
        (.cons (carriesTo_functionPart related apart)
          (.cons (carriesTo_procedurePart related apart)
            (.cons (carriesTo_triggerPart tablesHeld tablesApart)
              (.cons (carriesTo_keyPart tablesHeld tablesApart)
                (.cons (carriesTo_foreignKeyPart tablesHeld tablesApart)
                  (.cons (carriesTo_viewPart related apart) .nil))))))))
  rcases carries script scripted with ⟨other, otherOk, rfl⟩
  exact otherOk

/-- A table with a primary key of two columns; the collections are arranged in some way. -/
private def lotTable
    (arrange : List Value → List Value) : Value :=
  let column (name : String) (position : Int) : Value :=
    .filled .postgreSqlColumn [
      ("name", .text name), ("data_type", .text "integer"), ("ordinal_position", .int position)]
  let keyRow (name : String) (position : Int) : Value :=
    .filled .postgreSqlIndex [
      ("name", .text "lot_key"), ("schema", .text "public"), ("column_name", .text name),
      ("is_primary_key", .bool true), ("ordinal_position", .int position)]
  .filled .postgreSqlTable [
    ("name", .text "lot"), ("schema", .text "public"),
    ("columns", .list (arrange [column "id" 1, column "owner" 2])),
    ("indexes", .list (arrange [keyRow "owner" 1, keyRow "id" 2]))]

/-- A table that is listed before the one from which it inherits. -/
private def inheritingTable : Value :=
  .filled .postgreSqlTable [
    ("name", .text "area"), ("schema", .text "public"),
    ("inherited_table_schema", .text "public"), ("inherited_table_name", .text "lot")]

/-- A database with the two tables, and with a composite of an enumeration. -/
private def lotDatabase
    (arrange : List Value → List Value) : Value :=
  .filled .database [
    ("name", .text "d"), ("dialect", .member (.dialect .postgreSql)),
    ("tables", .list (arrange [lotTable arrange, inheritingTable])),
    ("data_types", .list (arrange [
      .filled .postgreSqlDataTypeEnumerated [
        ("name", .text "use"), ("schema", .text "public"), ("type_id", .int 1),
        ("labels", .list [.text "garden"])],
      .filled .postgreSqlDataTypeComposite [
        ("name", .text "usage"), ("schema", .text "public"), ("type_id", .int 2),
        ("attribute_names", .list [.text "main"]), ("attribute_type_ids", .list [.int 1])]]))]

private theorem rearranges_reverse
    (items : List Value)
    (areObjects : ∀ item ∈ items, item.isObject = true) :
    Value.Rearranges (.list items) (.list items.reverse) :=
  .collection areObjects (List.reverse_perm items).symm
    (List.forall₂_same.mpr fun item _ => .same item)

/-- Tables, columns, rows of the key and types in the reverse order make the same script. -/
theorem fullScript_of_rearranges_reversed :
    ∃ script,
      (fullScript { dialect := .postgreSql } (lotDatabase id)).result = .ok script ∧
      (fullScript { dialect := .postgreSql } (lotDatabase List.reverse)).result = .ok script := by
  have typed : (lotDatabase id).isTyped .database = true := by decide +kernel
  have tableApart : ∀ table ∈ (lotDatabase id).rows "tables", table.TellsPartsApart := by
    have rows : (lotDatabase id).rows "tables" = [lotTable id, inheritingTable] := rfl
    rw [rows, List.forall_mem_cons, List.forall_mem_singleton]
    constructor
    all_goals
      constructor <;> decide +kernel
  have apart : (lotDatabase id).TellsObjectsApart := {
    objects := fun kind notTriggers => by cases kind <;> decide +kernel
    types := by
      rw [PostgreSql.TellsTypesApart]
      decide +kernel
    tables := tableApart
    viewIndexes := List.forall_mem_nil _ }
  have lot : Value.Rearranges (lotTable id) (lotTable List.reverse) :=
    .filled _ rfl (.cons (.same _) (.cons (.same _)
      (.cons (rearranges_reverse _ (by decide +kernel))
        (.cons (rearranges_reverse _ (by decide +kernel)) .nil))))
  have rearranged : Value.Rearranges (lotDatabase id) (lotDatabase List.reverse) :=
    .filled _ rfl (.cons (.same _) (.cons (.same _)
      (.cons (.collection (by decide +kernel) (.swap _ _ _) (.cons (.same _) (.cons lot .nil)))
        (.cons (rearranges_reverse _ (by decide +kernel)) .nil))))
  have scripts : (fullScript { dialect := .postgreSql }
      (lotDatabase id)).result.toOption.isSome = true := by
    decide +kernel
  rcases Attempt.exists_ok_of_isSome scripts with ⟨script, scripted, _⟩
  exact ⟨script, scripted, fullScript_of_rearranges typed apart rearranged scripted⟩

end Scripter

end SchemaDelta
