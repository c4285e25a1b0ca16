import SchemaDelta.Proofs.Comparison.Pairing
import SchemaDelta.Proofs.Ddl.Identifier
import SchemaDelta.Proofs.Ddl.Table
import SchemaDelta.Proofs.Value.Sorting

/-!
# Names of objects

Objects are compared under their schema and name, as far as these count.  Every object of a typed
database has both.
-/

namespace SchemaDelta

open Attempt (bind_eq_ok_iff)
open Value (nameKey)

/-- The object of a pairing; where both sides have one, that of the source. -/
def Pairing.object : Pairing → Value
  | onlySource source => source
  | onlyTarget target => target
  | identical source _ => source
  | different source _ => source

/-! ## Typed objects -/

namespace ObjectKind

/-- The class of the objects of a kind. -/
def objectClass : ObjectKind → ObjectClass
  | dataTypes => .dataType
  | sequences => .sequence
  | tables => .table
  | views => .view
  | functions => .function
  | procedures => .storedProcedure
  | triggers => .trigger

theorem isA_schemaObject
    (kind : ObjectKind)
    {special : ObjectClass}
    (isObject : special.isA kind.objectClass = true) :
    special.isA .schemaObject = true := by
  have checked : (ObjectClass.all.all fun special =>
      !special.isA kind.objectClass || special.isA .schemaObject) = true := by
    cases kind <;> decide
  have passes := List.all_eq_true.mp checked special (ObjectClass.mem_all special)
  rwa [isObject, Bool.not_true, Bool.false_or] at passes

end ObjectKind

namespace Value

/-- An object of a kind has a schema and a name. -/
theorem isTyped_schemaObject
    {kind : ObjectKind}
    {object : Value}
    (typed : object.isTyped kind.objectClass = true) :
    object.isTyped .schemaObject = true := by
  rcases isTyped_iff.mp typed with ⟨special, fields, rfl, isObject, conform⟩
  exact isTyped_iff.mpr ⟨special, fields, rfl, kind.isA_schemaObject isObject, conform⟩

/-- A database names a dialect. -/
theorem exists_dialect
    {database : Value}
    (typed : database.isTyped .database = true) :
    ∃ dialect, database.part "dialect" = .ok (.member (.dialect dialect)) ∧
      database.get "dialect" = .member (.dialect dialect) := by
  rcases part_of_isTyped typed
    (show ObjectClass.database.declares "dialect" ⟨.dialect, false, false⟩ = true by decide) with
    ⟨read, conforms⟩
  cases found : database.get "dialect" with
  | member known =>
      cases known with
      | dialect dialect => exact ⟨dialect, read.trans (congrArg Except.ok found), rfl⟩
      | _ =>
          rw [found] at conforms
          cases conforms
  | _ =>
      rw [found] at conforms
      cases conforms

/-- What an object lists in a field is of the class that the field declares. -/
private theorem isTyped_of_mem_partItems
    {holder : Value}
    {kind item : ObjectClass}
    {name : String}
    (typed : holder.isTyped kind = true)
    (declared : kind.declares name (.objects item) = true)
    {objects : List Value}
    (listed : holder.partItems name = .ok objects) :
    ∀ object ∈ objects, object.isTyped item = true := by
  rw [partItems, part_rows_of_isTyped typed declared] at listed
  cases listed
  exact fun _ member => isTyped_of_mem_rows typed declared member

/-- The objects of a kind are of the class of the kind. -/
theorem isTyped_of_mem_objectsOf
    {database : Value}
    (typed : database.isTyped .database = true)
    {kind : ObjectKind}
    {objects : List Value}
    (listed : database.objectsOf kind = .ok objects) :
    ∀ object ∈ objects, object.isTyped kind.objectClass = true := by
  cases kind with
  | dataTypes =>
      rcases isTyped_iff.mp typed with ⟨special, fields, rfl, isDatabase, _⟩
      rw [objectsOf, userTypes, isA, isDatabase] at listed
      rcases bind_eq_ok_iff.mp listed with ⟨types, typesOk, filtered⟩
      exact fun object member => isTyped_of_mem_partItems typed (by decide) typesOk object
        ((Attempt.filterM_sublist filtered).subset member)
  | triggers =>
      rcases bind_eq_ok_iff.mp listed with ⟨tables, tablesOk, triggersRun⟩
      rcases bind_eq_ok_iff.mp triggersRun with ⟨triggers, ofTables, equal⟩
      cases equal
      intro object member
      rcases List.mem_flatten.mp member with ⟨ofTable, ofTableMember, inTable⟩
      rcases Attempt.exists_of_mem_mapM ofTables ofTableMember with ⟨table, tableMember, itemsOk⟩
      have tableTyped : table.isTyped .table = true :=
        isTyped_of_mem_partItems typed (by decide) tablesOk table tableMember
      exact isTyped_of_mem_partItems tableTyped (by decide) itemsOk object inTable
  | _ => exact isTyped_of_mem_partItems typed (by decide) listed

end Value

/-! ## Names -/

namespace NameMatching

/-- The schema and the name of an object as far as they count. -/
def nameOf
    (matching : NameMatching)
    (object : Value) : String × String :=
  match matching with
  | exact => (object.letters "schema", object.letters "name")
  | ignoringCase => (Text.fold (object.letters "schema"), Text.fold (object.letters "name"))

/-- An object under its name. -/
def entryOf
    (matching : NameMatching)
    (object : Value) : NamedObject where
  key := nameKey (matching.nameOf object)
  object := object

theorem key_ok
    (matching : NameMatching)
    {object : Value}
    (typed : object.isTyped .schemaObject = true) :
    matching.key object = .ok (nameKey (matching.nameOf object)) := by
  have schema := Value.part_text_of_isTyped typed
    (show ObjectClass.schemaObject.declares "schema" .text = true by decide)
  have name := Value.part_text_of_isTyped typed
    (show ObjectClass.schemaObject.declares "name" .text = true by decide)
  cases matching with
  | exact =>
      simp only [key, schema, name, Attempt.ok_bind]
      rfl
  | ignoringCase =>
      simp only [key, Value.partText, schema, name, Attempt.ok_bind]
      rfl

end NameMatching

end SchemaDelta
