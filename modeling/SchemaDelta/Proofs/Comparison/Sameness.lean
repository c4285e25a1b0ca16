import SchemaDelta.Proofs.Comparison.Alikeness
import SchemaDelta.Proofs.Ddl.Alteration

/-!
# What sameness tells about tables

Tables that are the same have columns and rows of the same names on both sides, and the same parent.
Nothing is said about the members of enumerations in their rows, which are stored under a tag.
-/

namespace SchemaDelta.Value

/-! ## What is compared -/

/-- A stored column as it is compared. -/
def unplaced : Value → Value
  | record fields => record (fields.filter fun field => field.1 != "ordinal_position")
  | column => column

private theorem lookup_filter_of_ne
    {name other : String}
    (differs : name ≠ other)
    (fields : List (String × Value)) :
    (fields.filter fun field => field.1 != other).lookup name = fields.lookup name := by
  induction fields with
  | nil => rfl
  | cons field fields ih =>
      by_cases removed : field.1 = other
      · have notHere : (name == field.1) = false :=
          beq_eq_false_iff_ne.mpr (removed ▸ differs)
        rw [List.filter_cons_of_neg (by simp [removed]), List.lookup_cons, notHere, ih]
      · rw [List.filter_cons_of_pos (by simp [removed]), List.lookup_cons, List.lookup_cons, ih]

theorem withoutPosition_ok
    {column : Value}
    (typed : column.isTyped .column = true) :
    withoutPosition column.toPlain = .ok (unplaced column.toPlain) := by
  rcases toPlain_of_isTyped typed with ⟨fields, stored, _⟩
  rw [stored]
  rfl

private theorem comparableField_name
    {field compared : String × Value}
    (comparableOk : comparableField field = .ok compared) :
    compared.1 = field.1 := by
  unfold comparableField at comparableOk
  split at comparableOk
  · rcases Attempt.bind_eq_ok_iff.mp comparableOk with ⟨columns, _, equal⟩
    cases equal
    rfl
  · cases comparableOk
    rfl

/-- What is compared has the names of what is stored, and under each what is compared of it. -/
private theorem mapM_comparableField_ok
    {fields compared : List (String × Value)}
    (comparableOk : fields.mapM comparableField = .ok compared) :
    compared.map (·.1) = fields.map (·.1) ∧
      ∀ name value, fields.lookup name = some value →
        ∃ held, comparableField (name, value) = .ok (name, held) ∧
          compared.lookup name = some held := by
  induction fields generalizing compared with
  | nil =>
      cases comparableOk
      exact ⟨rfl, fun _ _ found => by cases found⟩
  | cons field fields ih =>
      rw [List.mapM_cons] at comparableOk
      rcases Attempt.bind_eq_ok_iff.mp comparableOk with ⟨first, firstOk, restOk⟩
      rcases Attempt.bind_eq_ok_iff.mp restOk with ⟨rest, restMapped, equal⟩
      cases equal
      have sameName := comparableField_name firstOk
      rcases ih restMapped with ⟨names, held⟩
      refine ⟨by rw [List.map_cons, List.map_cons, sameName, names], ?_⟩
      intro name value found
      rw [List.lookup_cons] at found
      rw [List.lookup_cons, sameName]
      cases same : name == field.1 with
      | true =>
          rw [same] at found
          obtain rfl := beq_iff_eq.mp same
          cases found
          exact ⟨first.2, firstOk.trans (congrArg Except.ok (Prod.ext sameName rfl)), rfl⟩
      | false =>
          rw [same] at found
          exact held name value found

theorem comparableField_of_ne
    {name : String}
    (notColumns : name ≠ "columns")
    (value : Value) :
    comparableField (name, value) = .ok (name, value) := by
  unfold comparableField
  split
  · rename_i equal
    cases equal
    exact absurd rfl notColumns
  · rfl

private theorem comparableField_columns
    {table : Value}
    (typed : table.isTyped .table = true) :
    comparableField ("columns", list ((table.rows "columns").map toPlain)) =
      .ok ("columns", list ((table.rows "columns").map fun column => unplaced column.toPlain)) := by
  have mapped :
      ((table.rows "columns").map toPlain).mapM withoutPosition =
        .ok ((table.rows "columns").map fun column => unplaced column.toPlain) := by
    rw [List.mapM_map]
    exact Attempt.mapM_ok fun column member => withoutPosition_ok (column_isTyped typed member)
  rw [comparableField, comparableColumns, items, Attempt.ok_bind, mapped]
  rfl

private theorem toPlain_get_rows
    {value : Value}
    {kind item : ObjectClass}
    {name : String}
    (typed : value.isTyped kind = true)
    (declared : kind.declares name (.objects item) = true) :
    (value.get name).toPlain = list ((value.rows name).map toPlain) := by
  have read := (part_of_isTyped typed declared).1
  rw [part_rows_of_isTyped typed declared, Except.ok.injEq] at read
  rw [← read, toPlain, toPlainItems_eq_map]

/-- The record of a table as it is compared. -/
private theorem comparable_of_isTyped
    {kind : ObjectClass}
    {fields : List (String × Value)}
    {compared : Value}
    (typed : (object kind fields).isTyped .table = true)
    (comparableOk : (object kind fields).comparable = .ok compared) :
    ∃ stored, compared = record stored ∧
      stored.map (·.1) = classTag :: fields.map (·.1) ∧
      stored.lookup "columns" =
        some (list (((object kind fields).rows "columns").map fun column =>
          unplaced column.toPlain)) ∧
      ∀ name type, kind.fieldType? name = some type → isTag name = false →
        name ≠ "columns" → stored.lookup name = some ((object kind fields).get name).toPlain := by
  rcases isTyped_iff.mp typed with ⟨_, _, equal, special_isA, conform⟩
  cases equal
  rw [comparable, toPlain] at comparableOk
  rcases Attempt.bind_eq_ok_iff.mp comparableOk with ⟨stored, mapped, equal⟩
  cases equal
  rcases mapM_comparableField_ok mapped with ⟨names, heldUnder⟩
  refine ⟨stored, rfl, ?_, ?_, ?_⟩
  · rw [names, toPlainFields_eq_map, List.map_cons, List.map_map]
    rfl
  · have found := lookup_stored_of_declared conform
      (ObjectClass.fieldType?_of_declares ObjectClass.table_declares_columns special_isA)
      (by decide)
    rw [toPlain_get_rows typed ObjectClass.table_declares_columns] at found
    rcases heldUnder _ _ found with ⟨held, comparedOk, atName⟩
    rw [comparableField_columns typed] at comparedOk
    cases comparedOk
    exact atName
  · intro name type declared untagged notColumns
    rcases heldUnder _ _ (lookup_stored_of_declared conform declared untagged) with
      ⟨held, comparedOk, atName⟩
    rw [comparableField_of_ne notColumns] at comparedOk
    cases comparedOk
    exact atName

theorem names_of_fieldsConform
    {fields : List (String × Value)}
    {infos : List FieldInfo}
    (conform : fieldsConform fields infos = true) :
    fields.map (·.1) = infos.map (·.name) := by
  induction fields generalizing infos with
  | nil =>
      cases infos with
      | nil => rfl
      | cons info infos => cases conform
  | cons field fields ih =>
      cases infos with
      | nil => cases conform
      | cons info infos =>
          simp only [fieldsConform, Bool.and_eq_true, beq_iff_eq] at conform
          rw [List.map_cons, List.map_cons, conform.1.1, ih conform.2]

/-- Of two classes of tables only one names a parent. -/
private theorem eq_of_parent_iff
    {left right : ObjectClass}
    (left_isA : left.isA .table = true)
    (right_isA : right.isA .table = true)
    (parent_iff : "inherited_table_name" ∈ Value.classTag :: left.fields.map (·.name) ↔
      "inherited_table_name" ∈ Value.classTag :: right.fields.map (·.name)) :
    left = right := by
  cases left with
  | table =>
      cases right with
      | table => rfl
      | postgreSqlTable => exact absurd parent_iff (by decide)
      | _ => exact absurd right_isA (by decide)
  | postgreSqlTable =>
      cases right with
      | table => exact absurd parent_iff (by decide)
      | postgreSqlTable => rfl
      | _ => exact absurd right_isA (by decide)
  | _ => exact absurd left_isA (by decide)

/-- Tables that are the same are of one class and hold what is the same in every field. -/
private theorem fields_of_sameObject
    {leftKind rightKind : ObjectClass}
    {lefts rights : List (String × Value)}
    (leftTyped : (object leftKind lefts).isTyped .table = true)
    (rightTyped : (object rightKind rights).isTyped .table = true)
    (sameTables : sameObject (object leftKind lefts) (object rightKind rights) = .ok true) :
    leftKind = rightKind ∧
      alike
        (list (((object leftKind lefts).rows "columns").map fun column =>
          unplaced column.toPlain))
        (list (((object rightKind rights).rows "columns").map fun column =>
          unplaced column.toPlain)) = true ∧
      ∀ name type, leftKind.fieldType? name = some type → isTag name = false →
        name ≠ "columns" →
          same ((object leftKind lefts).get name).toPlain
            ((object rightKind rights).get name).toPlain = true := by
  rcases Attempt.bind_eq_ok_iff.mp sameTables with ⟨left, leftOk, rest⟩
  rcases Attempt.bind_eq_ok_iff.mp rest with ⟨right, rightOk, equal⟩
  rcases comparable_of_isTyped leftTyped leftOk with
    ⟨leftStored, rfl, leftNames, leftColumns, leftHeld⟩
  rcases comparable_of_isTyped rightTyped rightOk with
    ⟨rightStored, rfl, rightNames, rightColumns, rightHeld⟩
  have sameRecords : same (record leftStored) (record rightStored) = true := Except.ok.inj equal
  rcases isTyped_iff.mp leftTyped with ⟨_, _, leftEqual, left_isA, leftConform⟩
  rcases isTyped_iff.mp rightTyped with ⟨_, _, rightEqual, right_isA, rightConform⟩
  cases leftEqual
  cases rightEqual
  have sameKind : leftKind = rightKind := by
    apply eq_of_parent_iff left_isA right_isA
    rw [← names_of_fieldsConform leftConform, ← names_of_fieldsConform rightConform,
      ← leftNames, ← rightNames]
    exact mem_names_iff_of_same_record sameRecords (by decide)
  subst sameKind
  refine ⟨rfl, ?_, ?_⟩
  · have sameColumns := same_of_same_record sameRecords (by decide) leftColumns rightColumns
    rwa [same] at sameColumns
  · intro name type declared untagged notColumns
    exact same_of_same_record sameRecords untagged
      (leftHeld name type declared untagged notColumns)
      (rightHeld name type declared untagged notColumns)

/-! ## Rows that are alike -/

section Rows

variable {left right : Value} {kind : ObjectClass}

private theorem get_text_of_isTyped
    {value : Value}
    {name : String}
    (typed : value.isTyped kind = true)
    (declared : kind.declares name .text = true) :
    value.get name = text (value.letters name) := by
  have read := (part_of_isTyped typed declared).1
  rw [part_text_of_isTyped typed declared, Except.ok.injEq] at read
  exact read.symm

private theorem eq_of_alike_text
    {left right : String}
    (alikeTexts : alike (text left) (text right) = true) :
    left = right := by
  simpa [alike, sameMark, mark?] using alikeTexts

/-- Alike rows have the same letters in every field of a text. -/
theorem letters_eq_of_alike
    {name : String}
    (leftTyped : left.isTyped kind = true)
    (rightTyped : right.isTyped kind = true)
    (declared : kind.declares name .text = true)
    (untagged : isTag name = false)
    (alikeRows : alike left.toPlain right.toPlain = true) :
    left.letters name = right.letters name := by
  rcases toPlain_of_isTyped leftTyped with ⟨lefts, leftStored, leftHeld⟩
  rcases toPlain_of_isTyped rightTyped with ⟨rights, rightStored, rightHeld⟩
  rw [leftStored, rightStored] at alikeRows
  have alikeTexts := alike_of_alike_record alikeRows untagged
    (leftHeld name _ declared untagged) (rightHeld name _ declared untagged)
  rw [get_text_of_isTyped leftTyped declared, get_text_of_isTyped rightTyped declared]
    at alikeTexts
  exact eq_of_alike_text alikeTexts

/-- Alike columns have the same name, although their positions do not count. -/
private theorem columnName_eq_of_alike
    (leftTyped : left.isTyped .column = true)
    (rightTyped : right.isTyped .column = true)
    (alikeColumns : alike (unplaced left.toPlain) (unplaced right.toPlain) = true) :
    left.letters "name" = right.letters "name" := by
  have declared : ObjectClass.column.declares "name" .text = true := by decide
  rcases toPlain_of_isTyped leftTyped with ⟨lefts, leftStored, leftHeld⟩
  rcases toPlain_of_isTyped rightTyped with ⟨rights, rightStored, rightHeld⟩
  rw [leftStored, rightStored] at alikeColumns
  have elsewhere : ("name" : String) ≠ "ordinal_position" := by decide
  have alikeTexts := alike_of_alike_record alikeColumns (by decide)
    ((lookup_filter_of_ne elsewhere lefts).trans (leftHeld "name" _ declared (by decide)))
    ((lookup_filter_of_ne elsewhere rights).trans (rightHeld "name" _ declared (by decide)))
  rw [get_text_of_isTyped leftTyped declared, get_text_of_isTyped rightTyped declared]
    at alikeTexts
  exact eq_of_alike_text alikeTexts

/-- Alike rows of indexes belong both to a primary key or neither of them does. -/
private theorem isPrimary_eq_of_alike
    (leftTyped : left.isTyped .index = true)
    (rightTyped : right.isTyped .index = true)
    (alikeRows : alike left.toPlain right.toPlain = true) :
    (left.get "is_primary_key").isTruthy = (right.get "is_primary_key").isTruthy := by
  have declared : ObjectClass.index.declares "is_primary_key" { item := .truth } = true := by
    decide
  rcases toPlain_of_isTyped leftTyped with ⟨lefts, leftStored, leftHeld⟩
  rcases toPlain_of_isTyped rightTyped with ⟨rights, rightStored, rightHeld⟩
  rw [leftStored, rightStored] at alikeRows
  have alikeTruths := alike_of_alike_record alikeRows (by decide)
    (leftHeld _ _ declared (by decide)) (rightHeld _ _ declared (by decide))
  have leftConforms := (part_of_isTyped leftTyped declared).2
  have rightConforms := (part_of_isTyped rightTyped declared).2
  cases leftGiven : left.get "is_primary_key" <;> rw [leftGiven] at leftConforms alikeTruths <;>
    simp [conforms, ItemType.admits] at leftConforms
  cases rightGiven : right.get "is_primary_key" <;>
    rw [rightGiven] at rightConforms alikeTruths <;>
    simp [conforms, ItemType.admits] at rightConforms
  rename_i leftTruth rightTruth
  cases leftTruth <;> cases rightTruth <;>
    simp_all [alike, sameMark, mark?, isTruthy, toPlain]

end Rows

/-! ## Tables that are the same -/

section Tables

variable {source target : Value}

/-- Of alike lists, the rows that pass a test on which alike rows agree have the same names. -/
private theorem sameNames_filter_of_alike
    {rows others : List Value}
    {stored : Value → Value}
    (test : Value → Bool)
    (alikeLists : alike (list (rows.map stored)) (list (others.map stored)) = true)
    (sameName : ∀ row ∈ rows, ∀ other ∈ others, alike (stored row) (stored other) = true →
      row.letters "name" = other.letters "name" ∧ test row = test other) :
    Dialect.SameNames (rows.filter test) (others.filter test) := by
  rcases alike_list_iff.mp alikeLists with ⟨forward, backward⟩
  constructor
  · intro row passes
    rcases List.mem_filter.mp passes with ⟨member, passed⟩
    rcases forward _ (List.mem_map_of_mem member) with ⟨_, otherStored, alikeRows⟩
    rcases List.mem_map.mp otherStored with ⟨other, otherMember, rfl⟩
    rcases sameName row member other otherMember alikeRows with ⟨sameLetters, sameTest⟩
    exact ⟨other, List.mem_filter.mpr ⟨otherMember, sameTest ▸ passed⟩, sameLetters.symm⟩
  · intro other passes
    rcases List.mem_filter.mp passes with ⟨member, passed⟩
    rcases backward _ (List.mem_map_of_mem member) with ⟨_, rowStored, alikeRows⟩
    rcases List.mem_map.mp rowStored with ⟨row, rowMember, rfl⟩
    rcases sameName row rowMember other member alikeRows with ⟨sameLetters, sameTest⟩
    exact ⟨row, List.mem_filter.mpr ⟨rowMember, sameTest ▸ passed⟩, sameLetters⟩

private theorem sameNames_of_alike
    {rows others : List Value}
    {stored : Value → Value}
    (alikeLists : alike (list (rows.map stored)) (list (others.map stored)) = true)
    (sameName : ∀ row ∈ rows, ∀ other ∈ others, alike (stored row) (stored other) = true →
      row.letters "name" = other.letters "name") :
    Dialect.SameNames rows others := by
  have names := sameNames_filter_of_alike (fun _ => true) alikeLists
    fun row member other otherMember alikeRows =>
      ⟨sameName row member other otherMember alikeRows, rfl⟩
  rwa [List.filter_true, List.filter_true] at names

/-- Lists of rows in a field of tables that are the same are alike. -/
theorem alike_rows_of_sameObject
    {name : String}
    {item : ObjectClass}
    (sourceTyped : source.isTyped .table = true)
    (targetTyped : target.isTyped .table = true)
    (sameTables : source.sameObject target = .ok true)
    (declared : ObjectClass.table.declares name (.objects item) = true)
    (untagged : isTag name = false)
    (notColumns : name ≠ "columns") :
    alike (list ((source.rows name).map toPlain)) (list ((target.rows name).map toPlain)) =
      true := by
  rcases isTyped_iff.mp sourceTyped with ⟨sourceKind, lefts, rfl, source_isA, _⟩
  rcases isTyped_iff.mp targetTyped with ⟨targetKind, rights, rfl, _, _⟩
  rcases fields_of_sameObject sourceTyped targetTyped sameTables with ⟨_, _, held⟩
  have sameRows := held name _ (ObjectClass.fieldType?_of_declares declared source_isA)
    untagged notColumns
  rwa [toPlain_get_rows sourceTyped declared, toPlain_get_rows targetTyped declared, same]
    at sameRows

/-- Tables that are the same have columns and rows of the same names. -/
theorem hasNamesOf_of_sameObject
    (sourceTyped : source.isTyped .table = true)
    (targetTyped : target.isTyped .table = true)
    (sameTables : source.sameObject target = .ok true) :
    source.HasNamesOf target := by
  have alikeIndexes := alike_rows_of_sameObject sourceTyped targetTyped sameTables
    ObjectClass.table_declares_indexes (by decide) (by decide)
  have alikeConstraints := alike_rows_of_sameObject sourceTyped targetTyped sameTables
    ObjectClass.table_declares_constraints (by decide) (by decide)
  have alikeForeignKeys := alike_rows_of_sameObject sourceTyped targetTyped sameTables
    ObjectClass.table_declares_foreign_keys (by decide) (by decide)
  have sameIndexes : ∀ row ∈ source.rows "indexes", ∀ other ∈ target.rows "indexes",
      alike row.toPlain other.toPlain = true →
        row.letters "name" = other.letters "name" ∧
          (row.get "is_primary_key").isTruthy = (other.get "is_primary_key").isTruthy := by
    intro row member other otherMember alikeRows
    have rowTyped := index_isTyped sourceTyped member
    have otherTyped := index_isTyped targetTyped otherMember
    exact ⟨letters_eq_of_alike rowTyped otherTyped (by decide) (by decide) alikeRows,
      isPrimary_eq_of_alike rowTyped otherTyped alikeRows⟩
  constructor
  · rcases isTyped_iff.mp sourceTyped with ⟨sourceKind, lefts, rfl, _, _⟩
    rcases isTyped_iff.mp targetTyped with ⟨targetKind, rights, rfl, _, _⟩
    rcases fields_of_sameObject sourceTyped targetTyped sameTables with ⟨_, alikeColumns, _⟩
    exact sameNames_of_alike alikeColumns fun row member other otherMember alikeRows =>
      columnName_eq_of_alike (column_isTyped sourceTyped member)
        (column_isTyped targetTyped otherMember) alikeRows
  · apply sameNames_filter_of_alike _ alikeIndexes
    intro row member other otherMember alikeRows
    rcases sameIndexes row member other otherMember alikeRows with ⟨sameName, samePrimary⟩
    exact ⟨sameName, congrArg not samePrimary⟩
  · exact sameNames_filter_of_alike _ alikeIndexes sameIndexes
  · exact sameNames_of_alike alikeConstraints fun row member other otherMember alikeRows =>
      letters_eq_of_alike (constraint_isTyped sourceTyped member)
        (constraint_isTyped targetTyped otherMember) (by decide) (by decide) alikeRows
  · exact sameNames_of_alike alikeForeignKeys fun row member other otherMember alikeRows =>
      letters_eq_of_alike (foreignKey_isTyped sourceTyped member)
        (foreignKey_isTyped targetTyped otherMember) (by decide) (by decide) alikeRows

/-! ## Parents -/

private theorem orElse_eq_text
    {value : Value}
    (conform : value.conforms { item := .text, isOptional := true } = true) :
    ∃ letters, value.orElse (text "") = text letters := by
  rcases eq_null_or_text conform with rfl | ⟨letters, rfl⟩
  · exact ⟨"", rfl⟩
  · rw [orElse]
    split
    · exact ⟨letters, rfl⟩
    · exact ⟨"", rfl⟩

private theorem eq_of_same_toPlain
    {left right : Value}
    (leftConforms : left.conforms { item := .text, isOptional := true } = true)
    (rightConforms : right.conforms { item := .text, isOptional := true } = true)
    (sameValues : same left.toPlain right.toPlain = true) :
    left = right := by
  rcases eq_null_or_text leftConforms with rfl | ⟨letters, rfl⟩ <;>
    rcases eq_null_or_text rightConforms with rfl | ⟨others, rfl⟩ <;>
      simp_all [same, toPlain]

/-- The key of the parent of a table from the schema and the name of the parent. -/
private def parentOf
    (schema name : Value) : Attempt Value := do
  if (Text.trim (← (name.orElse (text "")).asText)).isEmpty then return null
  return list [schema.orElse (text ""), name]

private theorem parentOf_ok
    {schema name : Value}
    (schemaConforms : schema.conforms { item := .text, isOptional := true } = true)
    (nameConforms : name.conforms { item := .text, isOptional := true } = true) :
    ∃ key, parentOf schema name = .ok key ∧ key.agrees key = true := by
  rcases orElse_eq_text schemaConforms with ⟨schemaLetters, schemaText⟩
  rcases orElse_eq_text nameConforms with ⟨nameLetters, nameText⟩
  rcases eq_null_or_text nameConforms with rfl | ⟨name, rfl⟩
  · exact ⟨null, rfl, rfl⟩
  · rw [parentOf, schemaText, nameText]
    simp only [asText, asText?, Attempt.ok_bind]
    split
    · exact ⟨null, rfl, rfl⟩
    · exact ⟨_, rfl, by simp [agrees, isUndefined]⟩

private theorem postgreSqlTable_declares_parent :
    ObjectClass.postgreSqlTable.declares "inherited_table_schema"
        { item := .text, isOptional := true } = true ∧
      ObjectClass.postgreSqlTable.declares "inherited_table_name"
        { item := .text, isOptional := true } = true := by
  decide

private theorem parentKey_eq_parentOf
    {fields : List (String × Value)}
    (typed : (object .postgreSqlTable fields).isTyped .postgreSqlTable = true) :
    (object .postgreSqlTable fields).parentKey =
      parentOf ((object .postgreSqlTable fields).get "inherited_table_schema")
        ((object .postgreSqlTable fields).get "inherited_table_name") := by
  simp only [parentKey, parentOf,
    (part_of_isTyped typed postgreSqlTable_declares_parent.1).1,
    (part_of_isTyped typed postgreSqlTable_declares_parent.2).1, Attempt.ok_bind]

/-- Tables that are the same have the same parent. -/
theorem inheritanceSteps_of_sameObject
    (sourceTyped : source.isTyped .table = true)
    (targetTyped : target.isTyped .table = true)
    (sameTables : source.sameObject target = .ok true) :
    Scripter.inheritanceSteps source target = .ok [] := by
  rcases isTyped_iff.mp sourceTyped with ⟨kind, lefts, rfl, kind_isA, leftConform⟩
  rcases isTyped_iff.mp targetTyped with ⟨_, rights, rfl, _, rightConform⟩
  rcases fields_of_sameObject sourceTyped targetTyped sameTables with ⟨rfl, _, held⟩
  cases kind with
  | table => rfl
  | postgreSqlTable =>
      have leftTyped : (object .postgreSqlTable lefts).isTyped .postgreSqlTable = true :=
        isTyped_iff.mpr ⟨_, _, rfl, by decide, leftConform⟩
      have rightTyped : (object .postgreSqlTable rights).isTyped .postgreSqlTable = true :=
        isTyped_iff.mpr ⟨_, _, rfl, by decide, rightConform⟩
      rcases postgreSqlTable_declares_parent with ⟨schemaDeclared, nameDeclared⟩
      have schemaConforms := (part_of_isTyped rightTyped schemaDeclared).2
      have nameConforms := (part_of_isTyped rightTyped nameDeclared).2
      have sameSchema := eq_of_same_toPlain (part_of_isTyped leftTyped schemaDeclared).2
        schemaConforms (held "inherited_table_schema" _ rfl (by decide) (by decide))
      have sameName := eq_of_same_toPlain (part_of_isTyped leftTyped nameDeclared).2
        nameConforms (held "inherited_table_name" _ rfl (by decide) (by decide))
      rcases parentOf_ok schemaConforms nameConforms with ⟨key, keyOk, agrees⟩
      rw [Scripter.inheritanceSteps, parentKey_eq_parentOf leftTyped,
        parentKey_eq_parentOf rightTyped, sameSchema, sameName, keyOk, Attempt.ok_bind,
        Attempt.ok_bind, agrees]
      rfl
  | _ => exact absurd kind_isA (by decide)

end Tables

end SchemaDelta.Value
