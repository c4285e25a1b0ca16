import SchemaDelta.Proofs.Comparison.OuterJoin
import SchemaDelta.Proofs.Decimal.Style

/-!
# Create scripts of functions and types that are the same

Functions and types hold texts, truths and numbers, and lists of texts and integers.  Sameness does
not see the order of a list nor how often an item stands in it, and it takes the two zeros to be
equal.  Where these agree, too, objects that are the same have the same create scripts.
-/

namespace SchemaDelta

/-! ## Plain fields -/

/-- Texts, truths and integers, alone or in lists. -/
def FieldType.isPlain
    (type : FieldType) : Bool :=
  match type.item with
  | .text => true
  | .truth => true
  | .int => true
  | _ => false

namespace Value

/-- Lists of the one object stand in the same order and with the same repetitions in the other. -/
def HasListsOf
    (source target : Value) : Prop :=
  ∀ name items, source.get name = .list items → target.get name = .list items

/-- Floating point numbers in a field have one sign, zeros among them. -/
def HasSignOf
    (name : String)
    (source target : Value) : Prop :=
  ∀ left right, source.get name = .float left → target.get name = .float right →
    left.isNegative = right.isNegative

private theorem eq_of_same_plain
    {type : FieldType}
    {left right : Value}
    (plain : type.isPlain = true)
    (leftConforms : left.conforms type = true)
    (rightConforms : right.conforms type = true)
    (sameValues : same left.toPlain right.toPlain = true)
    (sameLists : ∀ items, left = .list items → right = .list items) :
    left = right := by
  rcases type with ⟨item, isList, isOptional⟩
  cases left with
  | list items => exact (sameLists items rfl).symm
  | null => cases right <;> simp [same, toPlain] at sameValues ⊢
  | bool value => cases right <;> simp_all [same, toPlain]
  | int value => cases right <;> simp_all [same, toPlain]
  | text value => cases right <;> simp_all [same, toPlain]
  | float value => cases item <;> simp [FieldType.isPlain, conforms, ItemType.admits] at *
  | member known => cases item <;> simp [FieldType.isPlain, conforms, ItemType.admits] at *
  | record fields => simp [conforms, ItemType.admits] at leftConforms
  | object kind fields => cases item <;> simp [FieldType.isPlain, conforms] at *

/-- Two values are one number, given in one way or as two floating point numbers of one value. -/
def IsNumberOf
    (left right : Value) : Prop :=
  left = right ∨ ∃ leftNumber rightNumber, left = .float leftNumber ∧ right = .float rightNumber ∧
    leftNumber.equal rightNumber = true

private theorem isNumberOf_of_same
    {left right : Value}
    (leftConforms : left.conforms { item := .number } = true)
    (sameValues : same left.toPlain right.toPlain = true) :
    left.IsNumberOf right := by
  cases left with
  | int value => cases right <;> simp_all [same, toPlain, IsNumberOf]
  | float value =>
      cases right with
      | float other =>
          have sameNumbers : equalScalar (float value) (float other) = true := by
            simpa [same, toPlain, equal] using sameValues
          cases value with
          | undefined =>
              cases other with
              | undefined => exact Or.inl rfl
              | _ => cases sameNumbers
          | _ => exact Or.inr ⟨_, _, rfl, rfl, by simpa [equalScalar] using sameNumbers⟩
      | _ => simp [same, toPlain] at sameValues
  | _ => simp [conforms, ItemType.admits] at leftConforms

end Value

/-! ## Objects that are the same -/

namespace ObjectClass

/-- Every name of a field of a class is one of another class. -/
def namesWithin
    (left right : ObjectClass) : Bool :=
  left.fields.all fun info => right.fields.any fun other => other.name == info.name

/-- The classes that belong to a class are told apart by the names of their fields. -/
def areToldApart
    (kind : ObjectClass) : Bool :=
  all.all fun left => all.all fun right =>
    !(left.isA kind && right.isA kind && left.namesWithin right && right.namesWithin left) ||
      left == right

/-- All fields of a class are plain or numbers. -/
def isPlain
    (kind : ObjectClass) : Bool :=
  kind.fields.all fun info => info.type.isPlain || info.type == { item := .number }

/-- No field of a class is a number that may be given in two ways. -/
def isWhole
    (kind : ObjectClass) : Bool :=
  kind.fields.all fun info => info.type != { item := .number }

/--
What objects of a class have to be like to be compared by their fields: without columns, told apart
from objects of other classes, and without objects or members in them.
-/
def isSimple
    (kind : ObjectClass) : Bool :=
  kind.lacks "columns" && kind.areToldApart &&
    all.all fun special => !special.isA kind || special.isPlain

/-- Fields have no names that are tags. -/
private theorem untagged_of_mem_fields
    {kind : ObjectClass}
    {info : FieldInfo}
    (member : info ∈ kind.fields) :
    Value.isTag info.name = false := by
  have checked : ∀ kind : ObjectClass,
      (kind.fields.all fun info => !Value.isTag info.name) = true := by
    intro kind
    cases kind <;> decide
  simpa using List.all_eq_true.mp (checked kind) info member

end ObjectClass

namespace Value

variable {kind special : ObjectClass} {fields lefts rights : List (String × Value)}

/-- An object without columns is compared as it is stored. -/
private theorem comparable_of_lacks_columns
    (lacking : kind.lacks "columns" = true)
    (special_isA : special.isA kind = true)
    (conform : fieldsConform fields special.fields = true) :
    (object special fields).comparable =
      .ok (record ((classTag, text special.name) :: toPlainFields fields)) := by
  have compared : ∀ field ∈ (classTag, text special.name) :: toPlainFields fields,
      comparableField field = .ok (id field) := by
    rw [toPlainFields_eq_map, List.forall_mem_cons]
    refine ⟨comparableField_of_ne (by decide) _, ?_⟩
    intro field member
    rcases List.mem_map.mp member with ⟨⟨name, value⟩, heldMember, rfl⟩
    rcases exists_info_of_mem_fields conform heldMember with ⟨info, infoMember, sameName, _⟩
    have absent := ObjectClass.fieldType?_of_lacks lacking special_isA
    rw [ObjectClass.fieldType?, Option.map_eq_none_iff, List.find?_eq_none] at absent
    refine comparableField_of_ne (fun isColumns => absent info infoMember ?_) _
    exact beq_iff_eq.mpr (sameName.symm.trans isColumns)
  rw [comparable, toPlain]
  simp only [Attempt.mapM_ok compared, List.map_id, Attempt.ok_bind, Attempt.pure_eq_ok]

private theorem namesWithin_of_names
    {left right : ObjectClass}
    (lefts rights : List (String × Value))
    (leftNames : lefts.map (·.1) = classTag :: left.fields.map (·.name))
    (rightNames : rights.map (·.1) = classTag :: right.fields.map (·.name))
    (within : ∀ name, isTag name = false → name ∈ lefts.map (·.1) → name ∈ rights.map (·.1)) :
    left.namesWithin right = true := by
  apply List.all_eq_true.mpr
  intro info member
  have untagged := ObjectClass.untagged_of_mem_fields member
  have held := within info.name untagged
    (leftNames ▸ List.mem_cons_of_mem _ (List.mem_map_of_mem member))
  rw [rightNames] at held
  rcases List.mem_cons.mp held with tag | declared
  · rw [tag] at untagged
    exact absurd untagged (by decide)
  · rcases List.mem_map.mp declared with ⟨other, otherMember, sameName⟩
    exact List.any_eq_true.mpr ⟨other, otherMember, beq_iff_eq.mpr sameName⟩

/-- Objects that are the same are of one class and hold the same in every field. -/
private theorem fields_of_sameObject_of_lacks
    {leftKind rightKind : ObjectClass}
    (lacking : kind.lacks "columns" = true)
    (apart : kind.areToldApart = true)
    (left_isA : leftKind.isA kind = true)
    (right_isA : rightKind.isA kind = true)
    (leftConform : fieldsConform lefts leftKind.fields = true)
    (rightConform : fieldsConform rights rightKind.fields = true)
    (sameObjects : (object leftKind lefts).sameObject (object rightKind rights) = .ok true) :
    leftKind = rightKind ∧
      ∀ info ∈ leftKind.fields, leftKind.fieldType? info.name = some info.type →
        same ((object leftKind lefts).get info.name).toPlain
          ((object rightKind rights).get info.name).toPlain = true := by
  rw [sameObject, comparable_of_lacks_columns lacking left_isA leftConform, Attempt.ok_bind,
    comparable_of_lacks_columns lacking right_isA rightConform, Attempt.ok_bind] at sameObjects
  have sameRecords := Except.ok.inj sameObjects
  have stored : ∀ {kind : ObjectClass} {fields : List (String × Value)},
      fieldsConform fields kind.fields = true →
        ((classTag, text kind.name) :: toPlainFields fields).map (·.1) =
          classTag :: kind.fields.map (·.name) := by
    intro kind fields conform
    rw [toPlainFields_eq_map, List.map_cons, List.map_map, ← names_of_fieldsConform conform]
    rfl
  have sameKind : leftKind = rightKind := by
    have checked := List.all_eq_true.mp
      (List.all_eq_true.mp apart leftKind (ObjectClass.mem_all leftKind))
      rightKind (ObjectClass.mem_all rightKind)
    have forward := namesWithin_of_names _ _ (stored leftConform) (stored rightConform)
      fun name untagged => (mem_names_iff_of_same_record sameRecords untagged).mp
    have backward := namesWithin_of_names _ _ (stored rightConform) (stored leftConform)
      fun name untagged => (mem_names_iff_of_same_record sameRecords untagged).mpr
    simpa [left_isA, right_isA, forward, backward] using checked
  subst sameKind
  refine ⟨rfl, fun info member declared => ?_⟩
  have untagged := ObjectClass.untagged_of_mem_fields member
  exact same_of_same_record sameRecords untagged
    (lookup_stored_of_declared leftConform declared untagged)
    (lookup_stored_of_declared rightConform declared untagged)

/-- Of two objects one holds what the other holds, numbers up to the way in which they are given. -/
structure AgreesWith
    (special : ObjectClass)
    (left right : Value) : Prop where
  plain : ∀ name, special.fieldType? name ≠ some { item := .number } →
    left.part name = right.part name
  number : ∀ name, special.fieldType? name = some { item := .number } →
    left.part name = .ok (left.get name) ∧ right.part name = .ok (right.get name) ∧
      (left.get name).IsNumberOf (right.get name)

private theorem part_of_fieldType?
    {name : String}
    {type : FieldType}
    (conform : fieldsConform fields special.fields = true)
    (declared : special.fieldType? name = some type) :
    (object special fields).part name = .ok ((object special fields).get name) ∧
      ((object special fields).get name).conforms type = true := by
  rcases Option.map_eq_some_iff.mp declared with ⟨info, found, rfl⟩
  rcases lookup_of_fieldsConform conform found with ⟨held, atName, conforms⟩
  simp [part, get, field?, atName, conforms]

private theorem part_of_undeclared
    {name : String}
    (conform : fieldsConform fields special.fields = true)
    (undeclared : special.fieldType? name = none) :
    (object special fields).part name = .error (.noPart (.object special) name) := by
  have missing := lookup_none_of_fieldsConform conform (Option.map_eq_none_iff.mp undeclared)
  simp [part, missing]

/-- Objects that are the same and have the same lists agree. -/
private theorem agreesWith_of_same
    (plain : special.isPlain = true)
    (leftConform : fieldsConform lefts special.fields = true)
    (rightConform : fieldsConform rights special.fields = true)
    (sameLists : (object special lefts).HasListsOf (object special rights))
    (sameFields : ∀ info ∈ special.fields, special.fieldType? info.name = some info.type →
      same ((object special lefts).get info.name).toPlain
        ((object special rights).get info.name).toPlain = true) :
    AgreesWith special (object special lefts) (object special rights) := by
  have held : ∀ {name type}, special.fieldType? name = some type →
      (type.isPlain = true ∨ type = { item := .number }) ∧
        same ((object special lefts).get name).toPlain
          ((object special rights).get name).toPlain = true := by
    intro name type declared
    rcases Option.map_eq_some_iff.mp declared with ⟨info, found, rfl⟩
    have member := List.mem_of_find?_eq_some found
    obtain rfl : info.name = name := by simpa using List.find?_some found
    exact ⟨by simpa using List.all_eq_true.mp plain info member, sameFields info member declared⟩
  constructor
  · intro name notNumber
    cases declared : special.fieldType? name with
    | none => rw [part_of_undeclared leftConform declared, part_of_undeclared rightConform declared]
    | some type =>
        rcases held declared with ⟨isPlain | isNumber, sameValues⟩
        · rcases part_of_fieldType? leftConform declared with ⟨leftRead, leftConforms⟩
          rcases part_of_fieldType? rightConform declared with ⟨rightRead, rightConforms⟩
          rw [leftRead, rightRead, eq_of_same_plain isPlain leftConforms rightConforms sameValues
            (sameLists name)]
        · exact absurd (isNumber ▸ declared) notNumber
  · intro name declared
    rcases part_of_fieldType? leftConform declared with ⟨leftRead, leftConforms⟩
    exact ⟨leftRead, (part_of_fieldType? rightConform declared).1,
      isNumberOf_of_same leftConforms (held declared).2⟩

/-- Objects that agree and hold no numbers of either kind are one. -/
private theorem eq_of_agreesWith
    (leftConform : fieldsConform lefts special.fields = true)
    (rightConform : fieldsConform rights special.fields = true)
    (whole : special.isWhole = true)
    (agrees : AgreesWith special (object special lefts) (object special rights)) :
    lefts = rights := by
  have sameNames : lefts.map (·.1) = rights.map (·.1) :=
    (names_of_fieldsConform leftConform).trans (names_of_fieldsConform rightConform).symm
  have distinct : (lefts.map (·.1)).Nodup := by
    rw [names_of_fieldsConform leftConform]
    exact (nodup_stored_names special).of_cons
  refine Keyed.eq_of_lookup distinct sameNames fun name => ?_
  have noNumber : special.fieldType? name ≠ some { item := .number } := by
    intro isNumber
    rcases Option.map_eq_some_iff.mp isNumber with ⟨info, found, type⟩
    simpa [type] using List.all_eq_true.mp whole info (List.mem_of_find?_eq_some found)
  have sameParts := agrees.plain name noNumber
  simp only [part] at sameParts
  cases left : lefts.lookup name with
  | none =>
      cases right : rights.lookup name with
      | none => rfl
      | some value => simp [left, right] at sameParts
  | some value =>
      cases right : rights.lookup name with
      | none => simp [left, right] at sameParts
      | some other =>
          rw [left, right] at sameParts
          exact congrArg some (Except.ok.inj sameParts)

/-- Objects that are the same and have the same lists agree in a class of their kind. -/
private theorem exists_agreesWith
    {left right : Value}
    (simple : kind.isSimple = true)
    (leftTyped : left.isTyped kind = true)
    (rightTyped : right.isTyped kind = true)
    (sameObjects : left.sameObject right = .ok true)
    (sameLists : left.HasListsOf right) :
    ∃ special lefts rights, left = .object special lefts ∧ right = .object special rights ∧
      special.isA kind = true ∧ AgreesWith special (.object special lefts) (.object special rights) ∧
        (special.isWhole = true → left = right) := by
  simp only [ObjectClass.isSimple, Bool.and_eq_true] at simple
  rcases simple with ⟨⟨lacking, apart⟩, allPlain⟩
  rcases isTyped_iff.mp leftTyped with ⟨special, lefts, rfl, left_isA, leftConform⟩
  rcases isTyped_iff.mp rightTyped with ⟨_, rights, rfl, right_isA, rightConform⟩
  rcases fields_of_sameObject_of_lacks lacking apart left_isA right_isA leftConform rightConform
    sameObjects with ⟨rfl, sameFields⟩
  have plain : special.isPlain = true := by
    have checked := List.all_eq_true.mp allPlain special (ObjectClass.mem_all special)
    simpa [left_isA] using checked
  have agrees := agreesWith_of_same plain leftConform rightConform sameLists sameFields
  refine ⟨special, lefts, rights, rfl, rfl, left_isA, agrees, fun whole => ?_⟩
  rw [eq_of_agreesWith leftConform rightConform whole agrees]

end Value

/-! ## Functions of PostgreSQL -/

namespace PostgreSql

variable {left right : Value}

private theorem estimate_congr
    (sameNumber : left.IsNumberOf right)
    (sameSign : ∀ leftNumber rightNumber, left = .float leftNumber → right = .float rightNumber →
      leftNumber.isNegative = rightNumber.isNegative) :
    estimate left = estimate right := by
  rcases sameNumber with rfl | ⟨leftNumber, rightNumber, rfl, rfl, equal⟩
  · rfl
  · exact congrArg Except.ok (Decimal.Style.writeRounded_congr estimateStyle 6 equal
      (sameSign _ _ rfl rfl))

/-- The sign of a zero does not show, since estimates of rows are left out unless positive. -/
private theorem rowsLine_congr
    (sameNumber : left.IsNumberOf right) :
    rowsLine left = rowsLine right := by
  rcases sameNumber with rfl | ⟨leftNumber, rightNumber, rfl, rfl, equal⟩
  · rfl
  · have exceeds := Decimal.Binary64.exceedsInt_zero_congr equal
    have compared : ∀ number : Decimal.Binary64,
        Value.less? (.int 0) (.float number) = some (number.exceedsInt 0) := fun _ => rfl
    rw [rowsLine, rowsLine, compared, compared, ← exceeds]
    cases positive : leftNumber.exceedsInt 0 with
    | false => rfl
    | true =>
        have sameSign := (Decimal.Binary64.isNegative_of_exceedsInt_zero positive).trans
          (Decimal.Binary64.isNegative_of_exceedsInt_zero (exceeds ▸ positive)).symm
        have sameEstimate : estimate (.float leftNumber) = estimate (.float rightNumber) :=
          congrArg Except.ok (Decimal.Style.writeRounded_congr estimateStyle 6 equal sameSign)
        rw [sameEstimate]

private theorem argumentsFrom_congr
    (types : Value)
    (modes : left.part "arg_modes" = right.part "arg_modes")
    (names : left.part "arg_names" = right.part "arg_names")
    (place : Nat)
    (typeIds : List Value) :
    argumentsFrom types left place typeIds = argumentsFrom types right place typeIds := by
  induction typeIds generalizing place with
  | nil => rfl
  | cons typeId typeIds ih => rw [argumentsFrom, argumentsFrom, modes, names, ih]

private theorem createFunction_congr
    {lefts rights : List (String × Value)}
    (options : Options)
    (types : Value)
    (agrees : Value.AgreesWith .postgreSqlFunction (.object .postgreSqlFunction lefts)
      (.object .postgreSqlFunction rights))
    (sameSign : (Value.object .postgreSqlFunction lefts).HasSignOf "cost"
      (.object .postgreSqlFunction rights)) :
    createFunction options types (.object .postgreSqlFunction lefts) =
      createFunction options types (.object .postgreSqlFunction rights) := by
  have expected : ∀ fields,
      dialect.expect .postgreSqlFunction (.object .postgreSqlFunction fields) = .ok () :=
    fun _ => rfl
  have required : ∀ fields,
      (Value.object .postgreSqlFunction fields).required "obj" = .ok () := fun _ => rfl
  have parts : ∀ name, ObjectClass.postgreSqlFunction.fieldType? name ≠ some { item := .number } →
      (Value.object .postgreSqlFunction lefts).part name =
        (Value.object .postgreSqlFunction rights).part name :=
    agrees.plain
  have arguments : createArguments types (.object .postgreSqlFunction lefts) =
      createArguments types (.object .postgreSqlFunction rights) := by
    simp only [createArguments, parts "all_arg_types" (by decide), parts "arg_types" (by decide),
      argumentsFrom_congr types (parts "arg_modes" (by decide)) (parts "arg_names" (by decide))]
  have attributes : functionAttributes (.object .postgreSqlFunction lefts) =
      functionAttributes (.object .postgreSqlFunction rights) := by
    simp only [functionAttributes, parts "volatile" (by decide),
      parts "security_type" (by decide), parts "is_strict" (by decide)]
  rcases agrees.number "cost" rfl with ⟨leftCost, rightCost, sameCost⟩
  rcases agrees.number "rows" rfl with ⟨leftRows, rightRows, sameRows⟩
  simp only [createFunction, expected, arguments, attributes, Dialect.objectName, required,
    parts "schema" (by decide), parts "name" (by decide), parts "return_set" (by decide),
    parts "return_type" (by decide), parts "external_language" (by decide),
    parts "definition" (by decide), leftCost, rightCost, leftRows, rightRows, Attempt.ok_bind,
    estimate_congr sameCost sameSign, rowsLine_congr sameRows]

end PostgreSql

/-! ## Create scripts -/

namespace Scripter

variable {left right : Value}

/-- The scripts of functions that are the same, in all dialects. -/
theorem createFunction_of_sameObject
    (scripter : Scripter)
    (types : Value)
    (leftTyped : left.isTyped .function = true)
    (rightTyped : right.isTyped .function = true)
    (sameFunctions : left.sameObject right = .ok true)
    (sameLists : left.HasListsOf right)
    (sameSign : left.HasSignOf "cost" right) :
    scripter.createFunction types left = scripter.createFunction types right := by
  rcases Value.exists_agreesWith (by decide +kernel) leftTyped rightTyped sameFunctions sameLists
    with ⟨special, lefts, rights, rfl, rfl, isFunction, agrees, eq_of_whole⟩
  cases special with
  | function => rw [eq_of_whole (by decide)]
  | postgreSqlFunction =>
      have definition := agrees.plain "definition" (by decide)
      have required : ∀ fields,
          (Value.object .postgreSqlFunction fields).required "function" = .ok () := fun _ => rfl
      rw [createFunction, createFunction, required, required]
      rcases scripter with ⟨dialect, options⟩
      cases dialect with
      | microsoftSql =>
          simp only [statements, Dialect.statements, MicrosoftSql.statements,
            MicrosoftSql.ModuleKind.create, MicrosoftSql.createModule,
            MicrosoftSql.ModuleKind.spelling, Value.partText, definition]
      | mySql =>
          simp only [statements, Dialect.statements, MySql.statements, MySql.createModule,
            Value.partText, definition]
      | postgreSql => exact PostgreSql.createFunction_congr options types agrees sameSign
  | _ => exact absurd isFunction (by decide)

/-- The scripts of types that are the same, in all dialects. -/
theorem createType_of_sameObject
    (scripter : Scripter)
    (types : Value)
    (leftTyped : left.isTyped .dataType = true)
    (rightTyped : right.isTyped .dataType = true)
    (sameTypes : left.sameObject right = .ok true)
    (sameLists : left.HasListsOf right) :
    scripter.createType types left = scripter.createType types right := by
  rcases Value.exists_agreesWith (by decide +kernel) leftTyped rightTyped sameTypes sameLists
    with ⟨special, lefts, rights, _, _, isType, _, eq_of_whole⟩
  have whole : ∀ special : ObjectClass, special.isA .dataType = true → special.isWhole = true := by
    intro special
    cases special <;> decide
  rw [eq_of_whole (whole special isType)]

end Scripter

namespace Comparison

variable {left right source target : Value} {comparison : Comparison}

/--
Functions and types that a comparison takes to be identical have the same create scripts where their
lists have the same items in the same order and their costs one sign.
-/
theorem createScripts_of_identical
    (scripter : Scripter)
    (types : Value)
    (leftTyped : left.isTyped .database = true)
    (rightTyped : right.isTyped .database = true)
    (compared : (Comparison.between left right).result = .ok comparison)
    (sameLists : source.HasListsOf target)
    (sameSign : source.HasSignOf "cost" target) :
    (.identical source target ∈ comparison.pairings .functions →
      scripter.createFunction types source = scripter.createFunction types target) ∧
      (.identical source target ∈ comparison.pairings .dataTypes →
        scripter.createType types source = scripter.createType types target) := by
  constructor
  · intro identical
    rcases isOf_of_mem_pairings compared identical with
      ⟨sources, targets, sourcesOk, targetsOk, sourceMember, targetMember, sameFunctions⟩
    exact scripter.createFunction_of_sameObject types
      (Value.isTyped_of_mem_objectsOf leftTyped sourcesOk source sourceMember)
      (Value.isTyped_of_mem_objectsOf rightTyped targetsOk target targetMember)
      sameFunctions sameLists sameSign
  · intro identical
    rcases isOf_of_mem_pairings compared identical with
      ⟨sources, targets, sourcesOk, targetsOk, sourceMember, targetMember, sameTypes⟩
    exact scripter.createType_of_sameObject types
      (Value.isTyped_of_mem_objectsOf leftTyped sourcesOk source sourceMember)
      (Value.isTyped_of_mem_objectsOf rightTyped targetsOk target targetMember)
      sameTypes sameLists

/-! ## Databases of one object -/

/-- A database with types and functions. -/
private def databaseOf
    (name : String)
    (types functions : List Value) : Value :=
  .filled .database [
    ("name", .text name), ("dialect", .member (.dialect .postgreSql)),
    ("data_types", .list types), ("functions", .list functions)]

private theorem isTyped_databaseOf
    (name : String)
    {types functions : List Value}
    (typesTyped : ∀ type ∈ types, type.isTyped .dataType = true)
    (functionsTyped : ∀ function ∈ functions, function.isTyped .function = true) :
    (databaseOf name types functions).isTyped .database = true := by
  have typesConform : (Value.list types).conforms (.objects .dataType) = true :=
    Value.allConform_iff.mpr typesTyped
  have functionsConform : (Value.list functions).conforms (.objects .function) = true :=
    Value.allConform_iff.mpr functionsTyped
  refine Value.isTyped_filled ?_ rfl
  have accepted :
      ObjectClass.database.accepts [
          ("name", .text name), ("dialect", .member (.dialect .postgreSql)),
          ("data_types", .list types), ("functions", .list functions)] =
        ((Value.list functions).conforms (.objects .function) &&
          ((Value.list types).conforms (.objects .dataType) && true)) :=
    rfl
  rw [accepted, typesConform, functionsConform]
  rfl

/-- The fields of a function before the estimate of its rows. -/
private def fieldsBeforeRows : List (String × Value) := [
  ("name", .text "f"), ("schema", .text "public"), ("is_user_defined", .bool true),
  ("definition", .text "SELECT 1"), ("return_type", .int 23), ("return_set", .bool false),
  ("external_language", .text "sql"), ("cost", .int 100)]

/-- The fields of a function after the estimate of its rows. -/
private def fieldsAfterRows : List (String × Value) := [
  ("volatile", .text "i"), ("security_type", .text "INVOKER"), ("is_strict", .bool false),
  ("arg_types", .list [.int 23]), ("all_arg_types", .null), ("arg_modes", .null),
  ("arg_names", .null)]

/-- A function of one argument with an estimate of its rows. -/
private def functionWith
    (rows : Decimal.Binary64) : Value :=
  .object .postgreSqlFunction (fieldsBeforeRows ++ ("rows", .float rows) :: fieldsAfterRows)

private theorem hasListsOf_functionWith
    (rows others : Decimal.Binary64) :
    (functionWith rows).HasListsOf (functionWith others) := by
  intro name items held
  simp only [Value.get, functionWith, Value.field?, List.lookup_append, List.lookup_cons] at held ⊢
  cases before : fieldsBeforeRows.lookup name with
  | some value =>
      rw [before] at held
      exact held
  | none =>
      rw [before] at held
      cases isRows : name == "rows" with
      | true =>
          rw [isRows] at held
          cases held
      | false =>
          rw [isRows] at held
          exact held

/-- The two zeros. -/
private def zero
    (negative : Bool) : Decimal.Binary64 :=
  .finite negative 0 Decimal.Binary64.leastExponent

/-- The types that resolve the signature of the function. -/
private def integerTypes : Value :=
  .list [.filled .postgreSqlDataType [("name", .text "int4"), ("type_id", .int 23)]]

/-- Functions whose rows are the two zeros are the same and have one create script. -/
theorem createScripts_of_identical_zeros :
    ∃ comparison script,
      (Comparison.between (databaseOf "s" [] [functionWith (zero false)])
        (databaseOf "d" [] [functionWith (zero true)])).result = .ok comparison ∧
        .identical (functionWith (zero false)) (functionWith (zero true)) ∈
          comparison.pairings .functions ∧
          (Scripter.mk .postgreSql {}).createFunction integerTypes (functionWith (zero false)) =
            .ok script ∧
            (Scripter.mk .postgreSql {}).createFunction integerTypes (functionWith (zero true)) =
              .ok script := by
  have typed : ∀ name negative,
      (databaseOf name [] [functionWith (zero negative)]).isTyped .database = true := by
    intro name negative
    refine isTyped_databaseOf name (fun _ => List.not_mem_nil.elim) fun function member => ?_
    rw [List.mem_singleton.mp member]
    rfl
  rcases exists_between (typed "s" false) (typed "d" true)
    (show .identical (functionWith (zero false)) (functionWith (zero true)) ∈
      (matchingOf (databaseOf "s" [] [functionWith (zero false)])
        (databaseOf "d" [] [functionWith (zero true)])).pairingsOf
          (Value.objectsIn _ .functions) (Value.objectsIn _ .functions) from
      List.mem_singleton_self _) with
    ⟨comparison, compared, paired⟩
  rcases Attempt.exists_ok_of_isSome
    (show ((Scripter.mk .postgreSql {}).createFunction integerTypes
      (functionWith (zero false))).toOption.isSome = true by decide +kernel) with
    ⟨script, scripted, _⟩
  refine ⟨comparison, script, compared, paired, scripted, ?_⟩
  rw [← scripted]
  refine ((createScripts_of_identical (Scripter.mk .postgreSql {}) integerTypes (typed "s" false)
    (typed "d" true) compared (hasListsOf_functionWith _ _) ?_).1 paired).symm
  intro left right held
  cases held

/-- An enumerated type with labels. -/
private def labelled
    (labels : List String) : Value :=
  .filled .postgreSqlDataTypeEnumerated [
    ("name", .text "e"), ("schema", .text "public"), ("labels", .list (labels.map .text))]

/-- Enumerated types are taken to be identical although the order of their labels differs. -/
theorem createType_of_identical_with_swapped_labels :
    ∃ comparison,
      (databaseOf "s" [labelled ["a", "b"]] []).isTyped .database = true ∧
        (databaseOf "d" [labelled ["b", "a"]] []).isTyped .database = true ∧
          (Comparison.between (databaseOf "s" [labelled ["a", "b"]] [])
            (databaseOf "d" [labelled ["b", "a"]] [])).result = .ok comparison ∧
            .identical (labelled ["a", "b"]) (labelled ["b", "a"]) ∈
              comparison.pairings .dataTypes ∧
              (Scripter.mk .postgreSql {}).createType (.list []) (labelled ["a", "b"]) ≠
                (Scripter.mk .postgreSql {}).createType (.list []) (labelled ["b", "a"]) := by
  have sourceTyped : (databaseOf "s" [labelled ["a", "b"]] []).isTyped .database = true := by
    refine isTyped_databaseOf "s" (fun type member => ?_) fun _ => List.not_mem_nil.elim
    rw [List.mem_singleton.mp member]
    rfl
  have targetTyped : (databaseOf "d" [labelled ["b", "a"]] []).isTyped .database = true := by
    refine isTyped_databaseOf "d" (fun type member => ?_) fun _ => List.not_mem_nil.elim
    rw [List.mem_singleton.mp member]
    rfl
  rcases exists_between sourceTyped targetTyped
    (show .identical (labelled ["a", "b"]) (labelled ["b", "a"]) ∈
      (matchingOf (databaseOf "s" [labelled ["a", "b"]] [])
        (databaseOf "d" [labelled ["b", "a"]] [])).pairingsOf
          (Value.objectsIn _ .dataTypes) (Value.objectsIn _ .dataTypes) from
      List.mem_singleton_self _) with
    ⟨comparison, compared, paired⟩
  exact ⟨comparison, sourceTyped, targetTyped, compared, paired, by decide +kernel⟩

end Comparison

end SchemaDelta
