import Mathlib.Logic.Relation
import SchemaDelta.Proofs.Migration.Contents
import SchemaDelta.Proofs.Migration.FreshPlan
import SchemaDelta.Proofs.Migration.FullScript
import SchemaDelta.Proofs.Migration.Planning

/-!
# Order of types

Composites, ranges and domains of PostgreSQL are made of other types, which they give by their ids
or by the ids of arrays of them.  Types are created in the order of their schemas and names.  So
whether each comes behind the types that it is made of depends on how these are named.
-/

namespace SchemaDelta

open Attempt (bind_eq_ok_iff)
open Value (listing listingRank sortedOn)

/-! ## Components of types -/

namespace Value

/-- The ids of the types that a type is made of. -/
def componentIds
    (type : Value) : List Value :=
  match type with
  | .object .postgreSqlDataTypeComposite _ => type.rows "attribute_type_ids"
  | .object .postgreSqlDataTypeRange _ => [type.get "sub_type_id"]
  | .object .postgreSqlDataTypeDomain _ => [type.get "base_type_id"]
  | _ => []

/-- The first type with an id. -/
def typeWithId?
    (types : List Value)
    (typeId : Value) : Option Value :=
  types.find? fun type =>
    type.isA .postgreSqlDataType && (type.field? "type_id").any fun other => other.agrees typeId

/-- An id refers to the type that has it and, if that is an array, to the type of its elements. -/
inductive RefersTo
    (types : List Value) : Value → Value → Prop where
  | direct
      {typeId type : Value}
      (found : typeWithId? types typeId = some type) :
      RefersTo types typeId type
  | element
      {typeId array type : Value}
      (found : typeWithId? types typeId = some array)
      (isArray : (array.get "is_array").isTruthy = true)
      (refers : RefersTo types (array.get "array_type_id") type) :
      RefersTo types typeId type

/-- A type is made of those that the ids of its components refer to. -/
def IsMadeOf
    (types : List Value)
    (type component : Value) : Prop :=
  ∃ typeId ∈ type.componentIds, RefersTo types typeId component

/-- No type of users is made of itself, by way of whatever other types of users. -/
def HasFoundedTypes
    (database : Value) : Prop :=
  ∀ type, ¬ Relation.TransGen (fun type component =>
    type ∈ database.objectsIn .dataTypes ∧ component ∈ database.objectsIn .dataTypes ∧
      IsMadeOf (database.rows "data_types") type component) type type

/-- Every type stands behind all those among the same types that it is made of. -/
def PutsComponentsFirst
    (types created : List Value) : Prop :=
  ∀ type ∈ created, ∀ component ∈ created, IsMadeOf types type component →
    [component, type].Sublist created

/--
A type is listed before another one by its schema and name; of two with the same schema and name, the
one that stands first comes first.
-/
def IsListedBefore
    (types : List Value)
    (first second : Value) : Prop :=
  listingRank first < listingRank second ∨
    listingRank first = listingRank second ∧ [first, second].Sublist types

/-- Every type of users is listed behind the types of users that it is made of. -/
def ListsComponentsFirst
    (database : Value) : Prop :=
  ∀ type ∈ database.objectsIn .dataTypes, ∀ component ∈ database.objectsIn .dataTypes,
    IsMadeOf (database.rows "data_types") type component →
      IsListedBefore (database.objectsIn .dataTypes) component type

/-- Types that are listed by schema and name are in order exactly when their names are. -/
theorem putsComponentsFirst_sortedOn_iff
    {database : Value} :
    PutsComponentsFirst (database.rows "data_types")
        (sortedOn listing (database.objectsIn .dataTypes)) ↔
      database.ListsComponentsFirst := by
  simp only [PutsComponentsFirst, ListsComponentsFirst, mem_sortedOn]
  refine forall₂_congr fun type typeMember => forall₂_congr fun component componentMember =>
    imp_congr_right fun _ => ?_
  rw [listing_ranksBy.pair_sublist_sortedOn_iff, and_iff_right componentMember,
    and_iff_right typeMember]
  rfl

/-- What can be read of an object is what its field holds. -/
private theorem get_of_part
    {value held : Value}
    {name : String}
    (isObject : value.isA .postgreSqlDataType = true)
    (read : value.part name = .ok held) :
    value.get name = held := by
  cases value with
  | object kind fields =>
      rw [part] at read
      rw [get, field?]
      cases found : fields.lookup name with
      | none => rw [found] at read; cases read
      | some given => rw [found] at read; cases read; rfl
  | _ => cases isObject

/-- What an id is spelled by is the name of a type that it refers to. -/
theorem exists_refersTo_of_typeName
    {types : List Value}
    {typeId spelled : Value}
    (named : PostgreSql.typeName (.list types) typeId = .ok spelled) :
    ∃ type name, RefersTo types typeId type ∧
      PostgreSql.typeSpellingOf (type.get "name") = .ok name ∧
        (spelled = name ∨ spelled = .text (name.display ++ "[]")) := by
  have isType : ∀ {id type}, typeWithId? types id = some type →
      type.isA .postgreSqlDataType = true := by
    intro id type found
    exact (Bool.and_eq_true _ _ ▸ List.find?_some found).1
  have search : ∀ id, PostgreSql.findType? (.list types) id = .ok (typeWithId? types id) :=
    fun _ => rfl
  rw [PostgreSql.typeName, search, Attempt.ok_bind] at named
  cases found : typeWithId? types typeId with
  | none => rw [found] at named; cases named
  | some type =>
      rw [found] at named
      rcases bind_eq_ok_iff.mp named with ⟨element?, elementOk, spelledOk⟩
      cases element? with
      | none =>
          rcases bind_eq_ok_iff.mp spelledOk with ⟨given, nameRead, nameOk⟩
          refine ⟨type, spelled, .direct found, ?_, .inl rfl⟩
          rw [get_of_part (isType found) nameRead]
          exact nameOk
      | some element =>
          rcases bind_eq_ok_iff.mp spelledOk with ⟨given, nameRead, arrayOk⟩
          rcases bind_eq_ok_iff.mp arrayOk with ⟨name, nameOk, equal⟩
          cases equal
          rcases bind_eq_ok_iff.mp elementOk with ⟨marked, markRead, elementOk⟩
          have elements : ∃ elementId, type.part "array_type_id" = .ok elementId ∧
              typeWithId? types elementId = some element ∧ marked.isTruthy = true := by
            split at elementOk
            · cases elementOk
            · rename_i isArray
              rcases bind_eq_ok_iff.mp elementOk with ⟨elementId, idRead, elementOk⟩
              split at elementOk
              · cases elementOk
              · rw [search] at elementOk
                exact ⟨elementId, idRead, Except.ok.inj elementOk, by simpa using isArray⟩
          rcases elements with ⟨elementId, idRead, elementFound, isArray⟩
          rw [← get_of_part (isType found) idRead] at elementFound
          rw [← get_of_part (isType found) markRead] at isArray
          refine ⟨element, name, .element found isArray (.direct elementFound), ?_, .inr rfl⟩
          rw [get_of_part (isType elementFound) nameRead]
          exact nameOk

end Value

/-! ## Order of creation -/

/-- The type that a statement creates. -/
def ObjectStatement.createdType? : ObjectStatement → Option Value
  | create .dataTypes type => some type
  | _ => none

/-- The type that an action creates, be it a new one or another version of one. -/
def MigrationAction.createdType? : MigrationAction → Option Value
  | changeType _ (.onlySource type) => some type
  | changeType _ (.different type _) => some type
  | _ => none

namespace Value

private theorem createdTypes_statementsAs
    (object : Value)
    (kind : ObjectKind) :
    (object.statementsAs kind).filterMap ObjectStatement.createdType? =
      if kind = .dataTypes then [object] else [] := by
  cases kind with
  | views =>
      rw [statementsAs]
      split <;> rfl
  | _ => rfl

private theorem createdTypes_listedStatements
    (kind : ObjectKind)
    (objects : List Value) :
    (listedStatements kind objects).filterMap ObjectStatement.createdType? =
      if kind = .dataTypes then sortedOn listing objects else [] := by
  rw [listedStatements, List.filterMap_flatMap]
  simp only [createdTypes_statementsAs]
  split
  · exact List.flatMap_singleton' _
  · simp

/-- A full script creates the types in the order of their schemas and names. -/
theorem createdTypes_fullStatements
    (database : Value)
    (tables : List Value) :
    (database.fullStatements tables).filterMap ObjectStatement.createdType? =
      sortedOn listing (database.objectsIn .dataTypes) := by
  have keys : ∀ table : Value, table.keyStatements.filterMap ObjectStatement.createdType? = [] := by
    intro table
    rw [keyStatements]
    split <;> rfl
  have foreignKeys : ∀ table : Value,
      table.foreignKeyStatements.filterMap ObjectStatement.createdType? = [] := by
    intro table
    rw [foreignKeyStatements]
    split <;> rfl
  simp [fullStatements, statementsInFull, triggerStatements, List.filterMap_flatMap,
    createdTypes_listedStatements, createdTypes_statementsAs, keys, foreignKeys]

end Value

namespace Migration

variable {migration : Migration}

/-- Into a database without types of users they are created in the order of full scripts. -/
theorem IsTyped.createdTypes_actionsIn
    (typed : migration.IsTyped)
    (checked : migration.checkDialects = .ok ())
    (onPostgreSql : migration.scripter.dialect = .postgreSql)
    (absent : migration.target.objectsIn .dataTypes = [])
    (distinct : ((migration.source.objectsIn .dataTypes).map Value.fullName).Nodup)
    (contents : PlanContents) :
    (migration.actionsIn contents .types).filterMap MigrationAction.createdType? =
      sortedOn listing (migration.source.objectsIn .dataTypes) := by
  have every : migration.changed .dataTypes =
      (sortedOn listing (migration.source.objectsIn .dataTypes)).map .onlySource := by
    rw [changed, pairingsWith,
      typed.pairings_eq_listed checked onPostgreSql absent distinct, List.filter_eq_self]
    intro pairing member
    rcases List.mem_map.mp member with ⟨type, _, rfl⟩
    rfl
  simp [actionsIn, every, List.filterMap_append, List.filterMap_map, Function.comp_def,
    MigrationAction.createdType?]

end Migration

/--
A full script of PostgreSQL creates every type behind those that it is made of exactly when they are
listed in that order by schema and name, and so do the types of a migration into a database that has
none.
-/
theorem Scripter.creates_components_first_iff
    {scripter : Scripter}
    {database : Value}
    (onPostgreSql : scripter.dialect = .postgreSql)
    (typed : database.isTyped .database = true) :
    (∀ script, (scripter.fullScript database).result = .ok script →
      ∃ tables texts,
        scripter.dialect.sortTables false (.list (sortedOn listing (database.rows "tables"))) =
          .ok tables ∧
        scripter.statementTexts (.list (database.rows "data_types"))
          (database.fullStatements tables) = .ok texts ∧
        scripter.dialect.MadeOf texts script ∧
        (Value.PutsComponentsFirst (database.rows "data_types")
            ((database.fullStatements tables).filterMap ObjectStatement.createdType?) ↔
          database.ListsComponentsFirst)) ∧
    ∀ generator : Generator, generator.migration.IsTyped →
      generator.migration.scripter = scripter → generator.migration.source = database →
        generator.migration.target.objectsIn .dataTypes = [] →
          ((database.objectsIn .dataTypes).map Value.fullName).Nodup →
            generator.migration.includes .types = true →
      ∀ script, generator.generate.1.result = .ok script →
        ∃ plan dropped,
          generator.migration.planPhases generator.migration.phases [] = .ok (plan, dropped) ∧
          generator.migration.Writes plan script ∧
          ∃ sections, (Phase.types, sections) ∈ plan ∧
            (Value.PutsComponentsFirst (database.rows "data_types")
                ((MigrationSection.actionsOf sections).filterMap MigrationAction.createdType?) ↔
              database.ListsComponentsFirst) := by
  constructor
  · intro script scripted
    rcases exists_sortTables_of_fullScript typed scripted with ⟨tables, created⟩
    have renders := renders_fullScript typed created
    cases textsOk : scripter.statementTexts (.list (database.rows "data_types"))
        (database.fullStatements tables) with
    | error failure => cases (renders.fails failure textsOk).symm.trans scripted
    | ok texts =>
        rcases renders.succeeds texts textsOk with ⟨text, textOk, made⟩
        cases textOk.symm.trans scripted
        refine ⟨tables, texts, created, textsOk, made, ?_⟩
        rw [Value.createdTypes_fullStatements]
        exact Value.putsComponentsFirst_sortedOn_iff
  · rintro generator migrationTyped rfl rfl absent distinct runsTypes script generated
    rcases Generator.exists_plan_of_generate generated with ⟨plan, dropped, planned, writes⟩
    rcases migrationTyped.exists_contentsIn planned with ⟨contents, _, phases⟩
    rcases Migration.exists_sections_of_phases phases runsTypes with ⟨sections, member, actions⟩
    refine ⟨plan, dropped, planned, writes, sections, member, ?_⟩
    rw [actions, migrationTyped.createdTypes_actionsIn
      (Generator.checkDialects_of_generate generated) onPostgreSql absent distinct]
    exact Value.putsComponentsFirst_sortedOn_iff

/-! ## A composite of an enumeration -/

namespace Generator

/-- An enumeration. -/
private def enumeration
    (name : String) : Value :=
  .filled .postgreSqlDataTypeEnumerated [
    ("name", .text name), ("schema", .text "public"), ("type_id", .int 50002),
    ("labels", .list [.text "one"])]

/-- A composite with an attribute of the enumeration. -/
private def composite
    (name : String) : Value :=
  .filled .postgreSqlDataTypeComposite [
    ("name", .text name), ("schema", .text "public"), ("type_id", .int 50001),
    ("attribute_names", .list [.text "x"]), ("attribute_type_ids", .list [.int 50002])]

/-- A database with the two types under given names. -/
private def compositeDatabase
    (compositeName enumerationName : String) : Value :=
  .filled .database [
    ("name", .text "s"), ("dialect", .member (.dialect .postgreSql)),
    ("data_types", .list [composite compositeName, enumeration enumerationName])]

/-- The migration in all phases of the two types into an empty database. -/
private def compositeMigration
    (compositeName enumerationName : String) : Generator :=
  between (compositeDatabase compositeName enumerationName) (.plainDatabase "d" [])

/-- Nothing but the composite is made of something, and that is the enumeration. -/
private theorem eq_of_isMadeOf
    {compositeName enumerationName : String}
    {type component : Value}
    (member : type ∈ (compositeDatabase compositeName enumerationName).objectsIn .dataTypes)
    (made : Value.IsMadeOf ((compositeDatabase compositeName enumerationName).rows "data_types")
      type component) :
    type = composite compositeName ∧ component = enumeration enumerationName := by
  have referred : ∀ {other}, Value.RefersTo ((compositeDatabase compositeName enumerationName).rows
      "data_types") (.int 50002) other → other = enumeration enumerationName := by
    intro other refers
    cases refers with
    | direct found => exact (Option.some.inj found).symm
    | element found isArray _ =>
        cases Option.some.inj found
        cases isArray
  rcases made with ⟨typeId, isComponent, refers⟩
  rcases List.mem_cons.mp member with rfl | last
  · cases List.mem_singleton.mp isComponent
    exact ⟨rfl, referred refers⟩
  · cases List.mem_singleton.mp last
    cases isComponent

/-- The enumeration has the first name, so that it is created first. -/
theorem creates_components_first_of_listed :
    ∃ full script plan dropped sections,
      (Scripter.fullScript { dialect := .postgreSql } (compositeDatabase "b" "a")).result =
        .ok full ∧
      (compositeMigration "b" "a").generate.1.result = .ok script ∧
      (compositeMigration "b" "a").migration.planPhases (compositeMigration "b" "a").migration.phases
        [] = .ok (plan, dropped) ∧
      (Phase.types, sections) ∈ plan ∧
      Value.PutsComponentsFirst ((compositeDatabase "b" "a").rows "data_types")
        ((MigrationSection.actionsOf sections).filterMap MigrationAction.createdType?) ∧
      ∃ tables, Value.PutsComponentsFirst ((compositeDatabase "b" "a").rows "data_types")
        (((compositeDatabase "b" "a").fullStatements tables).filterMap
          ObjectStatement.createdType?) := by
  have typed : (compositeDatabase "b" "a").isTyped .database = true := by decide +kernel
  have listed : (compositeDatabase "b" "a").ListsComponentsFirst := by
    intro type typeMember component _ made
    rcases eq_of_isMadeOf typeMember made with ⟨rfl, rfl⟩
    exact .inl (by decide +kernel)
  have scripts : (Scripter.fullScript { dialect := .postgreSql }
      (compositeDatabase "b" "a")).result.toOption.isSome = true := by
    decide +kernel
  have generates : (compositeMigration "b" "a").generate.1.result.toOption.isSome = true := by
    decide +kernel
  rcases Attempt.exists_ok_of_isSome scripts with ⟨full, scripted, _⟩
  rcases Attempt.exists_ok_of_isSome generates with ⟨script, generated, _⟩
  have onPostgreSql : ({ dialect := .postgreSql } : Scripter).dialect = .postgreSql := rfl
  rcases Scripter.creates_components_first_iff onPostgreSql typed with ⟨inFull, inMigration⟩
  rcases inFull full scripted with ⟨tables, _, _, _, _, ordered⟩
  rcases inMigration (compositeMigration "b" "a")
    (between_isTyped typed (by decide +kernel) (by decide +kernel)) rfl rfl rfl (by decide +kernel)
      rfl script generated with ⟨plan, dropped, planned, _, sections, member, phaseOrdered⟩
  exact ⟨full, script, plan, dropped, sections, scripted, generated, planned, member,
    phaseOrdered.mpr listed, tables, ordered.mpr listed⟩

/--
The composite has the first name, so that it is created before the enumeration, though no type is
made of itself.
-/
theorem creates_composite_before_component :
    (compositeDatabase "a" "b").isTyped .database = true ∧
      (compositeDatabase "a" "b").HasFoundedTypes ∧
      (Scripter.fullScript { dialect := .postgreSql } (compositeDatabase "a" "b")).result = .ok
        ("/****** User Defined Types ******/\nCREATE TYPE \"public\".\"a\" AS (\n    x b\n);\n\n" ++
          "CREATE TYPE \"public\".\"b\" AS ENUM (\n    'one'\n);\n\n\n") ∧
      (∀ tables, ¬ Value.PutsComponentsFirst ((compositeDatabase "a" "b").rows "data_types")
        (((compositeDatabase "a" "b").fullStatements tables).filterMap
          ObjectStatement.createdType?)) ∧
      ∃ script plan dropped, (compositeMigration "a" "b").generate.1.result = .ok script ∧
        (compositeMigration "a" "b").migration.planPhases
          (compositeMigration "a" "b").migration.phases [] = .ok (plan, dropped) ∧
        (compositeMigration "a" "b").migration.Writes plan script ∧
        (plan.actions.filterMap MigrationAction.createdType?).map (·.letters "name") =
          ["a", "b"] := by
  have typed : (compositeDatabase "a" "b").isTyped .database = true := by decide +kernel
  have generates : (compositeMigration "a" "b").generate.1.result.toOption.isSome = true := by
    decide +kernel
  rcases Attempt.exists_ok_of_isSome generates with ⟨script, generated, _⟩
  rcases exists_plan_of_generate generated with ⟨plan, dropped, planned, writes⟩
  have run : ((compositeMigration "a" "b").migration.planPhases
      (compositeMigration "a" "b").migration.phases []).toOption.map
        (fun planned => (planned.1.actions.filterMap MigrationAction.createdType?).map
          (·.letters "name")) = some ["a", "b"] := by
    decide +kernel
  rw [planned] at run
  refine ⟨typed, ?_, by decide +kernel, ?_, script, plan, dropped, generated, planned, writes,
    Option.some.inj run⟩
  · intro type cycle
    rcases Relation.TransGen.head'_iff.mp cycle with ⟨_, ⟨firstMember, _, firstMade⟩, _⟩
    rcases Relation.TransGen.tail'_iff.mp cycle with ⟨_, _, lastMember, _, lastMade⟩
    cases (eq_of_isMadeOf firstMember firstMade).1.symm.trans (eq_of_isMadeOf lastMember lastMade).2
  · intro tables ordered
    rw [Value.createdTypes_fullStatements, Value.putsComponentsFirst_sortedOn_iff] at ordered
    have before := ordered (composite "a") List.mem_cons_self (enumeration "b")
      (List.mem_cons_of_mem _ List.mem_cons_self)
      ⟨.int 50002, List.mem_singleton.mpr rfl, .direct rfl⟩
    rcases before with below | ⟨same, _⟩
    · exact absurd below (by decide +kernel)
    · exact absurd same (by decide +kernel)

end Generator

end SchemaDelta
