import SchemaDelta.Proofs.Comparison.OuterJoin
import SchemaDelta.Proofs.Ddl.Inheritance

/-!
# What a comparison takes in

A comparison knows an object by its schema and name.  Of several objects of one kind with the same
schema and name it takes in the first and tells about every other one, so that all are taken in
exactly when no two share both.  What a database tells apart by more than schema and name, triggers
by their tables and functions by the types of their arguments, may be left out.
-/

namespace SchemaDelta

/-! ## Notices -/

namespace Scripting

variable {α β : Type}

/-- A step that succeeds adds its notices to those of the steps after it. -/
theorem notices_bind_of_ok
    {first : Scripting α}
    {value : α}
    (succeeds : first.result = .ok value)
    (next : α → Scripting β) :
    (first >>= next).notices = first.notices ++ (next value).notices := by
  rcases first with ⟨notices, result⟩
  obtain rfl : result = .ok value := succeeds
  rfl

/-- A traversal whose steps all succeed gives the notices of all of them. -/
theorem notices_mapM_of_ok
    {run : α → Scripting β}
    {result : α → β}
    {items : List α}
    (succeeds : ∀ item ∈ items, (run item).result = .ok (result item)) :
    (items.mapM run).notices = items.flatMap fun item => (run item).notices := by
  induction items with
  | nil => rfl
  | cons item items ih =>
      have later : ∀ other ∈ items, (run other).result = .ok (result other) :=
        fun other member => succeeds other (List.mem_cons_of_mem item member)
      have laterOk : (items.mapM run).result = .ok (items.map result) := by
        rw [result_mapM]
        exact Attempt.mapM_ok later
      rw [List.mapM_cons, notices_bind_of_ok (succeeds item List.mem_cons_self),
        notices_bind_of_ok laterOk, ih later, List.flatMap_cons]
      exact congrArg _ (List.append_nil _)

/-- Steps without notices have none together. -/
theorem notices_bind_eq_nil
    {first : Scripting α}
    {next : α → Scripting β}
    (firstQuiet : first.notices = [])
    (nextQuiet : ∀ value, (next value).notices = []) :
    (first >>= next).notices = [] := by
  rcases first with ⟨notices, result⟩
  obtain rfl : notices = [] := firstQuiet
  cases result with
  | error failure => rfl
  | ok value => exact nextQuiet value

theorem notices_mapM_eq_nil
    {run : α → Scripting β}
    (quiet : ∀ item, (run item).notices = [])
    (items : List α) :
    (items.mapM run).notices = [] := by
  induction items with
  | nil => rfl
  | cons item items ih =>
      rw [List.mapM_cons]
      exact notices_bind_eq_nil (quiet item) fun _ => notices_bind_eq_nil ih fun _ => rfl

end Scripting

/-! ## Sides of pairings -/

namespace Pairing

variable {source? target? : Option Value}

theorem joined_bind_source? :
    (joined source? target?).bind Pairing.source? = source? := by
  cases found : joined source? target? with
  | some pairing => exact (sides_of_joined found).1
  | none => cases source? <;> cases target? <;> first | rfl | cases found

theorem joined_bind_target? :
    (joined source? target?).bind Pairing.target? = target? := by
  cases found : joined source? target? with
  | some pairing => exact (sides_of_joined found).2
  | none => cases source? <;> cases target? <;> first | rfl | cases found

end Pairing

namespace NameMatching

variable {matching : NameMatching} {sources targets objects : List Value} {kind : ObjectKind}

/-- Names that include those of a collection find the first object of each. -/
private theorem filterMap_first?_perm
    {names : List (String × String)}
    (distinct : names.Nodup)
    (complete : ∀ object ∈ objects, matching.nameOf object ∈ names) :
    (names.filterMap (matching.first? objects)).Perm
      (Keyed.firstByKey matching.nameOf objects) := by
  have named : ∀ {name : String × String} {object : Value},
      matching.first? objects name = some object → matching.nameOf object = name :=
    fun found => by simpa using List.find?_some found
  refine (List.perm_ext_iff_of_nodup ?_
    (Keyed.nodup_keys_firstByKey matching.nameOf objects).of_map).mpr ?_
  · refine distinct.filterMap fun left right object leftFound rightFound => ?_
    rw [← named leftFound, ← named rightFound]
  · intro object
    rw [List.mem_filterMap, Keyed.mem_firstByKey_iff]
    constructor
    · rintro ⟨name, _, found⟩
      rwa [named found]
    · intro found
      exact ⟨matching.nameOf object, complete object (List.mem_of_find?_eq_some found), found⟩

/-- A side by which the objects under every name are found has the first objects of all names. -/
private theorem sides_pairingsOf_perm
    {side? : Pairing → Option Value}
    (found : ∀ name, (Pairing.joined (matching.first? sources name)
      (matching.first? targets name)).bind side? = matching.first? objects name)
    (within : objects ⊆ sources ++ targets) :
    ((matching.pairingsOf sources targets).filterMap side?).Perm
      (Keyed.firstByKey matching.nameOf objects) := by
  rw [pairingsOf, List.filterMap_filterMap]
  simp only [found]
  refine filterMap_first?_perm (matching.nodup_namesIn sources targets) fun object member => ?_
  exact mem_namesIn.mpr (List.mem_map_of_mem (within member))

/-- The sources of the pairings are the first objects of all names, each once. -/
theorem sources_pairingsOf_perm :
    ((matching.pairingsOf sources targets).filterMap Pairing.source?).Perm
      (Keyed.firstByKey matching.nameOf sources) :=
  sides_pairingsOf_perm (fun _ => Pairing.joined_bind_source?) (List.subset_append_left _ _)

/-- The targets of the pairings are the first objects of all names, each once. -/
theorem targets_pairingsOf_perm :
    ((matching.pairingsOf sources targets).filterMap Pairing.target?).Perm
      (Keyed.firstByKey matching.nameOf targets) :=
  sides_pairingsOf_perm (fun _ => Pairing.joined_bind_target?) (List.subset_append_right _ _)

/-- Pairing two collections tells about every object whose name an earlier one of its side has. -/
theorem notices_pairObjects
    (sourcesTyped : ∀ object ∈ sources, object.isTyped kind.objectClass = true)
    (targetsTyped : ∀ object ∈ targets, object.isTyped kind.objectClass = true) :
    (pairObjects matching (.ok sources) (.ok targets)).notices =
      (Keyed.repeatedByKey matching.nameOf sources ++
        Keyed.repeatedByKey matching.nameOf targets).map Value.duplicateNotice := by
  have namedSources := matching.namedObjects_eq fun object member =>
    Value.isTyped_schemaObject (sourcesTyped object member)
  have namedTargets := matching.namedObjects_eq fun object member =>
    Value.isTyped_schemaObject (targetsTyped object member)
  rw [pairObjects, Scripting.notices_bind_of_ok (Scripting.result_liftM _),
    Scripting.notices_bind_of_ok (congrArg Scripting.result namedSources),
    Scripting.notices_bind_of_ok (Scripting.result_liftM _),
    Scripting.notices_bind_of_ok (congrArg Scripting.result namedTargets),
    Scripting.notices_bind_of_ok ((Scripting.result_liftM _).trans pairingKeys_ok),
    Scripting.notices_bind_eq_nil (Scripting.notices_mapM_eq_nil (fun _ => rfl) _) fun _ => rfl,
    namedSources, namedTargets, List.map_append]
  simp [liftM, monadLift, MonadLift.monadLift, Scripting.ofResult]

end NameMatching

/-! ## Comparisons -/

namespace Comparison

variable {source target : Value}

/-- A comparison tells about every object whose name an earlier one of its collection has. -/
theorem notices_between
    (sourceTyped : source.isTyped .database = true)
    (targetTyped : target.isTyped .database = true) :
    (Comparison.between source target).notices = ObjectKind.all.flatMap fun kind =>
      (Keyed.repeatedByKey (matchingOf source target).nameOf (source.objectsIn kind) ++
        Keyed.repeatedByKey (matchingOf source target).nameOf (target.objectsIn kind)).map
          Value.duplicateNotice := by
  rcases Value.exists_dialect sourceTyped with ⟨_, sourceDialect, sourceGet⟩
  rcases Value.exists_dialect targetTyped with ⟨_, targetDialect, targetGet⟩
  have sourcesTyped : ∀ kind, ∀ object ∈ source.objectsIn kind,
      object.isTyped kind.objectClass = true :=
    fun _ _ => Value.isTyped_of_mem_objectsIn sourceTyped
  have targetsTyped : ∀ kind, ∀ object ∈ target.objectsIn kind,
      object.isTyped kind.objectClass = true :=
    fun _ _ => Value.isTyped_of_mem_objectsIn targetTyped
  rw [Comparison.between, sourceDialect, targetDialect, Value.part_databaseName sourceTyped,
    Value.part_databaseName targetTyped, ← sourceGet, ← targetGet]
  -- What is read of the two databases gives no notices; the kinds do, one after the other.
  change (ObjectKind.all.mapM fun kind => do
    return (kind, ← pairObjects (matchingOf source target) (source.objectsOf kind)
      (target.objectsOf kind)) : Scripting Comparison).notices = _
  simp only [Value.objectsOf_ok sourceTyped, Value.objectsOf_ok targetTyped]
  have pairedOk : ∀ kind, (pairObjects (matchingOf source target) (.ok (source.objectsIn kind))
      (.ok (target.objectsIn kind))).result =
        .ok ((matchingOf source target).pairingsOf (source.objectsIn kind)
          (target.objectsIn kind)) :=
    fun kind => NameMatching.pairObjects_ok (sourcesTyped kind) (targetsTyped kind)
  rw [Scripting.notices_mapM_of_ok fun kind _ => by
    rw [Scripting.result_bind, pairedOk]
    exact Attempt.ok_bind _ _]
  refine List.flatMap_congr fun kind _ => ?_
  rw [Scripting.notices_bind_of_ok (pairedOk kind),
    NameMatching.notices_pairObjects (sourcesTyped kind) (targetsTyped kind)]
  exact List.append_nil _

/--
Every object of a collection is on a side of exactly one pairing, unless an earlier object of the
collection has its schema and name; such an object is on that side of none.
-/
structure TakesIn
    (pairings : List Pairing)
    (side? : Pairing → Option Value)
    (objects : List Value) : Prop where
  /-- On the side stand the first objects of every schema and name, each once, and nothing else. -/
  firsts : (pairings.filterMap side?).Perm (Keyed.firstByKey Value.fullName objects)
  /-- All others have the schema and name of an earlier object. -/
  others : (pairings.filterMap side? ++ Keyed.repeatedByKey Value.fullName objects).Perm objects
  /-- On the side stand all objects, each once, exactly when no two share schema and name. -/
  all_iff : (pairings.filterMap side?).Perm objects ↔ (objects.map Value.fullName).Nodup

private theorem takesIn_of_perm
    {pairings : List Pairing}
    {side? : Pairing → Option Value}
    {objects : List Value}
    (firsts : (pairings.filterMap side?).Perm (Keyed.firstByKey Value.fullName objects)) :
    TakesIn pairings side? objects := by
  refine ⟨firsts, ?_, ?_⟩
  · exact (firsts.append_right _).trans (Keyed.firstByKey_append_repeatedByKey_perm _ objects)
  · rw [← Keyed.firstByKey_perm_iff]
    exact ⟨firsts.symm.trans, firsts.trans⟩

/--
The comparison of two databases of PostgreSQL takes in the first object of every schema and name of
each kind, on either side, and gives a notice about every other one.
-/
theorem between_takesIn
    (sourceTyped : source.isTyped .database = true)
    (targetTyped : target.isTyped .database = true)
    (sourceDialect : source.get "dialect" = .member (.dialect .postgreSql))
    (targetDialect : target.get "dialect" = .member (.dialect .postgreSql)) :
    ∃ comparison : Comparison,
      (Comparison.between source target).result = .ok comparison ∧
        (∀ kind, ∃ sources targets,
          source.objectsOf kind = .ok sources ∧ target.objectsOf kind = .ok targets ∧
            TakesIn (comparison.pairings kind) Pairing.source? sources ∧
              TakesIn (comparison.pairings kind) Pairing.target? targets) ∧
          (Comparison.between source target).notices = ObjectKind.all.flatMap fun kind =>
            (Keyed.repeatedByKey Value.fullName (source.objectsIn kind) ++
              Keyed.repeatedByKey Value.fullName (target.objectsIn kind)).map
                Value.duplicateNotice := by
  have exact : matchingOf source target = .exact := by
    rw [matchingOf, sourceDialect, targetDialect]
    rfl
  have compared := between_ok sourceTyped targetTyped
  refine ⟨_, compared, ?_, ?_⟩
  · intro kind
    refine ⟨_, _, Value.objectsOf_ok sourceTyped kind, Value.objectsOf_ok targetTyped kind, ?_⟩
    rw [pairings_of_between sourceTyped targetTyped compared kind, exact]
    constructor
    · exact takesIn_of_perm NameMatching.sources_pairingsOf_perm
    · exact takesIn_of_perm NameMatching.targets_pairingsOf_perm
  · rw [notices_between sourceTyped targetTyped, exact]
    rfl

/-! ## Catalogs -/

/--
The triggers of every table have distinct names, and functions differ in schema, name or the types
of their arguments.
-/
structure IsCatalog
    (database : Value) : Prop where
  triggers : ∀ table ∈ database.rows "tables",
    ((table.rows "triggers").map fun trigger => trigger.letters "name").Nodup
  functions : ((database.rows "functions").map fun function =>
    (function.fullName, function.get "arg_types")).Nodup

/-- A trigger of a table. -/
private def triggerOn
    (table : String) : Value :=
  .filled .trigger [
    ("name", .text "touch"), ("schema", .text "public"), ("table_schema", .text "public"),
    ("table_name", .text table), ("definition", .text "CREATE TRIGGER touch")]

/-- A table with a trigger. -/
private def tableWithTrigger
    (name : String) : Value :=
  .filled .postgreSqlTable [
    ("name", .text name), ("schema", .text "public"), ("triggers", .list [triggerOn name])]

/-- A function of one argument. -/
private def functionOf
    (argument : Int) : Value :=
  .filled .postgreSqlFunction [
    ("name", .text "f"), ("schema", .text "public"), ("definition", .text "SELECT 1"),
    ("return_type", .int 23), ("arg_types", .list [.int argument])]

/-- Two tables with triggers of one name, and one function for two types of arguments. -/
private def overloadedCatalog : Value :=
  .filled .database [
    ("name", .text "s"), ("dialect", .member (.dialect .postgreSql)),
    ("tables", .list [tableWithTrigger "a", tableWithTrigger "b"]),
    ("functions", .list [functionOf 23, functionOf 25])]

/-- The comparison of the catalog with an empty database tells about one function and one trigger. -/
theorem between_takesIn_of_overloadedCatalog :
    overloadedCatalog.isTyped .database = true ∧
      (Value.plainDatabase "d" []).isTyped .database = true ∧
        overloadedCatalog.get "dialect" = .member (.dialect .postgreSql) ∧
          (Value.plainDatabase "d" []).get "dialect" = .member (.dialect .postgreSql) ∧
            ∃ comparison : Comparison,
              (Comparison.between overloadedCatalog (.plainDatabase "d" [])).result =
                .ok comparison ∧
                TakesIn (comparison.pairings .triggers) Pairing.source?
                  [triggerOn "a", triggerOn "b"] ∧
                  (Comparison.between overloadedCatalog (.plainDatabase "d" [])).notices =
                    [.duplicateIgnored "public" "f", .duplicateIgnored "public" "touch"] := by
  have sourceTyped : overloadedCatalog.isTyped .database = true := by decide
  have targetTyped : (Value.plainDatabase "d" []).isTyped .database = true := by decide
  rcases between_takesIn sourceTyped targetTyped rfl rfl with ⟨comparison, compared, taken, told⟩
  rcases taken .triggers with ⟨sources, targets, sourcesOk, _, sourcesTaken, _⟩
  cases sourcesOk
  exact ⟨sourceTyped, targetTyped, rfl, rfl, comparison, compared, sourcesTaken, told⟩

/-- Of a catalog a trigger and a function are no side of any pairing. -/
theorem between_leavesOut_of_overloadedCatalog :
    ∃ comparison : Comparison,
      overloadedCatalog.isTyped .database = true ∧ IsCatalog overloadedCatalog ∧
        (Value.plainDatabase "d" []).isTyped .database = true ∧
          IsCatalog (Value.plainDatabase "d" []) ∧
            (Comparison.between overloadedCatalog (.plainDatabase "d" [])).result =
              .ok comparison ∧
              (triggerOn "b" ∈ overloadedCatalog.objectsIn .triggers ∧
                ∀ pairing ∈ comparison.pairings .triggers,
                  pairing.source? ≠ some (triggerOn "b")) ∧
                functionOf 25 ∈ overloadedCatalog.objectsIn .functions ∧
                  ∀ pairing ∈ comparison.pairings .functions,
                    pairing.source? ≠ some (functionOf 25) := by
  have sourceTyped : overloadedCatalog.isTyped .database = true := by decide
  have targetTyped : (Value.plainDatabase "d" []).isTyped .database = true := by decide
  have compared := between_ok sourceTyped targetTyped
  refine ⟨_, sourceTyped, ⟨?_, ?_⟩, targetTyped, ⟨?_, ?_⟩, compared, ⟨?_, ?_⟩, ?_, ?_⟩
  · intro table member
    rcases List.mem_cons.mp member with rfl | member
    · exact List.nodup_singleton _
    · rw [List.mem_singleton.mp member]
      exact List.nodup_singleton _
  · refine List.nodup_cons.mpr ⟨fun member => ?_, List.nodup_singleton _⟩
    have sameTypes := congrArg (·.2) (List.mem_singleton.mp member)
    cases sameTypes
  · exact fun table member => (List.not_mem_nil member).elim
  · exact List.nodup_nil
  · exact List.mem_cons_of_mem _ (List.mem_singleton_self _)
  · intro pairing paired side
    have only : pairing = .onlySource (triggerOn "a") := List.mem_singleton.mp paired
    have sameTrigger : triggerOn "a" = triggerOn "b" := by
      rw [only] at side
      exact Option.some.inj side
    exact absurd (congrArg (·.letters "table_name") sameTrigger) (by decide)
  · exact List.mem_cons_of_mem _ (List.mem_singleton_self _)
  · intro pairing paired side
    have only : pairing = .onlySource (functionOf 23) := List.mem_singleton.mp paired
    have sameFunction : functionOf 23 = functionOf 25 := by
      rw [only] at side
      exact Option.some.inj side
    have sameTypes := congrArg (·.rows "arg_types") sameFunction
    cases sameTypes

end Comparison

end SchemaDelta
