import Mathlib.Algebra.GroupWithZero.Nat
import SchemaDelta.Proofs.Comparison.Symmetry
import SchemaDelta.Proofs.Value.Filled
import SchemaDelta.Proofs.Value.Ranking

/-!
# Comparisons as outer joins

The comparison of two databases joins their collections by name: every name of either side has one
pairing, with the first object under the name on each side.  The comparison in the other direction is
its mirror image.
-/

namespace SchemaDelta

open Value (nameKey)

/-! ## Collections -/

/-- Databases list the objects of every kind but triggers, which belong to tables. -/
theorem ObjectKind.database_declares
    {kind : ObjectKind}
    (notTriggers : kind ≠ .triggers) :
    ObjectClass.database.declares kind.name (.objects kind.objectClass) = true := by
  cases kind with
  | triggers => exact absurd rfl notTriggers
  | _ => decide

namespace Value

/-- The objects of one kind; of the types only those that users defined. -/
def objectsIn
    (database : Value) : ObjectKind → List Value
  | .dataTypes =>
    (database.rows "data_types").filter fun type => (type.get "is_user_defined").isTruthy
  | .triggers => (database.rows "tables").flatMap fun table => table.rows "triggers"
  | kind => database.rows kind.name

private theorem partItems_ok
    {holder : Value}
    {kind item : ObjectClass}
    {name : String}
    (typed : holder.isTyped kind = true)
    (declared : kind.declares name (.objects item) = true) :
    holder.partItems name = .ok (holder.rows name) := by
  rw [partItems, part_rows_of_isTyped typed declared]
  rfl

/-- The user types of a database are those of its types that say so. -/
theorem userTypes_ok
    {database : Value}
    (typed : database.isTyped .database = true) :
    database.userTypes = .ok (database.objectsIn .dataTypes) := by
  have isDatabase : database.isA .database = true := by
    rcases isTyped_iff.mp typed with ⟨_, _, rfl, special_isA, _⟩
    exact special_isA
  have declared : ObjectClass.database.declares "data_types" (.objects .dataType) = true := by
    decide
  rw [userTypes, isDatabase, partItems_ok typed declared]
  refine Attempt.filterM_ok fun type member => ?_
  have read := (part_of_isTyped (isTyped_of_mem_rows typed declared member)
    (show ObjectClass.dataType.declares "is_user_defined" { item := .truth } = true by decide)).1
  rw [read]
  rfl

theorem objectsOf_ok
    {database : Value}
    (typed : database.isTyped .database = true)
    (kind : ObjectKind) :
    database.objectsOf kind = .ok (database.objectsIn kind) := by
  cases kind with
  | dataTypes => exact userTypes_ok typed
  | triggers =>
      have tablesDeclared : ObjectClass.database.declares "tables" (.objects .table) = true := by
        decide
      have read := Attempt.mapM_ok fun table member =>
        partItems_ok (isTyped_of_mem_rows typed tablesDeclared member)
          (show ObjectClass.table.declares "triggers" (.objects .trigger) = true by decide)
      rw [objectsOf, allTriggers, partItems_ok typed tablesDeclared, Attempt.ok_bind, read]
      rfl
  | _ => exact partItems_ok typed (ObjectKind.database_declares (by decide))

/-- The objects of a kind are of the class of the kind. -/
theorem isTyped_of_mem_objectsIn
    {database object : Value}
    {kind : ObjectKind}
    (typed : database.isTyped .database = true)
    (member : object ∈ database.objectsIn kind) :
    object.isTyped kind.objectClass = true :=
  isTyped_of_mem_objectsOf typed (objectsOf_ok typed kind) object member

/-- The notice about an object that is left out because its name is taken. -/
def duplicateNotice
    (object : Value) : Notice :=
  .duplicateIgnored (object.letters "schema") (object.letters "name")

end Value

/-! ## Sides and statuses -/

namespace Pairing

/-- The object of the source, if there is one. -/
def source? : Pairing → Option Value
  | onlySource source => some source
  | onlyTarget _ => none
  | identical source _ => some source
  | different source _ => some source

/-- The object of the target, if there is one. -/
def target? : Pairing → Option Value
  | onlySource _ => none
  | onlyTarget target => some target
  | identical _ target => some target
  | different _ target => some target

/-- The pairing with its sides exchanged. -/
def mirror : Pairing → Pairing
  | onlySource source => onlyTarget source
  | onlyTarget target => onlySource target
  | identical source target => identical target source
  | different source target => different target source

end Pairing

/-- A status tells which sides have an object and, where both do, whether the two are the same. -/
def Status.Fits : Status → Option Value → Option Value → Prop
  | .missingInTarget, some _, none => True
  | .missingInSource, none, some _ => True
  | .identical, some source, some target => source.sameObject target = .ok true
  | .different, some source, some target => source.sameObject target = .ok false
  | _, _, _ => False

/-- The pairings of two collections that are joined by name. -/
structure NameMatching.IsOuterJoin
    (matching : NameMatching)
    (sources targets : List Value)
    (pairings : List Pairing) : Prop where
  /-- The names of the pairings ascend, so that none has two pairings. -/
  ascending : pairings.Pairwise fun left right =>
    toLex (matching.nameOf left.object) < toLex (matching.nameOf right.object)
  /-- A name has a pairing exactly when it occurs in one of the collections. -/
  complete : ∀ name, name ∈ pairings.map (fun pairing => matching.nameOf pairing.object) ↔
    name ∈ (sources ++ targets).map matching.nameOf
  /-- Either side is the first object of its collection under the name, if there is one. -/
  sides : ∀ pairing ∈ pairings,
    pairing.source? = sources.find? (fun source =>
        matching.nameOf source == matching.nameOf pairing.object) ∧
      pairing.target? = targets.find? (fun target =>
        matching.nameOf target == matching.nameOf pairing.object)
  /-- The status is the one of the sides. -/
  statuses : ∀ pairing ∈ pairings, pairing.status.Fits pairing.source? pairing.target?

/-! ## Joining two sides -/

namespace Pairing

/-- The pairing of two sides of which at least one has an object. -/
def joined : Option Value → Option Value → Option Pairing
  | none, none => none
  | some source, none => some (onlySource source)
  | none, some target => some (onlyTarget target)
  | some source, some target =>
    some (if source.sameObject target = .ok true then identical source target
      else different source target)

variable {source? target? : Option Value} {pairing : Pairing} {kind : ObjectKind}

theorem ofSides_eq_joined
    (sourceTyped : ∀ source ∈ source?, source.isTyped kind.objectClass = true)
    (targetTyped : ∀ target ∈ target?, target.isTyped kind.objectClass = true) :
    ofSides source? target? = .ok (joined source? target?) := by
  cases source? with
  | none => cases target? <;> rfl
  | some source =>
      cases target? with
      | none => rfl
      | some target =>
          rcases Value.exists_sameObject (sourceTyped source rfl) (targetTyped target rfl) with
            ⟨answer, answerOk, _⟩
          rw [ofSides, answerOk, joined, answerOk]
          cases answer <;> rfl

/-- The pairing of exchanged sides is the mirror image. -/
theorem joined_exchange
    (sourceTyped : ∀ source ∈ source?, source.isTyped kind.objectClass = true)
    (targetTyped : ∀ target ∈ target?, target.isTyped kind.objectClass = true) :
    joined target? source? = (joined source? target?).map mirror := by
  cases source? with
  | none => cases target? <;> rfl
  | some source =>
      cases target? with
      | none => rfl
      | some target =>
          rcases Value.exists_sameObject (sourceTyped source rfl) (targetTyped target rfl) with
            ⟨answer, forth, back⟩
          rw [joined, joined, forth, back]
          cases answer <;> rfl

theorem sides_of_joined
    (found : joined source? target? = some pairing) :
    pairing.source? = source? ∧ pairing.target? = target? := by
  cases source? <;> cases target? <;> simp only [joined] at found
  · cases found
  · cases found
    exact ⟨rfl, rfl⟩
  · cases found
    exact ⟨rfl, rfl⟩
  · cases found
    split
    · exact ⟨rfl, rfl⟩
    · exact ⟨rfl, rfl⟩

theorem fits_of_joined
    (sourceTyped : ∀ source ∈ source?, source.isTyped kind.objectClass = true)
    (targetTyped : ∀ target ∈ target?, target.isTyped kind.objectClass = true)
    (found : joined source? target? = some pairing) :
    pairing.status.Fits source? target? := by
  cases source? with
  | none =>
      cases target? with
      | none => cases found
      | some target =>
          cases found
          trivial
  | some source =>
      cases target? with
      | none =>
          cases found
          trivial
      | some target =>
          rcases Value.exists_sameObject (sourceTyped source rfl) (targetTyped target rfl) with
            ⟨answer, answerOk, _⟩
          rw [joined, answerOk] at found
          cases answer with
          | true =>
              cases found
              exact answerOk
          | false =>
              cases found
              exact answerOk

/-- The object of a pairing is that of one of its sides. -/
theorem object_eq
    (pairing : Pairing) :
    some pairing.object = pairing.source?.or pairing.target? := by
  cases pairing <;> rfl

end Pairing

/-! ## Names -/

namespace NameMatching

variable {matching : NameMatching} {sources targets objects : List Value}

/-- The names that occur in two collections, each once and in ascending order. -/
def namesIn
    (matching : NameMatching)
    (sources targets : List Value) : List (String × String) :=
  Value.sortedOn nameKey (Keyed.firstByKey id
    ((Keyed.firstByKey matching.nameOf sources ++
      Keyed.firstByKey matching.nameOf targets).map matching.nameOf))

/-- The first object of a collection under a name. -/
def first?
    (matching : NameMatching)
    (objects : List Value)
    (name : String × String) : Option Value :=
  objects.find? fun object => matching.nameOf object == name

theorem mem_namesIn
    {name : String × String} :
    name ∈ matching.namesIn sources targets ↔
      name ∈ (sources ++ targets).map matching.nameOf := by
  have occurs : ∀ objects : List Value,
      name ∈ (Keyed.firstByKey matching.nameOf objects).map matching.nameOf ↔
        name ∈ objects.map matching.nameOf := by
    intro objects
    constructor
    · exact fun member => List.map_subset _ (Keyed.firstByKey_sublist _ objects).subset member
    · intro member
      rcases List.mem_map.mp member with ⟨object, objectMember, rfl⟩
      rcases Keyed.exists_mem_firstByKey matching.nameOf objectMember with ⟨first, held, same⟩
      exact List.mem_map.mpr ⟨first, held, same⟩
  have once : ∀ names : List (String × String),
      name ∈ Keyed.firstByKey id names ↔ name ∈ names := by
    intro names
    constructor
    · exact fun member => (Keyed.firstByKey_sublist id names).subset member
    · intro member
      rcases Keyed.exists_mem_firstByKey id member with ⟨first, held, same⟩
      obtain rfl : first = name := same
      exact held
  rw [namesIn, Value.mem_sortedOn, once, List.map_append, List.map_append, List.mem_append,
    List.mem_append, occurs, occurs]

theorem namesIn_ascending
    (matching : NameMatching)
    (sources targets : List Value) :
    (matching.namesIn sources targets).Pairwise fun left right => toLex left < toLex right := by
  refine Value.nameKey_ranksBy.sortedOn_pairwise_lt ?_
  have distinct := Keyed.nodup_keys_firstByKey id
    ((Keyed.firstByKey matching.nameOf sources ++
      Keyed.firstByKey matching.nameOf targets).map matching.nameOf)
  rw [List.map_id] at distinct
  exact distinct.map toLex.injective

theorem nodup_namesIn
    (matching : NameMatching)
    (sources targets : List Value) :
    (matching.namesIn sources targets).Nodup :=
  (matching.namesIn_ascending sources targets).imp fun below same => below.ne (congrArg toLex same)

/-- Which collection comes first does not show in the names. -/
theorem namesIn_comm
    (matching : NameMatching)
    (sources targets : List Value) :
    matching.namesIn targets sources = matching.namesIn sources targets := by
  have perm : (matching.namesIn targets sources).Perm (matching.namesIn sources targets) := by
    rw [List.perm_ext_iff_of_nodup (matching.nodup_namesIn targets sources)
      (matching.nodup_namesIn sources targets)]
    intro name
    rw [mem_namesIn, mem_namesIn, List.map_append, List.map_append, List.mem_append,
      List.mem_append, or_comm]
  exact perm.eq_of_pairwise (fun _ _ _ _ below above => absurd below above.asymm)
    (matching.namesIn_ascending targets sources) (matching.namesIn_ascending sources targets)

theorem typed_of_first?
    {kind : ObjectKind}
    (typed : ∀ object ∈ objects, object.isTyped kind.objectClass = true)
    {name : String × String} :
    ∀ object ∈ matching.first? objects name, object.isTyped kind.objectClass = true :=
  fun object found => typed object (List.mem_of_find?_eq_some found)

/-! ## Collections under names -/

private theorem leftOut_ok
    {object : Value}
    (typed : object.isTyped .schemaObject = true) :
    leftOut object = .ok (Value.duplicateNotice object) := by
  have schema := Value.part_text_of_isTyped typed
    (show ObjectClass.schemaObject.declares "schema" .text = true by decide)
  have name := Value.part_text_of_isTyped typed
    (show ObjectClass.schemaObject.declares "name" .text = true by decide)
  rw [leftOut, schema, name]
  rfl

/-- The names already met are those under which objects are known. -/
private theorem namedObjects_go
    (typed : ∀ object ∈ objects, object.isTyped .schemaObject = true)
    (known : List NamedObject)
    (met : List (String × String))
    (agree : ∀ name, (known.any fun other => other.key == nameKey name) = met.contains name) :
    namedObjects matching known objects =
      ⟨(Keyed.repeatedByKey.go matching.nameOf met objects).map Value.duplicateNotice,
        .ok (known ++ (Keyed.firstByKey.go matching.nameOf met objects).map matching.entryOf)⟩ := by
  induction objects generalizing known met with
  | nil => exact congrArg (Scripting.mk [] <| .ok ·) (List.append_nil known).symm
  | cons object objects ih =>
      have objectTyped := typed object List.mem_cons_self
      have laterTyped : ∀ other ∈ objects, other.isTyped .schemaObject = true :=
        fun other held => typed other (List.mem_cons_of_mem object held)
      simp only [namedObjects, matching.key_ok objectTyped]
      change (if _ then _ else _) = _
      rw [agree, Keyed.firstByKey.go, Keyed.repeatedByKey.go]
      split
      · rw [leftOut_ok objectTyped, ih laterTyped known met agree]
        rfl
      · rw [ih laterTyped _ (matching.nameOf object :: met)]
        · rw [List.append_assoc]
          rfl
        · intro name
          have sameName := Value.nameKey_beq (matching.nameOf object) name
          rw [List.any_append, agree, List.contains_cons, Bool.or_comm, Bool.beq_comm, ← sameName]
          simp only [List.any_cons, List.any_nil, Bool.or_false]

theorem namedObjects_eq
    (matching : NameMatching)
    (typed : ∀ object ∈ objects, object.isTyped .schemaObject = true) :
    namedObjects matching [] objects =
      ⟨(Keyed.repeatedByKey matching.nameOf objects).map Value.duplicateNotice,
        .ok ((Keyed.firstByKey matching.nameOf objects).map matching.entryOf)⟩ :=
  namedObjects_go typed [] [] fun _ => rfl

theorem namedObjects_ok
    (matching : NameMatching)
    (typed : ∀ object ∈ objects, object.isTyped .schemaObject = true) :
    (namedObjects matching [] objects).result =
      .ok ((Keyed.firstByKey matching.nameOf objects).map matching.entryOf) :=
  congrArg Scripting.result (matching.namedObjects_eq typed)

theorem objectUnder?_eq_first?
    (name : String × String) :
    objectUnder? ((Keyed.firstByKey matching.nameOf objects).map matching.entryOf)
        (nameKey name) =
      matching.first? objects name := by
  have found := Keyed.find?_firstByKey matching.nameOf objects name
  rw [objectUnder?, List.find?_map]
  simp only [Function.comp_def, entryOf, Value.nameKey_beq, found, first?, Option.map_map]
  exact congrFun Option.map_id _

theorem pairingKeys_ok :
    pairingKeys ((Keyed.firstByKey matching.nameOf sources).map matching.entryOf)
        ((Keyed.firstByKey matching.nameOf targets).map matching.entryOf) =
      .ok ((matching.namesIn sources targets).map nameKey) := by
  have keys : ((Keyed.firstByKey matching.nameOf sources).map matching.entryOf ++
      (Keyed.firstByKey matching.nameOf targets).map matching.entryOf).map (·.key) =
        ((Keyed.firstByKey matching.nameOf sources ++
          Keyed.firstByKey matching.nameOf targets).map matching.nameOf).map nameKey := by
    rw [← List.map_append, List.map_map, List.map_map]
    rfl
  have sorted := Value.sortedOn_map id nameKey (Keyed.firstByKey id
    ((Keyed.firstByKey matching.nameOf sources ++
      Keyed.firstByKey matching.nameOf targets).map matching.nameOf))
  simp only [id_eq] at sorted
  rw [pairingKeys, keys, Value.firstByKey_nameKey, namesIn, ← sorted]
  refine Value.sortedBy_ok id (fun _ _ => rfl) fun left leftMember right rightMember => ?_
  rcases List.mem_map.mp leftMember with ⟨leftName, _, rfl⟩
  rcases List.mem_map.mp rightMember with ⟨rightName, _, rfl⟩
  exact Value.isComparable_texts ..

/-- The pairings of two collections, in the order of their names. -/
def pairingsOf
    (matching : NameMatching)
    (sources targets : List Value) : List Pairing :=
  (matching.namesIn sources targets).filterMap fun name =>
    Pairing.joined (matching.first? sources name) (matching.first? targets name)

variable {kind : ObjectKind}

theorem pairObjects_ok
    (sourcesTyped : ∀ object ∈ sources, object.isTyped kind.objectClass = true)
    (targetsTyped : ∀ object ∈ targets, object.isTyped kind.objectClass = true) :
    (pairObjects matching (.ok sources) (.ok targets)).result =
      .ok (matching.pairingsOf sources targets) := by
  have namedSources :=
    matching.namedObjects_ok fun object member =>
      Value.isTyped_schemaObject (sourcesTyped object member)
  have namedTargets :=
    matching.namedObjects_ok fun object member =>
      Value.isTyped_schemaObject (targetsTyped object member)
  simp only [pairObjects, Scripting.result_bind, Scripting.result_liftM, Scripting.result_mapM,
    namedSources, namedTargets, pairingKeys_ok, Attempt.ok_bind, List.mapM_map,
    Scripting.result_pure]
  have joined : ∀ name ∈ matching.namesIn sources targets,
      ((fun key => Pairing.ofSides
        (objectUnder? ((Keyed.firstByKey matching.nameOf sources).map matching.entryOf) key)
        (objectUnder? ((Keyed.firstByKey matching.nameOf targets).map matching.entryOf) key)) ∘
          nameKey) name =
        .ok (Pairing.joined (matching.first? sources name) (matching.first? targets name)) := by
    intro name _
    rw [Function.comp_apply, objectUnder?_eq_first?, objectUnder?_eq_first?]
    exact Pairing.ofSides_eq_joined (typed_of_first? sourcesTyped) (typed_of_first? targetsTyped)
  rw [Attempt.mapM_ok joined, Attempt.ok_bind, List.filterMap_map]
  rfl

/-- What stands under a name on either side has the name. -/
private theorem nameOf_of_joined
    {name : String × String}
    {pairing : Pairing}
    (found : Pairing.joined (matching.first? sources name) (matching.first? targets name) =
      some pairing) :
    matching.nameOf pairing.object = name := by
  have named : ∀ {objects : List Value} {object : Value},
      matching.first? objects name = some object → matching.nameOf object = name :=
    fun first => by simpa using List.find?_some first
  rcases Pairing.sides_of_joined found with ⟨sourceSide, targetSide⟩
  have object := pairing.object_eq
  rw [sourceSide, targetSide] at object
  rcases Option.or_eq_some_iff.mp object.symm with ofSource | ⟨_, ofTarget⟩
  · exact named ofSource
  · exact named ofTarget

/-- A name of either side has a pairing. -/
private theorem exists_joined
    {name : String × String}
    (occurs : name ∈ (sources ++ targets).map matching.nameOf) :
    ∃ pairing, Pairing.joined (matching.first? sources name) (matching.first? targets name) =
      some pairing := by
  rcases List.mem_map.mp occurs with ⟨object, member, rfl⟩
  have found : ∀ {objects : List Value}, object ∈ objects →
      ∃ first, matching.first? objects (matching.nameOf object) = some first :=
    fun held => Option.isSome_iff_exists.mp
      (List.find?_isSome.mpr ⟨object, held, beq_self_eq_true _⟩)
  rcases List.mem_append.mp member with ofSource | ofTarget
  · rcases found ofSource with ⟨source, sourceFirst⟩
    rw [sourceFirst]
    cases matching.first? targets (matching.nameOf object) <;> exact ⟨_, rfl⟩
  · rcases found ofTarget with ⟨target, targetFirst⟩
    rw [targetFirst]
    cases matching.first? sources (matching.nameOf object) <;> exact ⟨_, rfl⟩

theorem names_of_pairingsOf :
    (matching.pairingsOf sources targets).map (fun pairing => matching.nameOf pairing.object) =
      matching.namesIn sources targets := by
  have joinedName : ∀ name ∈ matching.namesIn sources targets,
      (Pairing.joined (matching.first? sources name) (matching.first? targets name)).map
        (fun pairing => matching.nameOf pairing.object) = some name := by
    intro name member
    rcases exists_joined (mem_namesIn.mp member) with ⟨pairing, found⟩
    rw [found, Option.map_some, nameOf_of_joined found]
  rw [pairingsOf, List.map_filterMap, List.filterMap_congr joinedName, List.filterMap_some]

theorem pairingsOf_exchange
    (sourcesTyped : ∀ object ∈ sources, object.isTyped kind.objectClass = true)
    (targetsTyped : ∀ object ∈ targets, object.isTyped kind.objectClass = true) :
    matching.pairingsOf targets sources =
      (matching.pairingsOf sources targets).map Pairing.mirror := by
  rw [pairingsOf, pairingsOf, namesIn_comm, List.map_filterMap]
  refine List.filterMap_congr fun name _ => ?_
  exact Pairing.joined_exchange (typed_of_first? sourcesTyped) (typed_of_first? targetsTyped)

theorem pairingsOf_isOuterJoin
    (sourcesTyped : ∀ object ∈ sources, object.isTyped kind.objectClass = true)
    (targetsTyped : ∀ object ∈ targets, object.isTyped kind.objectClass = true) :
    matching.IsOuterJoin sources targets (matching.pairingsOf sources targets) := by
  have joinedUnder : ∀ pairing ∈ matching.pairingsOf sources targets,
      Pairing.joined (matching.first? sources (matching.nameOf pairing.object))
        (matching.first? targets (matching.nameOf pairing.object)) = some pairing := by
    intro pairing member
    rcases List.mem_filterMap.mp member with ⟨name, _, found⟩
    rw [nameOf_of_joined found]
    exact found
  constructor
  · rw [← List.pairwise_map (f := fun pairing : Pairing => matching.nameOf pairing.object)
      (R := fun left right => toLex left < toLex right), names_of_pairingsOf]
    exact matching.namesIn_ascending sources targets
  · intro name
    rw [names_of_pairingsOf, mem_namesIn]
  · intro pairing member
    exact Pairing.sides_of_joined (joinedUnder pairing member)
  · intro pairing member
    have found := joinedUnder pairing member
    rcases Pairing.sides_of_joined found with ⟨sourceSide, targetSide⟩
    rw [sourceSide, targetSide]
    exact Pairing.fits_of_joined (typed_of_first? sourcesTyped) (typed_of_first? targetsTyped)
      found

end NameMatching

/-! ## Comparisons -/

/-- Names are matched alike in either direction. -/
theorem NameMatching.ofDialects_comm
    {source target : Value}
    (sourceTyped : source.isTyped .database = true)
    (targetTyped : target.isTyped .database = true) :
    ofDialects (target.get "dialect") (source.get "dialect") =
      ofDialects (source.get "dialect") (target.get "dialect") := by
  rcases Value.exists_dialect sourceTyped with ⟨sourceDialect, _, sourceGet⟩
  rcases Value.exists_dialect targetTyped with ⟨targetDialect, _, targetGet⟩
  rw [sourceGet, targetGet]
  cases sourceDialect <;> cases targetDialect <;> rfl

theorem Value.part_databaseName
    {database : Value}
    (typed : database.isTyped .database = true) :
    database.part "name" = .ok (.text (database.letters "name")) :=
  part_text_of_isTyped typed (by decide)

namespace Comparison

variable {source target : Value} {comparison : Comparison}

/-- How the names of two databases are matched. -/
def matchingOf
    (source target : Value) : NameMatching :=
  .ofDialects (source.get "dialect") (target.get "dialect")

/-- The comparison of typed databases is the join of their collections, kind by kind. -/
theorem between_ok
    (sourceTyped : source.isTyped .database = true)
    (targetTyped : target.isTyped .database = true) :
    (Comparison.between source target).result =
      .ok (ObjectKind.all.map fun kind => (kind,
        (matchingOf source target).pairingsOf (source.objectsIn kind) (target.objectsIn kind))) := by
  rcases Value.exists_dialect sourceTyped with ⟨_, sourceDialect, sourceGet⟩
  rcases Value.exists_dialect targetTyped with ⟨_, targetDialect, targetGet⟩
  have joined : ∀ kind ∈ ObjectKind.all,
      ((pairObjects (matchingOf source target) (source.objectsOf kind)
        (target.objectsOf kind)).result >>= fun pairings =>
          (pure (kind, pairings) : Scripting (ObjectKind × List Pairing)).result) =
        .ok (kind, (matchingOf source target).pairingsOf (source.objectsIn kind)
          (target.objectsIn kind)) := by
    intro kind _
    rw [Value.objectsOf_ok sourceTyped, Value.objectsOf_ok targetTyped,
      NameMatching.pairObjects_ok (fun _ => Value.isTyped_of_mem_objectsIn sourceTyped)
        (fun _ => Value.isTyped_of_mem_objectsIn targetTyped)]
    rfl
  simp only [Comparison.between, Scripting.result_bind, Scripting.result_liftM,
    Scripting.result_mapM, sourceDialect, targetDialect, Value.part_databaseName sourceTyped,
    Value.part_databaseName targetTyped, Attempt.ok_bind]
  rw [← sourceGet, ← targetGet]
  exact Attempt.mapM_ok joined

theorem pairings_of_between
    (sourceTyped : source.isTyped .database = true)
    (targetTyped : target.isTyped .database = true)
    (compared : (Comparison.between source target).result = .ok comparison)
    (kind : ObjectKind) :
    comparison.pairings kind =
      (matchingOf source target).pairingsOf (source.objectsIn kind) (target.objectsIn kind) := by
  cases (between_ok sourceTyped targetTyped).symm.trans compared
  cases kind <;> rfl

/-- What is paired under a name is paired in the comparison. -/
theorem exists_between
    (sourceTyped : source.isTyped .database = true)
    (targetTyped : target.isTyped .database = true)
    {kind : ObjectKind}
    {pairing : Pairing}
    (paired : pairing ∈
      (matchingOf source target).pairingsOf (source.objectsIn kind) (target.objectsIn kind)) :
    ∃ comparison, (Comparison.between source target).result = .ok comparison ∧
      pairing ∈ comparison.pairings kind := by
  have compared := between_ok sourceTyped targetTyped
  exact ⟨_, compared, pairings_of_between sourceTyped targetTyped compared kind ▸ paired⟩

/-- The pairings of a kind are about objects of different names. -/
theorem nodup_names
    (sourceTyped : source.isTyped .database = true)
    (targetTyped : target.isTyped .database = true)
    (compared : (Comparison.between source target).result = .ok comparison)
    (kind : ObjectKind) :
    ((comparison.pairings kind).map fun pairing =>
      (matchingOf source target).nameOf pairing.object).Nodup := by
  rw [pairings_of_between sourceTyped targetTyped compared, NameMatching.names_of_pairingsOf]
  exact NameMatching.nodup_namesIn ..

private theorem sum_countP_status
    (entries : List Entry) :
    (Status.all.map fun status => entries.countP fun entry => entry.status == status).sum =
      entries.length := by
  induction entries with
  | nil => rfl
  | cons entry entries ih =>
      rw [List.length_cons, ← ih]
      simp only [Status.all, List.map_cons, List.map_nil, List.countP_cons]
      cases entry.status <;> simp <;> omega

/-- Every entry has one of the statuses, so that the counts of all statuses add up. -/
theorem sum_summary
    (comparison : Comparison) :
    (comparison.entries.summary.map (·.2)).sum = (comparison.flatMap (·.2)).length := by
  have counted := sum_countP_status (comparison.entries.flatMap (·.2))
  rw [Entries.summary, List.map_map]
  exact counted.trans (by simp [entries, List.length_flatMap, List.map_map, Function.comp_def])

/--
The comparison of two databases joins their collections by name, the one in the other direction is
its mirror image under the same names, and the summary counts every pairing once.
-/
theorem between_isOuterJoin
    (sourceTyped : source.isTyped .database = true)
    (targetTyped : target.isTyped .database = true) :
    ∃ forth back,
      (Comparison.between source target).result = .ok forth ∧
        (Comparison.between target source).result = .ok back ∧
          forth.map (·.1) = ObjectKind.all ∧ back.map (·.1) = ObjectKind.all ∧
            (∀ kind, ∃ sources targets,
              source.objectsOf kind = .ok sources ∧ target.objectsOf kind = .ok targets ∧
                (matchingOf source target).IsOuterJoin sources targets (forth.pairings kind) ∧
                  back.pairings kind = (forth.pairings kind).map Pairing.mirror ∧
                    (back.pairings kind).map
                        (fun pairing => (matchingOf target source).nameOf pairing.object) =
                      (forth.pairings kind).map
                        fun pairing => (matchingOf source target).nameOf pairing.object) ∧
              (forth.entries.summary.map (·.2)).sum = (forth.flatMap (·.2)).length := by
  refine ⟨_, _, between_ok sourceTyped targetTyped, between_ok targetTyped sourceTyped, rfl, rfl,
    ?_, sum_summary _⟩
  intro kind
  refine ⟨_, _, Value.objectsOf_ok sourceTyped kind, Value.objectsOf_ok targetTyped kind, ?_⟩
  rw [pairings_of_between sourceTyped targetTyped (between_ok sourceTyped targetTyped),
    pairings_of_between targetTyped sourceTyped (between_ok targetTyped sourceTyped)]
  have sourcesTyped : ∀ object ∈ source.objectsIn kind,
      object.isTyped kind.objectClass = true :=
    fun _ => Value.isTyped_of_mem_objectsIn sourceTyped
  have targetsTyped : ∀ object ∈ target.objectsIn kind,
      object.isTyped kind.objectClass = true :=
    fun _ => Value.isTyped_of_mem_objectsIn targetTyped
  have sameMatching : matchingOf target source = matchingOf source target :=
    NameMatching.ofDialects_comm sourceTyped targetTyped
  refine ⟨NameMatching.pairingsOf_isOuterJoin sourcesTyped targetsTyped, ?_, ?_⟩
  · rw [sameMatching]
    exact NameMatching.pairingsOf_exchange sourcesTyped targetsTyped
  · rw [NameMatching.names_of_pairingsOf, NameMatching.names_of_pairingsOf, sameMatching]
    exact NameMatching.namesIn_comm ..

/-- A table with one column. -/
private def tableNamed
    (name : String) : Value :=
  .plainTable name [.plainColumn "id" "integer" 1] [] [] []

private theorem isTyped_tablesNamed
    (name : String)
    (tables : List String) :
    (Value.plainDatabase name (tables.map tableNamed)).isTyped .database = true := by
  refine Value.isTyped_plainDatabase name fun table member => ?_
  rcases List.mem_map.mp member with ⟨tableName, _, rfl⟩
  exact Value.isTyped_plainTable tableName
    (fun column held => List.mem_singleton.mp held ▸ Value.isTyped_plainColumn "id" "integer" 1)
    (fun _ => List.not_mem_nil.elim) (fun _ => List.not_mem_nil.elim)
    (fun _ => List.not_mem_nil.elim)

/-- Two databases share one table, and one of them holds it twice. -/
theorem between_isOuterJoin_of_shared_table :
    (Value.plainDatabase "s" (["u", "t", "u"].map tableNamed)).isTyped .database = true ∧
      (Value.plainDatabase "d" (["v", "u"].map tableNamed)).isTyped .database = true ∧
        ∃ forth back,
          (Comparison.between (.plainDatabase "s" (["u", "t", "u"].map tableNamed))
            (.plainDatabase "d" (["v", "u"].map tableNamed))).result = .ok forth ∧
            (Comparison.between (.plainDatabase "d" (["v", "u"].map tableNamed))
              (.plainDatabase "s" (["u", "t", "u"].map tableNamed))).result = .ok back ∧
              NameMatching.exact.IsOuterJoin (["u", "t", "u"].map tableNamed)
                (["v", "u"].map tableNamed) (forth.pairings .tables) ∧
                back.pairings .tables = (forth.pairings .tables).map Pairing.mirror := by
  have sourceTyped := isTyped_tablesNamed "s" ["u", "t", "u"]
  have targetTyped := isTyped_tablesNamed "d" ["v", "u"]
  rcases between_isOuterJoin sourceTyped targetTyped with
    ⟨forth, back, forthOk, backOk, _, _, joins, _⟩
  rcases joins .tables with ⟨sources, targets, sourcesOk, targetsOk, join, mirrored, _⟩
  cases sourcesOk
  cases targetsOk
  exact ⟨sourceTyped, targetTyped, forth, back, forthOk, backOk, join, mirrored⟩

end Comparison

end SchemaDelta
