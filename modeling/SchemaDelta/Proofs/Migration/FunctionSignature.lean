import SchemaDelta.Proofs.Migration.TypeOrder

/-!
# Signatures of functions

A signature gives its types by ids, and the first type that has an id names it.  The statements
about a function are made of the names of its ids, so among other types they are the same where the
ids have the same names.  As long as no name can be taken for more than one, they are the same only
there.
-/

namespace SchemaDelta

open Attempt (bind_eq_ok_iff)

/-! ## Names in lists -/

/-- A name has none of the marks that end a name in a list. -/
def IsListable
    (name : String) : Prop :=
  ',' ∉ name.toList ∧ ')' ∉ name.toList

instance : DecidablePred IsListable :=
  fun _ => inferInstanceAs (Decidable (_ ∧ _))

theorem IsListable.append
    {name other : String}
    (listable : IsListable name)
    (otherListable : IsListable other) :
    IsListable (name ++ other) := by
  simp only [IsListable, String.toList_append, List.mem_append, not_or]
  exact ⟨⟨listable.1, otherListable.1⟩, listable.2, otherListable.2⟩

/-- Names before a sign that has none of its marks in them are told from each other. -/
private theorem eq_of_append_sign
    {mark : Char}
    {sign name other tail otherTail : String}
    (isMark : sign.toList = [mark])
    (free : mark ∉ name.toList)
    (otherFree : mark ∉ other.toList)
    (equal : name ++ (sign ++ tail) = other ++ (sign ++ otherTail)) :
    name = other ∧ tail = otherTail := by
  have before : ∀ {letters rest : List Char}, mark ∉ letters →
      (letters ++ mark :: rest).takeWhile (· != mark) = letters := by
    intro letters rest free
    rw [List.takeWhile_append_of_pos fun letter member =>
      bne_iff_ne.mpr (ne_of_mem_of_not_mem member free)]
    simp
  have letters := congrArg String.toList equal
  simp only [String.toList_append, isMark, List.singleton_append] at letters
  have same : name = other := by
    rw [← String.toList_inj, ← before free, letters, before otherFree]
  subst same
  exact ⟨rfl, String.toList_inj.mp (List.tail_eq_of_cons_eq (List.append_cancel_left letters))⟩

/-- Names behind the same openings in a list are told from each other, and so is what follows. -/
theorem eq_of_listed
    {separator blank closing otherClosing : String}
    {openings names others : List String}
    (separated : separator = "," ++ blank)
    (length : names.length = openings.length)
    (otherLength : others.length = openings.length)
    (listable : ∀ name ∈ names, IsListable name)
    (otherListable : ∀ name ∈ others, IsListable name)
    (equal : separator.intercalate (openings.zipWith (· ++ ·) names) ++ (")" ++ closing) =
      separator.intercalate (openings.zipWith (· ++ ·) others) ++ (")" ++ otherClosing)) :
    names = others ∧ closing = otherClosing := by
  subst separated
  induction openings generalizing names others with
  | nil =>
      obtain rfl := List.length_eq_zero_iff.mp length
      obtain rfl := List.length_eq_zero_iff.mp otherLength
      exact ⟨rfl, by simpa using equal⟩
  | cons opening openings ih =>
      rcases List.exists_cons_of_length_eq_add_one length with ⟨name, names, rfl⟩
      rcases List.exists_cons_of_length_eq_add_one otherLength with ⟨other, others, rfl⟩
      rw [List.length_cons, List.length_cons, Nat.add_right_cancel_iff] at length otherLength
      rw [List.forall_mem_cons] at listable otherListable
      -- The last name ends at the parenthesis, every other one at a comma.
      cases openings with
      | nil =>
          obtain rfl := List.length_eq_zero_iff.mp length
          obtain rfl := List.length_eq_zero_iff.mp otherLength
          simp only [List.zipWith_cons_cons, List.zipWith_nil_left, String.intercalate_singleton,
            String.append_assoc, String.append_right_inj] at equal
          rcases eq_of_append_sign rfl listable.1.2 otherListable.1.2 equal with ⟨rfl, same⟩
          exact ⟨rfl, same⟩
      | cons next openings =>
          rcases List.exists_cons_of_length_eq_add_one length with ⟨nextName, names, rfl⟩
          rcases List.exists_cons_of_length_eq_add_one otherLength with ⟨nextOther, others, rfl⟩
          simp only [List.zipWith_cons_cons, String.intercalate_cons_cons, String.append_assoc,
            String.append_right_inj] at equal
          rcases eq_of_append_sign rfl listable.1.1 otherListable.1.1 equal with ⟨rfl, rest⟩
          rw [String.append_right_inj] at rest
          rcases ih length otherLength listable.2 otherListable.2
            (by simpa only [List.zipWith_cons_cons] using rest) with ⟨same, sameClosing⟩
          exact ⟨by rw [same], sameClosing⟩

/-! ## Types in signatures -/

namespace Value

/-- The ids of the types that tell a function from others of its name. -/
def inputTypeIds
    (function : Value) : List Value :=
  function.rows "arg_types"

/-- The ids of the types of all arguments that a function is created with. -/
def argumentTypeIds
    (function : Value) : List Value :=
  function.rows (if (function.get "all_arg_types").isNull then "arg_types" else "all_arg_types")

/-- The ids of the types that a function is created with, that of its result included. -/
def signatureTypeIds
    (function : Value) : List Value :=
  function.argumentTypeIds ++ [function.get "return_type"]

/-- Every type has a name that can stand in a list. -/
def HaveListableNames
    (types : List Value) : Prop :=
  ∀ type ∈ types, IsListable (type.letters "name")

end Value

namespace PostgreSql

/-- Ids have the same names among some types as among others. -/
def NamesAlike
    (types others : Value)
    (typeIds : List Value) : Prop :=
  ∀ typeId ∈ typeIds, typeName types typeId = typeName others typeId

/-- A type has the id and, if it is an array, another type has the id of its elements. -/
def Resolves
    (types : List Value)
    (typeId : Value) : Prop :=
  ∃ type, Value.typeWithId? types typeId = some type ∧
    ((type.get "is_array").isTruthy = true → (type.get "array_type_id").isNull = false →
      (Value.typeWithId? types (type.get "array_type_id")).isSome = true)

variable {types others : List Value} {typeId : Value}

/-- Types that name ids on their own name them alike in front of other types. -/
theorem namesAlike_append
    (typed : ∀ type ∈ types, type.isTyped .dataType = true)
    {typeIds : List Value}
    (resolve : ∀ typeId ∈ typeIds, Resolves types typeId) :
    NamesAlike (.list (types ++ others)) (.list types) typeIds := by
  intro typeId member
  rcases resolve typeId member with ⟨type, found, elementFound⟩
  have first : ∀ {id type}, Value.typeWithId? types id = some type →
      findType? (.list (types ++ others)) id = findType? (.list types) id := by
    intro id type found
    have behind : Value.typeWithId? (types ++ others) id = some type := by
      rw [Value.typeWithId?, List.find?_append, ← Value.typeWithId?, found, Option.some_or]
    exact congrArg Except.ok (behind.trans found.symm)
  have passes := List.find?_some found
  rw [Bool.and_eq_true] at passes
  have isType : type.isTyped .postgreSqlDataType = true :=
    Value.isTyped_of_isA (typed type (List.mem_of_find?_eq_some found)) passes.1
  have isArray : ObjectClass.postgreSqlDataType.declares "is_array" { item := .truth } = true := by
    decide
  have hasElements : ObjectClass.postgreSqlDataType.declares "array_type_id"
      { item := .int, isOptional := true } = true := by
    decide
  have elements :
      elementType? (.list (types ++ others)) type = elementType? (.list types) type := by
    simp only [elementType?, (Value.part_of_isTyped isType isArray).1,
      (Value.part_of_isTyped isType hasElements).1, Attempt.ok_bind]
    cases marked : (type.get "is_array").isTruthy with
    | false => rfl
    | true =>
        cases none : (type.get "array_type_id").isNull with
        | true => rfl
        | false =>
            rcases Option.isSome_iff_exists.mp (elementFound marked none) with ⟨element, known⟩
            exact first known
  have own : findType? (.list types) typeId = .ok (some type) := congrArg Except.ok found
  simp only [typeName, first found, own, Attempt.ok_bind, elements]

/-- The spelling of a name that can stand in a list can stand in a list, too. -/
private theorem isListable_typeSpelling
    {name : String}
    (listable : IsListable name) :
    IsListable (typeSpelling name) := by
  have spellings : ∀ entry ∈ typeSpellings, IsListable entry.2 := by
    decide
  unfold typeSpelling
  cases found : typeSpellings.lookup name with
  | none => exact listable
  | some spelling =>
      rcases List.lookup_eq_some_iff.mp found with ⟨before, after, split, _⟩
      exact spellings (name, spelling) (split ▸ List.mem_append_right before List.mem_cons_self)

theorem typeSpellingOf_text
    (name : String) :
    typeSpellingOf (.text name) = .ok (.text (typeSpelling name)) := by
  have key : (Value.text name).asKey = .ok (.text name) := rfl
  simp only [typeSpellingOf, typeSpelling, key, Attempt.ok_bind, Value.asText?, Option.bind_some]
  cases typeSpellings.lookup name <;> rfl

/-- Among typed types every id that one of them has is spelled by a text. -/
theorem exists_typeName_of_isSome
    (typed : ∀ type ∈ types, type.isTyped .dataType = true)
    (known : (Value.typeWithId? types typeId).isSome = true) :
    ∃ name, typeName (.list types) typeId = .ok (.text name) := by
  have isArray : ObjectClass.postgreSqlDataType.declares "is_array" { item := .truth } = true := by
    decide
  have hasElements : ObjectClass.postgreSqlDataType.declares "array_type_id"
      { item := .int, isOptional := true } = true := by
    decide
  have hasName : ObjectClass.postgreSqlDataType.declares "name" .text = true := by
    decide
  have isType : ∀ {id type}, Value.typeWithId? types id = some type →
      type.isTyped .postgreSqlDataType = true := by
    intro id type found
    have passes := List.find?_some found
    rw [Bool.and_eq_true] at passes
    exact Value.isTyped_of_isA (typed type (List.mem_of_find?_eq_some found)) passes.1
  have search : ∀ id, findType? (.list types) id = .ok (Value.typeWithId? types id) :=
    fun _ => rfl
  rcases Option.isSome_iff_exists.mp known with ⟨type, found⟩
  have readable := isType found
  have spelled : typeSpellingOf (.text (type.letters "name")) = _ := typeSpellingOf_text _
  have elements : ∃ element?, elementType? (.list types) type = .ok element? ∧
      ∀ element, element? = some element → element.isTyped .postgreSqlDataType = true := by
    simp only [elementType?, (Value.part_of_isTyped readable isArray).1,
      (Value.part_of_isTyped readable hasElements).1, Attempt.ok_bind, search]
    cases (type.get "is_array").isTruthy with
    | false => exact ⟨none, rfl, fun _ impossible => nomatch impossible⟩
    | true =>
        cases (type.get "array_type_id").isNull with
        | true => exact ⟨none, rfl, fun _ impossible => nomatch impossible⟩
        | false => exact ⟨_, rfl, fun _ => isType⟩
  rcases elements with ⟨element?, elementOk, elementTyped⟩
  cases element? with
  | none =>
      refine ⟨typeSpelling (type.letters "name"), ?_⟩
      simp only [typeName, search, found, elementOk, Value.part_text_of_isTyped readable hasName,
        Attempt.ok_bind, spelled]
  | some element =>
      have elementName := Value.part_text_of_isTyped (elementTyped element rfl) hasName
      refine ⟨typeSpelling (element.letters "name") ++ "[]", ?_⟩
      simp only [typeName, search, found, elementOk, elementName, Attempt.ok_bind,
        typeSpellingOf_text]
      rfl

/-- What an id refers to is one of the types. -/
private theorem mem_of_refersTo
    {type : Value}
    (refers : Value.RefersTo types typeId type) :
    type ∈ types := by
  induction refers with
  | direct found => exact List.mem_of_find?_eq_some found
  | element _ _ _ ih => exact ih

/-- Among typed types with names that can stand in lists, ids have such names. -/
theorem exists_listable_of_typeName
    (typed : ∀ type ∈ types, type.isTyped .dataType = true)
    (listable : Value.HaveListableNames types)
    {named : Value}
    (found : typeName (.list types) typeId = .ok named) :
    ∃ name, named = .text name ∧ IsListable name := by
  rcases Value.exists_refersTo_of_typeName found with ⟨type, spelled, refers, spelledOk, either⟩
  have member := mem_of_refersTo refers
  have declared : ObjectClass.dataType.declares "name" .text = true := by
    decide
  have held : type.get "name" = .text (type.letters "name") :=
    Except.ok.inj ((Value.part_of_isTyped (typed type member) declared).1.symm.trans
      (Value.part_text_of_isTyped (typed type member) declared))
  rw [held, typeSpellingOf_text] at spelledOk
  cases spelledOk
  have own := isListable_typeSpelling (listable type member)
  rcases either with rfl | rfl
  · exact ⟨_, rfl, own⟩
  · exact ⟨_, rfl, own.append (by decide)⟩

/-! ## Statements -/

/-- The argument at a place is written with the name of its id behind an opening of its own. -/
private theorem exists_openings_of_argumentsFrom
    {among function : Value}
    {place : Nat}
    {typeIds : List Value}
    {arguments : List String}
    (succeeds : argumentsFrom among function place typeIds = .ok arguments) :
    ∃ openings : List String, openings.length = typeIds.length ∧
      ∀ types, argumentsFrom types function place typeIds = do
        let names ← typeIds.mapM (typeName types)
        return openings.zipWith (· ++ ·) (names.map Value.display) := by
  induction typeIds generalizing place arguments with
  | nil => exact ⟨[], rfl, fun _ => rfl⟩
  | cons typeId typeIds ih =>
      simp only [argumentsFrom, argument, bind_eq_ok_iff] at succeeds
      rcases succeeds with ⟨modes, modesOk, mode, modeOk, labels, labelsOk, label, labelOk, _,
        ⟨keyword?, keywordOk, firstOk⟩, _, restOk, _⟩
      rcases ih restOk with ⟨openings, length, later⟩
      cases keyword? with
      | none => cases firstOk
      | some keyword =>
          refine ⟨(keyword ++ if label.isTruthy then label.display ++ " " else "") :: openings,
            congrArg (· + 1) length, fun types => ?_⟩
          rw [argumentsFrom, List.mapM_cons]
          simp only [modesOk, modeOk, labelsOk, labelOk, argument, keywordOk, later,
            Attempt.ok_bind]
          cases typeName types typeId with
          | error failure => rfl
          | ok name =>
              cases typeIds.mapM (typeName types) with
              | error failure => rfl
              | ok names => rfl

/-- Arguments are written alike among types that name their ids alike. -/
private theorem argumentsFrom_of_namesAlike
    (function : Value)
    (place : Nat)
    {types others : Value}
    {typeIds : List Value}
    (alike : NamesAlike types others typeIds) :
    argumentsFrom types function place typeIds = argumentsFrom others function place typeIds := by
  induction typeIds generalizing place with
  | nil => rfl
  | cons typeId typeIds ih =>
      rcases List.forall_mem_cons.mp alike with ⟨first, rest⟩
      simp only [argumentsFrom, argument, first, ih (place + 1) rest]

section Functions

variable {function : Value} (typed : function.isTyped .postgreSqlFunction = true)

include typed

theorem part_inputTypeIds :
    function.part "arg_types" = .ok (.list function.inputTypeIds) := by
  have declared : ObjectClass.postgreSqlFunction.declares "arg_types"
      { item := .int, isList := true } = true := by
    decide
  exact Value.part_rows_of_isTyped typed declared

theorem inputTypes_eq
    (types : Value) :
    inputTypes types function = function.inputTypeIds.mapM (typeName types) := by
  rw [inputTypes, Value.partItems, part_inputTypeIds typed]
  rfl

theorem createArguments_eq
    (types : Value) :
    createArguments types function = argumentsFrom types function 0 function.argumentTypeIds := by
  have declared : ObjectClass.postgreSqlFunction.declares "all_arg_types"
      { item := .int, isList := true, isOptional := true } = true := by
    decide
  rw [createArguments, (Value.part_of_isTyped typed declared).1, Attempt.ok_bind,
    Value.argumentTypeIds]
  cases none : (function.get "all_arg_types").isNull with
  | true =>
      rw [if_pos rfl, part_inputTypeIds typed]
      rfl
  | false =>
      rw [Value.get_eq_list typed declared rfl none]
      rfl

/-- A function is dropped alike among types that name its input types alike. -/
theorem dropFunction_of_namesAlike
    (options : Options)
    {types others : Value}
    (alike : NamesAlike types others function.inputTypeIds) :
    dropFunction options types function = dropFunction options others function := by
  simp only [dropFunction, inputTypes_eq typed, Attempt.mapM_congr alike]

/-- A function is created alike among types that name the types of its signature alike. -/
theorem createFunction_of_namesAlike
    (options : Options)
    {types others : Value}
    (alike : NamesAlike types others function.signatureTypeIds) :
    createFunction options types function = createFunction options others function := by
  have returned : ObjectClass.postgreSqlFunction.declares "return_type" .int = true := by
    decide
  rw [NamesAlike, Value.signatureTypeIds, List.forall_mem_append, List.forall_mem_singleton]
    at alike
  simp only [createFunction, createArguments_eq typed,
    argumentsFrom_of_namesAlike function 0 alike.1, (Value.part_of_isTyped typed returned).1,
    Attempt.ok_bind, alike.2]

/-- The drop of a function is written around the names of its input types. -/
private theorem exists_frame_of_dropFunction
    {options : Options}
    {among : Value}
    {text : String}
    (dropped : dropFunction options among function = .ok text) :
    ∃ opening, ∀ types, dropFunction options types function = do
      let names ← function.inputTypeIds.mapM (typeName types)
      return opening ++ ((← Value.joinTexts ", " names) ++ (")" ++ ";\n")) := by
  simp only [dropFunction, inputTypes_eq typed, bind_eq_ok_iff] at dropped ⊢
  rcases dropped with ⟨_, expected, _, _, _, _, name, nameOk, _⟩
  refine ⟨"DROP FUNCTION " ++ name ++ "(", fun types => ?_⟩
  have signs : ");\n" = ")" ++ ";\n" := rfl
  simp only [expected, nameOk, Attempt.ok_bind, String.append_assoc, signs]

/-- The definition of a function is written around the names of the types in its signature. -/
private theorem exists_frame_of_createFunction
    {options : Options}
    {among : Value}
    {text : String}
    (created : createFunction options among function = .ok text) :
    ∃ (opening : String) (openings : List String) (middle closing : String),
      openings.length = function.argumentTypeIds.length ∧
        ∀ types, createFunction options types function = do
          let names ← function.argumentTypeIds.mapM (typeName types)
          let returned ← typeName types (function.get "return_type")
          return opening ++
            (",".intercalate (openings.zipWith (· ++ ·) (names.map Value.display)) ++
              (")" ++ (middle ++ (returned.display ++ closing)))) := by
  have returned : ObjectClass.postgreSqlFunction.declares "return_type" .int = true := by
    decide
  simp only [createFunction, createArguments_eq typed, (Value.part_of_isTyped typed returned).1,
    Attempt.ok_bind, bind_eq_ok_iff] at created ⊢
  rcases created with ⟨_, expected, _, argumentsOk, set, setOk, _, _, name, nameOk, language,
    languageOk, cost, costOk, costText, costTextOk, rows, rowsOk, rowsText, rowsTextOk, attributes,
    attributesOk, definition, definitionOk, _⟩
  rcases exists_openings_of_argumentsFrom argumentsOk with ⟨openings, length, written⟩
  refine ⟨"CREATE FUNCTION " ++ name ++ "(",
    openings.map fun opening => "\n" ++ indent ++ opening,
    "\n" ++ indent ++ "RETURNS " ++ (if set.isTruthy then "SETOF " else ""),
    "\n" ++ indent ++ "LANGUAGE " ++ language.display ++ "\n" ++ "\n" ++ indent ++ "COST " ++
      costText ++ "\n" ++ rowsText ++ indent ++ attributes ++ "\n" ++ "AS $BODY$" ++
      definition.display ++ "$BODY$;\n",
    (List.length_map _).trans length, fun types => ?_⟩
  -- The parenthesis is a text of its own, at which the last name of the list ends.
  have signs : ")\n" = ")" ++ "\n" := rfl
  simp only [expected, written, setOk, nameOk, languageOk, costOk, costTextOk, rowsOk, rowsTextOk,
    attributesOk, definitionOk, Attempt.ok_bind, Attempt.pure_eq_ok, bind_assoc, List.map_zipWith,
    List.zipWith_map_left, String.append_assoc, signs]

end Functions

/-- Texts are joined as they are. -/
theorem joinTexts_texts
    (separator : String)
    (texts : List String) :
    Value.joinTexts separator (texts.map .text) = .ok (separator.intercalate texts) := by
  refine bind_eq_ok_iff.mpr ⟨texts, ?_, rfl⟩
  induction texts with
  | nil => rfl
  | cons text texts ih =>
      rw [List.map_cons, List.mapM_cons, ih]
      rfl

/-- Names are written behind nothing as they are. -/
private theorem zipWith_replicate_empty
    (names : List String) :
    (List.replicate names.length "").zipWith (· ++ ·) names = names := by
  induction names with
  | nil => rfl
  | cons name names ih =>
      rw [List.length_cons, List.replicate_succ, List.zipWith_cons_cons, ih, String.empty_append]

section Listable

variable
  (typed : ∀ type ∈ types, type.isTyped .dataType = true)
  (listable : Value.HaveListableNames types)
  (othersTyped : ∀ type ∈ others, type.isTyped .dataType = true)
  (othersListable : Value.HaveListableNames others)
  {function : Value}
  (functionTyped : function.isTyped .postgreSqlFunction = true)
  {options : Options}
  {text : String}

include typed listable

/-- Ids among types with names that can stand in lists are spelled by such names. -/
private theorem exists_listable_of_mapM
    {typeIds names : List Value}
    (named : typeIds.mapM (typeName (.list types)) = .ok names) :
    ∃ letters : List String, names = letters.map .text ∧ ∀ name ∈ letters, IsListable name := by
  have results := Attempt.forall₂_of_mapM named
  clear named
  induction results with
  | nil => exact ⟨[], rfl, fun _ => List.not_mem_nil.elim⟩
  | cons first _ ih =>
      rcases exists_listable_of_typeName typed listable first with ⟨name, rfl, nameListable⟩
      rcases ih with ⟨letters, rfl, lettersListable⟩
      exact ⟨name :: letters, rfl, List.forall_mem_cons.mpr ⟨nameListable, lettersListable⟩⟩

include othersTyped othersListable functionTyped

/-- A function is dropped alike only among types that name its input types alike. -/
theorem namesAlike_of_dropFunction
    (dropped : dropFunction options (.list types) function = .ok text)
    (otherDropped : dropFunction options (.list others) function = .ok text) :
    NamesAlike (.list types) (.list others) function.inputTypeIds := by
  rcases exists_frame_of_dropFunction functionTyped dropped with ⟨opening, frame⟩
  simp only [frame, bind_eq_ok_iff] at dropped otherDropped
  rcases dropped with ⟨names, namesOk, joined, joinedOk, equal⟩
  rcases otherDropped with ⟨otherNames, otherNamesOk, otherJoined, otherJoinedOk, otherEqual⟩
  rcases exists_listable_of_mapM typed listable namesOk with ⟨letters, rfl, lettersListable⟩
  rcases exists_listable_of_mapM othersTyped othersListable otherNamesOk with
    ⟨others, rfl, othersListable⟩
  have length : letters.length = others.length := by
    simpa using (Attempt.length_of_mapM namesOk).trans (Attempt.length_of_mapM otherNamesOk).symm
  rw [joinTexts_texts] at joinedOk otherJoinedOk
  cases joinedOk
  cases otherJoinedOk
  have texts := Except.ok.inj (equal.trans otherEqual.symm)
  rw [String.append_right_inj] at texts
  have same : letters = others := by
    have written := zipWith_replicate_empty letters
    have othersWritten := zipWith_replicate_empty others
    rw [← length] at othersWritten
    rw [← written, ← othersWritten] at texts
    exact (eq_of_listed (show ", " = "," ++ " " from rfl) (List.length_replicate (a := "")).symm
      (length.symm.trans (List.length_replicate (a := "")).symm) lettersListable othersListable
      texts).1
  exact Attempt.eq_of_mapM namesOk (same ▸ otherNamesOk)

/-- A function is created alike only among types that name the types of its signature alike. -/
theorem namesAlike_of_createFunction
    (created : createFunction options (.list types) function = .ok text)
    (otherCreated : createFunction options (.list others) function = .ok text) :
    NamesAlike (.list types) (.list others) function.signatureTypeIds := by
  rcases exists_frame_of_createFunction functionTyped created with
    ⟨opening, openings, middle, closing, length, frame⟩
  simp only [frame, bind_eq_ok_iff] at created otherCreated
  rcases created with ⟨names, namesOk, returned, returnedOk, equal⟩
  rcases otherCreated with ⟨otherNames, otherNamesOk, otherReturned, otherReturnedOk, otherEqual⟩
  rcases exists_listable_of_mapM typed listable namesOk with ⟨letters, rfl, lettersListable⟩
  rcases exists_listable_of_mapM othersTyped othersListable otherNamesOk with
    ⟨otherLetters, rfl, otherLettersListable⟩
  rcases exists_listable_of_typeName typed listable returnedOk with ⟨result, rfl, _⟩
  rcases exists_listable_of_typeName othersTyped othersListable otherReturnedOk with
    ⟨otherResult, rfl, _⟩
  have shown : ∀ letters : List String, (letters.map Value.text).map Value.display = letters := by
    intro letters
    rw [List.map_map]
    exact List.map_id letters
  have lengths := Attempt.length_of_mapM namesOk
  have otherLengths := Attempt.length_of_mapM otherNamesOk
  rw [List.length_map, ← length] at lengths otherLengths
  have texts := Except.ok.inj (equal.trans otherEqual.symm)
  rw [shown, shown, String.append_right_inj] at texts
  rcases eq_of_listed String.append_empty.symm lengths otherLengths lettersListable
    otherLettersListable texts with ⟨rfl, rest⟩
  rw [String.append_right_inj, String.append_left_inj] at rest
  rw [NamesAlike, Value.signatureTypeIds, List.forall_mem_append, List.forall_mem_singleton]
  refine ⟨Attempt.eq_of_mapM namesOk otherNamesOk, ?_⟩
  rw [returnedOk, otherReturnedOk]
  exact congrArg (fun name => Except.ok (Value.text name)) rest

end Listable

end PostgreSql

end SchemaDelta
