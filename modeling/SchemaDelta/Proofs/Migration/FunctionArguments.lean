import SchemaDelta.Proofs.Migration.FunctionSignature
import SchemaDelta.Proofs.Value.Filled

/-!
# Arguments of functions

A function is created with all of its arguments, and dropped by the types of its inputs alone.  The
arguments that are not written as outputs are read as inputs, so both statements are about the same
signature only if nothing else is among them: the columns of a table that a function returns are
arguments of a mode of their own, and they are written like inputs.
-/

namespace SchemaDelta

open Attempt (bind_eq_ok_iff)

/-! ## Arguments in the catalog -/

namespace Value

/-- A mode of arguments that callers give a value for. -/
def isInputMode
    (mode : Value) : Bool :=
  mode.asText?.any ["i", "b", "v"].contains

/-- The modes with which the arguments of a function are written; where none are given, all are inputs. -/
def writtenModes
    (function : Value) : List Value :=
  if function.rows "arg_modes" = [] then
    List.replicate function.argumentTypeIds.length (.text "i")
  else (function.rows "arg_modes").take function.argumentTypeIds.length

/--
Where all arguments and their modes are given, every argument has a mode, and the input types are the
types of the arguments with the modes of inputs.
-/
structure HasConsistentArguments
    (function : Value) : Prop where
  length : (function.get "all_arg_types").isNull = false →
    (function.get "arg_modes").isNull = false →
      (function.rows "arg_modes").length = (function.rows "all_arg_types").length
  inputs : (function.get "all_arg_types").isNull = false →
    (function.get "arg_modes").isNull = false →
      function.rows "arg_types" =
        (((function.rows "all_arg_types").zip (function.rows "arg_modes")).filter
          fun argument => argument.2.isInputMode).map (·.1)

end Value

namespace PostgreSql

/-- An argument as it is written: its mode, its label with what stands behind it, and its type. -/
structure WrittenArgument where
  mode : String
  label : String
  typeName : String

namespace WrittenArgument

/-- The keyword in front of an argument. -/
def keyword
    (argument : WrittenArgument) : String :=
  (argumentModes.lookup argument.mode).getD ""

/-- The text of an argument. -/
def text
    (argument : WrittenArgument) : String :=
  argument.keyword ++ argument.label ++ argument.typeName

/-- An argument is read as an input unless it is marked as an output. -/
def isInput
    (argument : WrittenArgument) : Bool :=
  argument.keyword != "OUT "

/-- The mode of an argument is one of the known ones. -/
def IsKnown
    (argument : WrittenArgument) : Prop :=
  (argumentModes.lookup argument.mode).isSome = true

theorem IsKnown.mode_mem
    {argument : WrittenArgument}
    (known : argument.IsKnown) :
    argument.mode ∈ ["i", "o", "b", "v", "t"] := by
  rcases Option.isSome_iff_exists.mp known with ⟨keyword, found⟩
  rcases List.lookup_eq_some_iff.mp found with ⟨before, after, split, _⟩
  have member : argument.mode ∈ argumentModes.map (·.1) := by
    rw [split]
    simp
  exact member

/-- Every argument but the outputs is read as an input. -/
theorem IsKnown.isInput_iff
    {argument : WrittenArgument}
    (known : argument.IsKnown) :
    argument.isInput = true ↔ argument.mode ≠ "o" := by
  have checked : ∀ mode ∈ ["i", "o", "b", "v", "t"],
      ((argumentModes.lookup mode).getD "" != "OUT ") = true ↔ mode ≠ "o" := by
    decide
  exact checked argument.mode known.mode_mem

/-- Every argument with the mode of an input is read as one, and so are the columns of a table. -/
theorem IsKnown.isInput_iff_isInputMode
    {argument : WrittenArgument}
    (known : argument.IsKnown) :
    argument.isInput = true ↔
      (Value.text argument.mode).isInputMode = true ∨ argument.mode = "t" := by
  rw [known.isInput_iff]
  have checked : ∀ mode ∈ ["i", "o", "b", "v", "t"],
      mode ≠ "o" ↔ (Value.text mode).isInputMode = true ∨ mode = "t" := by
    decide
  exact checked argument.mode known.mode_mem

/-- The columns of a table have no mode of an input. -/
theorem isInputMode_of_mode_eq_t
    {argument : WrittenArgument}
    (isColumn : argument.mode = "t") :
    (Value.text argument.mode).isInputMode = false := by
  rw [isColumn]
  rfl

end WrittenArgument

section Arguments

variable {types : List Value} {function : Value}

/-- The item of a list at a place is found exactly where there is one. -/
private theorem itemAt_list_eq_ok_iff
    {items : List Value}
    {place : Nat}
    {item : Value} :
    (Value.list items).itemAt place = .ok item ↔ items[place]? = some item := by
  simp only [Value.itemAt, Value.items, Attempt.ok_bind]
  cases items[place]? with
  | none => simp
  | some found => simp

/-- The mode of an argument is a text; it is that of an input where no modes are given. -/
private theorem exists_text_of_mode
    (functionTyped : function.isTyped .postgreSqlFunction = true)
    {place : Nat}
    {mode : Value}
    (modeOk : itemOr (function.get "arg_modes") place "i" = .ok mode) :
    ∃ letters, mode = .text letters ∧
      (function.rows "arg_modes" = [] ∧ letters = "i" ∨
        (function.rows "arg_modes")[place]? = some (.text letters)) := by
  have declared : ObjectClass.postgreSqlFunction.declares "arg_modes"
      { item := .text, isList := true, isOptional := true } = true := by
    decide
  have conform := (Value.part_of_isTyped functionTyped declared).2
  cases given : (function.get "arg_modes").isTruthy with
  | false =>
      rw [itemOr, given] at modeOk
      cases modeOk
      refine ⟨"i", rfl, .inl ⟨?_, rfl⟩⟩
      rw [Value.rows]
      cases held : function.get "arg_modes" with
      | list items =>
          rw [held, Value.isTruthy, Bool.not_eq_false'] at given
          exact List.isEmpty_iff.mp given
      | _ => rfl
  | true =>
      have notNull : (function.get "arg_modes").isNull = false := by
        cases held : function.get "arg_modes" with
        | null => rw [held] at given; cases given
        | _ => rfl
      have listed := Value.get_eq_list functionTyped declared rfl notNull
      rw [itemOr, given, if_pos rfl, listed, itemAt_list_eq_ok_iff] at modeOk
      rw [listed, Value.conforms, Bool.true_and] at conform
      have itemConforms := Value.allConform_iff.mp conform mode (List.mem_of_getElem? modeOk)
      cases mode with
      | text letters => exact ⟨letters, rfl, .inr modeOk⟩
      | _ => simp [Value.conforms, FieldType.itemType, ItemType.admits] at itemConforms

/-- Among typed types ids are spelled by texts. -/
private theorem exists_text_of_typeName
    (typesTyped : ∀ type ∈ types, type.isTyped .dataType = true)
    {typeId named : Value}
    (spelled : typeName (.list types) typeId = .ok named) :
    ∃ name, named = .text name := by
  rcases Value.exists_refersTo_of_typeName spelled with ⟨type, _, refers, _, _⟩
  have known : (Value.typeWithId? types typeId).isSome = true := by
    cases refers with
    | direct found => rw [found]; rfl
    | element found _ _ => rw [found]; rfl
  rcases exists_typeName_of_isSome typesTyped known with ⟨name, spelledText⟩
  exact ⟨name, Except.ok.inj (spelled.symm.trans spelledText)⟩

/-- Arguments that can be written have known modes and types with names, one for each id. -/
private theorem exists_written_of_argumentsFrom
    (functionTyped : function.isTyped .postgreSqlFunction = true)
    (typesTyped : ∀ type ∈ types, type.isTyped .dataType = true)
    {place : Nat}
    {typeIds : List Value}
    {texts : List String}
    (succeeds : argumentsFrom (.list types) function place typeIds = .ok texts) :
    ∃ arguments : List WrittenArgument,
      texts = arguments.map WrittenArgument.text ∧
        (∀ argument ∈ arguments, argument.IsKnown) ∧
        typeIds.map (typeName (.list types)) =
          (arguments.map WrittenArgument.typeName).map (fun name => .ok (.text name)) ∧
        arguments.map (fun argument => Value.text argument.mode) =
          if function.rows "arg_modes" = [] then List.replicate typeIds.length (.text "i")
          else ((function.rows "arg_modes").drop place).take typeIds.length := by
  have declared : ObjectClass.postgreSqlFunction.declares "arg_modes"
      { item := .text, isList := true, isOptional := true } = true := by
    decide
  have modesRead := (Value.part_of_isTyped functionTyped declared).1
  induction typeIds generalizing place texts with
  | nil =>
      cases succeeds
      refine ⟨[], rfl, fun _ => List.not_mem_nil.elim, rfl, ?_⟩
      split <;> simp
  | cons typeId typeIds ih =>
      simp only [argumentsFrom, argument, modesRead, Attempt.ok_bind, bind_eq_ok_iff] at succeeds
      rcases succeeds with ⟨mode, modeOk, labels, labelsOk, label, labelOk, first,
        ⟨keyword?, keywordOk, firstOk⟩, rest, restOk, equal⟩
      cases equal
      rcases ih restOk with ⟨arguments, rfl, known, names, modes⟩
      rcases exists_text_of_mode functionTyped modeOk with ⟨letters, rfl, placed⟩
      cases keyword? with
      | none => cases firstOk
      | some keyword =>
          rcases bind_eq_ok_iff.mp firstOk with ⟨named, namedOk, equal⟩
          cases equal
          rcases exists_text_of_typeName typesTyped namedOk with ⟨name, rfl⟩
          have found : argumentModes.lookup letters = some keyword := Except.ok.inj keywordOk
          refine ⟨⟨letters, if label.isTruthy then label.display ++ " " else "", name⟩ ::
            arguments, ?_, ?_, ?_, ?_⟩
          · rw [List.map_cons, WrittenArgument.text, WrittenArgument.keyword, found]
            rfl
          · refine List.forall_mem_cons.mpr ⟨?_, known⟩
            rw [WrittenArgument.IsKnown, found]
            rfl
          · rw [List.map_cons, List.map_cons, List.map_cons, namedOk, names]
          · rw [List.map_cons, modes, List.length_cons]
            rcases placed with ⟨noModes, rfl⟩ | given
            · rw [if_pos noModes, if_pos noModes, List.replicate_succ]
            · have some_modes : function.rows "arg_modes" ≠ [] := by
                intro noModes
                rw [noModes] at given
                cases given
              rcases List.getElem?_eq_some_iff.mp given with ⟨inside, atPlace⟩
              rw [if_neg some_modes, if_neg some_modes, List.drop_eq_getElem_cons inside,
                List.take_succ_cons, atPlace]

/-- The arguments that a function is created with, as they are written among types. -/
structure IsCreatedWith
    (types : List Value)
    (function : Value)
    (arguments : List WrittenArgument) : Prop where
  known : ∀ argument ∈ arguments, argument.IsKnown
  modes : arguments.map (fun argument => Value.text argument.mode) = function.writtenModes
  names : function.argumentTypeIds.map (typeName (.list types)) =
    (arguments.map WrittenArgument.typeName).map fun name => .ok (.text name)

/-- The definition of a function is written around its arguments. -/
private theorem exists_arguments_of_createFunction
    (functionTyped : function.isTyped .postgreSqlFunction = true)
    (typesTyped : ∀ type ∈ types, type.isTyped .dataType = true)
    {options : Options}
    {creation : String}
    (created : createFunction options (.list types) function = .ok creation) :
    ∃ (name closing : String) (arguments : List WrittenArgument),
      dialect.objectName options function = .ok name ∧
        creation = "CREATE FUNCTION " ++ name ++ "(" ++
          ",".intercalate (arguments.map fun argument => "\n" ++ indent ++ argument.text) ++
          ")\n" ++ closing ∧
        IsCreatedWith types function arguments := by
  simp only [createFunction, createArguments_eq functionTyped, bind_eq_ok_iff] at created
  rcases created with ⟨_, expected, texts, argumentsOk, set, setOk, returnId, returnOk, result,
    resultOk, name, nameOk, language, languageOk, cost, costOk, costText, costTextOk, rows, rowsOk,
    rowsText, rowsTextOk, attributes, attributesOk, definition, definitionOk, equal⟩
  rcases exists_written_of_argumentsFrom functionTyped typesTyped argumentsOk with
    ⟨arguments, rfl, known, names, modes⟩
  rw [List.drop_zero] at modes
  refine ⟨name, indent ++ "RETURNS " ++ (if set.isTruthy then "SETOF " else "") ++ result.display ++
    "\n" ++ indent ++ "LANGUAGE " ++ language.display ++ "\n" ++ "\n" ++ indent ++ "COST " ++
    costText ++ "\n" ++ rowsText ++ indent ++ attributes ++ "\n" ++ "AS $BODY$" ++
    definition.display ++ "$BODY$;\n", arguments, nameOk, ?_, known, modes, names⟩
  rw [Attempt.pure_eq_ok, Except.ok.injEq] at equal
  rw [← equal, List.map_map]
  simp only [String.append_assoc, Function.comp_def]

/-- The drop of a function names the types of its inputs. -/
private theorem exists_inputs_of_dropFunction
    (functionTyped : function.isTyped .postgreSqlFunction = true)
    (typesTyped : ∀ type ∈ types, type.isTyped .dataType = true)
    (resolves : ∀ typeId ∈ function.inputTypeIds, (Value.typeWithId? types typeId).isSome = true)
    {options : Options}
    {name : String}
    (nameOk : dialect.objectName options function = .ok name) :
    ∃ inputs : List String,
      function.inputTypeIds.map (typeName (.list types)) =
          inputs.map (fun name => .ok (.text name)) ∧
        dropFunction options (.list types) function =
          .ok ("DROP FUNCTION " ++ name ++ "(" ++ ", ".intercalate inputs ++ ");\n") := by
  have spelled : ∃ inputs : List String,
      function.inputTypeIds.map (typeName (.list types)) =
        inputs.map (fun name => .ok (.text name)) := by
    generalize function.inputTypeIds = typeIds at resolves
    induction typeIds with
    | nil => exact ⟨[], rfl⟩
    | cons typeId typeIds ih =>
        rw [List.forall_mem_cons] at resolves
        rcases exists_typeName_of_isSome typesTyped resolves.1 with ⟨input, inputOk⟩
        rcases ih resolves.2 with ⟨inputs, inputsOk⟩
        exact ⟨input :: inputs, by rw [List.map_cons, List.map_cons, inputOk, inputsOk]⟩
  rcases spelled with ⟨inputs, inputsOk⟩
  refine ⟨inputs, inputsOk, ?_⟩
  have isFunction : function.isA .postgreSqlFunction = true := by
    rcases Value.isTyped_iff.mp functionTyped with ⟨_, _, rfl, isA, _⟩
    exact isA
  have mapped : function.inputTypeIds.mapM (typeName (.list types)) =
      .ok (inputs.map Value.text) :=
    Attempt.mapM_eq_ok_of_map_eq (by rw [inputsOk, List.map_map]; rfl)
  rw [dropFunction, Dialect.expect_ok_iff.mpr isFunction, Attempt.ok_bind,
    inputTypes_eq functionTyped, mapped, Attempt.ok_bind, joinTexts_texts, nameOk]
  rfl

/-! ## Inputs of both statements -/

/--
What makes the arguments that are written as inputs the inputs of a function: without modes all
arguments have the types of the inputs, with modes none of the input types is that of an output, and
no argument is a column of a table that the function returns.
-/
structure SignsByInputs
    (types : List Value)
    (function : Value) : Prop where
  withoutModes : function.rows "arg_modes" = [] →
    function.argumentTypeIds.map (typeName (.list types)) =
      function.inputTypeIds.map (typeName (.list types))
  noOutputs : (function.get "all_arg_types").isNull = true →
    .text "o" ∉ (function.rows "arg_modes").take function.inputTypeIds.length
  noColumns : (function.get "all_arg_types").isNull = false →
    .text "t" ∉ function.rows "arg_modes"

/-- What passes one of two tests is told from what passes a stricter one unless the same items do. -/
private theorem map_filter_eq_iff
    {α β : Type}
    {items : List α}
    {test strict : α → Bool}
    (read : α → β)
    (stricter : ∀ item ∈ items, strict item = true → test item = true) :
    (items.filter test).map read = (items.filter strict).map read ↔
      ∀ item ∈ items, test item = true → strict item = true := by
  have nested : (items.filter test).filter strict = items.filter strict := by
    rw [List.filter_filter]
    apply List.filter_congr
    intro item member
    cases passes : strict item with
    | false => simp
    | true => simp [stricter item member passes]
  rw [← nested]
  constructor
  · intro sameRead item member passes
    have sameLength := congrArg List.length sameRead
    rw [List.length_map, List.length_map] at sameLength
    have same := List.filter_sublist.eq_of_length sameLength.symm
    have kept : item ∈ (items.filter test).filter strict := by
      rw [same]
      exact List.mem_filter.mpr ⟨member, passes⟩
    exact (List.mem_filter.mp kept).2
  · intro same
    have kept : (items.filter test).filter strict = items.filter test := by
      apply List.filter_eq_self.mpr
      intro item member
      exact same item (List.mem_filter.mp member).1 (List.mem_filter.mp member).2
    rw [kept]

/-- Equal texts are equal names, item by item. -/
private theorem map_ok_text_injective :
    Function.Injective
      (List.map fun name => (.ok (.text name) : Attempt Value)) :=
  List.map_injective_iff.mpr fun _ _ same => Value.text.inj (Except.ok.inj same)

private theorem argumentTypeIds_of_types
    (someTypes : (function.get "all_arg_types").isNull = false) :
    function.argumentTypeIds = function.rows "all_arg_types" := by
  rw [Value.argumentTypeIds, someTypes]
  rfl

private theorem isNull_argModes
    (someModes : function.rows "arg_modes" ≠ []) :
    (function.get "arg_modes").isNull = false := by
  cases held : function.get "arg_modes" with
  | null => simp [Value.rows, held] at someModes
  | _ => rfl

section Signs

variable
  {arguments : List WrittenArgument}
  {inputs : List String}
  (written : IsCreatedWith types function arguments)
  (inputsOk : function.inputTypeIds.map (typeName (.list types)) =
    inputs.map fun name => .ok (.text name))

include written inputsOk

/-- Without modes all arguments are written as inputs. -/
private theorem signsByInputs_iff_of_noModes
    (noModes : function.rows "arg_modes" = []) :
    (arguments.filter WrittenArgument.isInput).map WrittenArgument.typeName = inputs ↔
      SignsByInputs types function := by
  have allInputs : arguments.filter WrittenArgument.isInput = arguments := by
    apply List.filter_eq_self.mpr
    intro argument member
    have modes := written.modes
    rw [Value.writtenModes, if_pos noModes] at modes
    have listed := List.mem_map_of_mem (f := fun argument => Value.text argument.mode) member
    rw [modes] at listed
    have mode := Value.text.inj (List.eq_of_mem_replicate listed)
    rw [(written.known argument member).isInput_iff, mode]
    decide
  rw [allInputs]
  constructor
  · rintro rfl
    refine ⟨fun _ => written.names.trans inputsOk.symm, fun _ => ?_, fun _ => ?_⟩
    · rw [noModes]
      simp
    · rw [noModes]
      simp
  · intro signs
    exact map_ok_text_injective
      (written.names.symm.trans ((signs.withoutModes noModes).trans inputsOk))

/-- Without types of outputs no argument may be an output. -/
private theorem signsByInputs_iff_of_noTypes
    (someModes : function.rows "arg_modes" ≠ [])
    (noTypes : (function.get "all_arg_types").isNull = true) :
    (arguments.filter WrittenArgument.isInput).map WrittenArgument.typeName = inputs ↔
      SignsByInputs types function := by
  have sameIds : function.argumentTypeIds = function.inputTypeIds := by
    rw [Value.argumentTypeIds, noTypes, if_pos rfl, Value.inputTypeIds]
  have modes := written.modes
  rw [Value.writtenModes, if_neg someModes, sameIds] at modes
  obtain rfl : arguments.map WrittenArgument.typeName = inputs := by
    apply map_ok_text_injective
    rw [← written.names, ← inputsOk, sameIds]
  have allInputs : (∀ argument ∈ arguments, argument.isInput = true) ↔
      SignsByInputs types function := by
    constructor
    · intro each
      refine ⟨fun none => (someModes none).elim, fun _ => ?_, fun given => ?_⟩
      · rw [← modes, List.mem_map]
        rintro ⟨argument, member, isOutput⟩
        exact (written.known argument member).isInput_iff.mp (each argument member)
          (Value.text.inj isOutput)
      · rw [noTypes] at given
        cases given
    · intro signs argument member
      apply (written.known argument member).isInput_iff.mpr
      intro isOutput
      apply signs.noOutputs noTypes
      rw [← modes, ← isOutput]
      exact List.mem_map_of_mem member
  rw [← allInputs]
  constructor
  · intro same
    have sameLength := congrArg List.length same
    rw [List.length_map, List.length_map] at sameLength
    exact List.length_filter_eq_length_iff.mp sameLength
  · intro each
    rw [List.filter_eq_self.mpr each]

omit inputsOk in
/-- With consistent types and modes every argument is written with its mode. -/
private theorem modes_of_types
    (consistent : function.HasConsistentArguments)
    (someModes : function.rows "arg_modes" ≠ [])
    (someTypes : (function.get "all_arg_types").isNull = false) :
    arguments.map (fun argument => Value.text argument.mode) = function.rows "arg_modes" := by
  have modes := written.modes
  rwa [Value.writtenModes, if_neg someModes, argumentTypeIds_of_types someTypes,
    ← consistent.length someTypes (isNull_argModes someModes), List.take_length] at modes

/-- With consistent types and modes the inputs are the types of the arguments with input modes. -/
private theorem inputs_eq_of_types
    (consistent : function.HasConsistentArguments)
    (someModes : function.rows "arg_modes" ≠ [])
    (someTypes : (function.get "all_arg_types").isNull = false) :
    inputs = (arguments.filter fun argument => (Value.text argument.mode).isInputMode).map
      WrittenArgument.typeName := by
  have paired :
      ((function.rows "all_arg_types").zip (function.rows "arg_modes")).map
          (Prod.map (typeName (.list types)) id) =
        arguments.map fun argument =>
          ((.ok (.text argument.typeName) : Attempt Value), Value.text argument.mode) := by
    rw [← List.zip_map_left, ← argumentTypeIds_of_types someTypes, written.names,
      ← modes_of_types written consistent someModes someTypes, List.map_map, List.zip_map']
    rfl
  have kept := congrArg (List.filter fun argument => argument.2.isInputMode) paired
  rw [List.filter_map, List.filter_map] at kept
  have read := congrArg (List.map Prod.fst) kept
  rw [List.map_map, List.map_map] at read
  apply map_ok_text_injective
  rw [← inputsOk, Value.inputTypeIds, consistent.inputs someTypes (isNull_argModes someModes),
    List.map_map, List.map_map]
  exact read

/-- With consistent types and modes no argument may be a column of a table. -/
private theorem signsByInputs_iff_of_types
    (consistent : function.HasConsistentArguments)
    (someModes : function.rows "arg_modes" ≠ [])
    (someTypes : (function.get "all_arg_types").isNull = false) :
    (arguments.filter WrittenArgument.isInput).map WrittenArgument.typeName = inputs ↔
      SignsByInputs types function := by
  have modes := modes_of_types written consistent someModes someTypes
  have noColumns : (∀ argument ∈ arguments, argument.isInput = true →
      (Value.text argument.mode).isInputMode = true) ↔ SignsByInputs types function := by
    constructor
    · intro each
      refine ⟨fun none => (someModes none).elim, fun none => ?_, fun _ => ?_⟩
      · rw [someTypes] at none
        cases none
      · rw [← modes, List.mem_map]
        rintro ⟨argument, member, isColumn⟩
        have isColumn := Value.text.inj isColumn
        have isInput := (written.known argument member).isInput_iff_isInputMode.mpr (.inr isColumn)
        have refused := WrittenArgument.isInputMode_of_mode_eq_t isColumn
        rw [each argument member isInput] at refused
        cases refused
    · intro signs argument member isInput
      rcases (written.known argument member).isInput_iff_isInputMode.mp isInput with
        isInputMode | isColumn
      · exact isInputMode
      · refine (signs.noColumns someTypes ?_).elim
        rw [← modes, ← isColumn]
        exact List.mem_map_of_mem member
  rw [← noColumns, inputs_eq_of_types written inputsOk consistent someModes someTypes]
  exact map_filter_eq_iff _ fun argument member isInputMode =>
    (written.known argument member).isInput_iff_isInputMode.mpr (.inl isInputMode)

/-- The arguments that are written as inputs have the types that the drop of the function names. -/
private theorem inputs_eq_iff_signsByInputs
    (consistent : function.HasConsistentArguments) :
    (arguments.filter WrittenArgument.isInput).map WrittenArgument.typeName = inputs ↔
      SignsByInputs types function := by
  by_cases noModes : function.rows "arg_modes" = []
  · exact signsByInputs_iff_of_noModes written inputsOk noModes
  · cases noTypes : (function.get "all_arg_types").isNull with
    | true => exact signsByInputs_iff_of_noTypes written inputsOk noModes noTypes
    | false => exact signsByInputs_iff_of_types written inputsOk consistent noModes noTypes

end Signs

end Arguments

/--
A function is dropped by the types of its inputs, and created with arguments of which those that are
not marked as outputs are read as inputs.  With consistent arguments both are the same types in the
same order exactly where the function signs by its inputs.  Where all arguments are given with their
modes, this is where none of them is a column of a table that the function returns.
-/
theorem createFunction_inputs_iff
    {types : List Value}
    {function : Value}
    {options : Options}
    {creation : String}
    (functionTyped : function.isTyped .postgreSqlFunction = true)
    (typesTyped : ∀ type ∈ types, type.isTyped .dataType = true)
    (resolves : ∀ typeId ∈ function.inputTypeIds, (Value.typeWithId? types typeId).isSome = true)
    (consistent : function.HasConsistentArguments)
    (created : createFunction options (.list types) function = .ok creation) :
    ∃ (name closing : String) (arguments : List WrittenArgument) (inputs : List String),
      creation = "CREATE FUNCTION " ++ name ++ "(" ++
          ",".intercalate (arguments.map fun argument => "\n" ++ indent ++ argument.text) ++
          ")\n" ++ closing ∧
        dropFunction options (.list types) function =
          .ok ("DROP FUNCTION " ++ name ++ "(" ++ ", ".intercalate inputs ++ ");\n") ∧
        IsCreatedWith types function arguments ∧
        function.inputTypeIds.map (typeName (.list types)) =
          inputs.map (fun name => .ok (.text name)) ∧
        ((arguments.filter WrittenArgument.isInput).map WrittenArgument.typeName = inputs ↔
          SignsByInputs types function) := by
  rcases exists_arguments_of_createFunction functionTyped typesTyped created with
    ⟨name, closing, arguments, nameOk, creationEq, written⟩
  rcases exists_inputs_of_dropFunction functionTyped typesTyped resolves nameOk with
    ⟨inputs, inputsOk, dropped⟩
  exact ⟨name, closing, arguments, inputs, creationEq, dropped, written, inputsOk,
    inputs_eq_iff_signsByInputs written inputsOk consistent⟩

/-- Numbers, texts and lists of numbers. -/
private def basicTypes : List Value := [
  .filled .postgreSqlDataType [("name", .text "int4"), ("type_id", .int 23)],
  .filled .postgreSqlDataType [("name", .text "text"), ("type_id", .int 25)],
  .filled .postgreSqlDataType [
    ("name", .text "_int4"), ("type_id", .int 1007), ("is_array", .bool true),
    ("array_type_id", .int 23)]]

private theorem basicTypes_isTyped :
    ∀ type ∈ basicTypes, type.isTyped .dataType = true := by
  rw [basicTypes, List.forall_mem_cons, List.forall_mem_cons, List.forall_mem_singleton]
  exact ⟨Value.isTyped_filled rfl rfl, Value.isTyped_filled rfl rfl, Value.isTyped_filled rfl rfl⟩

/-- A function that returns texts, with labelled arguments of some modes. -/
private def functionOf
    (inputIds allIds : List Int)
    (modes labels : List String) : Value :=
  .filled .postgreSqlFunction [
    ("name", .text "f"), ("schema", .text "public"), ("definition", .text "SELECT 'b'"),
    ("return_type", .int 25), ("return_set", .bool true), ("external_language", .text "sql"),
    ("arg_types", .list (inputIds.map .int)), ("all_arg_types", .list (allIds.map .int)),
    ("arg_modes", .list (modes.map .text)), ("arg_names", .list (labels.map .text))]

/-- What stands behind the arguments of the function. -/
private def functionEnd : String :=
  ")\n    RETURNS SETOF text\n    LANGUAGE sql\n\n    COST 100\n    VOLATILE\n" ++
    "AS $BODY$SELECT 'b'$BODY$;\n"

/-- A function with an input, an output, an argument that is both, and the rest of its arguments. -/
private def mixedFunction : Value :=
  functionOf [23, 25, 1007] [23, 25, 25, 1007] ["i", "o", "b", "v"] ["a", "b", "c", "d"]

/-- Arguments of all modes but that of columns are dropped by the types of those written as inputs. -/
theorem createFunction_inputs_of_mixedModes :
    createFunction {} (.list basicTypes) mixedFunction =
        .ok ("CREATE FUNCTION \"public\".\"f\"(\n    a integer,\n    OUT b text,\n" ++
          "    INOUT c text,\n    VARIADIC d integer[]" ++ functionEnd) ∧
      ∃ (arguments : List WrittenArgument) (inputs : List String),
        IsCreatedWith basicTypes mixedFunction arguments ∧
          mixedFunction.inputTypeIds.map (typeName (.list basicTypes)) =
            inputs.map (fun name => .ok (.text name)) ∧
          (arguments.filter WrittenArgument.isInput).map WrittenArgument.typeName = inputs := by
  have typed : mixedFunction.isTyped .postgreSqlFunction = true := Value.isTyped_filled rfl rfl
  have consistent : mixedFunction.HasConsistentArguments := ⟨fun _ _ => rfl, fun _ _ => rfl⟩
  have resolves : ∀ typeId ∈ mixedFunction.inputTypeIds,
      (Value.typeWithId? basicTypes typeId).isSome = true := by
    have inputs : mixedFunction.inputTypeIds = [.int 23, .int 25, .int 1007] := rfl
    rw [inputs]
    decide
  have created : createFunction {} (.list basicTypes) mixedFunction =
      .ok ("CREATE FUNCTION \"public\".\"f\"(\n    a integer,\n    OUT b text,\n" ++
        "    INOUT c text,\n    VARIADIC d integer[]" ++ functionEnd) := by
    decide +kernel
  rcases createFunction_inputs_iff typed basicTypes_isTyped resolves consistent created with
    ⟨_, _, arguments, inputs, _, _, written, inputsOk, same_iff⟩
  refine ⟨created, arguments, inputs, written, inputsOk, same_iff.mpr ?_⟩
  constructor
  · intro impossible
    cases impossible
  · intro impossible
    cases impossible
  · intro _
    have modes : mixedFunction.rows "arg_modes" =
        [.text "i", .text "o", .text "b", .text "v"] := rfl
    rw [modes]
    simp

/-- A function with an input that returns a table of one column. -/
private def tableFunction : Value :=
  functionOf [23] [23, 25] ["i", "t"] ["a", "b"]

/-- The column of a returned table is written like an input, and the drop does not name its type. -/
theorem createFunction_inputs_of_returnedTable :
    tableFunction.isTyped .postgreSqlFunction = true ∧
      tableFunction.HasConsistentArguments ∧
      createFunction {} (.list basicTypes) tableFunction =
        .ok ("CREATE FUNCTION \"public\".\"f\"(\n    a integer,\n    b text" ++ functionEnd) ∧
      IsCreatedWith basicTypes tableFunction [⟨"i", "a ", "integer"⟩, ⟨"t", "b ", "text"⟩] ∧
      ([⟨"i", "a ", "integer"⟩, ⟨"t", "b ", "text"⟩] : List WrittenArgument).filter
          WrittenArgument.isInput = [⟨"i", "a ", "integer"⟩, ⟨"t", "b ", "text"⟩] ∧
      dropFunction {} (.list basicTypes) tableFunction =
        .ok "DROP FUNCTION \"public\".\"f\"(integer);\n" := by
  have typed : tableFunction.isTyped .postgreSqlFunction = true := Value.isTyped_filled rfl rfl
  refine ⟨typed, ⟨fun _ _ => rfl, fun _ _ => rfl⟩, by rfl, ⟨?_, by rfl, by rfl⟩, by rfl, by rfl⟩
  rw [List.forall_mem_cons, List.forall_mem_singleton]
  exact ⟨rfl, rfl⟩

end PostgreSql

end SchemaDelta
