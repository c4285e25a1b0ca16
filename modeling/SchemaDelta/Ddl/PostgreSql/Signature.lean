import SchemaDelta.Ddl.PostgreSql.Column
import SchemaDelta.Decimal.Style

/-!
# Signatures of PostgreSQL functions

The catalog gives the types of arguments by their ids, to be resolved among the types of a database.
-/

namespace SchemaDelta.PostgreSql

open Decimal (Binary64)

/-- The first type with an id. -/
def findType?
    (types typeId : Value) : Attempt (Option Value) := do
  return (← types.items).find? fun type =>
    type.isA .postgreSqlDataType && (type.field? "type_id").any fun other => other.agrees typeId

/-- The element type of an array type, if it is one and its elements are known. -/
def elementType?
    (types type : Value) : Attempt (Option Value) := do
  if !(← type.part "is_array").isTruthy then return none
  let element ← type.part "array_type_id"
  if element.isNull then return none
  findType? types element

/-- The spelling of a type given by its id; an array is spelled by its element type. -/
def typeName
    (types typeId : Value) : Attempt Value := do
  match ← findType? types typeId with
  | none => throw (.unknownDataType typeId.display dialect)
  | some type =>
    match ← elementType? types type with
    | some element => return .text ((← typeSpellingOf (← element.part "name")).display ++ "[]")
    | none => typeSpellingOf (← type.part "name")

/-- The entry of a table under a name, which may be any value that can be a key. -/
def entryUnder?
    (entries : List (String × String))
    (name : Value) : Attempt (Option String) := do
  return (← name.asKey).asText?.bind fun name => entries.lookup name

/-- The modes of arguments with their keywords. -/
def argumentModes : List (String × String) := [
  ("i", ""), ("o", "OUT "), ("b", "INOUT "), ("v", "VARIADIC "), ("t", "")]

/-- An argument of a function. -/
def argument
    (typeId mode name types : Value) : Script := do
  match ← entryUnder? argumentModes mode with
  | none => throw (.unknownArgumentMode mode.display)
  | some keyword =>
    let named := if name.isTruthy then name.display ++ " " else ""
    return keyword ++ named ++ (← typeName types typeId).display

/-- The item of a list at a place; a list that is missing or empty gives the usual one. -/
def itemOr
    (items : Value)
    (place : Nat)
    (usual : String) : Attempt Value :=
  if items.isTruthy then items.itemAt place else .ok (.text usual)

/-- The arguments that a function is created with, from a place on. -/
def argumentsFrom
    (types function : Value)
    (place : Nat) : List Value → Attempt (List String)
  | [] => .ok []
  | typeId :: rest => do
    let mode ← itemOr (← function.part "arg_modes") place "i"
    let name ← itemOr (← function.part "arg_names") place ""
    let first ← argument typeId mode name types
    return first :: (← argumentsFrom types function (place + 1) rest)

/-- The arguments that a function is created with. -/
def createArguments
    (types function : Value) : Attempt (List String) := do
  let all ← function.part "all_arg_types"
  let typeIds ← if all.isNull then function.part "arg_types" else pure all
  argumentsFrom types function 0 (← typeIds.items)

/-- The types of the input arguments, which tell overloaded functions apart. -/
def inputTypes
    (types function : Value) : Attempt (List Value) := do
  (← function.partItems "arg_types").mapM (typeName types)

/-- The volatilities of functions with their keywords. -/
def volatilities : List (String × String) := [
  ("i", "IMMUTABLE"), ("s", "STABLE"), ("v", "VOLATILE")]

/-- The attributes of a function. -/
def functionAttributes
    (function : Value) : Script := do
  let volatility ← function.part "volatile"
  match ← entryUnder? volatilities volatility with
  | none => throw (.unknownVolatility volatility.display)
  | some keyword =>
    let security ← function.part "security_type"
    let strict ← function.part "is_strict"
    return keyword ++ (if security == .text "DEFINER" then " SECURITY DEFINER" else "") ++
      (if strict.isTruthy then " STRICT" else "")

/-- The match options of foreign keys with their keywords. -/
def matchOptions : List (String × String) := [
  ("FULL", "MATCH FULL"), ("PARTIAL", "MATCH PARTIAL"), ("SIMPLE", "MATCH SIMPLE"),
  ("NONE", "MATCH SIMPLE")]

/-- The match option of a foreign key; none is the simple one. -/
def matchOption
    (option : Value) : Script := do
  match matchOptions.lookup (Text.upper (← (option.orElse (.text "NONE")).asText)) with
  | none => throw (.unknownMatchOption option.display)
  | some keyword => return keyword

/-! ## Estimates -/

/-- Estimates have six significant digits and are written out below the sixth power of ten. -/
def estimateStyle : Decimal.Style := ⟨6, "", "inf", "nan"⟩

/-- A number with 53 significant bits, as which estimates are written. -/
def estimateNumber
    (number : Value) : Attempt Binary64 :=
  match number with
  | .float value => .ok value
  | number =>
    match number.asInt?.map Binary64.ofInt, number.asText? with
    | some (.infinite _), _ => .error .tooLarge
    | some value, _ => .ok value
    | none, some _ => .error .unwritableNumber
    | none, none => .error (.unsuitable number.kind)

/-- An estimate of cost or of rows. -/
def estimate
    (number : Value) : Script := do
  return estimateStyle.writeRounded 6 (← estimateNumber number)

/-- The line of an estimate of rows, which is left out unless it is positive. -/
def rowsLine
    (rows : Value) : Script := do
  match Value.less? (.int 0) rows with
  | none => throw (.unsuitable rows.kind)
  | some false => return ""
  | some true => return indent ++ "ROWS " ++ (← estimate rows) ++ "\n"

end SchemaDelta.PostgreSql
