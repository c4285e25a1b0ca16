import SchemaDelta.Value.Kind

/-!
# Failures of scripting

Why an object cannot be scripted, and the wording of every reason.  Values that a message names
stand in it as they are shown.
-/

namespace SchemaDelta

/-- Why an object cannot be scripted. -/
inductive ScriptFailure where
  /-- An argument that has to be given is not. -/
  | missingArgument (argument : String)
  /-- Neither side of a pair is given. -/
  | missingPair
  | invalidAction (action : String)
  | unknownArgumentMode (mode : String)
  | unknownVolatility (volatility : String)
  | unknownMatchOption (option : String)
  /-- An object is not of the variant that the dialect scripts. -/
  | foreignVariant (found : ValueKind) (dialect : Dialect) (expected : ObjectClass)
  | unsupportedDialect (dialect : String)
  | restrictUnsupported
  | unsupportedIndexKind (kind : String)
  | noSequences
  | noUserTypes
  | noProcedures
  | unscriptedType (found : ValueKind)
  | differentDialects (source target : String)
  | foreignScripter (scripter : Dialect) (target : String)
  | unknownDataType (dataType : String) (dialect : Dialect)
  | circularInheritance (schema table : String)
  | missingParent (schema parent tableSchema table : String)
  /-- A value has no part of a name. -/
  | noPart (found : ValueKind) (name : String)
  /-- A value of this kind cannot be used as it is asked to. -/
  | unsuitable (found : ValueKind)
  /-- A list is shorter than it has to be. -/
  | outOfRange
  /-- There is no entry of a name. -/
  | noEntry (name : String)
  /-- A text stands where a number is written. -/
  | unwritableNumber
  /-- A number is too large to be written. -/
  | tooLarge
deriving DecidableEq

/-- The families of failures. -/
inductive FailureFamily where
  | invalidArgument
  | unsupportedDataType
  | unsupportedOperation
  | unresolvedDependency
  | noPart
  | unsuitable
  | outOfRange
  | noEntry
  | unwritable
  | tooLarge
deriving DecidableEq

namespace ScriptFailure

/-- The family of a failure. -/
def family : ScriptFailure → FailureFamily
  | missingArgument _ => .invalidArgument
  | missingPair => .invalidArgument
  | invalidAction _ => .invalidArgument
  | unknownArgumentMode _ => .invalidArgument
  | unknownVolatility _ => .invalidArgument
  | unknownMatchOption _ => .invalidArgument
  | foreignVariant _ _ _ => .unsupportedOperation
  | unsupportedDialect _ => .unsupportedOperation
  | restrictUnsupported => .unsupportedOperation
  | unsupportedIndexKind _ => .unsupportedOperation
  | noSequences => .unsupportedOperation
  | noUserTypes => .unsupportedOperation
  | noProcedures => .unsupportedOperation
  | unscriptedType _ => .unsupportedOperation
  | differentDialects _ _ => .unsupportedOperation
  | foreignScripter _ _ => .unsupportedOperation
  | unknownDataType _ _ => .unsupportedDataType
  | circularInheritance _ _ => .unresolvedDependency
  | missingParent _ _ _ _ => .unresolvedDependency
  | noPart _ _ => .noPart
  | unsuitable _ => .unsuitable
  | outOfRange => .outOfRange
  | noEntry _ => .noEntry
  | unwritableNumber => .unwritable
  | tooLarge => .tooLarge

/-- The failure is one of scripting, about which notices are given. -/
def isScripting
    (failure : ScriptFailure) : Bool :=
  match failure.family with
  | .invalidArgument => true
  | .unsupportedDataType => true
  | .unsupportedOperation => true
  | .unresolvedDependency => true
  | _ => false

/-- The failures that are told to the user rather than ending the run. -/
def isReported
    (failure : ScriptFailure) : Bool :=
  failure.isScripting || failure.family = .unwritable

/-- The wording of a failure. -/
def message : ScriptFailure → String
  | missingArgument argument => argument
  | missingPair => "Both source and target are None"
  | invalidAction action => "Invalid referential action: " ++ action
  | unknownArgumentMode mode => "Unknown function argument mode: " ++ mode
  | unknownVolatility volatility => "Unknown function volatile: " ++ volatility
  | unknownMatchOption option => "Unknown foreign key match option: " ++ option
  | foreignVariant found dialect expected =>
    found.name ++ " cannot be scripted as " ++ dialect.value ++ ", expected " ++ expected.name
  | unsupportedDialect dialect => "Unsupported dialect: " ++ dialect
  | restrictUnsupported => "Microsoft SQL does not support the RESTRICT referential action"
  | unsupportedIndexKind kind => "Index of type '" ++ kind ++ "' is not supported"
  | noSequences => "MySQL doesn't have sequences"
  | noUserTypes => "MySQL doesn't have user defined types"
  | noProcedures => "PostgreSQL doesn't have stored procedures, only functions"
  | unscriptedType found => "Type " ++ found.name ++ " cannot be scripted for PostgreSQL"
  | differentDialects source target =>
    "Cannot generate a migration from " ++ source ++ " to " ++ target
  | foreignScripter scripter target =>
    "A " ++ scripter.value ++ " scripter cannot script a " ++ target ++ " database"
  | unknownDataType dataType dialect =>
    "Unknown column data type for " ++ dialect.value ++ ": " ++ dataType
  | circularInheritance schema table =>
    "Circular inheritance detected on table " ++ schema ++ "." ++ table
  | missingParent schema parent tableSchema table =>
    "Unable to find inherited table " ++ schema ++ "." ++ parent ++ " of table " ++ tableSchema ++
      "." ++ table
  | noPart found name => found.name ++ " has no part " ++ name
  | unsuitable found => found.name ++ " cannot be used here"
  | outOfRange => "list is too short"
  | noEntry name => "no entry " ++ name
  | unwritableNumber => "Unknown format code 'g' for object of type 'str'"
  | tooLarge => "number is too large"

end ScriptFailure

end SchemaDelta
