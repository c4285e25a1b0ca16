import SchemaDelta.Json.Basic

/-!
# Scripting options

Choices that shape every script: whether names carry their schema, how columns are ordered and
whether collations are written.
-/

namespace SchemaDelta

/-- The choices that shape scripts. -/
structure Options where
  /-- Names carry their schema. -/
  useSchemaName : Bool := true
  /-- Columns are ordered by name and not by position. -/
  alphabeticalColumns : Bool := false
  /-- Columns are not aligned to the table on the other side. -/
  ignoreReferenceOrder : Bool := false
  /-- Collations are left out. -/
  ignoreCollation : Bool := false
deriving DecidableEq

namespace Options

/-- A setting read as a yes or no, with the answer for a setting that is not given. -/
def setting
    (settings : List (String × Json))
    (name : String)
    (otherwise : Bool) : Bool :=
  match settings.lookup name with
  | some value => value.isTruthy
  | none => otherwise

/-- The options given by settings. -/
def ofSettings
    (settings : List (String × Json)) : Options where
  useSchemaName := setting settings "use_schema_name" true
  alphabeticalColumns := setting settings "order_column_alphabetically" false
  ignoreReferenceOrder := setting settings "ignore_reference_table_column_order" false
  ignoreCollation := setting settings "ignore_collate" false

/-- The options given by a section of settings; only an object can give any. -/
def ofSection? : Json → Option Options
  | .object settings => some (ofSettings settings)
  | given => if given.isTruthy then none else some {}

/-- The settings that give options. -/
def toSettings
    (options : Options) : List (String × Json) := [
  ("use_schema_name", .bool options.useSchemaName),
  ("order_column_alphabetically", .bool options.alphabeticalColumns),
  ("ignore_reference_table_column_order", .bool options.ignoreReferenceOrder),
  ("ignore_collate", .bool options.ignoreCollation)]

/-- The settings among others that replace something; null replaces nothing. -/
def replacements
    (settings : List (String × Json)) : List (String × Json) :=
  settings.filter fun setting => !setting.2 matches .null

/-- Every replacement is of a setting that options have. -/
def allows
    (options : Options)
    (settings : List (String × Json)) : Bool :=
  (replacements settings).all fun setting => (options.toSettings.lookup setting.1).isSome

/-- The settings that give options, with others in their place where those replace something. -/
def settingsWith
    (options : Options)
    (settings : List (String × Json)) : List (String × Json) :=
  options.toSettings.map fun (name, value) =>
    (name, ((replacements settings).lookup name).getD value)

/-- Options with others in their place. -/
def override
    (options : Options)
    (settings : List (String × Json)) : Options :=
  ofSettings (options.settingsWith settings)

end Options

end SchemaDelta
