import SchemaDelta.Json.Basic

/-!
# Phases of a migration

A migration runs in six phases, each of which settings can switch off.
-/

namespace SchemaDelta

/-- A phase of a migration. -/
inductive Phase where
  | drops
  | types
  | tables
  | constraints
  | foreignKeys
  | programmability
deriving DecidableEq

namespace Phase

/-- All phases in the order in which they run. -/
def all : List Phase := [drops, types, tables, constraints, foreignKeys, programmability]

/-- The place of a phase, counted from one. -/
def number : Phase → Nat
  | drops => 1
  | types => 2
  | tables => 3
  | constraints => 4
  | foreignKeys => 5
  | programmability => 6

/-- The title of a phase in scripts. -/
def title : Phase → String
  | drops => "DROP OBJECTS MISSING IN SOURCE"
  | types => "USER DEFINED TYPES AND SEQUENCES"
  | tables => "TABLES AND COLUMNS"
  | constraints => "CONSTRAINTS AND INDEXES"
  | foreignKeys => "FOREIGN KEYS"
  | programmability => "PROGRAMMABILITY OBJECTS"

/-- The setting that switches a phase on or off. -/
def setting : Phase → String
  | drops => "include_drop_phase"
  | types => "include_type_phase"
  | tables => "include_table_phase"
  | constraints => "include_constraint_phase"
  | foreignKeys => "include_foreign_key_phase"
  | programmability => "include_programmability_phase"

/-- A phase runs unless its setting says no. -/
def isEnabled
    (settings : List (String × Json))
    (phase : Phase) : Bool :=
  match settings.lookup phase.setting with
  | some value => value.isTruthy
  | none => true

end Phase

end SchemaDelta
