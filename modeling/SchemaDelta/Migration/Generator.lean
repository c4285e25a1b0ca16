import SchemaDelta.Migration.Plan

/-!
# Migration scripts

A generator runs the phases of a migration one after the other and remembers the foreign keys that
it has dropped, so that none is dropped twice.  Every run begins with nothing remembered.
-/

namespace SchemaDelta

/-- A migration with the foreign keys that the last run has dropped. -/
structure Generator where
  migration : Migration
  /-- The identities of the foreign keys. -/
  dropped : List Value := []

/-- A line that sets headings apart. -/
def bannerLine : String :=
  "-- " ++ String.ofList (List.replicate 78 '=')

/-- A heading between banner lines, followed by an empty line. -/
def headingLines
    (lines : List String) : List String :=
  bannerLine :: lines ++ [bannerLine, ""]

namespace Migration

/-- The value of the dialect of a database, which has to be a member. -/
def dialectValue
    (database : Value) : Script := do
  return (← (← database.part "dialect").part "value").display

/-- The lines at the start of a script. -/
def preamble
    (migration : Migration) : Attempt (List String) := do
  let source ← migration.source.part "name"
  let target ← migration.target.part "name"
  return headingLines [
    "-- SQL Schema Compare - Deployment Script",
    "-- Source Database: " ++ source.display,
    "-- Target Database: " ++ target.display,
    "-- Dialect: " ++ (← dialectValue migration.target)]

/-- The lines at the start of a phase. -/
def phaseHeading
    (phase : Phase) : List String :=
  headingLines ["-- PHASE " ++ toString phase.number ++ ": " ++ phase.title]

/-- Both databases and the scripter have to be of one dialect. -/
def checkDialects
    (migration : Migration) : Attempt Unit := do
  let source ← migration.source.part "dialect"
  let target ← migration.target.part "dialect"
  if !source.agrees target then
    throw (.differentDialects (← dialectValue migration.source) (← dialectValue migration.target))
  if !(target == .member (.dialect migration.scripter.dialect)) then
    throw (.foreignScripter migration.scripter.dialect (← dialectValue migration.target))

/-! ## Runs -/

/-- A run gives lines, and takes account of the foreign keys dropped before and after it. -/
abbrev Run : Type :=
  List Value → Scripting (List String) × List Value

/-- A run that gives lines and drops nothing. -/
def Run.ofLines
    (lines : Attempt (List String)) : Run :=
  fun dropped => (Scripting.ofResult lines, dropped)

/-- Runs one after the other, up to the first that fails. -/
def Run.sequence : List Run → Run
  | [], dropped => (pure [], dropped)
  | run :: runs, dropped =>
    let (first, dropped) := run dropped
    match first.result with
    | .error _ => (first, dropped)
    | .ok lines =>
      let (rest, dropped) := Run.sequence runs dropped
      (⟨first.notices ++ rest.notices, rest.result.map fun others => lines ++ others⟩, dropped)

/-- The sections of a part with the foreign keys that they drop, under their identities. -/
def planPart
    (migration : Migration)
    (part : Part)
    (dropped : List Value) : Attempt (List MigrationSection × KeyedValues) := do
  let sections ← part dropped
  let rows := sections.flatMap MigrationSection.droppedForeignKeys
  return (sections, ← migration.scripter.dialect.identified rows)

/-- The run of a part. -/
def runPart
    (migration : Migration)
    (part : Part) : Run :=
  fun dropped =>
    match migration.planPart part dropped with
    | .error failure => (Scripting.fail failure, dropped)
    | .ok (sections, keyed) =>
      let lines : Scripting (List String) := do
        return (← sections.mapM (MigrationSection.lines migration.scripter)).flatten
      (lines, dropped ++ keyed.map (·.1))

/-- The run of a phase. -/
def runPhase
    (migration : Migration)
    (phase : Phase) : Run :=
  Run.sequence
    (Run.ofLines (.ok (phaseHeading phase)) :: (migration.parts phase).map migration.runPart)

/-- The run of all phases. -/
def run
    (migration : Migration) : Run :=
  Run.sequence (Run.ofLines migration.preamble :: migration.phases.map migration.runPhase)

end Migration

namespace Generator

/-- A generator that remembers nothing. -/
def forget
    (generator : Generator) : Generator :=
  { generator with dropped := [] }

/-- The script of the migration of a generator, and the generator after the run. -/
def generate
    (generator : Generator) : Scripting String × Generator :=
  match generator.migration.checkDialects with
  | .error failure => (Scripting.fail failure, generator)
  | .ok () =>
    let (lines, dropped) := generator.migration.run generator.forget.dropped
    (do return "\n".intercalate (← lines) ++ "\n", { generator with dropped })

/-- The scripts of as many runs, up to the first that fails. -/
def generateMany
    (generator : Generator) : Nat → Scripting (List String)
  | 0 => pure []
  | count + 1 => do
    let (script, next) := generator.generate
    return (← script) :: (← next.generateMany count)

end Generator

end SchemaDelta
