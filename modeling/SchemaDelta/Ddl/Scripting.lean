import SchemaDelta.Ddl.Failure

/-!
# Scripting

Scripting answers with a text or a failure and gives notices on the way.  The notices given before a
failure are kept.
-/

namespace SchemaDelta

/-- What is told beside a script. -/
inductive Notice where
  /-- An object has the name of one before it and is left out. -/
  | duplicateIgnored (schema name : String)
  /-- The definition of a module does not start as expected. -/
  | headerNotRecognized
  | scriptingFailed (what : String)
deriving DecidableEq

/-- How serious a notice is. -/
inductive Severity where
  | warning
  | error
deriving DecidableEq

/-- The name of a severity. -/
def Severity.name : Severity → String
  | warning => "WARNING"
  | error => "ERROR"

namespace Notice

/-- How serious a notice is. -/
def severity : Notice → Severity
  | duplicateIgnored _ _ => .warning
  | headerNotRecognized => .warning
  | scriptingFailed _ => .error

/-- The wording of a notice. -/
def message : Notice → String
  | duplicateIgnored schema name => "Duplicate object " ++ schema ++ "." ++ name ++ " ignored"
  | headerNotRecognized => "Definition header not recognized, scripting drop and create instead"
  | scriptingFailed what => "Failed to script " ++ what

/-- The line of a notice. -/
def line
    (notice : Notice) : String :=
  notice.severity.name ++ ": " ++ notice.message

end Notice

/-- The answer of scripting and the notices given on the way. -/
structure Scripting (α : Type) where
  notices : List Notice
  result : Except ScriptFailure α

namespace Scripting

variable {α β : Type}

/-- An answer without notices. -/
def ofResult
    (result : Except ScriptFailure α) : Scripting α :=
  ⟨[], result⟩

/-- A failure. -/
def fail
    (failure : ScriptFailure) : Scripting α :=
  ⟨[], .error failure⟩

/-- A notice. -/
def notice
    (notice : Notice) : Scripting Unit :=
  ⟨[notice], .ok ()⟩

/-- One step after the other; a failure ends the run. -/
def andThen
    (first : Scripting α)
    (next : α → Scripting β) : Scripting β :=
  match first.result with
  | .error failure => ⟨first.notices, .error failure⟩
  | .ok value =>
    let second := next value
    ⟨first.notices ++ second.notices, second.result⟩

instance : Monad Scripting where
  pure value := ⟨[], .ok value⟩
  bind := andThen

instance : MonadLift (Except ScriptFailure) Scripting := ⟨ofResult⟩

/-- A failure of scripting leaves a notice that says what could not be scripted. -/
def guarded
    (what : String)
    (run : Scripting α) : Scripting α :=
  match run.result with
  | .ok _ => run
  | .error failure =>
    if failure.isScripting then ⟨run.notices ++ [.scriptingFailed what], run.result⟩
    else run

end Scripting

end SchemaDelta
