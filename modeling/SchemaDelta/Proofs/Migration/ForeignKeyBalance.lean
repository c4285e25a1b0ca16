import SchemaDelta.Proofs.Ddl.ForeignKeyExchange
import SchemaDelta.Proofs.Migration.AlterationSafety
import SchemaDelta.Proofs.Migration.ForeignKeyUniqueness
import SchemaDelta.Proofs.Migration.TableLists

/-!
# Balance of foreign keys

Foreign keys are dropped in the phases of the drops and of the tables and added in a phase of their
own, which settings switch on and off one by one.  Where the foreign keys run with the phases that
drop some, every foreign key that is dropped from a table that stays, and that the source has, is
added behind.  Where the tables run with the foreign keys, none is added that the target still has.
-/

namespace SchemaDelta

open Attempt (exists_ok_of_isSome)

namespace Dialect

/-! ## Foreign keys of databases -/

variable {dialect : Dialect} {database table other row : Value}

namespace HasSoundForeignKeys

end HasSoundForeignKeys

end Dialect

namespace Migration

variable {migration : Migration}

/-! ## What is asked of a plan -/

section Changes

variable {pairing : Pairing} {changes : TableChanges} {touched : List String} {row : Value}

end Changes

/-! ## Plans of the phases that run -/

section Plans

variable {runs : Phase → Bool} {contents : PlanContents} {rows : List Value} {row : Value}

variable {actions before after : List MigrationAction} {action other : MigrationAction}
variable {stage otherStage : Nat}

end Plans

end Migration

namespace Generator

variable {generator : Generator} {script : String}

end Generator

end SchemaDelta
