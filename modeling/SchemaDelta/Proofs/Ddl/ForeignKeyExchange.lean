import SchemaDelta.Proofs.Comparison.Sameness
import SchemaDelta.Proofs.Ddl.Convergence
import SchemaDelta.Proofs.Ddl.InboundForeignKeys
import SchemaDelta.Proofs.Migration.Consistency

/-!
# Exchange of foreign keys

A foreign key that both sides of an altered table have is either left alone, when the rows of both
sides are the same, or it is dropped and added.  Tables that are the same have foreign keys of the
same names that reference the same tables.
-/

namespace SchemaDelta

namespace Dialect

variable {dialect : Dialect} {source target rows group : List Value} {row : Value}
variable {touched : List String}

/-! ## Groups of both sides -/

end Dialect

namespace Value

variable {source target row : Value}

end Value

end SchemaDelta
