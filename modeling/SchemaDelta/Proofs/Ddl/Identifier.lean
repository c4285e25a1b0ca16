import SchemaDelta.Ddl.TableChange
import SchemaDelta.Proofs.Attempt
import SchemaDelta.Proofs.Keyed
import SchemaDelta.Proofs.Value.Equality

/-!
# Keys of names

A dialect takes two names to be the same exactly when it folds them to one text.
-/

namespace SchemaDelta

/-- Entries under texts, given under the letters of the texts. -/
def textKeyed
    {α : Type}
    (entries : List (String × α)) : List (Value × α) :=
  entries.map fun entry => (.text entry.1, entry.2)

/-- Under a text stands what is given under its letters. -/
@[simp]
theorem lookup_textKeyed
    {α : Type}
    (entries : List (String × α))
    (name : String) :
    (textKeyed entries).lookup (.text name) = entries.lookup name := by
  unfold textKeyed
  induction entries with
  | nil => rfl
  | cons entry entries ih =>
      rw [List.map_cons, List.lookup_cons, List.lookup_cons]
      cases same : name == entry.1 with
      | true => simp [same]
      | false => simpa [same] using ih

/-- Entries put one after the other under texts are put under their letters. -/
theorem ofList_textKeyed
    {α : Type}
    (entries : List (String × α)) :
    Keyed.ofList (textKeyed entries) = textKeyed (Keyed.ofList entries) :=
  Keyed.ofList_map Value.text (fun _ _ => rfl) entries

namespace Dialect

/-- The text that all names have in common that a dialect takes to be the same as a name. -/
def foldedName
    (dialect : Dialect)
    (name : String) : String :=
  if dialect.isCaseSensitive then name else Text.fold name

variable (dialect : Dialect)

@[simp]
theorem nameKey_text
    (name : String) :
    dialect.nameKey (.text name) = .ok (.text (dialect.foldedName name)) := by
  unfold nameKey foldedName
  cases dialect.isCaseSensitive with
  | true => rfl
  | false => rfl

@[simp]
theorem keyOf_text
    (name : String) :
    dialect.keyOf (.text name) = .ok (.text (dialect.foldedName name)) := by
  rw [keyOf, nameKey_text]
  rfl

/-- The folded text of a part of a row. -/
def foldedPart
    (part : String)
    (row : Value) : String :=
  dialect.foldedName (row.letters part)

/-- The key of a part that holds a text is the folded text. -/
theorem partKey_ok
    {part : String}
    {row : Value}
    (reads : row.part part = .ok (.text (row.letters part))) :
    dialect.partKey part row = .ok (.text (dialect.foldedPart part row)) := by
  rw [partKey, reads, Attempt.ok_bind, keyOf_text, foldedPart]

/-! ## Quoted names -/

/-- The name of a table in statements. -/
def tableText
    (options : Options)
    (schema name : String) : String :=
  if options.useSchemaName && !schema.isEmpty then
    dialect.quote schema ++ "." ++ dialect.quote name
  else dialect.quote name

theorem qualifiedName_text
    (options : Options)
    (schema name : String) :
    dialect.qualifiedName options (.text schema) (.text name) =
      .ok (dialect.tableText options schema name) := by
  have given : (Value.text schema).isTruthy = !schema.isEmpty := rfl
  rw [qualifiedName, tableText, given]
  cases options.useSchemaName && !schema.isEmpty with
  | true => rfl
  | false => rfl

/-! ## Lists of keys -/

/-- Among texts a text is found by its letters. -/
@[simp]
theorem contains_map_text
    (names : List String)
    (name : String) :
    (names.map Value.text).contains (.text name) = names.contains name := by
  rw [List.contains_eq_any_beq, List.contains_eq_any_beq, List.any_map]
  rfl

end Dialect

/-! ## Keys of qualified names -/

namespace Value

/-- The key under which a schema and a name stand. -/
def nameKey
    (name : String × String) : Value :=
  .list [.text name.1, .text name.2]

theorem nameKey_beq
    (left right : String × String) :
    (nameKey left == nameKey right) = (left == right) := by
  rw [Bool.eq_iff_iff]
  simp [nameKey, Prod.ext_iff]

/-- The names among the keys of names. -/
@[simp]
theorem contains_map_nameKey
    (names : List (String × String))
    (name : String × String) :
    (names.map nameKey).contains (nameKey name) = names.contains name := by
  rw [List.contains_eq_any_beq, List.contains_eq_any_beq, List.any_map]
  exact congrArg (List.any names) (funext fun other => nameKey_beq name other)

theorem firstByKey_nameKey
    (names : List (String × String)) :
    Keyed.firstByKey id (names.map nameKey) = (Keyed.firstByKey id names).map nameKey := by
  rw [Keyed.firstByKey_map]
  exact congrArg (List.map nameKey)
    (Keyed.firstByKey_congr (fun name => id (nameKey name)) id nameKey_beq names)

end Value

end SchemaDelta
