import SchemaDelta.Proofs.Ddl.Identifier

/-!
# Qualified names are read back

A reader of names knows nothing but the quotes of a dialect and the dot between a schema and a name.
It finds every qualified name again in front of any text that does not go on with the closing quote
or with a dot.  So no name ends its quotes early, and no two qualified names are written alike.
-/

namespace SchemaDelta.Dialect

/-! ## A reader of names -/

/-- The letters up to a closing quote that is not written twice, and what stands behind it. -/
def readEscaped
    (closing : Char) : List Char → Option (List Char × List Char)
  | [] => none
  | [letter] => if letter = closing then some ([], []) else none
  | first :: second :: rest =>
    if first = closing then
      if second = closing then
        (readEscaped closing rest).map fun (letters, behind) => (closing :: letters, behind)
      else some ([], second :: rest)
    else
      (readEscaped closing (second :: rest)).map fun (letters, behind) => (first :: letters, behind)

/-- The letters of a name in quotes, and what stands behind it. -/
def readQuoted
    (dialect : Dialect) : List Char → Option (List Char × List Char)
  | [] => none
  | letter :: rest =>
    if letter = dialect.openingQuote then readEscaped dialect.closingQuote rest else none

/-- A name in quotes, or two with a dot between them: a schema, which may be missing, and a name. -/
def readQualified
    (dialect : Dialect)
    (text : List Char) : Option ((List Char × List Char) × List Char) := do
  let (first, behind) ← dialect.readQuoted text
  match behind with
  | '.' :: rest =>
    let (second, behind) ← dialect.readQuoted rest
    return ((first, second), behind)
  | behind => return (([], first), behind)

/-- A text that goes on with no closing quote. -/
def EndsQuoted
    (dialect : Dialect)
    (rest : List Char) : Prop :=
  rest.head? ≠ some dialect.closingQuote

/-- A text that goes on with neither a closing quote nor a dot. -/
structure EndsQualified
    (dialect : Dialect)
    (rest : String) : Prop where
  quote : dialect.EndsQuoted rest.toList
  dot : rest.toList.head? ≠ some '.'

variable {dialect : Dialect} {letters rest : List Char} {letter : Char}

/-! ## Names in quotes -/

theorem escape_cons
    (letter : Char)
    (letters : List Char) :
    dialect.escape (letter :: letters) =
      (if letter = dialect.closingQuote then [letter, letter] else [letter]) ++
        dialect.escape letters :=
  List.flatMap_cons

private theorem readEscaped_cons_of_ne
    {closing : Char}
    (plain : letter ≠ closing)
    (notLast : rest ≠ []) :
    readEscaped closing (letter :: rest) =
      (readEscaped closing rest).map fun (letters, behind) => (letter :: letters, behind) := by
  cases rest with
  | nil => exact absurd rfl notLast
  | cons second rest => rw [readEscaped, if_neg plain]

/-- An escaped name is read up to the closing quote that is its end, whatever letters it has. -/
theorem readEscaped_escape
    (ends : dialect.EndsQuoted rest)
    (letters : List Char) :
    readEscaped dialect.closingQuote (dialect.escape letters ++ dialect.closingQuote :: rest) =
      some (letters, rest) := by
  induction letters with
  | nil =>
      cases rest with
      | nil => rw [escape, List.flatMap_nil, List.nil_append, readEscaped, if_pos rfl]
      | cons next more =>
          have single : next ≠ dialect.closingQuote := fun same => ends (congrArg some same)
          rw [escape, List.flatMap_nil, List.nil_append, readEscaped, if_pos rfl, if_neg single]
  | cons letter letters ih =>
      rw [escape_cons]
      by_cases isClosing : letter = dialect.closingQuote
      · rw [if_pos isClosing, List.append_assoc, List.cons_append, List.cons_append,
          List.nil_append, isClosing, readEscaped, if_pos rfl, if_pos rfl, ih]
        rfl
      · rw [if_neg isClosing, List.append_assoc, List.cons_append, List.nil_append,
          readEscaped_cons_of_ne isClosing (by simp), ih]
        rfl

theorem toList_quote
    (name : String) :
    (dialect.quote name).toList =
      dialect.openingQuote :: (dialect.escape name.toList ++ [dialect.closingQuote]) := by
  rw [quote, String.toList_ofList, List.cons_append]

/-- A name in quotes is read back in front of any text that does not go on with a closing quote. -/
theorem readQuoted_quote
    (ends : dialect.EndsQuoted rest)
    (name : String) :
    dialect.readQuoted ((dialect.quote name).toList ++ rest) = some (name.toList, rest) := by
  rw [toList_quote, List.cons_append, List.append_assoc, List.cons_append, List.nil_append,
    readQuoted, if_pos rfl, readEscaped_escape ends]

/-! ## Qualified names -/

private theorem endsQuoted_dot
    (dialect : Dialect)
    (rest : List Char) :
    dialect.EndsQuoted ('.' :: rest) := by
  intro same
  cases dialect <;> exact absurd (Option.some.inj same) (by decide)

theorem endsQuoted_blank
    (dialect : Dialect)
    (rest : List Char) :
    dialect.EndsQuoted (' ' :: rest) := by
  intro same
  cases dialect <;> exact absurd (Option.some.inj same) (by decide)

theorem endsQualified_blank
    (dialect : Dialect)
    (rest : String) :
    dialect.EndsQualified (" " ++ rest) := by
  constructor
  · rw [String.toList_append]
    exact endsQuoted_blank dialect rest.toList
  · intro isDot
    rw [String.toList_append] at isDot
    exact absurd (Option.some.inj isDot) (by decide)

/-- A schema is read back with the name behind it, and a name without a schema is read back alone. -/
theorem readQualified_tableText
    {options : Options}
    (qualifies : options.useSchemaName = true)
    (schema name : String)
    {rest : String}
    (ends : dialect.EndsQualified rest) :
    dialect.readQualified (dialect.tableText options schema name ++ rest).toList =
      some ((schema.toList, name.toList), rest.toList) := by
  rw [tableText, qualifies, Bool.true_and]
  cases given : schema.isEmpty with
  | true =>
      obtain rfl := String.isEmpty_iff.mp given
      rw [Bool.not_true, if_neg Bool.false_ne_true, String.toList_append, readQualified,
        readQuoted_quote ends.quote]
      have dot := ends.dot
      generalize rest.toList = behind at dot
      simp only [Option.bind_eq_bind, Option.bind_some]
      split
      · exact absurd rfl dot
      · rfl
  | false =>
      rw [Bool.not_false, if_pos rfl, String.toList_append, String.toList_append,
        String.toList_append, List.append_assoc, List.append_assoc, readQualified]
      have afterSchema := readQuoted_quote
        (endsQuoted_dot dialect ((dialect.quote name).toList ++ rest.toList)) schema
      change dialect.readQuoted ((dialect.quote schema).toList ++
        (".".toList ++ ((dialect.quote name).toList ++ rest.toList))) = _ at afterSchema
      rw [afterSchema]
      simp only [Option.bind_eq_bind, Option.bind_some, readQuoted_quote ends.quote]
      rfl

/-- A schema as it is given: a text, or nothing. -/
def schemaValue : Option String → Value
  | none => .null
  | some schema => .text schema

/-- A schema that is missing or empty is left out of a qualified name. -/
theorem qualifiedName_schemaValue
    (options : Options)
    (schema : Option String)
    (name : String) :
    dialect.qualifiedName options (schemaValue schema) (.text name) =
      .ok (dialect.tableText options (schema.getD "") name) := by
  cases schema with
  | some schema => exact dialect.qualifiedName_text options schema name
  | none =>
      rw [schemaValue, qualifiedName, tableText]
      cases options.useSchemaName with
      | true => rfl
      | false => rfl

/--
Every schema and every name make a qualified name.  Two qualified names, each in front of a text that
goes on with neither the closing quote nor a dot, are the same letters only if the schemas, the names
and the texts behind them are the same, where a missing schema counts as an empty one.
-/
theorem qualifiedName_append_eq_iff
    (dialect : Dialect)
    {options : Options}
    (qualifies : options.useSchemaName = true)
    (schema otherSchema : Option String)
    (name otherName : String) :
    ∃ written otherWritten,
      dialect.qualifiedName options (schemaValue schema) (.text name) = .ok written ∧
        dialect.qualifiedName options (schemaValue otherSchema) (.text otherName) =
          .ok otherWritten ∧
        ∀ rest otherRest, dialect.EndsQualified rest → dialect.EndsQualified otherRest →
          (written ++ rest = otherWritten ++ otherRest ↔
            schema.getD "" = otherSchema.getD "" ∧ name = otherName ∧ rest = otherRest) := by
  refine ⟨_, _, qualifiedName_schemaValue options schema name,
    qualifiedName_schemaValue options otherSchema otherName, ?_⟩
  intro rest otherRest ends otherEnds
  constructor
  · intro same
    have read := readQualified_tableText qualifies (schema.getD "") name ends
    have otherRead := readQualified_tableText qualifies (otherSchema.getD "") otherName otherEnds
    rw [same, otherRead, Option.some.injEq, Prod.mk.injEq, Prod.mk.injEq] at read
    rcases read with ⟨⟨sameSchema, sameName⟩, sameRest⟩
    exact ⟨(String.toList_inj.mp sameSchema).symm, (String.toList_inj.mp sameName).symm,
      (String.toList_inj.mp sameRest).symm⟩
  · rintro ⟨sameSchema, rfl, rfl⟩
    rw [sameSchema]

/-- A name that has brackets and a dot in it is not taken for a schema and a name. -/
theorem qualifiedName_append_ne_of_brackets :
    ({} : Options).useSchemaName = true ∧ microsoftSql.EndsQualified " (" ∧
      ∃ written otherWritten,
        microsoftSql.qualifiedName {} .null (.text "a].[b") = .ok written ∧
          microsoftSql.qualifiedName {} (.text "a") (.text "b") = .ok otherWritten ∧
          written ++ " (" ≠ otherWritten ++ " (" := by
  have ends : microsoftSql.EndsQualified " (" := ⟨by unfold EndsQuoted; decide, by decide⟩
  rcases @qualifiedName_append_eq_iff microsoftSql {} rfl none (some "a") "a].[b" "b"
    with ⟨written, otherWritten, writtenOk, otherWrittenOk, same_iff⟩
  refine ⟨rfl, ends, written, otherWritten, writtenOk, otherWrittenOk, fun same => ?_⟩
  exact absurd ((same_iff _ _ ends ends).mp same).2.1 (by decide)

end SchemaDelta.Dialect
