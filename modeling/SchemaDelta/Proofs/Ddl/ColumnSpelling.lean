import SchemaDelta.Proofs.Ddl.ColumnAlignment
import SchemaDelta.Proofs.Ddl.QualifiedName
import SchemaDelta.Proofs.Text.LineEnds

/-!
# Spellings of aligned columns

Columns with one name in lower case keep their order when they are aligned.  Two tables that differ
in the order of their columns have the same columns in the same places exactly when those whose
names differ only in case stand in the same order.  The definition of a column starts with its name
in quotes, so that the lines of a table statement tell which spelling stands where.
-/

namespace SchemaDelta

open Attempt (bind_eq_ok_iff ensures_bind ensures_error ensures_ite ensures_pure)
open Text (withinLines)

/-! ## Columns with one name -/

section Aligning

variable {name other : String} {names : List String} {columns references : List Value}
  {column : Value}

/-- The first item that passes a test is the first one of all that do. -/
private theorem filter_eq_cons
    {test : Value → Bool}
    (isFirst : columns.find? test = some column) :
    columns.filter test = column :: (columns.eraseP test).filter test := by
  induction columns with
  | nil => cases isFirst
  | cons first columns ih =>
      by_cases passes : test first = true
      · rw [List.find?_cons_of_pos passes, Option.some.injEq] at isFirst
        rw [List.filter_cons_of_pos passes, List.eraseP_cons_of_pos passes, isFirst]
      · rw [List.find?_cons_of_neg passes] at isFirst
        rw [List.filter_cons_of_neg passes, List.eraseP_cons_of_neg passes,
          List.filter_cons_of_neg passes]
        exact ih isFirst

/-- Columns of another name stay when a column is taken. -/
private theorem filter_eraseP_of_ne
    (distinct : name ≠ other) :
    (columns.eraseP (Value.isCalled other)).filter (Value.isCalled name) =
      columns.filter (Value.isCalled name) := by
  induction columns with
  | nil => rfl
  | cons first columns ih =>
      by_cases taken : first.isCalled other = true
      · have differs : ¬first.isCalled name = true := by
          rw [Value.isCalled_iff] at taken ⊢
          exact fun called => distinct (called.symm.trans taken)
        rw [List.eraseP_cons_of_pos taken, List.filter_cons_of_neg differs]
      · rw [List.eraseP_cons_of_neg taken, List.filter_cons, List.filter_cons, ih]

/-- Columns that have one name in lower case keep their order. -/
theorem filter_isCalled_alignedTo :
    (alignedTo names columns).filter (Value.isCalled name) =
      columns.filter (Value.isCalled name) := by
  induction names generalizing columns with
  | nil => rfl
  | cons other names ih =>
      rw [alignedTo]
      cases isFirst : columns.find? (Value.isCalled other) with
      | none => exact ih
      | some column =>
          have named : column.isCalled other = true := List.find?_some isFirst
          by_cases same : name = other
          · rw [same] at ih ⊢
            rw [List.filter_cons_of_pos named, ih, filter_eq_cons isFirst]
          · have differs : ¬column.isCalled name = true := by
              rw [Value.isCalled_iff] at named ⊢
              exact fun called => same (called.symm.trans named)
            rw [List.filter_cons_of_neg differs, ih, filter_eraseP_of_ne same]

/-- Aligned columns have the names in lower case that they are aligned to. -/
theorem map_lowerName_alignedTo
    (perm : names.Perm (columns.map Value.lowerName)) :
    (alignedTo names columns).map Value.lowerName = names := by
  induction names generalizing columns with
  | nil =>
      have none : columns = [] := List.map_eq_nil_iff.mp (List.perm_nil.mp perm.symm)
      rw [none]
      rfl
  | cons name names ih =>
      rw [alignedTo]
      cases isFirst : columns.find? (Value.isCalled name) with
      | none =>
          rcases List.mem_map.mp (perm.subset List.mem_cons_self) with ⟨column, member, named⟩
          exact absurd (Value.isCalled_iff.mpr named) (List.find?_eq_none.mp isFirst column member)
      | some column =>
          have named : column.lowerName = name := Value.isCalled_iff.mp (List.find?_some isFirst)
          have restPerm : names.Perm
              ((columns.eraseP (Value.isCalled name)).map Value.lowerName) := by
            have whole := perm.trans ((cons_eraseP_perm isFirst).symm.map Value.lowerName)
            rw [List.map_cons, named] at whole
            exact whole.cons_inv
          dsimp only
          rw [List.map_cons, named, ih restPerm]

/-- Items with the same keys in the same places are the same when those under each key are. -/
private theorem eq_of_keys_eq
    {items others : List String}
    (key : String → String)
    (sameKeys : items.map key = others.map key)
    (sameUnder : ∀ place, items.filter (fun item => key item == place) =
      others.filter fun item => key item == place) :
    items = others := by
  induction items generalizing others with
  | nil => exact (List.map_eq_nil_iff.mp sameKeys.symm).symm
  | cons item items ih =>
      cases others with
      | nil => cases sameKeys
      | cons other others =>
          rcases List.cons.inj sameKeys with ⟨sameKey, sameRest⟩
          have first := sameUnder (key item)
          simp only [List.filter_cons, sameKey, beq_self_eq_true, if_true, List.cons.injEq] at first
          rw [first.1, ih sameRest]
          intro place
          have under := sameUnder place
          rw [List.filter_cons, List.filter_cons, ← sameKey] at under
          split at under
          · exact (List.cons.inj under).2
          · exact under

theorem map_name_filter_isCalled
    (columns : List Value) :
    (columns.filter (Value.isCalled name)).map (·.letters "name") =
      (columns.map (·.letters "name")).filter fun letters =>
        Text.lower letters == name := by
  rw [List.filter_map]
  rfl

/--
Columns that are aligned to columns with the same names in lower case have the same spellings in the
same places exactly when the columns of each name come in the order of their spellings.
-/
theorem map_name_alignedTo_eq_iff
    (perm : (references.map Value.lowerName).Perm (columns.map Value.lowerName)) :
    (alignedTo (references.map Value.lowerName) columns).map (·.letters "name") =
        references.map (·.letters "name") ↔
      ∀ name, (columns.filter (Value.isCalled name)).map (·.letters "name") =
        (references.filter (Value.isCalled name)).map (·.letters "name") := by
  constructor
  · intro same name
    have kept : (alignedTo (references.map Value.lowerName) columns).filter
        (Value.isCalled name) = columns.filter (Value.isCalled name) := filter_isCalled_alignedTo
    rw [← kept, map_name_filter_isCalled, same, map_name_filter_isCalled]
  · intro same
    apply eq_of_keys_eq Text.lower
    · rw [List.map_map, List.map_map]
      exact map_lowerName_alignedTo perm
    · intro name
      rw [← map_name_filter_isCalled, ← map_name_filter_isCalled, filter_isCalled_alignedTo, same]

end Aligning

/-! ## Names in definitions -/

namespace Dialect

variable {dialect : Dialect} {options : Options} {name other text otherText : String}

/-- A text starts with a name in quotes and a blank. -/
def Spells
    (dialect : Dialect)
    (name text : String) : Prop :=
  ∃ rest, text = dialect.quote name ++ (" " ++ rest)

private theorem spells_append
    (rest : String)
    (spells : dialect.Spells name text) :
    dialect.Spells name (text ++ rest) := by
  rcases spells with ⟨first, rfl⟩
  exact ⟨first ++ rest, by rw [String.append_assoc, String.append_assoc]⟩

/-- The definition of a column starts with its name. -/
theorem columnDefinition_spells
    {column : Value}
    (typed : column.isTyped .column = true) :
    Attempt.Ensures (dialect.Spells (column.letters "name"))
      (dialect.statements.columnDefinition options column) := by
  have named : ∀ type : String, dialect.Spells (column.letters "name")
      (dialect.quote (column.letters "name") ++ " " ++ type) :=
    fun type => ⟨type, String.append_assoc ..⟩
  have quoted : dialect.quotePart column "name" = .ok (dialect.quote (column.letters "name")) :=
    quotePart_ok typed ObjectClass.column_declares_name
  cases dialect with
  | microsoftSql =>
      change Attempt.Ensures _ (MicrosoftSql.columnDefinition options column)
      rw [MicrosoftSql.columnDefinition, MicrosoftSql.dialect, quoted, Attempt.ok_bind]
      refine ensures_bind fun _ => ensures_bind fun type => ensures_bind fun isComputed =>
        ensures_ite (ensures_bind fun isPersisted => ensures_pure ?_)
          (ensures_bind fun _ => ensures_bind fun _ => ensures_bind fun _ => ensures_pure ?_)
      · split
        · exact spells_append _ (named type)
        · exact named type
      · exact spells_append _ (spells_append _ (spells_append _ (spells_append _ (named type))))
  | mySql =>
      change Attempt.Ensures _ (MySql.columnDefinition options column)
      rw [MySql.columnDefinition, MySql.dialect, quoted, Attempt.ok_bind]
      refine ensures_bind fun _ => ensures_bind fun type => ensures_bind fun _ =>
        ensures_ite (ensures_pure (named type.display))
          (ensures_bind fun _ => ensures_bind fun _ => ensures_bind fun _ => ensures_pure ?_)
      exact spells_append _ (spells_append _ (spells_append _ (spells_append _ (named _))))
  | postgreSql =>
      change Attempt.Ensures _ (PostgreSql.columnDefinition options column)
      rw [PostgreSql.columnDefinition, PostgreSql.dialect, quoted, Attempt.ok_bind]
      refine ensures_bind fun _ => ensures_bind fun type => ensures_bind fun _ =>
        ensures_bind fun _ => ensures_bind fun _ => ensures_pure ?_
      exact spells_append _ (spells_append _ (spells_append _ (spells_append _ (named _))))

/-- Of a name in quotes the letters within lines are those of the name, in quotes. -/
private theorem withinLines_quote
    (name : String) :
    withinLines (dialect.quote name).toList =
      (dialect.quote (String.ofList (withinLines name.toList))).toList := by
  have quotes : Text.isLineEnd dialect.openingQuote = false ∧
      Text.isLineEnd dialect.closingQuote = false := by
    cases dialect <;> decide
  have escaped : ∀ letters : List Char,
      withinLines (dialect.escape letters) = dialect.escape (withinLines letters) := by
    intro letters
    induction letters with
    | nil => rfl
    | cons letter letters ih =>
        rw [escape_cons, Text.withinLines_append, ih]
        cases ends : Text.isLineEnd letter with
        | true =>
            have notQuote : letter ≠ dialect.closingQuote := by
              rintro rfl
              rw [quotes.2] at ends
              cases ends
            rw [Text.withinLines_cons_of_isLineEnd ends, if_neg notQuote,
              Text.withinLines_cons_of_isLineEnd ends]
            rfl
        | false =>
            rw [Text.withinLines_cons_of_not_isLineEnd ends, escape_cons]
            apply congrArg (· ++ dialect.escape (withinLines letters))
            split <;> simp [withinLines, ends]
  rw [toList_quote, toList_quote, String.toList_ofList, ← escaped,
    Text.withinLines_cons_of_not_isLineEnd quotes.1, Text.withinLines_append,
    Text.withinLines_cons_of_not_isLineEnd quotes.2]
  rfl

/-- The letters within the lines of a text tell those of the name that it starts with. -/
theorem withinLines_eq_of_spells
    {rest otherRest : List Char}
    (spells : dialect.Spells name text)
    (otherSpells : dialect.Spells other otherText)
    (same : withinLines text.toList ++ rest = withinLines otherText.toList ++ otherRest) :
    withinLines name.toList = withinLines other.toList := by
  have isRead : ∀ (name text : String) (rest : List Char), dialect.Spells name text →
      ∃ behind, dialect.readQuoted (withinLines text.toList ++ rest) =
        some (withinLines name.toList, behind) := by
    rintro name _ rest ⟨behind, rfl⟩
    refine ⟨' ' :: (withinLines behind.toList ++ rest), ?_⟩
    have read := readQuoted_quote
      (endsQuoted_blank dialect (withinLines behind.toList ++ rest))
      (String.ofList (withinLines name.toList))
    rw [String.toList_ofList] at read
    rw [String.toList_append, String.toList_append, Text.withinLines_append, withinLines_quote,
      Text.withinLines_append, List.append_assoc, List.append_assoc]
    exact read
  rcases isRead name text rest spells with ⟨behind, read⟩
  rcases isRead other otherText otherRest otherSpells with ⟨otherBehind, otherRead⟩
  rw [same, otherRead, Option.some.injEq, Prod.mk.injEq] at read
  exact read.1.symm

end Dialect

/-! ## Columns in lines -/

section Lines

variable {dialect : Dialect} {definition : Value → String} {columns others : List Value}

/-- The lines of definitions behind a separator. -/
private theorem separated_lines
    (column : Value)
    (columns : List Value) :
    ",\n" ++ ",\n".intercalate
        (((column :: columns).map definition).map fun text => indent ++ text) =
      String.join ((column :: columns).map fun column => ",\n" ++ indent ++ definition column) := by
  induction columns generalizing column with
  | nil => simp [String.join_cons, String.append_assoc]
  | cons next columns ih =>
      rw [List.map_cons, List.map_cons, List.map_cons, List.map_cons,
        String.intercalate_cons_cons, List.map_cons, String.join_cons, ← ih next]
      simp only [List.map_cons, String.append_assoc]

/-- Columns with the same names in lower case whose definitions read the same are spelled alike. -/
private theorem map_name_eq_of_joined
    (spells : ∀ column ∈ columns ++ others,
      dialect.Spells (column.letters "name") (definition column))
    (told : ∀ left ∈ columns, ∀ right ∈ others, left.letters "name" = right.letters "name" →
      definition left = definition right)
    (sameLower : columns.map Value.lowerName = others.map Value.lowerName)
    (same :
      withinLines (String.join (columns.map fun column =>
          ",\n" ++ indent ++ definition column)).toList =
        withinLines (String.join (others.map fun column =>
          ",\n" ++ indent ++ definition column)).toList) :
    columns.map (·.letters "name") = others.map (·.letters "name") := by
  induction columns generalizing others with
  | nil => rw [List.map_eq_nil_iff.mp sameLower.symm]
  | cons column columns ih =>
      cases others with
      | nil => cases sameLower
      | cons other others =>
          rcases List.cons.inj sameLower with ⟨sameFirst, sameRest⟩
          simp only [List.map_cons, String.join_cons, String.toList_append,
            Text.withinLines_append, List.append_assoc, List.append_cancel_left_eq] at same
          have sameName : column.letters "name" = other.letters "name" :=
            Text.eq_of_lower_eq sameFirst (Dialect.withinLines_eq_of_spells
              (spells column (by simp)) (spells other (by simp)) same)
          have sameDefinition : definition column = definition other :=
            told column List.mem_cons_self other List.mem_cons_self sameName
          rw [sameDefinition, List.append_cancel_left_eq] at same
          rw [List.map_cons, List.map_cons, sameName, ih ?_ ?_ sameRest same]
          · intro held member
            apply spells held
            rcases List.mem_append.mp member with among | among <;> simp [among]
          · intro left leftMember right rightMember
            exact told left (List.mem_cons_of_mem column leftMember) right
              (List.mem_cons_of_mem other rightMember)

/--
Columns with the same names in lower case whose definitions stand in the same lines are spelled
alike.
-/
theorem map_name_eq_of_withinLines_eq
    (spells : ∀ column ∈ columns ++ others,
      dialect.Spells (column.letters "name") (definition column))
    (told : ∀ left ∈ columns, ∀ right ∈ others, left.letters "name" = right.letters "name" →
      definition left = definition right)
    (sameLower : columns.map Value.lowerName = others.map Value.lowerName)
    (same :
      withinLines (",\n".intercalate
          ((columns.map definition).map fun text => indent ++ text)).toList =
        withinLines (",\n".intercalate
          ((others.map definition).map fun text => indent ++ text)).toList) :
    columns.map (·.letters "name") = others.map (·.letters "name") := by
  cases columns with
  | nil => rw [List.map_eq_nil_iff.mp sameLower.symm]
  | cons column columns =>
      cases others with
      | nil => cases sameLower
      | cons other others =>
          apply map_name_eq_of_joined spells told sameLower
          rw [← separated_lines, ← separated_lines, String.toList_append, String.toList_append,
            Text.withinLines_append, Text.withinLines_append, same]

end Lines

end SchemaDelta
