import Mathlib.Data.List.Dedup
import SchemaDelta.Proofs.Ddl.GroupOrder
import SchemaDelta.Proofs.Ddl.ScriptingFailure
import SchemaDelta.Proofs.Value.Filled

/-!
# Index statements

Rows of many indexes become one statement an index, which lists the columns of all of its rows by
position.  Nothing is left out and nothing is moved from one index to another, however the rows are
mixed.  Scripting fails only for an index of a kind that the dialect does not create.
-/

namespace SchemaDelta

open Value (groupName groupsOf int_ranksBy listing listingRank listing_ranksBy sortedOn)

/-! ## Traversals that may fail -/

/-- A traversal that fails for some items fails as it does for one of them. -/
theorem Attempt.mapM_ok_or_error
    {α β : Type}
    {attempt : α → Attempt β}
    {isGood : α → Bool}
    {result : α → β}
    {failure : α → ScriptFailure}
    {items : List α}
    (good : ∀ item ∈ items, isGood item = true → attempt item = .ok (result item))
    (bad : ∀ item ∈ items, isGood item = false → attempt item = .error (failure item)) :
    (∀ item ∈ items, isGood item = true) ∧ items.mapM attempt = .ok (items.map result) ∨
      ∃ item ∈ items, isGood item = false ∧ items.mapM attempt = .error (failure item) := by
  induction items with
  | nil => exact Or.inl ⟨by simp, rfl⟩
  | cons item items ih =>
      rw [List.mapM_cons]
      cases first : isGood item with
      | false =>
          rw [bad item List.mem_cons_self first]
          exact Or.inr ⟨item, List.mem_cons_self, first, rfl⟩
      | true =>
          rw [good item List.mem_cons_self first, ok_bind]
          rcases ih (fun other member => good other (List.mem_cons_of_mem item member))
              (fun other member => bad other (List.mem_cons_of_mem item member)) with
            ⟨others, run⟩ | ⟨other, member, otherBad, run⟩
          · rw [run]
            exact Or.inl ⟨List.forall_mem_cons.mpr ⟨first, others⟩, rfl⟩
          · rw [run]
            exact Or.inr ⟨other, List.mem_cons_of_mem item member, otherBad, rfl⟩

/-! ## Groups of listed rows -/

namespace Value

variable {listed group : List Value}

/-- Groups of rows in an order: each holds a row that is before all rows of the later groups. -/
theorem groupsOf_pairwise
    {before : Value → Value → Prop}
    (ordered : listed.Pairwise before) :
    (groupsOf listed).Pairwise fun left right =>
      ∃ row ∈ left, ∀ other ∈ right, before row other := by
  have grouped : groupsOf listed = groupsBy id listed := rfl
  rw [grouped]
  exact groupsBy_pairwise ordered

/-- A group holds the listed rows of its name and is not empty. -/
theorem exists_row_of_mem_groupsOf
    (member : group ∈ groupsOf listed) :
    ∃ row ∈ group, group = sortedOn (fun row => .int (row.number "ordinal_position"))
      (listed.filter fun other => other.letters "name" == row.letters "name") := by
  rcases List.mem_map.mp member with ⟨name, kept, rfl⟩
  rcases List.mem_map.mp ((Keyed.firstByKey_sublist id _).subset kept) with ⟨row, listedRow, rfl⟩
  exact ⟨row, mem_sortedOn.mpr (List.mem_filter.mpr ⟨listedRow, beq_self_eq_true _⟩), rfl⟩

theorem headD_mem_of_mem_groupsOf
    (member : group ∈ groupsOf listed) :
    group.headD .null ∈ group := by
  rcases exists_row_of_mem_groupsOf member with ⟨row, inGroup, _⟩
  rcases List.exists_cons_of_ne_nil (List.ne_nil_of_mem inGroup) with ⟨first, others, rfl⟩
  exact List.mem_cons_self

/-- The group is made of the listed rows that have its name, by position. -/
theorem eq_sortedOn_of_mem_groupsOf
    (member : group ∈ groupsOf listed) :
    group = sortedOn (fun row => .int (row.number "ordinal_position"))
      (listed.filter fun row => row.letters "name" == groupName group) := by
  rcases exists_row_of_mem_groupsOf member with ⟨row, _, equal⟩
  have headMember := headD_mem_of_mem_groupsOf member
  rw [equal, mem_sortedOn, List.mem_filter, ← equal, beq_iff_eq] at headMember
  rw [groupName, headMember.2]
  exact equal

/-- The names of groups are the names of the listed rows, each once. -/
theorem map_groupName_groupsOf :
    (groupsOf listed).map groupName =
      Keyed.firstByKey id (listed.map fun row => row.letters "name") := by
  rw [groupsOf, List.map_map]
  refine (List.map_congr_left fun name kept => ?_).trans (List.map_id _)
  have grouped : sortedOn (fun row => .int (row.number "ordinal_position"))
      (listed.filter fun row => row.letters "name" == name) ∈ groupsOf listed :=
    List.mem_map_of_mem kept
  have headMember := headD_mem_of_mem_groupsOf grouped
  exact beq_iff_eq.mp (List.mem_filter.mp (mem_sortedOn.mp headMember)).2

end Value

/-! ## Rows of indexes -/

namespace Dialect

/-- The field that holds the kind of an index. -/
def indexKindField : Dialect → String
  | microsoftSql => "type"
  | mySql => "index_type"
  | postgreSql => "type"

/--
A row of an index of the variant that a dialect scripts, with values of the declared types in its
fields.  The kind may be any text, also one that stands for no kind.
-/
structure IsIndexRow
    (dialect : Dialect)
    (row : Value) : Prop extends row.IsListed where
  ofClass : row.isA dialect.indexClass = true
  kind : ∃ kind, row.part dialect.indexKindField = .ok kind ∧ kind.asText?.isSome = true
  column : row.part "column_name" = .ok (.text (row.letters "column_name"))
  place : row.part "ordinal_position" = .ok (.int (row.number "ordinal_position"))
  descending : row.part "is_descending" = .ok (row.get "is_descending")
  unique : row.part "is_unique" = .ok (row.get "is_unique")
  filter : row.part "filter_definition" = .ok .null ∨
    ∃ condition, row.part "filter_definition" = .ok (.text condition)

/-- Typed rows of the variant that a dialect scripts are rows of its indexes. -/
theorem isIndexRow_of_isTyped
    {dialect : Dialect}
    {row : Value}
    (typed : row.isTyped dialect.indexClass = true) :
    dialect.IsIndexRow row := by
  have isIndex : row.isTyped .index = true :=
    Value.isTyped_of_isWithin typed (by cases dialect <;> decide)
  have ofClass : row.isA dialect.indexClass = true := by
    rcases Value.isTyped_iff.mp typed with ⟨_, _, rfl, isA, _⟩
    exact isA
  have truth : ∀ name, ObjectClass.index.declares name { item := .truth } = true →
      row.part name = .ok (row.get name) :=
    fun name declared => (Value.part_of_isTyped isIndex declared).1
  refine ⟨(Value.isRow_of_index isIndex).isListed, ofClass, ?_,
    Value.part_text_of_isTyped isIndex (by decide), Value.part_int_of_isTyped isIndex (by decide),
    truth "is_descending" (by decide), truth "is_unique" (by decide), ?_⟩
  · cases dialect with
    | microsoftSql =>
        have declared :
            ObjectClass.microsoftSqlIndex.declares "type" { item := .indexKind } = true := by
          decide
        rcases Value.part_of_isTyped typed declared with ⟨read, conforms⟩
        refine ⟨_, read, ?_⟩
        cases held : row.get "type" with
        | member known => rfl
        | _ => simp_all [Value.conforms, ItemType.admits]
    | mySql => exact ⟨_, Value.part_text_of_isTyped typed (by decide), rfl⟩
    | postgreSql => exact ⟨_, Value.part_text_of_isTyped typed (by decide), rfl⟩
  · exact Value.part_eq_null_or_text "filter_definition" isIndex (by decide)

/-- The kind of an index as a dialect reads it; MySQL ignores its case. -/
def indexKind : Dialect → Value → String
  | microsoftSql, row => row.letters "type"
  | mySql, row => Text.upper (row.letters "index_type")
  | postgreSql, row => row.letters "type"

/-- The kinds of indexes that a dialect creates. -/
def indexKinds : Dialect → List String
  | microsoftSql => ["CLUSTERED", "NONCLUSTERED", "XML", "SPATIAL"]
  | mySql => ["BTREE", "HASH", "FULLTEXT", "SPATIAL"]
  | postgreSql => ["btree", "gist", "hash", "gin"]

/-- A dialect creates indexes of the kind of a row. -/
def createsIndex
    (dialect : Dialect)
    (row : Value) : Bool :=
  dialect.indexKind row ∈ dialect.indexKinds

/-- Rows of one index agree on its kind, its uniqueness and its condition. -/
structure SameIndex
    (dialect : Dialect)
    (left right : Value) : Prop where
  kind : dialect.indexKind left = dialect.indexKind right
  unique : (left.get "is_unique").isTruthy = (right.get "is_unique").isTruthy
  filter : left.letters "filter_definition" = right.letters "filter_definition"

/-! ## Statements of indexes -/

/-- The columns of an index; if one is descending, every column says its direction. -/
def indexColumnList
    (dialect : Dialect)
    (group : List Value) : String :=
  ",".intercalate (group.map fun row =>
    dialect.quote (row.letters "column_name") ++
      if group.any fun row => (row.get "is_descending").isTruthy then
        if (row.get "is_descending").isTruthy then " DESC" else " ASC"
      else "")

/-- The words between `CREATE` and `INDEX`. -/
def indexWords
    (dialect : Dialect)
    (row : Value) : String :=
  let unique := if (row.get "is_unique").isTruthy then "UNIQUE " else ""
  match dialect with
  | microsoftSql =>
    if dialect.indexKind row = "CLUSTERED" then unique ++ "CLUSTERED "
    else if dialect.indexKind row = "NONCLUSTERED" then unique
    else dialect.indexKind row ++ " "
  | mySql =>
    if dialect.indexKind row ∈ ["FULLTEXT", "SPATIAL"] then dialect.indexKind row ++ " " else unique
  | postgreSql => unique

/-- The words for the method of an index, of which PostgreSQL leaves out the usual one. -/
def indexMethod
    (dialect : Dialect)
    (row : Value) : String :=
  if dialect.indexKind row = "btree" then "" else "USING " ++ dialect.indexKind row ++ " "

/-- The condition of an index, if it is not blank. -/
def indexCondition
    (row : Value) : Option String :=
  if (Text.trim (row.letters "filter_definition")).isEmpty then none
  else some (row.letters "filter_definition")

/-- The statement that creates an index: what it says of the index is read from one row. -/
def indexStatement
    (dialect : Dialect)
    (options : Options)
    (owner row : Value)
    (group : List Value) : String :=
  let head := "CREATE " ++ dialect.indexWords row ++ "INDEX " ++
    dialect.quote (row.letters "name") ++ " ON " ++
    dialect.tableText options (owner.letters "schema") (owner.letters "name")
  let columns := dialect.indexColumnList group
  match dialect with
  | microsoftSql =>
    head ++ "(" ++ columns ++ ")\n" ++
      ((indexCondition row).elim "" fun condition => indent ++ "WHERE " ++ condition ++ "\n") ++
      MicrosoftSql.batchEnd ++ "\n"
  | mySql =>
    head ++ " (" ++ columns ++ ")" ++
      (if dialect.indexKind row == "HASH" then " USING HASH" else "") ++ ";\n\n"
  | postgreSql =>
    head ++ " " ++ dialect.indexMethod row ++ "(" ++ columns ++ ")" ++
      ((indexCondition row).elim "" fun condition => " WHERE " ++ condition) ++ ";\n\n"

section Statements

variable {dialect : Dialect} {options : Options} {owner row other : Value} {rows group : List Value}

/-- A statement says of an index what every one of its rows says. -/
theorem indexStatement_eq_of_sameIndex
    (sameName : row.letters "name" = other.letters "name")
    (same : dialect.SameIndex row other) :
    dialect.indexStatement options owner row group =
      dialect.indexStatement options owner other group := by
  unfold indexStatement indexWords indexMethod indexCondition
  rw [sameName, same.kind, same.unique, same.filter]

/-- The columns of a group that is in order are listed in this order. -/
theorem indexColumns_ok
    (areRows : ∀ row ∈ group, dialect.IsIndexRow row)
    (inOrder : group.Pairwise fun left right =>
      left.number "ordinal_position" ≤ right.number "ordinal_position") :
    dialect.indexColumns group = .ok (dialect.indexColumnList group) := by
  have shows : group.anyM (fun row => do return (← row.part "is_descending").isTruthy : Value →
      Attempt Bool) = .ok (group.any fun row => (row.get "is_descending").isTruthy) := by
    apply Attempt.anyM_ok
    intro row member
    rw [(areRows row member).descending]
    rfl
  have sorted : Value.sortedBy (fun row => row.part "ordinal_position") group = .ok group := by
    rw [Value.sortedBy_part_int fun row member => (areRows row member).place,
      (int_ranksBy fun row : Value => row.number "ordinal_position").sortedOn_eq,
      inOrder.insertionSort_eq]
  have listed : ∀ row ∈ group, (do
        let column ← dialect.quotePart row "column_name"
        if !(group.any fun row => (row.get "is_descending").isTruthy) then return column
        return column ++
          if (← row.part "is_descending").isTruthy then " DESC" else " ASC" : Script) =
      .ok (dialect.quote (row.letters "column_name") ++
        if group.any fun row => (row.get "is_descending").isTruthy then
          if (row.get "is_descending").isTruthy then " DESC" else " ASC"
        else "") := by
    intro row member
    rw [quotePart, (areRows row member).column, (areRows row member).descending]
    cases group.any fun row => (row.get "is_descending").isTruthy with
    | true => rfl
    | false => exact congrArg Except.ok String.append_empty.symm
  rw [indexColumns, shows, Attempt.ok_bind, sorted, Attempt.ok_bind, Attempt.mapM_ok listed]
  rfl

theorem IsIndexRow.quoteName_ok
    (isRow : dialect.IsIndexRow row) :
    dialect.quotePart row "name" = .ok (dialect.quote (row.letters "name")) := by
  rw [quotePart, isRow.name]
  rfl

/-- What is read from a part of an object is what the object holds. -/
private theorem field?_of_part
    {name : String}
    {held : Value}
    {kind : ObjectClass}
    (isA : row.isA kind = true)
    (read : row.part name = .ok held) :
    row.field? name = some held := by
  cases row with
  | object kind fields =>
      rw [Value.part] at read
      rw [Value.field?]
      cases found : fields.lookup name with
      | some value =>
          rw [found] at read
          cases read
          rfl
      | none =>
          rw [found] at read
          cases read
  | _ => cases isA

private theorem get_eq_of_part
    {name : String}
    {held : Value}
    {kind : ObjectClass}
    (isA : row.isA kind = true)
    (read : row.part name = .ok held) :
    row.get name = held := by
  rw [Value.get, field?_of_part isA read]
  rfl

/-- The kind of an index row is read without failure. -/
theorem IsIndexRow.kind_ok
    (isRow : dialect.IsIndexRow row) :
    row.part dialect.indexKindField = .ok (row.get dialect.indexKindField) ∧
      (row.get dialect.indexKindField).asText? = some (row.letters dialect.indexKindField) := by
  rcases isRow.kind with ⟨kind, read, isText⟩
  have held := get_eq_of_part isRow.ofClass read
  refine ⟨by rw [read, held], ?_⟩
  rw [Value.letters, held]
  rcases Option.isSome_iff_exists.mp isText with ⟨letters, equal⟩
  rw [equal]
  rfl

/-- The condition of an index row is read without failure. -/
theorem IsIndexRow.indexCondition_ok
    (isRow : dialect.IsIndexRow row) :
    indexCondition? row = .ok (indexCondition row) := by
  rw [indexCondition?, indexCondition, Value.letters]
  rcases isRow.filter with read | ⟨condition, read⟩
  · rw [read, get_eq_of_part isRow.ofClass read]
    rfl
  · rw [read, get_eq_of_part isRow.ofClass read, Attempt.ok_bind]
    by_cases empty : condition = ""
    · rw [empty]
      rfl
    · have given : (Value.text condition).isTruthy = true := by
        simpa [Value.isTruthy] using empty
      rw [given, Value.asText, Value.asText?]
      by_cases blank : Text.trim condition = ""
      · simp [blank]
      · simp [blank, Value.display]

/-! ## Creating indexes -/

/-- The order in which index rows are put into groups. -/
def listedIndexes
    (dialect : Dialect)
    (rows : List Value) : List Value :=
  match dialect with
  | microsoftSql => MicrosoftSql.clusteredFirst rows
  | _ => sortedOn listing rows

theorem listedIndexes_perm :
    (dialect.listedIndexes rows).Perm rows := by
  cases dialect with
  | microsoftSql =>
      exact ((Value.sortedOn_perm listing _).append (Value.sortedOn_perm listing _)).trans
        (List.filter_append_perm MicrosoftSql.isClustered rows)
  | mySql => exact Value.sortedOn_perm listing rows
  | postgreSql => exact Value.sortedOn_perm listing rows

/-- Every dialect creates indexes by groups of listed rows. -/
theorem createIndexes_eq_mapM
    (areRows : ∀ row ∈ rows, dialect.IsIndexRow row) :
    dialect.statements.createIndexes options owner (.list rows) = (do
      return String.join
        (← (groupsOf (dialect.listedIndexes rows)).mapM (dialect.createIndex options owner))) := by
  have areListed : ∀ row ∈ rows, row.IsListed := fun row member => (areRows row member).toIsListed
  cases dialect with
  | microsoftSql =>
      refine (MicrosoftSql.createIndexes_eq_of_isListed options owner areListed).trans ?_
      rw [MicrosoftSql.dialect, forM_expect_ok .microsoftSqlIndex fun row member =>
        (areRows row member).ofClass]
      rfl
  | mySql =>
      change (do groupScripts (← (Value.list rows).groups) _) = _
      rw [Value.groups_ok_of_isListed areListed]
      rfl
  | postgreSql =>
      change (do groupScripts (← (Value.list rows).groups) _) = _
      rw [Value.groups_ok_of_isListed areListed]
      rfl

section Group

variable (ownerTyped : owner.isTyped .schemaObject = true)
  (columnsOk : dialect.indexColumns group = .ok (dialect.indexColumnList group))
  (leads : group.headD .null = row)

/-- The words of an index of Microsoft SQL, if its kind is known. -/
private theorem microsoftSql_indexWords_ok
    (isRow : microsoftSql.IsIndexRow row)
    (creates : microsoftSql.createsIndex row = true) :
    MicrosoftSql.indexWords row (row.get "type") = .ok (microsoftSql.indexWords row) := by
  have kindText : (row.get "type").asText? = some (row.letters "type") := isRow.kind_ok.2
  have known : row.letters "type" = "CLUSTERED" ∨ row.letters "type" = "NONCLUSTERED" ∨
      row.letters "type" = "XML" ∨ row.letters "type" = "SPATIAL" := by
    simpa [createsIndex, indexKind, indexKinds] using creates
  have unique : MicrosoftSql.indexWords.uniqueWord row =
      .ok (if (row.get "is_unique").isTruthy then "UNIQUE " else "") := by
    rw [MicrosoftSql.indexWords.uniqueWord, isRow.unique]
    rfl
  rw [MicrosoftSql.indexWords, kindText, indexWords, indexKind]
  rcases known with kind | kind | kind | kind
  · rw [kind, unique]
    rfl
  · rw [kind, unique]
    rfl
  · rw [kind]
    rfl
  · rw [kind]
    rfl

private theorem mySql_lookup_ok
    (creates : mySql.createsIndex row = true) :
    (MySql.indexMethods.lookup (mySql.indexKind row)).map (fun word =>
        if (row.get "is_unique").isTruthy && word.isEmpty then "UNIQUE " else word) =
      some (mySql.indexWords row) := by
  have known : mySql.indexKind row = "BTREE" ∨ mySql.indexKind row = "HASH" ∨
      mySql.indexKind row = "FULLTEXT" ∨ mySql.indexKind row = "SPATIAL" := by
    simpa [createsIndex, indexKinds] using creates
  rw [indexWords]
  rcases known with kind | kind | kind | kind
  all_goals
    rw [kind]
    cases (row.get "is_unique").isTruthy <;> rfl

private theorem postgreSql_lookup_ok
    (creates : postgreSql.createsIndex row = true) :
    PostgreSql.indexMethods.lookup (row.letters "type") = some (postgreSql.indexMethod row) := by
  have known : row.letters "type" = "btree" ∨ row.letters "type" = "gist" ∨
      row.letters "type" = "hash" ∨ row.letters "type" = "gin" := by
    simpa [createsIndex, indexKind, indexKinds] using creates
  rw [indexMethod, indexKind]
  rcases known with kind | kind | kind | kind
  all_goals
    rw [kind]
    rfl

/-- What is under a text is found under it. -/
private theorem entryUnder?_ok
    {entries : List (String × String)}
    {name : Value}
    {letters : String}
    (isText : name.asText? = some letters) :
    PostgreSql.entryUnder? entries name = .ok (entries.lookup letters) := by
  cases name with
  | text => cases isText; rfl
  | member => cases isText; rfl
  | _ => cases isText

private theorem mySql_typeText_ok
    (isRow : mySql.IsIndexRow row) :
    (row.get "index_type").asText = .ok (row.letters "index_type") := by
  have kind := isRow.kind_ok
  rw [indexKindField] at kind
  rw [Value.asText, kind.2]

include ownerTyped columnsOk leads in
/-- An index of a kind that the dialect creates has a statement. -/
theorem createIndex_ok
    (isRow : dialect.IsIndexRow row)
    (creates : dialect.createsIndex row = true) :
    dialect.createIndex options owner group =
      .ok (dialect.indexStatement options owner row group) := by
  have kind := isRow.kind_ok
  have expected : dialect.expect dialect.indexClass row = .ok () :=
    expect_ok_iff.mpr isRow.ofClass
  have named : dialect.objectName options owner =
      .ok (dialect.tableText options (owner.letters "schema") (owner.letters "name")) :=
    objectName_ok_of_declares ownerTyped (by decide) (by decide)
  cases dialect with
  | microsoftSql =>
      rw [indexKindField] at kind
      rw [createIndex, leads, MicrosoftSql.createIndex]
      rw [kind.1, Attempt.ok_bind, microsoftSql_indexWords_ok isRow creates, Attempt.ok_bind,
        MicrosoftSql.dialect, isRow.quoteName_ok, Attempt.ok_bind, named, Attempt.ok_bind,
        columnsOk, Attempt.ok_bind, isRow.indexCondition_ok, Attempt.ok_bind, Attempt.pure_eq_ok]
      unfold indexStatement
      dsimp only
      cases indexCondition row with
      | none => rfl
      | some condition => rfl
  | mySql =>
      rw [indexKindField] at kind
      rw [indexClass] at expected
      have kindIs : Text.upper (row.letters "index_type") = mySql.indexKind row := rfl
      rcases Option.map_eq_some_iff.mp (mySql_lookup_ok creates) with ⟨word, found, words⟩
      rw [createIndex, leads, MySql.createIndex]
      simp only [MySql.dialect, expected, named, columnsOk, isRow.quoteName_ok, isRow.unique,
        Attempt.ok_bind, kind.1, mySql_typeText_ok isRow, kindIs, found, words]
      rfl
  | postgreSql =>
      rw [indexKindField] at kind
      rw [indexClass] at expected
      rw [createIndex, leads, PostgreSql.createIndex]
      rw [PostgreSql.dialect, expected, Attempt.ok_bind, kind.1, Attempt.ok_bind,
        entryUnder?_ok kind.2, postgreSql_lookup_ok creates, Attempt.ok_bind]
      dsimp only
      rw [isRow.unique, Attempt.ok_bind, isRow.quoteName_ok, Attempt.ok_bind, named,
        Attempt.ok_bind, columnsOk, Attempt.ok_bind, isRow.indexCondition_ok, Attempt.ok_bind,
        Attempt.pure_eq_ok]
      unfold indexStatement
      dsimp only
      cases indexCondition row with
      | none => rfl
      | some condition => rfl

include leads in
/-- An index of any other kind is refused. -/
theorem createIndex_error
    (isRow : dialect.IsIndexRow row)
    (refuses : dialect.createsIndex row = false) :
    dialect.createIndex options owner group =
      .error (.unsupportedIndexKind (row.get dialect.indexKindField).display) := by
  have kind := isRow.kind_ok
  have expected : dialect.expect dialect.indexClass row = .ok () :=
    expect_ok_iff.mpr isRow.ofClass
  rw [createsIndex, decide_eq_false_iff_not] at refuses
  cases dialect with
  | microsoftSql =>
      rw [indexKindField] at kind
      have unknown : (Enumeration.ofValue? (row.letters "type") : Option MicrosoftSqlIndexKind) =
          none := by
        refine List.find?_eq_none.mpr fun member _ same => refuses ?_
        rw [indexKind, ← beq_iff_eq.mp same]
        cases member <;> decide
      rw [createIndex, leads, MicrosoftSql.createIndex, kind.1, Attempt.ok_bind,
        MicrosoftSql.indexWords, kind.2, Option.bind_some, unknown]
      rfl
  | mySql =>
      rw [indexKindField] at kind
      rw [indexClass] at expected
      have unknown : MySql.indexMethods.lookup (Text.upper (row.letters "index_type")) = none :=
        Keyed.lookup_eq_none_iff_not_mem.mpr refuses
      rw [createIndex, leads, MySql.createIndex]
      simp only [MySql.dialect, expected, Attempt.ok_bind, kind.1, mySql_typeText_ok isRow, unknown]
      rfl
  | postgreSql =>
      rw [indexKindField] at kind
      rw [indexClass] at expected
      have unknown : PostgreSql.indexMethods.lookup (row.letters "type") = none :=
        Keyed.lookup_eq_none_iff_not_mem.mpr refuses
      rw [createIndex, leads, PostgreSql.createIndex]
      simp only [PostgreSql.dialect, expected, Attempt.ok_bind, kind.1, entryUnder?_ok kind.2,
        unknown]
      rfl

end Group

/-! ## Order of indexes -/

/-- Microsoft SQL creates clustered indexes before all others. -/
def createdFirst : Dialect → Value → Bool
  | microsoftSql, row => row.letters "type" == "CLUSTERED"
  | mySql, _ => false
  | postgreSql, _ => false

/--
One group is created before another: it is not less urgent, and of two equally urgent ones it has a
row that is listed by schema and name before all rows of the other.
-/
def CreatedBefore
    (dialect : Dialect)
    (left right : List Value) : Prop :=
  (∀ row ∈ left, ∀ other ∈ right,
      dialect.createdFirst other = true → dialect.createdFirst row = true) ∧
    ((∀ row ∈ left, ∀ other ∈ right, dialect.createdFirst row = dialect.createdFirst other) →
      ∃ row ∈ left, ∀ other ∈ right, listingRank row ≤ listingRank other)

/-- Groups of rows as indexes are created from them. -/
structure IndexGroups
    (dialect : Dialect)
    (rows : List Value)
    (groups : List (List Value)) : Prop where
  /-- There is one group a name. -/
  names : (groups.map groupName).Perm (rows.map fun row => row.letters "name").dedup
  /-- A group holds each row of its name once. -/
  complete : ∀ group ∈ groups,
    group.Perm (rows.filter fun row => row.letters "name" == groupName group)
  /-- The rows of a group ascend by position. -/
  positions : ∀ group ∈ groups, group.Pairwise fun left right =>
    left.number "ordinal_position" ≤ right.number "ordinal_position"
  /-- The groups stand in the order in which the indexes have to be created. -/
  ordered : groups.Pairwise dialect.CreatedBefore

private theorem isClustered_eq
    (isRow : microsoftSql.IsIndexRow row) :
    MicrosoftSql.isClustered row = microsoftSql.createdFirst row := by
  rcases isRow.kind_ok with ⟨read, isText⟩
  rw [indexKindField] at read isText
  rw [MicrosoftSql.isClustered, field?_of_part isRow.ofClass read, createdFirst]
  cases kind : row.get "type" with
  | text letters =>
      rw [Value.letters, kind]
      rfl
  | member known =>
      rw [Value.letters, kind]
      rfl
  | _ =>
      rw [kind] at isText
      cases isText

private theorem listedIndexes_pairwise
    (areRows : ∀ row ∈ rows, dialect.IsIndexRow row) :
    (dialect.listedIndexes rows).Pairwise fun left right =>
      (dialect.createdFirst right = true → dialect.createdFirst left = true) ∧
        (dialect.createdFirst left = dialect.createdFirst right →
          listingRank left ≤ listingRank right) := by
  have listed : ∀ rows : List Value, (sortedOn listing rows).Pairwise fun left right =>
      listingRank left ≤ listingRank right :=
    fun rows => listing_ranksBy.sortedOn_pairwise rows
  cases dialect with
  | microsoftSql =>
      have clustered : ∀ {test : Value → Bool} {row : Value},
          row ∈ sortedOn listing (rows.filter test) →
            test row = true ∧ MicrosoftSql.isClustered row = microsoftSql.createdFirst row := by
        intro test row member
        rcases List.mem_filter.mp (Value.mem_sortedOn.mp member) with ⟨held, passes⟩
        exact ⟨passes, isClustered_eq (areRows row held)⟩
      have alike : ∀ (test : Value → Bool) (first : Bool), (∀ row, test row = true →
          MicrosoftSql.isClustered row = first) → (sortedOn listing (rows.filter test)).Pairwise
            fun left right =>
              (microsoftSql.createdFirst right = true → microsoftSql.createdFirst left = true) ∧
                (microsoftSql.createdFirst left = microsoftSql.createdFirst right →
                  listingRank left ≤ listingRank right) := by
        intro test first tells
        refine (listed (rows.filter test)).imp_of_mem ?_
        intro left right leftMember rightMember above
        rcases clustered leftMember with ⟨leftPasses, leftSame⟩
        rcases clustered rightMember with ⟨rightPasses, rightSame⟩
        rw [← leftSame, ← rightSame, tells left leftPasses, tells right rightPasses]
        exact ⟨id, fun _ => above⟩
      rw [listedIndexes, MicrosoftSql.clusteredFirst, List.pairwise_append]
      refine ⟨alike _ true fun _ => id, alike _ false fun _ => by simp, ?_⟩
      intro left leftMember right rightMember
      rcases clustered leftMember with ⟨leftPasses, leftSame⟩
      rcases clustered rightMember with ⟨rightPasses, rightSame⟩
      rw [← leftSame, ← rightSame, leftPasses]
      rw [Bool.not_eq_true'] at rightPasses
      rw [rightPasses]
      exact ⟨fun _ => rfl, fun equal => absurd equal (by decide)⟩
  | mySql => exact (listed rows).imp fun above => ⟨id, fun _ => above⟩
  | postgreSql => exact (listed rows).imp fun above => ⟨id, fun _ => above⟩

private theorem createdFirst_eq_of_sameIndex
    (same : dialect.SameIndex row other) :
    dialect.createdFirst row = dialect.createdFirst other := by
  cases dialect with
  | microsoftSql => exact congrArg (· == "CLUSTERED") same.kind
  | mySql => rfl
  | postgreSql => rfl

private theorem createsIndex_eq_of_sameIndex
    (same : dialect.SameIndex row other) :
    dialect.createsIndex row = dialect.createsIndex other := by
  rw [createsIndex, createsIndex, same.kind]

private theorem group_perm
    (member : group ∈ groupsOf (dialect.listedIndexes rows)) :
    group.Perm (rows.filter fun row => row.letters "name" == groupName group) := by
  have ofListed : group.Perm
      ((dialect.listedIndexes rows).filter fun row => row.letters "name" == groupName group) :=
    (List.Perm.of_eq (Value.eq_sortedOn_of_mem_groupsOf member)).trans (Value.sortedOn_perm _ _)
  exact ofListed.trans (listedIndexes_perm.filter _)

private theorem mem_rows_of_mem_group
    (member : group ∈ groupsOf (dialect.listedIndexes rows))
    (held : row ∈ group) :
    row ∈ rows ∧ row.letters "name" = groupName group := by
  rcases List.mem_filter.mp ((group_perm member).subset held) with ⟨among, named⟩
  exact ⟨among, beq_iff_eq.mp named⟩

section Agreement

variable (areRows : ∀ row ∈ rows, dialect.IsIndexRow row)
  (agree : ∀ left ∈ rows, ∀ right ∈ rows, left.letters "name" = right.letters "name" →
    dialect.SameIndex left right)

include agree in
private theorem sameIndex_of_mem_group
    (member : group ∈ groupsOf (dialect.listedIndexes rows))
    (held : row ∈ group)
    (otherHeld : other ∈ group) :
    dialect.SameIndex row other := by
  rcases mem_rows_of_mem_group member held with ⟨among, named⟩
  rcases mem_rows_of_mem_group member otherHeld with ⟨otherAmong, otherNamed⟩
  exact agree row among other otherAmong (named.trans otherNamed.symm)

include areRows agree in
/-- Rows that agree where they have one name are put into groups from which indexes are created. -/
theorem indexGroups_listedIndexes :
    dialect.IndexGroups rows (groupsOf (dialect.listedIndexes rows)) where
  names := by
    have distinct := Keyed.nodup_keys_firstByKey id
      ((dialect.listedIndexes rows).map fun row => row.letters "name")
    have sameNames : ((dialect.listedIndexes rows).map fun row => row.letters "name").Perm
        (rows.map fun row => row.letters "name") :=
      listedIndexes_perm.map _
    rw [List.map_id] at distinct
    rw [Value.map_groupName_groupsOf]
    refine (List.perm_ext_iff_of_nodup distinct (List.nodup_dedup _)).mpr fun name => ?_
    rw [List.mem_dedup, ← sameNames.mem_iff]
    constructor
    · exact fun kept => (Keyed.firstByKey_sublist id _).subset kept
    · intro listed
      rcases Keyed.exists_mem_firstByKey id listed with ⟨first, kept, same⟩
      have same : first = name := same
      exact same ▸ kept
  complete := fun _ => group_perm
  positions := by
    intro group member
    rw [Value.eq_sortedOn_of_mem_groupsOf member]
    exact (int_ranksBy fun row : Value => row.number "ordinal_position").sortedOn_pairwise _
  ordered := by
    refine (Value.groupsOf_pairwise (listedIndexes_pairwise areRows)).imp_of_mem ?_
    rintro left right leftMember _ ⟨first, firstMember, isBefore⟩
    constructor
    · intro row rowMember other otherMember early
      have alike : dialect.createdFirst row = dialect.createdFirst first :=
        createdFirst_eq_of_sameIndex (sameIndex_of_mem_group agree leftMember rowMember firstMember)
      rw [alike]
      exact (isBefore other otherMember).1 early
    · intro same
      exact ⟨first, firstMember, fun other otherMember =>
        (isBefore other otherMember).2 (same first firstMember other otherMember)⟩

end Agreement

/--
The rows of one name agree on what they say of their index.  If the dialect creates indexes of all
kinds among them, the script has one statement an index, which lists the columns of all of its rows
by position.  Otherwise scripting fails, as for an operation that is not supported.
-/
theorem createIndexes_complete
    (dialect : Dialect)
    (options : Options)
    (ownerTyped : owner.isTyped .schemaObject = true)
    (areRows : ∀ row ∈ rows, dialect.IsIndexRow row)
    (agree : ∀ left ∈ rows, ∀ right ∈ rows, left.letters "name" = right.letters "name" →
      dialect.SameIndex left right) :
    (∀ row ∈ rows, dialect.createsIndex row = true) ∧
        (∃ groups, dialect.IndexGroups rows groups ∧
          (∀ group ∈ groups, ∀ row ∈ group,
            dialect.indexStatement options owner row group =
              dialect.indexStatement options owner (group.headD .null) group) ∧
          dialect.statements.createIndexes options owner (.list rows) =
            .ok (String.join (groups.map fun group =>
              dialect.indexStatement options owner (group.headD .null) group))) ∨
      ∃ row ∈ rows, dialect.createsIndex row = false ∧
        ∃ failure : ScriptFailure, failure.family = .unsupportedOperation ∧
          failure = .unsupportedIndexKind (row.get dialect.indexKindField).display ∧
          dialect.statements.createIndexes options owner (.list rows) = .error failure := by
  let groups := groupsOf (dialect.listedIndexes rows)
  have indexGroups : dialect.IndexGroups rows groups := indexGroups_listedIndexes areRows agree
  have headMember : ∀ group ∈ groups, group.headD .null ∈ group :=
    fun group => Value.headD_mem_of_mem_groupsOf
  have headAmong : ∀ group ∈ groups, group.headD .null ∈ rows := fun group member =>
    (mem_rows_of_mem_group member (headMember group member)).1
  have created : ∀ group ∈ groups, dialect.createsIndex (group.headD .null) = true →
      dialect.createIndex options owner group =
        .ok (dialect.indexStatement options owner (group.headD .null) group) := by
    intro group member creates
    have columnsOk : dialect.indexColumns group = .ok (dialect.indexColumnList group) :=
      indexColumns_ok (fun row held => areRows row (mem_rows_of_mem_group member held).1)
        (indexGroups.positions group member)
    exact createIndex_ok ownerTyped columnsOk rfl (areRows _ (headAmong group member)) creates
  have refused : ∀ group ∈ groups, dialect.createsIndex (group.headD .null) = false →
      dialect.createIndex options owner group =
        .error (.unsupportedIndexKind
          ((group.headD .null).get dialect.indexKindField).display) :=
    fun group member refuses => createIndex_error rfl (areRows _ (headAmong group member)) refuses
  rw [createIndexes_eq_mapM areRows]
  rcases Attempt.mapM_ok_or_error created refused with
    ⟨allCreated, run⟩ | ⟨group, member, refuses, run⟩
  · left
    refine ⟨?_, groups, indexGroups, ?_, by rw [run]; rfl⟩
    · intro row among
      rcases Value.exists_mem_groupsOf (listedIndexes_perm.mem_iff.mpr among) with
        ⟨group, member, held⟩
      rw [createsIndex_eq_of_sameIndex
        (sameIndex_of_mem_group agree member held (headMember group member))]
      exact allCreated group member
    · intro group member row held
      have sameName : row.letters "name" = (group.headD .null).letters "name" :=
        (mem_rows_of_mem_group member held).2
      exact indexStatement_eq_of_sameIndex sameName
        (sameIndex_of_mem_group agree member held (headMember group member))
  · right
    exact ⟨group.headD .null, headAmong group member, refuses, _, rfl, rfl, by rw [run]; rfl⟩

end Statements

/-! ## Interleaved rows -/

/-- A row of an index of Microsoft SQL. -/
private def interleavedRow
    (name column : String)
    (position : Int)
    (descending : Bool)
    (kind : MicrosoftSqlIndexKind) : Value :=
  .filled .microsoftSqlIndex [
    ("name", .text name), ("schema", .text "dbo"), ("column_name", .text column),
    ("ordinal_position", .int position), ("is_descending", .bool descending),
    ("type", .member (.indexKind kind))]

private def interleavedRows : List Value := [
  interleavedRow "by_name" "first" 2 true .nonclustered,
  interleavedRow "by_place" "place" 1 false .clustered,
  interleavedRow "by_name" "last" 1 false .nonclustered]

private def interleavedOwner : Value :=
  .filled .table [("name", .text "people"), ("schema", .text "dbo")]

private theorem isIndexRow_interleavedRow
    (name column : String)
    (position : Int)
    (descending : Bool)
    (kind : MicrosoftSqlIndexKind) :
    microsoftSql.IsIndexRow (interleavedRow name column position descending kind) :=
  isIndexRow_of_isTyped (Value.isTyped_filled rfl rfl)

/-- The clustered index comes first, and the other one has both of its columns. -/
theorem createIndexes_of_interleavedRows :
    interleavedOwner.isTyped .schemaObject = true ∧
      (∀ row ∈ interleavedRows, microsoftSql.IsIndexRow row) ∧
      (∀ left ∈ interleavedRows, ∀ right ∈ interleavedRows,
        left.letters "name" = right.letters "name" → microsoftSql.SameIndex left right) ∧
      (∃ groups, microsoftSql.IndexGroups interleavedRows groups) ∧
      microsoftSql.statements.createIndexes {} interleavedOwner (.list interleavedRows) =
        .ok ("CREATE CLUSTERED INDEX [by_place] ON [dbo].[people]([place])\nGO\n\n" ++
          "CREATE INDEX [by_name] ON [dbo].[people]([last] ASC,[first] DESC)\nGO\n\n") := by
  have ownerTyped : interleavedOwner.isTyped .schemaObject = true :=
    Value.isTyped_filled rfl rfl
  have areRows : ∀ row ∈ interleavedRows, microsoftSql.IsIndexRow row := by
    simp [interleavedRows, isIndexRow_interleavedRow]
  have agree : ∀ left ∈ interleavedRows, ∀ right ∈ interleavedRows,
      left.letters "name" = right.letters "name" → microsoftSql.SameIndex left right := by
    intro left leftMember right rightMember sameName
    have kinds : ∀ row ∈ interleavedRows, row.letters "type" =
        if row.letters "name" = "by_place" then "CLUSTERED" else "NONCLUSTERED" := by
      decide
    have others : ∀ row ∈ interleavedRows, (row.get "is_unique").isTruthy = false ∧
        row.letters "filter_definition" = "" := by
      decide
    constructor
    · exact (kinds left leftMember).trans ((sameName ▸ kinds right rightMember).symm)
    · rw [(others left leftMember).1, (others right rightMember).1]
    · rw [(others left leftMember).2, (others right rightMember).2]
  rcases createIndexes_complete microsoftSql {} ownerTyped areRows agree with
    ⟨_, groups, indexGroups, _, _⟩ | ⟨row, member, refused, _⟩
  · exact ⟨ownerTyped, areRows, agree, ⟨groups, indexGroups⟩, rfl⟩
  · have creates : ∀ row ∈ interleavedRows, microsoftSql.createsIndex row = true := by
      decide
    rw [creates row member] at refused
    cases refused

end Dialect

end SchemaDelta
