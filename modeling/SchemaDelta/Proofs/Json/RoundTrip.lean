import SchemaDelta.Proofs.Json.Numbers
import SchemaDelta.Proofs.Keyed

/-!
# Written documents are read back

Every document is read back from its indented text if its names are distinct in each object, its
integers are short enough, its numbers are in lowest terms and it is not too deep.  What is read is
told by `Reads` relations that name the rest behind it, so that the parts of a document are put
together rest by rest.
-/

namespace SchemaDelta.Json

open Decimal (Binary64)

/-- A document that can be written and read back. -/
inductive IsWritable : Json → Prop where
  | null : IsWritable .null
  | bool (value : Bool) : IsWritable (.bool value)
  | int
      {value : Int}
      (fits : (Nat.toDigits 10 value.natAbs).length ≤ mostDigits) :
      IsWritable (.int value)
  | float
      {value : Binary64}
      (reduced : value.IsReduced) :
      IsWritable (.float value)
  | text (value : String) : IsWritable (.text value)
  | list
      {items : List Json}
      (writable : ∀ item ∈ items, IsWritable item) :
      IsWritable (.list items)
  | object
      {fields : List (String × Json)}
      (distinct : (fields.map Prod.fst).Nodup)
      (writable : ∀ field ∈ fields, IsWritable field.2) :
      IsWritable (.object fields)

/-- An object of texts can be written. -/
theorem IsWritable.texts
    (fields : List (String × String))
    (distinct : (fields.map Prod.fst).Nodup) :
    (Json.object (fields.map fun field => (field.1, .text field.2))).IsWritable := by
  refine .object ?_ fun field member => ?_
  · rwa [List.map_map]
  · rcases List.mem_map.mp member with ⟨_, _, rfl⟩
    exact .text _

/-! ## Reading parts -/

section Parts

variable {level : Nat} {text rest after : List Char}

theorem readValue_text
    {letters : List Char}
    (read : Reads (readLetters rest rest) letters after) :
    Reads (readValue level ('"' :: rest)) (.text (String.ofList letters)) after := by
  rcases read with ⟨shorter, read⟩
  rw [readValue, read]
  exact ⟨_, rfl⟩

theorem readValue_atom
    {letter : Char}
    {value : Json}
    (notQuote : letter ≠ '"')
    (notBrace : letter ≠ '{')
    (notBracket : letter ≠ '[')
    (read : Reads (readAtom (letter :: rest)) value after) :
    Reads (readValue level (letter :: rest)) value after := by
  rw [readValue]
  · exact read
  all_goals simp_all

theorem readValue_list_nil
    (room : level ≠ 0)
    (closed : skipGap rest = ']' :: after) :
    Reads (readValue level ('[' :: rest)) (.list []) after := by
  rw [readValue, if_neg room]
  split
  · rename_i bound
    rw [closed] at bound
    cases bound
    exact ⟨_, rfl⟩
  · rename_i bound
    exact (bound after closed).elim

theorem readValue_list
    {items : List Json}
    (room : level ≠ 0)
    (closed : (skipGap rest).head? ≠ some ']')
    (read : Reads (readItems (level - 1) (skipGap rest)) items after) :
    Reads (readValue level ('[' :: rest)) (.list items) after := by
  rcases read with ⟨shorter, read⟩
  rw [readValue, if_neg room]
  split
  · rename_i bound
    rw [bound] at closed
    exact (closed rfl).elim
  · rw [read]
    exact ⟨_, rfl⟩

theorem readItems_last
    {item : Json}
    (read : Reads (readValue level text) item rest)
    (closed : skipGap rest = ']' :: after) :
    Reads (readItems level text) [item] after := by
  rcases read with ⟨shorter, read⟩
  rw [readItems, read]
  dsimp only
  split
  · rename_i bound
    rw [closed] at bound
    cases bound
    exact ⟨_, rfl⟩
  · rename_i bound
    rw [closed] at bound
    cases bound
  · rename_i bound _
    exact (bound after closed).elim

theorem readItems_more
    {item : Json}
    {items : List Json}
    {next : List Char}
    (read : Reads (readValue level text) item rest)
    (comma : skipGap rest = ',' :: next)
    (others : Reads (readItems level (skipGap next)) items after) :
    Reads (readItems level text) (item :: items) after := by
  rcases read with ⟨shorter, read⟩
  rcases others with ⟨shorter', others⟩
  rw [readItems, read]
  dsimp only
  split
  · rename_i bound
    rw [comma] at bound
    cases bound
  · rename_i bound
    rw [comma] at bound
    cases bound
    rw [others]
    exact ⟨_, rfl⟩
  · rename_i bound
    exact (bound next comma).elim

theorem readValue_object_nil
    (room : level ≠ 0)
    (closed : skipGap rest = '}' :: after) :
    Reads (readValue level ('{' :: rest)) (.object []) after := by
  rw [readValue, if_neg room]
  split
  · rename_i bound
    rw [closed] at bound
    cases bound
    exact ⟨_, rfl⟩
  · rename_i bound
    exact (bound after closed).elim

theorem readValue_object
    {fields : List (String × Json)}
    (room : level ≠ 0)
    (closed : (skipGap rest).head? ≠ some '}')
    (read : Reads (readFields (level - 1) [] (skipGap rest)) fields after) :
    Reads (readValue level ('{' :: rest)) (.object fields) after := by
  rcases read with ⟨shorter, read⟩
  rw [readValue, if_neg room]
  split
  · rename_i bound
    rw [bound] at closed
    exact (closed rfl).elim
  · rw [read]
    exact ⟨_, rfl⟩

/-- A field is read: its name, a colon and its value. -/
def ReadsField
    (level : Nat)
    (text name : List Char)
    (value : Json)
    (after : List Char) : Prop :=
  ∃ quoted named rest, text = '"' :: quoted ∧ Reads (readLetters quoted quoted) name named ∧
    skipGap named = ':' :: rest ∧ Reads (readValue level (skipGap rest)) value after

theorem readFields_last
    {name : List Char}
    {value : Json}
    (before : List (String × Json))
    (read : ReadsField level text name value rest)
    (closed : skipGap rest = '}' :: after) :
    Reads (readFields level before text) (Keyed.put (String.ofList name) value before) after := by
  rcases read with ⟨quoted, named, behind, rfl, ⟨shorter, letters⟩, colon, ⟨shorter', read⟩⟩
  rw [readFields, letters]
  dsimp only
  split
  · rename_i bound
    rw [colon] at bound
    cases bound
    rw [read]
    dsimp only
    split
    · rename_i bound
      rw [closed] at bound
      cases bound
      exact ⟨_, rfl⟩
    · rename_i bound
      rw [closed] at bound
      cases bound
    · rename_i bound _
      exact (bound after closed).elim
  · rename_i bound
    exact (bound behind colon).elim

theorem readFields_more
    {name next : List Char}
    {value : Json}
    {fields : List (String × Json)}
    (before : List (String × Json))
    (read : ReadsField level text name value rest)
    (comma : skipGap rest = ',' :: next)
    (others : Reads (readFields level (Keyed.put (String.ofList name) value before)
      (skipGap next)) fields after) :
    Reads (readFields level before text) fields after := by
  rcases read with ⟨quoted, named, behind, rfl, ⟨shorter, letters⟩, colon, ⟨shorter', read⟩⟩
  rcases others with ⟨shorter'', others⟩
  rw [readFields, letters]
  dsimp only
  split
  · rename_i bound
    rw [colon] at bound
    cases bound
    rw [read]
    dsimp only
    split
    · rename_i bound
      rw [comma] at bound
      cases bound
    · rename_i bound
      rw [comma] at bound
      cases bound
      rw [others]
      exact ⟨_, rfl⟩
    · rename_i bound
      exact (bound next comma).elim
  · rename_i bound
    exact (bound behind colon).elim

end Parts

/-! ## Written values -/

/-- A letter with which a number or a word begins. -/
private def startsAtom
    (letter : Char) : Bool :=
  letter.isDigit || "-ntfNI".toList.contains letter

/-- A text that is read as a value by itself. -/
private structure SpellsAtom
    (letters : List Char)
    (value : Json) : Prop where
  starts : ∃ first others, letters = first :: others ∧ startsAtom first = true
  reads : ∀ rest, Delimits rest → Reads (readAtom (letters ++ rest)) value rest

private theorem Numeral.IsProper.spellsAtom
    {numeral : Numeral}
    (proper : numeral.IsProper) :
    SpellsAtom numeral.letters numeral.value where
  starts := by
    obtain ⟨digit, digits, cons⟩ := List.exists_cons_of_ne_nil proper.whole_ne_nil
    have isDigit := proper.whole_isDigit digit (cons ▸ List.mem_cons_self)
    rw [letters, cons]
    cases numeral.isNegative with
    | true => exact ⟨_, _, rfl, rfl⟩
    | false => exact ⟨_, _, rfl, by rw [startsAtom, isDigit, Bool.true_or]⟩
  reads _ delimits := Numeral.readAtom_letters proper delimits

private theorem spellsAtom_word
    (word : String)
    {value : Json}
    (member : (word.toList, value) ∈ words) :
    SpellsAtom word.toList value where
  starts := by
    simp only [words, List.mem_cons, List.not_mem_nil, or_false, Prod.mk.injEq] at member
    rcases member with same | same | same | same | same | same
    all_goals
      rw [same.1]
      exact ⟨_, _, rfl, rfl⟩
  reads rest _ := readAtom_word member rest

/-- Numbers, truth values and null are no texts and have no parts. -/
private def isAtom : Json → Bool
  | text _ => false
  | list _ => false
  | object _ => false
  | _ => true

private theorem spellsAtom_indentedAt
    {value : Json}
    (depth : Nat)
    (writable : value.IsWritable)
    (atom : value.isAtom = true) :
    SpellsAtom (indentedAt depth value).toList value := by
  cases writable with
  | null => exact spellsAtom_word "null" (by simp [words])
  | bool value =>
      cases value
      · exact spellsAtom_word "false" (by simp [words])
      · exact spellsAtom_word "true" (by simp [words])
  | int fits =>
      have spelled := (intNumeral_isProper fits).spellsAtom
      rwa [intNumeral_letters, intNumeral_value] at spelled
  | @float value reduced =>
      cases value with
      | undefined => exact spellsAtom_word "NaN" (by simp [words])
      | infinite negative =>
          cases negative
          · exact spellsAtom_word "Infinity" (by simp [words])
          · exact spellsAtom_word "-Infinity" (by simp [words])
      | finite negative mantissa exponent =>
          rcases exists_numeral_writeShortest reduced with ⟨numeral, proper, letters, value⟩
          have spelled := proper.spellsAtom
          rwa [letters, value] at spelled
  | text _ => cases atom
  | list _ => cases atom
  | object _ _ => cases atom

/-- A letter with which a value begins. -/
private def startsValue
    (letter : Char) : Bool :=
  startsAtom letter || letter == '"' || letter == '[' || letter == '{'

/-- No value begins with white space, a closing bracket or a byte order mark. -/
private theorem of_startsValue
    {letter : Char}
    (starts : startsValue letter = true) :
    isGap letter = false ∧ letter ≠ ']' ∧ letter ≠ '\ufeff' := by
  refine ⟨?_, ?_, ?_⟩
  · by_contra gap
    simp only [isGap, Bool.not_eq_false, Bool.or_eq_true, beq_iff_eq] at gap
    rcases gap with ((rfl | rfl) | rfl) | rfl <;> exact absurd starts (by decide)
  all_goals
    rintro rfl
    exact absurd starts (by decide)

private theorem indentedAt_begins
    {value : Json}
    (depth : Nat)
    (writable : value.IsWritable) :
    ∃ first others, (indentedAt depth value).toList = first :: others ∧
      startsValue first = true := by
  have block : ∀ opening closing parts, ∃ others,
      (indentedBlock (String.singleton opening) closing depth parts).toList =
        opening :: others := by
    intro opening closing parts
    unfold indentedBlock
    dsimp only
    split <;> simp
  cases kind : value.isAtom with
  | true =>
      rcases (spellsAtom_indentedAt depth writable kind).starts with ⟨first, others, cons, starts⟩
      exact ⟨first, others, cons, by simp only [startsValue, starts, Bool.true_or]⟩
  | false =>
      cases value with
      | text value => exact ⟨'"', value.toList.flatMap escapeLetter ++ ['"'],
          by simp [indentedAt, quote], rfl⟩
      | list items =>
          rcases block '[' "]" (indentedItems (depth + 1) items) with ⟨others, cons⟩
          exact ⟨'[', others, cons, rfl⟩
      | object fields =>
          rcases block '{' "\x7d" (indentedFields (depth + 1) fields) with ⟨others, cons⟩
          exact ⟨'{', others, cons, rfl⟩
      | _ => cases kind

/-! ## Blocks -/

theorem skipGap_cons
    {letter : Char}
    (notGap : isGap letter = false)
    (rest : List Char) :
    skipGap (letter :: rest) = letter :: rest := by
  rw [skipGap, notGap]
  rfl

theorem skipGap_indentation
    (depth : Nat)
    (rest : List Char) :
    skipGap ((indentation depth).toList ++ rest) = skipGap rest := by
  rw [indentation, String.toList_ofList]
  induction 2 * depth with
  | zero => rfl
  | succ count ih =>
      rw [List.replicate_succ, List.cons_append]
      exact ih

/-- Written parts on lines of their own. -/
private def rows
    (depth : Nat)
    (parts : List String) : List Char :=
  (",\n".intercalate (parts.map fun part => indentation depth ++ part)).toList

private theorem rows_singleton
    (depth : Nat)
    (part : String) :
    rows depth [part] = (indentation depth).toList ++ part.toList := by
  simp [rows]

private theorem rows_cons_cons
    (depth : Nat)
    (part next : String)
    (parts : List String) :
    rows depth (part :: next :: parts) =
      (indentation depth).toList ++ (part.toList ++ ',' :: '\n' :: rows depth (next :: parts)) := by
  simp [rows, String.intercalate_cons_cons]

private theorem indentedBlock_nil_append
    {opening closing : String}
    {first last : Char}
    (opens : opening = String.singleton first)
    (closes : closing = String.singleton last)
    (depth : Nat)
    (rest : List Char) :
    (indentedBlock opening closing depth []).toList ++ rest = first :: last :: rest := by
  rw [indentedBlock, opens, closes]
  simp

private theorem indentedBlock_append
    {opening closing : String}
    {first last : Char}
    (opens : opening = String.singleton first)
    (closes : closing = String.singleton last)
    (depth : Nat)
    {parts : List String}
    (some : parts ≠ [])
    (rest : List Char) :
    (indentedBlock opening closing depth parts).toList ++ rest =
      first :: '\n' :: (rows (depth + 1) parts ++
        '\n' :: ((indentation depth).toList ++ last :: rest)) := by
  rw [indentedBlock, if_neg (by simpa using some), opens, closes]
  simp [rows]

/-- A value whose text is read as itself wherever it stands in a document. -/
private def ReadsBack
    (level depth : Nat)
    (value : Json) : Prop :=
  ∀ rest, Delimits rest → Reads (readValue level ((indentedAt depth value).toList ++ rest)) value rest

section Blocks

variable {level depth : Nat} {closing after : List Char}

/-- The lines of the items of a list are read up to its closing bracket. -/
private theorem readItems_rows
    {items : List Json}
    (some : items ≠ [])
    (writable : ∀ item ∈ items, item.IsWritable)
    (readBack : ∀ item ∈ items, ReadsBack level depth item)
    (delimits : Delimits closing)
    (closed : skipGap closing = ']' :: after) :
    (skipGap (rows depth (indentedItems depth items) ++ closing)).head? ≠ .some ']' ∧
      Reads (readItems level (skipGap (rows depth (indentedItems depth items) ++ closing)))
        items after := by
  induction items with
  | nil => exact absurd rfl some
  | cons item items ih =>
      rcases indentedAt_begins depth (writable item List.mem_cons_self) with
        ⟨first, others, cons, starts⟩
      rcases of_startsValue starts with ⟨notGap, notBracket, _⟩
      have begin : ∀ rest, skipGap ((indentation depth).toList ++
          ((indentedAt depth item).toList ++ rest)) = (indentedAt depth item).toList ++ rest := by
        intro rest
        rw [skipGap_indentation, cons]
        exact skipGap_cons notGap _
      have head : ∀ rest, ((indentedAt depth item).toList ++ rest).head? ≠ .some ']' := by
        intro rest
        rw [cons]
        simpa using notBracket
      have itself := readBack item List.mem_cons_self
      cases items with
      | nil =>
          rw [indentedItems, indentedItems, rows_singleton, List.append_assoc, begin]
          exact ⟨head _, readItems_last (itself closing delimits) closed⟩
      | cons next items =>
          rw [indentedItems, indentedItems, rows_cons_cons, List.append_assoc, List.append_assoc,
            begin]
          refine ⟨head _, readItems_more (itself _ ?_) (skipGap_cons rfl _) ?_⟩
          · rintro letter ⟨⟩
            exact Or.inl rfl
          · exact (ih (List.cons_ne_nil _ _)
              (fun item member => writable item (List.mem_cons_of_mem _ member))
              (fun item member => readBack item (List.mem_cons_of_mem _ member))).2

/-- A field is read from its line. -/
private theorem readsField
    (name : String)
    {value : Json}
    (writable : value.IsWritable)
    (readBack : ReadsBack level depth value)
    {rest : List Char}
    (delimits : Delimits rest) :
    ReadsField level ((quote name ++ ": " ++ indentedAt depth value).toList ++ rest) name.toList
      value rest := by
  rcases indentedAt_begins depth writable with ⟨first, others, cons, starts⟩
  have notGap := (of_startsValue starts).1
  refine ⟨name.toList.flatMap escapeLetter ++ '"' :: (": ".toList ++
      ((indentedAt depth value).toList ++ rest)), _, ' ' :: ((indentedAt depth value).toList ++ rest),
    ?_, readLetters_flatMap_escapeLetter _ _ _, skipGap_cons rfl _, ?_⟩
  · simp [quote]
  · rw [cons, List.cons_append, show skipGap (' ' :: first :: (others ++ rest)) =
      skipGap (first :: (others ++ rest)) from rfl, skipGap_cons notGap, ← List.cons_append, ← cons]
    exact readBack rest delimits

/-- The lines of the fields of an object are read up to its closing brace. -/
private theorem readFields_rows
    {fields : List (String × Json)}
    (before : List (String × Json))
    (some : fields ≠ [])
    (distinct : ((before ++ fields).map Prod.fst).Nodup)
    (writable : ∀ field ∈ fields, field.2.IsWritable)
    (readBack : ∀ field ∈ fields, ReadsBack level depth field.2)
    (delimits : Delimits closing)
    (closed : skipGap closing = '}' :: after) :
    (skipGap (rows depth (indentedFields depth fields) ++ closing)).head? ≠ .some '}' ∧
      Reads (readFields level before
        (skipGap (rows depth (indentedFields depth fields) ++ closing))) (before ++ fields) after := by
  induction fields generalizing before with
  | nil => exact absurd rfl some
  | cons field fields ih =>
      rcases field with ⟨name, value⟩
      have begin : ∀ rest, skipGap ((indentation depth).toList ++
          ((quote name ++ ": " ++ indentedAt depth value).toList ++ rest)) =
            (quote name ++ ": " ++ indentedAt depth value).toList ++ rest := by
        intro rest
        rw [skipGap_indentation, quote]
        simp [skipGap, isGap]
      have head : ∀ rest, ((quote name ++ ": " ++ indentedAt depth value).toList ++ rest).head? ≠
          .some '}' := by
        intro rest
        simp [quote]
      have itself : ∀ {rest}, Delimits rest → ReadsField level
          ((quote name ++ ": " ++ indentedAt depth value).toList ++ rest) name.toList value rest :=
        readsField name (writable _ List.mem_cons_self) (readBack _ List.mem_cons_self)
      have fresh : name ∉ before.map Prod.fst := by
        rw [List.map_append, List.map_cons] at distinct
        exact fun old => (List.nodup_append.mp distinct).2.2 _ old _ List.mem_cons_self rfl
      have put : Keyed.put (String.ofList name.toList) value before = before ++ [(name, value)] := by
        rw [String.ofList_toList]
        exact Keyed.put_of_not_mem fresh value
      cases fields with
      | nil =>
          rw [indentedFields, indentedFields, rows_singleton, List.append_assoc, begin, ← put]
          exact ⟨head _, readFields_last before (itself delimits) closed⟩
      | cons next fields =>
          rw [indentedFields, indentedFields, rows_cons_cons, List.append_assoc, List.append_assoc,
            begin]
          refine ⟨head _, readFields_more before (itself ?_) (skipGap_cons rfl _) ?_⟩
          · rintro letter ⟨⟩
            exact Or.inl rfl
          · rw [put, List.append_cons before (name, value) (next :: fields)]
            exact (ih (before ++ [(name, value)]) (List.cons_ne_nil _ _)
              (by rwa [← List.append_cons])
              (fun field member => writable field (List.mem_cons_of_mem _ member))
              (fun field member => readBack field (List.mem_cons_of_mem _ member))).2

end Blocks

/-- The lines of a block end with the line of its closing bracket. -/
private theorem skipGap_closing
    (depth : Nat)
    (closing : Char)
    (notGap : isGap closing = false)
    (rest : List Char) :
    Delimits ('\n' :: ((indentation depth).toList ++ closing :: rest)) ∧
      skipGap ('\n' :: ((indentation depth).toList ++ closing :: rest)) = closing :: rest := by
  constructor
  · rintro letter ⟨⟩
    exact Or.inr rfl
  · exact (skipGap_indentation depth (closing :: rest)).trans (skipGap_cons notGap rest)

private theorem readsBack_list
    {level depth : Nat}
    {items : List Json}
    (room : level ≠ 0)
    (writable : ∀ item ∈ items, item.IsWritable)
    (readBack : ∀ item ∈ items, ReadsBack (level - 1) (depth + 1) item) :
    ReadsBack level depth (.list items) := by
  intro rest _
  have opens : "[" = String.singleton '[' := rfl
  have closes : "]" = String.singleton ']' := rfl
  rw [indentedAt]
  cases items with
  | nil =>
      rw [indentedItems, indentedBlock_nil_append opens closes depth]
      exact readValue_list_nil room (skipGap_cons rfl rest)
  | cons item items =>
      rcases skipGap_closing depth ']' rfl rest with ⟨delimits, closed⟩
      rcases readItems_rows (List.cons_ne_nil item items) writable readBack delimits closed with
        ⟨head, read⟩
      have some : indentedItems (depth + 1) (item :: items) ≠ [] := List.cons_ne_nil _ _
      rw [indentedBlock_append opens closes depth some]
      exact readValue_list room head read

private theorem readsBack_object
    {level depth : Nat}
    {fields : List (String × Json)}
    (room : level ≠ 0)
    (distinct : (fields.map Prod.fst).Nodup)
    (writable : ∀ field ∈ fields, field.2.IsWritable)
    (readBack : ∀ field ∈ fields, ReadsBack (level - 1) (depth + 1) field.2) :
    ReadsBack level depth (.object fields) := by
  intro rest _
  have opens : "\x7b" = String.singleton '{' := rfl
  have closes : "\x7d" = String.singleton '}' := rfl
  rw [indentedAt]
  cases fields with
  | nil =>
      rw [indentedFields, indentedBlock_nil_append opens closes depth]
      exact readValue_object_nil room (skipGap_cons rfl rest)
  | cons field fields =>
      rcases skipGap_closing depth '}' rfl rest with ⟨delimits, closed⟩
      rcases readFields_rows [] (List.cons_ne_nil field fields) distinct writable readBack delimits
        closed with ⟨head, read⟩
      have some : indentedFields (depth + 1) (field :: fields) ≠ [] := List.cons_ne_nil _ _
      rw [indentedBlock_append opens closes depth some]
      exact readValue_object room head read

private theorem readsBack_atom
    {level depth : Nat}
    {value : Json}
    (writable : value.IsWritable)
    (atom : value.isAtom = true) :
    ReadsBack level depth value := by
  intro rest delimits
  rcases spellsAtom_indentedAt depth writable atom with ⟨⟨first, others, cons, starts⟩, reads⟩
  have read := reads rest delimits
  rw [cons, List.cons_append] at read ⊢
  refine readValue_atom ?_ ?_ ?_ read
  all_goals
    rintro rfl
    exact absurd starts (by decide)

/-- Items are as deep as the deepest of them. -/
theorem itemsDepth_le_iff
    {items : List Json}
    {bound : Nat} :
    itemsDepth items ≤ bound ↔ ∀ item ∈ items, item.depth ≤ bound := by
  induction items with
  | nil => simp [itemsDepth]
  | cons item items ih => rw [itemsDepth, Nat.max_le, ih, List.forall_mem_cons]

/-- Fields are as deep as the deepest of their values. -/
theorem fieldsDepth_le_iff
    {fields : List (String × Json)}
    {bound : Nat} :
    fieldsDepth fields ≤ bound ↔ ∀ field ∈ fields, field.2.depth ≤ bound := by
  induction fields with
  | nil => simp [fieldsDepth]
  | cons field fields ih => rw [fieldsDepth, Nat.max_le, ih, List.forall_mem_cons]

/-- A value that is not too deep is read back from its text. -/
private theorem readsBack
    {value : Json}
    (writable : value.IsWritable) :
    ∀ level depth, value.depth ≤ level → ReadsBack level depth value := by
  induction writable with
  | list writable ih =>
      intro level depth fits
      rw [Json.depth] at fits
      refine readsBack_list (by omega) writable fun item member => ih item member _ _ ?_
      have := itemsDepth_le_iff.mp le_rfl item member
      omega
  | object distinct writable ih =>
      intro level depth fits
      rw [Json.depth] at fits
      refine readsBack_object (by omega) distinct writable fun field member => ih field member _ _ ?_
      have := fieldsDepth_le_iff.mp le_rfl field member
      omega
  | text value =>
      intro level depth _ rest _
      have read := readLetters_flatMap_escapeLetter
        (value.toList.flatMap escapeLetter ++ '"' :: rest) value.toList rest
      have quoted : Reads (readValue level ('"' :: (value.toList.flatMap escapeLetter ++
          '"' :: rest))) (.text (String.ofList value.toList)) rest := readValue_text read
      rw [indentedAt, quote, String.toList_ofList, List.append_assoc]
      rwa [String.ofList_toList] at quoted
  | null => exact fun _ _ _ => readsBack_atom .null rfl
  | bool value => exact fun _ _ _ => readsBack_atom (.bool value) rfl
  | int fits => exact fun _ _ _ => readsBack_atom (.int fits) rfl
  | float reduced => exact fun _ _ _ => readsBack_atom (.float reduced) rfl

/-- A document that is not too deep is read back from its indented text. -/
theorem read_indented
    {document : Json}
    (writable : document.IsWritable)
    (fits : document.depth ≤ deepestNesting) :
    read (indented document) = .ok document := by
  rcases indentedAt_begins 0 writable with ⟨first, others, cons, starts⟩
  rcases of_startsValue starts with ⟨notGap, _, noMark⟩
  have readBack := readsBack writable deepestNesting 0 fits [] (by rintro letter ⟨⟩)
  rw [List.append_nil, cons, ← skipGap_cons notGap others] at readBack
  rcases readBack with ⟨shorter, readBack⟩
  rw [Json.read, readLettersAll, indented, cons, if_neg (by simpa using noMark),
    readBack]
  rfl

end SchemaDelta.Json
