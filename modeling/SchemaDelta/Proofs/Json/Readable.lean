import Mathlib.Data.List.TakeWhile
import Mathlib.Tactic.Linarith
import SchemaDelta.Proofs.Json.RoundTrip

/-!
# What is read can be written

A document that was read has integers of limited length, numbers in their rounded form, distinct
names of fields and a limited depth, so that it can be written and read back.
-/

namespace SchemaDelta.Json

open Decimal (Binary64)

/-! ## Numbers -/

/-- Digits are worth less than the power of ten that has one digit more. -/
private theorem digitsValue_lt
    {digits : List Char}
    (allDigits : ∀ digit ∈ digits, digit.isDigit = true) :
    digitsValue digits < 10 ^ digits.length := by
  rw [digitsValue_eq_ofDigitChars]
  induction digits with
  | nil => decide
  | cons digit digits ih =>
      have rest := ih fun other member => allDigits other (List.mem_cons_of_mem digit member)
      have single : digit.toNat - '0'.toNat < 10 := by
        have within := Char.isDigit_iff_toNat.mp (allDigits digit List.mem_cons_self)
        have nine : '9'.toNat = 57 := rfl
        have zero : '0'.toNat = 48 := rfl
        omega
      rw [Nat.ofDigitChars_cons, Nat.ofDigitChars_eq_ofDigitChars_zero, List.length_cons,
        Nat.pow_succ]
      nlinarith

private theorem isDigit_wholeDigits
    (text : List Char) :
    ∀ digit ∈ wholeDigits text, digit.isDigit = true := by
  intro digit member
  unfold wholeDigits at member
  split at member
  · rw [List.mem_singleton.mp member]
    rfl
  · exact List.mem_takeWhile_imp member

/-- A number that was read can be written. -/
private theorem isWritable_of_numberPart?
    {text : List Char}
    {value : Json}
    {count : Nat}
    (found : numberPart? text = .ok (some (value, count))) :
    value.IsWritable ∧ value.depth = 0 := by
  unfold numberPart? at found
  dsimp only at found
  generalize (text.head? == some '-') = negative at found
  generalize (if negative = true then 1 else 0) = signs at found
  generalize List.drop signs text = unsigned at found
  generalize decimalPlaces (unsigned.drop (wholeDigits unsigned).length) = places at found
  generalize (if places.isEmpty = true then 0 else 1 + places.length) = pointed at found
  split at found
  · cases found
  split at found
  · cases found
    exact ⟨.float (Binary64.isReduced_ofDecimal _ _ _), rfl⟩
  split at found
  · cases found
    exact ⟨.float (Binary64.isReduced_ofDecimal _ _ _), rfl⟩
  split at found
  · cases found
  · rename_i notEmpty _ _ _ fits
    cases found
    have below := digitsValue_lt (isDigit_wholeDigits unsigned)
    have long : 0 < (wholeDigits unsigned).length := by
      rw [List.isEmpty_iff] at notEmpty
      exact List.length_pos_iff.mpr notEmpty
    have within := (Nat.length_toDigits_le_iff (by decide) long).mpr below
    refine ⟨.int ?_, rfl⟩
    have magnitude : (if negative = true then -(digitsValue (wholeDigits unsigned) : Int)
        else digitsValue (wholeDigits unsigned)).natAbs = digitsValue (wholeDigits unsigned) := by
      split <;> omega
    rw [magnitude]
    omega

private theorem isWritable_of_mem_words
    {entry : List Char × Json}
    (member : entry ∈ words) :
    entry.2.IsWritable ∧ entry.2.depth = 0 := by
  simp only [words, List.mem_cons, List.not_mem_nil, or_false] at member
  rcases member with rfl | rfl | rfl | rfl | rfl | rfl
  case inl => exact ⟨.null, rfl⟩
  case inr.inl => exact ⟨.bool true, rfl⟩
  case inr.inr.inl => exact ⟨.bool false, rfl⟩
  all_goals exact ⟨.float trivial, rfl⟩

private theorem isWritable_of_readAtom
    {text : List Char}
    {value : Json}
    {after : Rest text}
    (read : readAtom text = .ok (value, after)) :
    value.IsWritable ∧ value.depth = 0 := by
  unfold readAtom at read
  split at read
  · cases read
  split at read
  · cases read
  · cases read
  · rename_i found
    cases read
    unfold atomPart? at found
    split at found
    · rename_i word
      cases found
      exact isWritable_of_mem_words (List.mem_of_find?_eq_some word)
    · exact isWritable_of_numberPart? found

/-! ## Parts -/

/-- What is read from a text, if anything, can be written and is at most so deep. -/
private def GivesWritable
    (level : Nat)
    (text : List Char) : Prop :=
  ∀ value after, readValue level text = .ok (value, after) →
    value.IsWritable ∧ value.depth ≤ level

section Parts

variable {level bound : Nat}

/-- Items that are read can be written if every value in such a text can. -/
private theorem readItems_writable
    (values : ∀ text : List Char, text.length < bound → GivesWritable level text)
    (text : List Char)
    (fits : text.length < bound)
    {items : List Json}
    {after : Rest text}
    (read : readItems level text = .ok (items, after)) :
    ∀ item ∈ items, item.IsWritable ∧ item.depth ≤ level := by
  induction length : text.length using Nat.strongRecOn generalizing text items with
  | ind _ ih =>
      rw [readItems] at read
      split at read
      · cases read
      · rename_i first behind firstRead
        have firstWritable := values text fits _ _ firstRead
        split at read
        · cases read
          intro item member
          rw [List.mem_singleton.mp member]
          exact firstWritable
        · rename_i rest comma
          have shorter := behind.property
          have skipped := length_skipGap_le behind.val
          have skipped' := length_skipGap_le rest
          rw [comma, List.length_cons] at skipped
          split at read
          · cases read
          · rename_i others _ othersRead
            cases read
            have othersWritable := ih _ (by omega) (skipGap rest) (by omega) othersRead rfl
            intro item member
            rcases List.mem_cons.mp member with rfl | later
            · exact firstWritable
            · exact othersWritable item later
        · cases read

/-- Fields that are read to others have distinct names and can be written, as the others do. -/
private theorem readFields_writable
    (values : ∀ text : List Char, text.length < bound → GivesWritable level text)
    (text : List Char)
    (fits : text.length < bound)
    {before fields : List (String × Json)}
    (distinct : (before.map Prod.fst).Nodup)
    (writable : ∀ field ∈ before, field.2.IsWritable ∧ field.2.depth ≤ level)
    {after : Rest text}
    (read : readFields level before text = .ok (fields, after)) :
    (fields.map Prod.fst).Nodup ∧
      ∀ field ∈ fields, field.2.IsWritable ∧ field.2.depth ≤ level := by
  induction length : text.length using Nat.strongRecOn generalizing text before fields with
  | ind _ ih =>
      unfold readFields at read
      split at read
      · split at read
        · cases read
        · rename_i name named _
          split at read
          · rename_i rest colon
            split at read
            · cases read
            · rename_i value behind valueRead
              have shorter := named.property
              have shorter' := behind.property
              have skipped := length_skipGap_le named.val
              have skipped' := length_skipGap_le rest
              have skipped'' := length_skipGap_le behind.val
              rw [colon, List.length_cons] at skipped
              rw [List.length_cons] at fits length
              have valueWritable := values (skipGap rest) (by omega) _ _ valueRead
              have putWritable : ∀ field ∈ Keyed.put (String.ofList name) value before,
                  field.2.IsWritable ∧ field.2.depth ≤ level := by
                intro field member
                rcases Keyed.mem_put member with held | old
                · rwa [held]
                · exact writable field old
              have putDistinct := Keyed.nodup_keys_put (String.ofList name) value distinct
              dsimp only at read
              split at read
              · cases read
                exact ⟨putDistinct, putWritable⟩
              · rename_i rest' comma
                have skipped''' := length_skipGap_le rest'
                rw [comma, List.length_cons] at skipped''
                split at read
                · cases read
                · rename_i othersRead
                  cases read
                  exact ih _ (by omega) (skipGap rest') (by omega) putDistinct putWritable othersRead
                    rfl
              · cases read
          · cases read
      · cases read

end Parts

/-- What is read can be written. -/
private theorem readValue_writable
    (bound : Nat) :
    ∀ level, ∀ text : List Char, text.length < bound → GivesWritable level text := by
  induction bound with
  | zero => exact fun _ _ below => absurd below (Nat.not_lt_zero _)
  | succ bound ih =>
      intro level text fits value after read
      unfold readValue at read
      split at read
      · split at read
        · cases read
        · cases read
          exact ⟨.text _, Nat.zero_le _⟩
      · rename_i rest
        have skipped := length_skipGap_le rest
        rw [List.length_cons] at fits
        split at read
        · cases read
        · rename_i room
          split at read
          · cases read
            exact ⟨.object List.nodup_nil (by simp), by simp only [Json.depth, fieldsDepth]; omega⟩
          · split at read
            · cases read
            · rename_i fieldsRead
              cases read
              have none : (([] : List (String × Json)).map Prod.fst).Nodup := List.nodup_nil
              rcases readFields_writable (ih (level - 1)) _ (by omega) none (by simp)
                fieldsRead with ⟨distinct, writable⟩
              refine ⟨.object distinct fun field member => (writable field member).1, ?_⟩
              have fields := fieldsDepth_le_iff.mpr fun field member => (writable field member).2
              rw [Json.depth]
              omega
      · rename_i rest
        have skipped := length_skipGap_le rest
        rw [List.length_cons] at fits
        split at read
        · cases read
        · rename_i room
          split at read
          · cases read
            exact ⟨.list (by simp), by simp only [Json.depth, itemsDepth]; omega⟩
          · split at read
            · cases read
            · rename_i itemsRead
              cases read
              have writable := readItems_writable (ih (level - 1)) _ (by omega) itemsRead
              refine ⟨.list fun item member => (writable item member).1, ?_⟩
              have items := itemsDepth_le_iff.mpr fun item member => (writable item member).2
              rw [Json.depth]
              omega
      · rcases isWritable_of_readAtom read with ⟨writable, flat⟩
        exact ⟨writable, by omega⟩

/-- A document that is read can be written and is not too deep to be read. -/
theorem isWritable_of_read
    {text : String}
    {document : Json}
    (read : Json.read text = .ok document) :
    document.IsWritable ∧ document.depth ≤ deepestNesting := by
  unfold Json.read at read
  cases letters : readLettersAll text.toList with
  | error fault =>
      rw [letters] at read
      cases read
  | ok found =>
      rw [letters] at read
      cases read
      unfold readLettersAll at letters
      split at letters
      · cases letters
      split at letters
      · cases letters
      · rename_i value after valueRead
        split at letters
        · cases letters
          exact readValue_writable _ _ _ (Nat.lt_succ_self _) _ _ valueRead
        · cases letters

end SchemaDelta.Json
