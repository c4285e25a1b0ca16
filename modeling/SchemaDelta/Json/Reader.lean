import SchemaDelta.Json.Basic
import SchemaDelta.Json.Fault

/-!
# Reading JSON texts

A text is read from the left.  Every part that is read leaves a shorter rest, which is why reading
ends.  A name that is repeated in an object keeps its first place and its last value.
-/

namespace SchemaDelta.Json

open Decimal (Binary64)

/-- What is left of a text after some of it has been read. -/
abbrev Rest
    (text : List Char) : Type :=
  { rest : List Char // rest.length < text.length }

/-- A rest of a rest. -/
def Rest.within
    {shorter longer : List Char}
    (rest : Rest shorter)
    (bound : shorter.length ≤ longer.length) : Rest longer :=
  ⟨rest.val, Nat.lt_of_lt_of_le rest.property bound⟩

/-- White space between the parts of a document. -/
def isGap
    (letter : Char) : Bool :=
  letter == ' ' || letter == '\t' || letter == '\n' || letter == '\r'

/-- A text from its first letter that is not white space. -/
def skipGap : List Char → List Char
  | [] => []
  | letter :: rest => if isGap letter then skipGap rest else letter :: rest

theorem length_skipGap_le
    (text : List Char) : (skipGap text).length ≤ text.length := by
  induction text with
  | nil => simp [skipGap]
  | cons letter rest shorter =>
    simp only [skipGap, List.length_cons]
    split
    · omega
    · simp

/-- The value of a hexadecimal digit. -/
def hexValue?
    (letter : Char) : Option Nat :=
  if '0' ≤ letter && letter ≤ '9' then some (letter.toNat - 48)
  else if 'a' ≤ letter && letter ≤ 'f' then some (letter.toNat - 87)
  else if 'A' ≤ letter && letter ≤ 'F' then some (letter.toNat - 55)
  else none

/-- The code unit written by four hexadecimal digits. -/
def codeUnit?
    (first second third fourth : Char) : Option Nat := do
  let first ← hexValue? first
  let second ← hexValue? second
  let third ← hexValue? third
  let fourth ← hexValue? fourth
  some (((first * 16 + second) * 16 + third) * 16 + fourth)

/-- The letter meant by an escape of one letter. -/
def escaped?
    (letter : Char) : Option Char :=
  match letter with
  | '"' => some '"'
  | '\\' => some '\\'
  | '/' => some '/'
  | 'b' => some '\x08'
  | 'f' => some '\x0c'
  | 'n' => some '\n'
  | 'r' => some '\r'
  | 't' => some '\t'
  | _ => none

/--
The letter of a surrogate pair, if a code unit is a high half and its low half is written at the
start of a text.
-/
def surrogatePair?
    (unit : Nat)
    (text : List Char) : Except Fault (Option (Char × Rest text)) :=
  if unit < 0xD800 || 0xDBFF < unit then .ok none
  else
    match text with
    | '\\' :: 'u' :: first :: second :: third :: fourth :: next :: rest =>
      match codeUnit? first second third fourth with
      | none => .error ⟨.badCodeUnit, rest.length + 6⟩
      | some low =>
        if 0xDC00 ≤ low && low ≤ 0xDFFF then
          let letter := Char.ofNat (0x10000 + (unit - 0xD800) * 0x400 + (low - 0xDC00))
          .ok (some (letter, ⟨next :: rest, by simp⟩))
        else .ok none
    | _ => .ok none

/--
The letters of a quoted text up to its closing quote.  `opening` is the text behind the opening
quote.
-/
def readLetters
    (opening : List Char)
    (text : List Char) : Except Fault (List Char × Rest text) :=
  match text with
  | [] => .error ⟨.unterminatedText, opening.length + 1⟩
  | '"' :: rest => .ok ([], ⟨rest, by simp⟩)
  | '\\' :: 'u' :: first :: second :: third :: fourth :: rest =>
    match codeUnit? first second third fourth with
    | none => .error ⟨.badCodeUnit, rest.length + 5⟩
    | some unit =>
      if rest.isEmpty then .error ⟨.badCodeUnit, rest.length + 5⟩
      else
        match surrogatePair? unit rest with
        | .error fault => .error fault
        | .ok (some (letter, after)) =>
          match readLetters opening after.val with
          | .error fault => .error fault
          | .ok (letters, rest') =>
            .ok (letter :: letters,
              rest'.within (by have := after.property; simp only [List.length_cons]; omega))
        | .ok none =>
          match readLetters opening rest with
          | .error fault => .error fault
          | .ok (letters, rest') =>
            .ok (Char.ofNat unit :: letters, rest'.within (by simp only [List.length_cons]; omega))
  | '\\' :: 'u' :: rest => .error ⟨.badCodeUnit, rest.length + 1⟩
  | ['\\'] => .error ⟨.unterminatedText, opening.length + 1⟩
  | '\\' :: letter :: rest =>
    match escaped? letter with
    | none => .error ⟨.badEscape, rest.length + 2⟩
    | some meant =>
      match readLetters opening rest with
      | .error fault => .error fault
      | .ok (letters, rest') =>
        .ok (meant :: letters, rest'.within (by simp only [List.length_cons]; omega))
  | letter :: rest =>
    if letter.toNat < 32 then .error ⟨.controlCharacter, rest.length + 1⟩
    else
      match readLetters opening rest with
      | .error fault => .error fault
      | .ok (letters, rest') =>
        .ok (letter :: letters, rest'.within (by simp))
termination_by text.length
decreasing_by
  · have := after.property
    simp only [List.length_cons]
    omega
  all_goals
    simp only [List.length_cons]
    omega

/-- The number written by decimal digits. -/
def digitsValue
    (digits : List Char) : Nat :=
  digits.foldl (fun value digit => value * 10 + (digit.toNat - 48)) 0

/-- The exponent at the start of a text, and the count of letters that it takes. -/
def exponentPart
    (text : List Char) : Option (Int × Nat) :=
  match text with
  | mark :: rest =>
    if mark == 'e' || mark == 'E' then
      let (negative, signs, digits) :=
        match rest with
        | '-' :: digits => (true, 1, digits)
        | '+' :: digits => (false, 1, digits)
        | digits => (false, 0, digits)
      let digits := digits.takeWhile Char.isDigit
      if digits.isEmpty then none
      else
        let value : Int := digitsValue digits
        some (if negative then -value else value, 1 + signs + digits.length)
    else none
  | [] => none

/-- The digits at the start of a text before the point; a zero there stands alone. -/
def wholeDigits : List Char → List Char
  | '0' :: _ => ['0']
  | unsigned => unsigned.takeWhile Char.isDigit

/-- The digits after a point at the start of a text. -/
def decimalPlaces : List Char → List Char
  | '.' :: digits => digits.takeWhile Char.isDigit
  | _ => []

/--
The number at the start of a text and the count of letters that it takes.  A point without digits
after it and an exponent without digits are not part of the number.
-/
def numberPart?
    (text : List Char) : Except FaultCause (Option (Json × Nat)) :=
  let negative := text.head? == some '-'
  let signs := if negative then 1 else 0
  let unsigned := text.drop signs
  let whole := wholeDigits unsigned
  if whole.isEmpty then .ok none
  else
    let rest := unsigned.drop whole.length
    let places := decimalPlaces rest
    let pointed := if places.isEmpty then 0 else 1 + places.length
    let length := signs + whole.length + pointed
    match exponentPart (rest.drop pointed) with
    | some (exponent, count) =>
      .ok (some (.float (Binary64.ofDecimal negative (digitsValue (whole ++ places))
        (exponent - places.length)), length + count))
    | none =>
      if !places.isEmpty then
        .ok (some (.float (Binary64.ofDecimal negative (digitsValue (whole ++ places))
          (-(places.length : Int))), length))
      else if mostDigits < whole.length then .error (.tooManyDigits whole.length)
      else
        let value : Int := digitsValue whole
        .ok (some (.int (if negative then -value else value), length))

/-- The words that stand for values. -/
def words : List (List Char × Json) := [
  ("null".toList, .null),
  ("true".toList, .bool true),
  ("false".toList, .bool false),
  ("NaN".toList, .float .undefined),
  ("Infinity".toList, .float (.infinite false)),
  ("-Infinity".toList, .float (.infinite true))]

/-- The word or number at the start of a text, if there is any, and the count of its letters. -/
def atomPart?
    (text : List Char) : Except FaultCause (Option (Json × Nat)) :=
  match words.find? fun (word, _) => word.isPrefixOf text with
  | some (word, value) => .ok (some (value, word.length))
  | none => numberPart? text

/-- The word or number at the start of a text. -/
def readAtom
    (text : List Char) : Except Fault (Json × Rest text) :=
  match text with
  | [] => .error ⟨.expectedValue, 0⟩
  | letter :: letters =>
    match atomPart? (letter :: letters) with
    | .error cause => .error ⟨cause, letters.length + 1⟩
    | .ok none => .error ⟨.expectedValue, letters.length + 1⟩
    | .ok (some (value, count)) =>
      .ok (value, ⟨letters.drop (count - 1), by
        simp only [List.length_drop, List.length_cons]
        omega⟩)

/-- The greatest count of lists and objects inside one another. -/
def deepestNesting : Nat := 990

mutual

/-- The value at the start of a text, with at most so many lists and objects inside one another. -/
def readValue
    (depth : Nat)
    (text : List Char) : Except Fault (Json × Rest text) :=
  match text with
  | '"' :: rest =>
    match readLetters rest rest with
    | .error fault => .error fault
    | .ok (letters, after) => .ok (.text (String.ofList letters), after.within (by simp))
  | '{' :: rest =>
    if depth = 0 then .error ⟨.tooDeep, rest.length + 1⟩
    else
      match bound : skipGap rest with
      | '}' :: after =>
        .ok (.object [], ⟨after, by
          have := length_skipGap_le rest
          rw [bound] at this
          simp only [List.length_cons] at this ⊢
          omega⟩)
      | inner =>
        match readFields (depth - 1) [] inner with
        | .error fault => .error fault
        | .ok (fields, after) =>
          .ok (.object fields, after.within (by
            have := length_skipGap_le rest
            rw [bound] at this
            simp only [List.length_cons]
            omega))
  | '[' :: rest =>
    if depth = 0 then .error ⟨.tooDeep, rest.length + 1⟩
    else
      match bound : skipGap rest with
      | ']' :: after =>
        .ok (.list [], ⟨after, by
          have := length_skipGap_le rest
          rw [bound] at this
          simp only [List.length_cons] at this ⊢
          omega⟩)
      | inner =>
        match readItems (depth - 1) inner with
        | .error fault => .error fault
        | .ok (items, after) =>
          .ok (.list items, after.within (by
            have := length_skipGap_le rest
            rw [bound] at this
            simp only [List.length_cons]
            omega))
  | text => readAtom text
termination_by (text.length, 0)
decreasing_by
  all_goals
    have := length_skipGap_le rest
    rw [bound] at this
    apply Prod.Lex.left
    simp only [List.length_cons]
    omega

/-- The items of a list up to its closing bracket. -/
def readItems
    (depth : Nat)
    (text : List Char) : Except Fault (List Json × Rest text) :=
  match readValue depth text with
  | .error fault => .error fault
  | .ok (item, after) =>
    match bound : skipGap after.val with
    | ']' :: rest =>
      .ok ([item], ⟨rest, by
        have := length_skipGap_le after.val
        have := after.property
        simp_all only [List.length_cons]
        omega⟩)
    | ',' :: rest =>
      match readItems depth (skipGap rest) with
      | .error fault => .error fault
      | .ok (items, rest') =>
        .ok (item :: items, rest'.within (by
          have := length_skipGap_le after.val
          have := length_skipGap_le rest
          have := after.property
          simp_all only [List.length_cons]
          omega))
    | other => .error ⟨.expectedComma, other.length⟩
termination_by (text.length, 1)
decreasing_by
  · apply Prod.Lex.right
    omega
  · have := length_skipGap_le after.val
    have := length_skipGap_le rest
    have := after.property
    apply Prod.Lex.left
    simp_all only [List.length_cons]
    omega

/-- The fields of an object up to its closing brace, put to the fields read before. -/
def readFields
    (depth : Nat)
    (before : List (String × Json))
    (text : List Char) : Except Fault (List (String × Json) × Rest text) :=
  match text with
  | '"' :: quoted =>
    match readLetters quoted quoted with
    | .error fault => .error fault
    | .ok (name, named) =>
      match colon : skipGap named.val with
      | ':' :: rest =>
        match readValue depth (skipGap rest) with
        | .error fault => .error fault
        | .ok (value, after) =>
          let fields := Keyed.put (String.ofList name) value before
          match bound : skipGap after.val with
          | '}' :: rest' =>
            .ok (fields, ⟨rest', by
              have := length_skipGap_le named.val
              have := length_skipGap_le rest
              have := length_skipGap_le after.val
              have := named.property
              have := after.property
              simp_all only [List.length_cons]
              omega⟩)
          | ',' :: rest' =>
            match readFields depth fields (skipGap rest') with
            | .error fault => .error fault
            | .ok (fields, rest'') =>
              .ok (fields, rest''.within (by
                have := length_skipGap_le named.val
                have := length_skipGap_le rest
                have := length_skipGap_le after.val
                have := length_skipGap_le rest'
                have := named.property
                have := after.property
                simp_all only [List.length_cons]
                omega))
          | other => .error ⟨.expectedComma, other.length⟩
      | other => .error ⟨.expectedColon, other.length⟩
  | other => .error ⟨.expectedName, other.length⟩
termination_by (text.length, 1)
decreasing_by
  · have := length_skipGap_le named.val
    have := length_skipGap_le rest
    have := named.property
    apply Prod.Lex.left
    simp_all only [List.length_cons]
    omega
  · have := length_skipGap_le named.val
    have := length_skipGap_le rest
    have := length_skipGap_le after.val
    have := length_skipGap_le rest'
    have := named.property
    have := after.property
    apply Prod.Lex.left
    simp_all only [List.length_cons]
    omega

end

/-- The document that is all of a text. -/
def readLettersAll
    (text : List Char) : Except Fault Json :=
  if text.head? == some '\ufeff' then .error ⟨.byteOrderMark, text.length⟩
  else
    match readValue deepestNesting (skipGap text) with
    | .error fault => .error fault
    | .ok (value, after) =>
      match skipGap after.val with
      | [] => .ok value
      | extra => .error ⟨.extraData, extra.length⟩

/-- The document written by a text, or what its first fault makes of it. -/
def read
    (text : String) : Except ReadFailure Json :=
  (readLettersAll text.toList).mapError fun fault => fault.failure text.toList

end SchemaDelta.Json
