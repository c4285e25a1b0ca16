/-!
# Faults of JSON texts

A text that is no JSON document has a first place where it goes wrong.  The place is told as line,
column and character offset.  A text that is well formed so far may still ask for too much: for an
integer of too many digits or for too many values inside one another.
-/

namespace SchemaDelta.Json

/-- What is wrong at the place of a fault. -/
inductive FaultCause where
  | expectedValue
  | expectedName
  | expectedColon
  | expectedComma
  | extraData
  | unterminatedText
  | controlCharacter
  | badEscape
  | badCodeUnit
  | byteOrderMark
  /-- An integer has more digits than integers may have. -/
  | tooManyDigits (count : Nat)
  /-- More values stand inside one another than may. -/
  | tooDeep

/-- The greatest count of digits of an integer. -/
def mostDigits : Nat := 4300

/-- The wording about an integer of too many digits. -/
def digitsMessage
    (count : Nat) : String :=
  "Exceeds the limit (" ++ toString mostDigits ++ " digits) for integer string conversion: " ++
    "value has " ++ toString count ++
    " digits; use sys.set_int_max_str_digits() to increase the limit"

/-- The wording about values that are too deep inside one another. -/
def depthMessage : String := "values are too deep inside one another"

/-- The wording of a cause. -/
def FaultCause.message : FaultCause → String
  | expectedValue => "Expecting value"
  | expectedName => "Expecting property name enclosed in double quotes"
  | expectedColon => "Expecting ':' delimiter"
  | expectedComma => "Expecting ',' delimiter"
  | extraData => "Extra data"
  | unterminatedText => "Unterminated string starting at"
  | controlCharacter => "Invalid control character at"
  | badEscape => "Invalid \\escape"
  | badCodeUnit => "Invalid \\uXXXX escape"
  | byteOrderMark => "Unexpected UTF-8 BOM (decode using utf-8-sig)"
  | tooManyDigits count => digitsMessage count
  | tooDeep => depthMessage

/-- A cause and the count of letters from its place to the end of the text. -/
structure Fault where
  cause : FaultCause
  remaining : Nat

/-- Why a text cannot be read. -/
inductive ReadFailure where
  /-- The text is no document; the message tells the place. -/
  | malformed (message : String)
  | tooManyDigits (count : Nat)
  | tooDeep
deriving DecidableEq

/-- The wording of a failure. -/
def ReadFailure.message : ReadFailure → String
  | malformed message => message
  | tooManyDigits count => digitsMessage count
  | tooDeep => depthMessage

/-- The wording of a fault of a text, with its place. -/
def Fault.message
    (fault : Fault)
    (text : List Char) : String :=
  let offset := text.length - fault.remaining
  let before := text.take offset
  let line := (before.filter (· == '\n')).length + 1
  let column := (before.reverse.takeWhile (· != '\n')).length + 1
  fault.cause.message ++ ": line " ++ toString line ++ " column " ++ toString column ++
    " (char " ++ toString offset ++ ")"

/-- Why a text with a fault cannot be read. -/
def Fault.failure
    (fault : Fault)
    (text : List Char) : ReadFailure :=
  match fault.cause with
  | .tooManyDigits count => .tooManyDigits count
  | .tooDeep => .tooDeep
  | _ => .malformed (fault.message text)

end SchemaDelta.Json
