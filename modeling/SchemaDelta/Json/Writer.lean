import SchemaDelta.Decimal.Style
import SchemaDelta.Json.Basic

/-!
# Writing JSON texts

A document is written either over indented lines or on one line.  Only printable ASCII is written
as it is; every other letter is escaped by its code units.
-/

namespace SchemaDelta.Json

/-- The hexadecimal digits of a code unit. -/
def hexDigits
    (unit : Nat) : List Char :=
  let digits := Nat.toDigits 16 unit
  List.replicate (4 - digits.length) '0' ++ digits

/-- A code unit as an escape. -/
def unitEscape
    (unit : Nat) : List Char :=
  '\\' :: 'u' :: hexDigits unit

/-- One letter of a quoted text. -/
def escapeLetter
    (letter : Char) : List Char :=
  match letter with
  | '"' => ['\\', '"']
  | '\\' => ['\\', '\\']
  | '\n' => ['\\', 'n']
  | '\r' => ['\\', 'r']
  | '\t' => ['\\', 't']
  | '\x0c' => ['\\', 'f']
  | '\x08' => ['\\', 'b']
  | _ =>
    let point := letter.toNat
    if 32 ≤ point && point ≤ 126 then [letter]
    else if point < 0x10000 then unitEscape point
    else
      unitEscape (0xD800 + (point - 0x10000) / 0x400) ++
        unitEscape (0xDC00 + (point - 0x10000) % 0x400)

/-- A text in quotes. -/
def quote
    (text : String) : String :=
  String.ofList ('"' :: text.toList.flatMap escapeLetter ++ ['"'])

/--
Floating point numbers have the fewest digits that read back; they are written out below the
sixteenth power of ten and always have a decimal place.
-/
def numberStyle : Decimal.Style := ⟨16, ".0", "Infinity", "NaN"⟩

/-- The start of a line at a depth. -/
def indentation
    (depth : Nat) : String :=
  String.ofList (List.replicate (2 * depth) ' ')

/-- Written parts between brackets, one part a line. -/
def indentedBlock
    (opening closing : String)
    (depth : Nat)
    (parts : List String) : String :=
  if parts.isEmpty then opening ++ closing
  else
    let lead := indentation (depth + 1)
    opening ++ "\n" ++ ",\n".intercalate (parts.map fun part => lead ++ part) ++ "\n" ++
      indentation depth ++ closing

mutual

/-- A value at a depth, over indented lines. -/
def indentedAt
    (depth : Nat) : Json → String
  | null => "null"
  | bool value => if value then "true" else "false"
  | int value => toString value
  | float value => numberStyle.writeShortest value
  | text value => quote value
  | list items => indentedBlock "[" "]" depth (indentedItems (depth + 1) items)
  | object fields => indentedBlock "\x7b" "\x7d" depth (indentedFields (depth + 1) fields)

/-- The items of a list at a depth. -/
def indentedItems
    (depth : Nat) : List Json → List String
  | [] => []
  | item :: items => indentedAt depth item :: indentedItems depth items

/-- The fields of an object at a depth. -/
def indentedFields
    (depth : Nat) : List (String × Json) → List String
  | [] => []
  | (name, value) :: fields =>
    (quote name ++ ": " ++ indentedAt depth value) :: indentedFields depth fields

end

/-- A document over indented lines. -/
def indented
    (document : Json) : String :=
  indentedAt 0 document

mutual

/-- A document on one line. -/
def compact : Json → String
  | null => "null"
  | bool value => if value then "true" else "false"
  | int value => toString value
  | float value => numberStyle.writeShortest value
  | text value => quote value
  | list items => "[" ++ ", ".intercalate (compactItems items) ++ "]"
  | object fields => "\x7b" ++ ", ".intercalate (compactFields fields) ++ "\x7d"

/-- The items of a list, each on one line. -/
def compactItems : List Json → List String
  | [] => []
  | item :: items => compact item :: compactItems items

/-- The fields of an object, each on one line. -/
def compactFields : List (String × Json) → List String
  | [] => []
  | (name, value) :: fields => (quote name ++ ": " ++ compact value) :: compactFields fields

end

end SchemaDelta.Json
