/-!
# White space

The characters that trimming removes and that may stand between the words of a definition, and the
characters that end a line.
-/

namespace SchemaDelta.Text

/-- White space characters. -/
def isBlank
    (letter : Char) : Bool :=
  let point := letter.toNat
  (9 ≤ point && point ≤ 13) || (28 ≤ point && point ≤ 32) || point == 0x85 || point == 0xA0 ||
    point == 0x1680 || (0x2000 ≤ point && point ≤ 0x200A) || point == 0x2028 ||
    point == 0x2029 || point == 0x202F || point == 0x205F || point == 0x3000

/-- Letters without the ones at their end that satisfy a test. -/
def dropEndWhile
    (test : Char → Bool)
    (letters : List Char) : List Char :=
  (letters.reverse.dropWhile test).reverse

/-- A text without the white space at its end. -/
def trimEnd
    (text : String) : String :=
  String.ofList (dropEndWhile isBlank text.toList)

/-- A text without the white space at its start and end. -/
def trim
    (text : String) : String :=
  String.ofList (dropEndWhile isBlank (text.toList.dropWhile isBlank))

/-- A text without the line feeds at its end. -/
def trimLineFeeds
    (text : String) : String :=
  String.ofList (dropEndWhile (· == '\n') text.toList)

/-- A text without the occurrences of a letter at its start. -/
def dropLeading
    (letter : Char)
    (text : String) : String :=
  String.ofList (text.toList.dropWhile (· == letter))

/--
Letters without the occurrences of a pattern, found from the left and never overlapping.  The
counter holds how many letters of an occurrence are still to be skipped.
-/
def eraseLetters
    (pattern : List Char) : Nat → List Char → List Char
  | _, [] => []
  | skipped + 1, _ :: rest => eraseLetters pattern skipped rest
  | 0, letter :: rest =>
    if pattern.isPrefixOf (letter :: rest) then eraseLetters pattern (pattern.length - 1) rest
    else letter :: eraseLetters pattern 0 rest

/-- A text without the occurrences of a nonempty pattern. -/
def erase
    (pattern text : String) : String :=
  String.ofList (eraseLetters pattern.toList 0 text.toList)

end SchemaDelta.Text
