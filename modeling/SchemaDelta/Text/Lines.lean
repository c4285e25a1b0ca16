/-!
# Lines

Texts are cut into lines at every line boundary; a carriage return and the line feed after it are
one boundary, and a boundary at the end of the text starts no further line.
-/

namespace SchemaDelta.Text

/-- Characters that end a line. -/
def isLineEnd
    (letter : Char) : Bool :=
  let point := letter.toNat
  (10 ≤ point && point ≤ 13) || (28 ≤ point && point ≤ 30) || point == 0x85 ||
    point == 0x2028 || point == 0x2029

/--
The lines of a list of letters.  A letter that ends no line is put in front of the first line of
what follows it, which is empty when a boundary follows.
-/
def lineLetters : List Char → List (List Char)
  | [] => []
  | '\r' :: '\n' :: rest => [] :: lineLetters rest
  | letter :: rest =>
    if isLineEnd letter then [] :: lineLetters rest
    else
      match lineLetters rest with
      | [] => [[letter]]
      | line :: lines => (letter :: line) :: lines

/-- The lines of a text without their boundaries. -/
def lines
    (text : String) : List String :=
  (lineLetters text.toList).map String.ofList

end SchemaDelta.Text
