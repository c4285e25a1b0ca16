/-!
# Comma separated values

A table of texts, one row a line.  A field is quoted when it holds a comma, a quote or a part of a
line end, and a quote inside a field is written twice.
-/

namespace SchemaDelta.Csv

/-- Letters that a field may hold only in quotes. -/
def isSpecial
    (letter : Char) : Bool :=
  letter == ',' || letter == '"' || letter == '\r' || letter == '\n'

/-- Letters with every quote written twice. -/
def doubleQuotes
    (letters : List Char) : List Char :=
  letters.flatMap fun letter => if letter = '"' then ['"', '"'] else [letter]

/-- The letters of a field. -/
def fieldLetters
    (letters : List Char) : List Char :=
  if letters.any isSpecial then '"' :: doubleQuotes letters ++ ['"'] else letters

/-- A field. -/
def field
    (text : String) : String :=
  String.ofList (fieldLetters text.toList)

/-- A row with its line end. -/
def row
    (fields : List String) : String :=
  ",".intercalate (fields.map field) ++ "\r\n"

/-- A table. -/
def table
    (rows : List (List String)) : String :=
  String.join (rows.map row)

end SchemaDelta.Csv
