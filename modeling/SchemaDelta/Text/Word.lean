import SchemaDelta.Text.Interval
import SchemaDelta.Text.WordTable

/-!
# Word boundaries

A keyword ends where no word character follows it.
-/

namespace SchemaDelta.Text

/-- Letters, digits, numerals and the underscore. -/
def isWord
    (letter : Char) : Bool :=
  if letter.toNat < 128 then letter.isAlphanum || letter == '_'
  else inIntervals wordIntervals letter.toNat

/-- No word character follows. -/
def atWordEnd : List Char → Bool
  | [] => true
  | letter :: _ => !isWord letter

end SchemaDelta.Text
