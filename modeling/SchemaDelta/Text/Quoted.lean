import SchemaDelta.Text.Interval
import SchemaDelta.Text.PrintableTable

/-!
# Quoted texts

Messages show a text in quotes.  Letters that cannot be printed are shown by their codes, and the
quotes are single ones unless only those occur in the text.
-/

namespace SchemaDelta.Text

/-- Letters that a quoted text shows as they are. -/
def isPrintable
    (letter : Char) : Bool :=
  if letter.toNat < 128 then 32 ≤ letter.toNat && letter.toNat < 127
  else inIntervals printableIntervals letter.toNat

/-- The code of a letter with two, four or eight hexadecimal digits. -/
def letterCode
    (letter : Char) : List Char :=
  let digits := Nat.toDigits 16 letter.toNat
  let (mark, width) :=
    if letter.toNat < 0x100 then ('x', 2)
    else if letter.toNat < 0x10000 then ('u', 4)
    else ('U', 8)
  '\\' :: mark :: List.replicate (width - digits.length) '0' ++ digits

/-- A letter between two quotes. -/
def quotedLetter
    (mark letter : Char) : List Char :=
  if letter == mark || letter == '\\' then ['\\', letter]
  else if letter == '\n' then ['\\', 'n']
  else if letter == '\r' then ['\\', 'r']
  else if letter == '\t' then ['\\', 't']
  else if isPrintable letter then [letter]
  else letterCode letter

/-- A text in quotes. -/
def quoted
    (text : String) : String :=
  let letters := text.toList
  let mark := if letters.contains '\x27' && !letters.contains '"' then '"' else '\x27'
  String.ofList (mark :: letters.flatMap (quotedLetter mark) ++ [mark])

end SchemaDelta.Text
