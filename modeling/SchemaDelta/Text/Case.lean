import SchemaDelta.Text.CaseTable

/-!
# Letter case

Upper case, lower case and case folding of whole texts.  One letter may become several, and the
lower case of a capital sigma depends on whether it ends a word.
-/

namespace SchemaDelta.Text

/-- Upper case of one letter. -/
def upperChar
    (letter : Char) : List Char :=
  if letter.toNat < 128 then [letter.toUpper]
  else (imageOf upperRuns upperExpansions letter.toNat).map Char.ofNat

/-- Lower case of one letter outside any context. -/
def lowerChar
    (letter : Char) : List Char :=
  if letter.toNat < 128 then [letter.toLower]
  else (imageOf lowerRuns lowerExpansions letter.toNat).map Char.ofNat

/-- Case folding of one letter. -/
def foldChar
    (letter : Char) : List Char :=
  if letter.toNat < 128 then [letter.toLower]
  else (imageOf foldRuns foldExpansions letter.toNat).map Char.ofNat

/-- Letters that have case. -/
def isCased
    (letter : Char) : Bool :=
  inIntervals casedIntervals letter.toNat

/-- Marks that are skipped when the neighbours of a sigma are looked for. -/
def isCaseIgnorable
    (letter : Char) : Bool :=
  inIntervals caseIgnorableIntervals letter.toNat

/-- The nearest letter that is not skipped has case. -/
def meetsCased
    (letters : List Char) : Bool :=
  match letters.dropWhile isCaseIgnorable with
  | [] => false
  | letter :: _ => isCased letter

/-- The capital sigma, the only letter whose lower case depends on its neighbours. -/
def capitalSigma : Char := 'Σ'

/--
Lower case of the letters after `before`, which holds the letters already passed, nearest first.
A capital sigma that follows a letter and precedes none becomes a final sigma.
-/
def lowerLetters
    (before : List Char) : List Char → List Char
  | [] => []
  | letter :: after =>
    let image :=
      if letter = capitalSigma then
        if meetsCased before && !meetsCased after then ['ς'] else ['σ']
      else lowerChar letter
    image ++ lowerLetters (letter :: before) after

/-- Upper case of a text. -/
def upper
    (text : String) : String :=
  String.ofList (text.toList.flatMap upperChar)

/-- Lower case of a text. -/
def lower
    (text : String) : String :=
  String.ofList (lowerLetters [] text.toList)

/-- Case folding of a text: two texts that differ only in case have the same folding. -/
def fold
    (text : String) : String :=
  String.ofList (text.toList.flatMap foldChar)

end SchemaDelta.Text
