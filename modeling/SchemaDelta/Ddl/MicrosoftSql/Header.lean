import SchemaDelta.Text.Blank
import SchemaDelta.Text.Word

/-!
# Headers of module definitions

The definition of a module starts with `CREATE` or `CREATE OR ALTER` and the word for its kind,
after white space and comments.  Altering a module puts `ALTER` in the place of the first words.

A block comment may close at any later `*/` if the header is found only after that one, so a
header is looked for at every place of the text, from the end to the start.
-/

namespace SchemaDelta.MicrosoftSql

/-- The modules whose definitions have a header. -/
inductive ModuleKind where
  | view
  | function
  | procedure
  | trigger
deriving DecidableEq

/-- The words that name a kind, the longer one first. -/
def ModuleKind.keywords : ModuleKind → List (List Char)
  | view => ["VIEW".toList]
  | function => ["FUNCTION".toList]
  | procedure => ["PROCEDURE".toList, "PROC".toList]
  | trigger => ["TRIGGER".toList]

/-- A letter is a keyword letter in some case; the two Turkish letters count as an I. -/
def isLetterOf
    (keyword letter : Char) : Bool :=
  letter == keyword || letter == keyword.toLower ||
    (keyword == 'I' && (letter == 'ı' || letter == 'İ'))

/-- A keyword at the start of a text: the letters that spell it and the rest. -/
def keyword? : List Char → List Char → Option (List Char × List Char)
  | [], text => some ([], text)
  | _ :: _, [] => none
  | keyword :: keywords, letter :: text =>
    if isLetterOf keyword letter then
      (keyword? keywords text).map fun (spelled, rest) => (letter :: spelled, rest)
    else none

/-- What follows the white space at the start of a text, if there is any. -/
def afterBlanks?
    (text : List Char) : Option (List Char) :=
  match text with
  | letter :: rest =>
    if Text.isBlank letter then some (rest.dropWhile Text.isBlank) else none
  | [] => none

/-- The word for a kind of module at the start of a text; no word character may follow it. -/
def kindWord?
    (kind : ModuleKind)
    (text : List Char) : Option (List Char × List Char) :=
  kind.keywords.findSome? fun keyword =>
    match keyword? keyword text with
    | some (spelled, rest) => if Text.atWordEnd rest then some (spelled, rest) else none
    | none => none

/-- What follows `OR ALTER` after white space. -/
def afterOrAlter?
    (text : List Char) : Option (List Char) := do
  let text ← afterBlanks? text
  let (_, text) ← keyword? "OR".toList text
  let text ← afterBlanks? text
  let (_, text) ← keyword? "ALTER".toList text
  some text

/-- The word for the kind of a module after its first words, and the rest of the definition. -/
def createClause?
    (kind : ModuleKind)
    (text : List Char) : Option (List Char × List Char) := do
  let (_, text) ← keyword? "CREATE".toList text
  let plain := (afterBlanks? text).bind (kindWord? kind)
  match afterOrAlter? text with
  | some altered => ((afterBlanks? altered).bind (kindWord? kind)).or plain
  | none => plain

/-- A header: how many letters follow its start, the word for the kind and what follows that. -/
structure Header where
  remaining : Nat
  kindWord : List Char
  rest : List Char
deriving DecidableEq

/--
The header found after the end of the first line.  The second list holds the headers found from
every place of the text.
-/
def afterLine? : List Char → List (Option Header) → Option Header
  | letter :: text, _ :: found =>
    if letter = '\n' then found.head?.join else afterLine? text found
  | _, _ => none

/-- The header found after the first closing of a comment that has one after it. -/
def afterComment? : List Char → List (Option Header) → Option Header
  | '*' :: '/' :: text, _ :: _ :: found =>
    match found.head?.join with
    | some header => some header
    | none => afterComment? text found
  | _ :: text, _ :: found => afterComment? text found
  | _, _ => none

/-- The headers found from every place of a text, the place after its end included. -/
def headersFrom
    (kind : ModuleKind) : List Char → List (Option Header)
  | [] => [none]
  | letter :: text =>
    let found := headersFrom kind text
    let here :=
      if Text.isBlank letter then found.head?.join
      else
        match letter, text with
        | '-', '-' :: line => afterLine? line (found.drop 1)
        | '/', '*' :: comment => afterComment? comment (found.drop 1)
        | _, _ =>
          (createClause? kind (letter :: text)).map fun (kindWord, rest) =>
            ⟨text.length + 1, kindWord, rest⟩
    here :: found

/-- The header of a definition. -/
def header?
    (kind : ModuleKind)
    (definition : List Char) : Option Header :=
  (headersFrom kind definition).head?.join

/-- A definition that alters the module it defines. -/
def alteringDefinition?
    (kind : ModuleKind)
    (definition : String) : Option String :=
  let letters := definition.toList
  (header? kind letters).map fun header =>
    String.ofList (letters.take (letters.length - header.remaining) ++ "ALTER ".toList ++
      header.kindWord ++ header.rest)

end SchemaDelta.MicrosoftSql
