import SchemaDelta.Text.Digit

/-!
# Words of a command line

Every word of a command line is an option, an argument or the separator after which all words are
arguments.  A long option may be shortened as far as it stays unique and may carry its value behind
an equals sign; a short option may carry its value right behind its letter.
-/

namespace SchemaDelta.CommandLine

/-- An option. -/
structure OptionSpec where
  /-- The spellings of the option with their hyphens. -/
  spellings : List String
  takesValue : Bool
deriving DecidableEq

/-- What a word carries behind the spelling of an option. -/
inductive Carried where
  | nothing
  | behindEquals (text : String)
  /-- Letters behind the letter of a short option, right there or behind an equals sign. -/
  | attached (letters : List Char)
deriving DecidableEq

/-- A word of a command line. -/
inductive Token where
  | argument (text : String)
  /-- The two hyphens after which all words are arguments. -/
  | separator
  /-- An option with what its word carries. -/
  | option (spec : OptionSpec) (carried : Carried)
  /-- A word that looks like an option but is none. -/
  | stray
deriving DecidableEq

/-- Options that words may name, by their spellings. -/
def spellings
    (specs : List OptionSpec) : List (String × OptionSpec) :=
  specs.flatMap fun spec => spec.spellings.map fun spelling => (spelling, spec)

/-- The letters before the first equals sign of a word, and those behind it if there is one. -/
def splitAtEquals
    (letters : List Char) : List Char × Option (List Char) :=
  let before := letters.takeWhile (· != '=')
  match letters.drop before.length with
  | [] => (before, none)
  | _ :: behind => (before, some behind)

/-- Letters without a line feed at their end. -/
def dropLineFeed
    (letters : List Char) : List Char :=
  if letters.getLast? = some '\n' then letters.dropLast else letters

/-- Letters that spell a negative number, which a line feed may end. -/
def isNegativeNumber : List Char → Bool
  | '-' :: letters =>
    let letters := dropLineFeed letters
    let whole := letters.takeWhile Text.isDigit
    match letters.drop whole.length with
    | [] => !whole.isEmpty
    | '.' :: fraction => !fraction.isEmpty && fraction.all Text.isDigit
    | _ => false
  | _ => false

/-- Letters that start as the spelling of a long option does. -/
def isLong
    (letters : List Char) : Bool :=
  ['-', '-'].isPrefixOf letters

/-- The options that a word may shorten or carry a value for. -/
def readings
    (known : List (String × OptionSpec))
    (letters : List Char) : List Token :=
  match letters with
  | '-' :: '-' :: _ =>
    let (stem, behind) := splitAtEquals letters
    let carried : Carried :=
      match behind with
      | none => .nothing
      | some behind => .behindEquals (String.ofList behind)
    known.filterMap fun (spelling, spec) =>
      if stem.isPrefixOf spelling.toList then some (.option spec carried) else none
  | '-' :: letter :: behind =>
    known.filterMap fun (spelling, spec) =>
      if spelling.toList = ['-', letter] then some (.option spec (.attached behind))
      else if letters.isPrefixOf spelling.toList then some (.option spec .nothing)
      else none
  | _ => []

/-- What a word is that names no option as it is, if it is not ambiguous. -/
def tokenByReadings
    (known : List (String × OptionSpec))
    (word : String) : Option Token :=
  match readings known word.toList with
  | [reading] => some reading
  | [] =>
    if isNegativeNumber word.toList || word.toList.contains ' ' then some (.argument word)
    else some .stray
  | _ => none

/-- What a word is, unless it may name several options. -/
def token?
    (specs : List OptionSpec)
    (word : String) : Option Token :=
  let known := spellings specs
  match word.toList with
  | '-' :: _ :: _ =>
    match known.lookup word with
    | some spec => some (.option spec .nothing)
    | none =>
      match splitAtEquals word.toList with
      | (stem, some behind) =>
        match known.lookup (String.ofList stem) with
        | some spec =>
          let carried : Carried :=
            if isLong stem then .behindEquals (String.ofList behind) else .attached behind
          some (.option spec carried)
        | none => tokenByReadings known word
      | (_, none) => tokenByReadings known word
  | _ => some (.argument word)

/-- What the words of a command line are, unless one may name several options. -/
def tokens?
    (specs : List OptionSpec) : List String → Option (List Token)
  | [] => some []
  | word :: words =>
    if word = "--" then some (.separator :: words.map .argument)
    else do
      let first ← token? specs word
      let others ← tokens? specs words
      some (first :: others)

end SchemaDelta.CommandLine
