import SchemaDelta.CommandLine.Token

/-!
# Arguments of a command line

The options and arguments that a list of words gives.  Arguments take their places in order, also
between options; words that find no place are left over.
-/

namespace SchemaDelta.CommandLine

/-- Why words give no command. -/
inductive Refusal where
  /-- The words are used wrongly. -/
  | usage
  /-- The words ask for help. -/
  | help
deriving DecidableEq

/-- The option that asks for help. -/
def helpOption : OptionSpec := ⟨["-h", "--help"], false⟩

/-- Options with their values, and arguments. -/
structure Given where
  /-- The options in the order in which they are given; flags have no value. -/
  options : List (OptionSpec × Option String) := []
  arguments : List String := []
  /-- Some words found no place. -/
  hasLeftovers : Bool := false

namespace Given

/-- An option is given. -/
def has
    (given : Given)
    (spec : OptionSpec) : Bool :=
  given.options.any fun option => option.1 = spec

/-- The last value of an option, if it is given. -/
def value?
    (given : Given)
    (spec : OptionSpec) : Option String :=
  (given.options.reverse.find? fun option => option.1 = spec).bind (·.2)

/-- What is given together with more options. -/
def withOptions
    (given : Given)
    (options : List (OptionSpec × Option String)) : Given :=
  { given with options := given.options ++ options }

end Given

/-! ## Options -/

/-- What an option word gives. -/
structure OptionReading where
  options : List (OptionSpec × Option String) := []
  /-- The option whose value is the next word. -/
  awaiting : Option OptionSpec := none

/-- What an option gives whose word carries nothing. -/
def OptionReading.ofBare
    (spec : OptionSpec) : OptionReading :=
  if spec.takesValue then { awaiting := spec } else { options := [(spec, none)] }

/-- What a flag gives together with the flags and the option that the letters behind it spell. -/
def readLetters
    (specs : List OptionSpec)
    (flag : OptionSpec) : List Char → Option OptionReading
  | [] => none
  | letter :: letters => do
    let spec ← (spellings specs).lookup (String.ofList ['-', letter])
    let reading ←
      match spec.takesValue, letters with
      | _, [] => some (OptionReading.ofBare spec)
      | true, value => some { options := [(spec, some (String.ofList value))] }
      | false, _ => readLetters specs spec letters
    some { reading with options := (flag, none) :: reading.options }

/-- What an option word gives. -/
def readOption
    (specs : List OptionSpec)
    (spec : OptionSpec) : Carried → Option OptionReading
  | .nothing => some (OptionReading.ofBare spec)
  | .behindEquals value => if spec.takesValue then some { options := [(spec, value)] } else none
  | .attached letters =>
    if spec.takesValue then some { options := [(spec, String.ofList letters)] }
    else readLetters specs spec letters

/-- The options of a reading, with the word behind it as the value that it awaits. -/
def OptionReading.close
    (reading : OptionReading)
    (next : Option Token) : Option (List (OptionSpec × Option String)) :=
  match reading.awaiting, next with
  | none, _ => some reading.options
  | some spec, some (.argument value) => some (reading.options ++ [(spec, some value)])
  | some _, _ => none

/-- What is given together with the options of a word, unless they ask for help. -/
def Given.accept
    (given : Given)
    (reading : OptionReading)
    (next : Option Token) : Except Refusal Given :=
  match reading.close next with
  | none => .error .usage
  | some options =>
    if options.any fun option => option.1 = helpOption then .error .help
    else .ok (given.withOptions options)

/-! ## Words -/

/-- What the word before a word was. -/
inductive Preceding where
  | argument
  | other
  /-- An option whose value the word is. -/
  | awaitingOption
deriving DecidableEq

/-- The word is an argument. -/
def Token.isArgument : Token → Bool
  | .argument _ => true
  | _ => false

/--
What words give, for a number of places.  A separator goes with an argument beside it that finds a
place.
-/
def readWords
    (specs : List OptionSpec)
    (places : Nat)
    (preceding : Preceding)
    (given : Given) : List Token → Except Refusal Given
  | [] => .ok given
  | .argument text :: rest =>
    if preceding = .awaitingOption then readWords specs places .other given rest
    else if given.arguments.length < places then
      readWords specs places .argument { given with arguments := given.arguments ++ [text] } rest
    else readWords specs places .other { given with hasLeftovers := true } rest
  | .separator :: rest =>
    let joins := preceding = .argument ||
      (given.arguments.length < places && rest.head?.any Token.isArgument)
    readWords specs places .other
      { given with hasLeftovers := given.hasLeftovers || !joins } rest
  | .stray :: rest => readWords specs places .other { given with hasLeftovers := true } rest
  | .option spec carried :: rest =>
    match readOption specs spec carried with
    | none => .error .usage
    | some reading =>
      match given.accept reading rest.head? with
      | .error refusal => .error refusal
      | .ok given =>
        readWords specs places (if reading.awaiting.isSome then .awaitingOption else .other) given
          rest

/-- What words give that have to fill a number of places. -/
def readArguments
    (specs : List OptionSpec)
    (places : Nat)
    (words : List String) : Except Refusal Given :=
  match tokens? (helpOption :: specs) words with
  | none => .error .usage
  | some tokens =>
    match readWords (helpOption :: specs) places .other {} tokens with
    | .error refusal => .error refusal
    | .ok given =>
      if given.hasLeftovers || given.arguments.length < places then .error .usage else .ok given

/-- What the words in front of a command give, and the command with the words behind it. -/
def readLeading
    (specs : List OptionSpec)
    (isValue : Bool)
    (given : Given) :
    List (Token × String) → Except Refusal (Given × Option (String × List String))
  | [] => .ok (given, none)
  | (.argument name, _) :: rest =>
    if isValue then readLeading specs false given rest
    else .ok (given, some (name, rest.map (·.2)))
  | (.separator, _) :: _ => .error .usage
  | (.stray, _) :: rest => readLeading specs false { given with hasLeftovers := true } rest
  | (.option spec carried, _) :: rest =>
    match readOption specs spec carried with
    | none => .error .usage
    | some reading =>
      match given.accept reading (rest.head?.map (·.1)) with
      | .error refusal => .error refusal
      | .ok given => readLeading specs reading.awaiting.isSome given rest

end SchemaDelta.CommandLine
