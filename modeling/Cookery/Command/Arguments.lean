import Cookery.Command.Basic

/-!
# Command lines

The words of a command line are read in two steps. First each word is told apart: options by their
names, alone, in clusters of one-letter names, or with values, and everything else as an argument.
Then the options and arguments of a command are put into its fields.

An option that takes a value takes the rest of its cluster, what follows an equals sign, or the next
word, but no word that looks like an option. After the word `--` everything is an argument.
-/

namespace Cookery

/-- An option. Only repeatable options may be given twice. -/
structure OptionSpec where
  name : String
  letter : Option Char := none
  takesValue : Bool := false
  repeatable : Bool := false
deriving DecidableEq

/-- What is wrong with a command line. -/
inductive UsageError where
  | missingCommand
  | unknownCommand (word : String)
  | unknownOption (word : String)
  | unexpectedValue (option : String)
  | missingValue (option : String)
  | invalidValue (option value : String)
  | repeated (option : String)
  | unexpectedArgument (word : String)
  | missingArgument (name : String)
deriving DecidableEq

def UsageError.message : UsageError → String
  | missingCommand => "a command is required"
  | unknownCommand word => s!"unknown command '{word}'"
  | unknownOption word => s!"unknown option '{word}'"
  | unexpectedValue option => s!"option '--{option}' takes no value"
  | missingValue option => s!"option '--{option}' needs a value"
  | invalidValue option value => s!"invalid value '{value}' for '{option}'"
  | repeated option => s!"option '--{option}' is given more than once"
  | unexpectedArgument word => s!"unexpected argument '{word}'"
  | missingArgument name => s!"missing argument '{name}'"

/-- A part of a command line. -/
inductive Argument where
  | option (name : String) (value : Option String)
  | plain (word : String)
deriving DecidableEq

namespace Arguments

/-! ## Telling words apart -/

/-- Whether a word is an option, or a cluster of them. -/
def looksLikeOption (word : String) : Bool :=
  match word.toList with
  | '-' :: _ :: _ => true
  | _ => false

/-- The options of a word, and the one at its end that still waits for its value. -/
abbrev Reading := List Argument × Option OptionSpec

/-- Reads a cluster of one-letter options. -/
def readCluster (specs : List OptionSpec) : List Char → Except UsageError Reading
  | [] => .ok ([], none)
  | c :: cs =>
    match specs.find? (·.letter == some c) with
    | none => .error (.unknownOption (String.ofList ['-', c]))
    | some spec =>
      if spec.takesValue then
        match cs with
        | [] => .ok ([], some spec)
        | '=' :: value => .ok ([.option spec.name (some (String.ofList value))], none)
        | value => .ok ([.option spec.name (some (String.ofList value))], none)
      else do
        let (rest, waiting) ← readCluster specs cs
        return (.option spec.name none :: rest, waiting)

/-- Reads an option by its full name. -/
def readNamed (specs : List OptionSpec) (cs : List Char) : Except UsageError Reading :=
  let name := String.ofList (cs.takeWhile (· != '='))
  let value := match cs.dropWhile (· != '=') with
    | [] => none
    | _ :: value => some (String.ofList value)
  match specs.find? (·.name == name), value with
  | none, _ => .error (.unknownOption s!"--{name}")
  | some spec, none =>
    if spec.takesValue then .ok ([], some spec) else .ok ([.option name none], none)
  | some spec, some value =>
    if spec.takesValue then .ok ([.option name (some value)], none)
    else .error (.unexpectedValue name)

/-- Reads a word that looks like an option. -/
def readOptionWord (specs : List OptionSpec) (word : String) : Except UsageError Reading :=
  match word.toList with
  | '-' :: '-' :: cs => readNamed specs cs
  | '-' :: cs => readCluster specs cs
  | _ => .error (.unexpectedArgument word)

/-- Tells the words after a command apart. -/
def readWords (specs : List OptionSpec) :
    Option OptionSpec → List String → Except UsageError (List Argument)
  | none, [] => .ok []
  | some spec, [] => .error (.missingValue spec.name)
  | some spec, word :: words =>
    if looksLikeOption word then .error (.missingValue spec.name)
    else return .option spec.name (some word) :: (← readWords specs none words)
  | none, word :: words =>
    if word = "--" then .ok (words.map .plain)
    else if looksLikeOption word then do
      let (options, waiting) ← readOptionWord specs word
      return options ++ (← readWords specs waiting words)
    else return .plain word :: (← readWords specs none words)

/-! ## The values of options -/

/-- The values that are given for an option; one that takes none has an empty value. -/
def valuesOf (name : String) (args : List Argument) : List String :=
  args.filterMap fun
    | .option n value => if n = name then some (value.getD "") else none
    | .plain _ => none

def plainWords (args : List Argument) : List String :=
  args.filterMap fun
    | .plain word => some word
    | .option _ _ => none

/-- Refuses options that are given twice. -/
def checkRepeated (specs : List OptionSpec) (args : List Argument) : Except UsageError Unit :=
  specs.forM fun spec ↦
    if !spec.repeatable && 1 < (valuesOf spec.name args).length then
      .error (.repeated spec.name)
    else .ok ()

/-- Reads the value of an option that may be missing. -/
def readOption {α : Type} (read : String → Option α) (name : String) (args : List Argument) :
    Except UsageError (Option α) :=
  match valuesOf name args with
  | [] => .ok none
  | value :: _ =>
    match read value with
    | some a => .ok (some a)
    | none => .error (.invalidValue name value)

def isGiven (name : String) (args : List Argument) : Bool :=
  !(valuesOf name args).isEmpty

/-- A path is any text but the empty one. -/
def readPath? (s : String) : Option Path :=
  if s.isEmpty then none else some ⟨s⟩

/-- The notation of a cookbook; `auto` leaves it to the extension of the file. -/
def readFormat? : String → Option (Option Format)
  | "auto" => some none
  | "yaml" => some (some .yaml)
  | "json" => some (some .json)
  | _ => none

/-- The one argument that may be given. -/
def readPlain {α : Type} (read : String → Option α) (name : String) (args : List Argument) :
    Except UsageError (Option α) :=
  match plainWords args with
  | [] => .ok none
  | [word] =>
    match read word with
    | some a => .ok (some a)
    | none => .error (.invalidValue name word)
  | _ :: word :: _ => .error (.unexpectedArgument word)

/-! ## Commands -/

/-- Options that every command takes. -/
def commonOptions : List OptionSpec :=
  [{ name := "verbose", letter := some 'v', repeatable := true },
   { name := "help", letter := some 'h', repeatable := true }]

def formatOption : OptionSpec where
  name := "format"
  letter := some 'f'
  takesValue := true

/-- The options of a command, by its name. -/
def optionsOf? : String → Option (List OptionSpec)
  | "check" => some (formatOption :: commonOptions)
  | "generate" =>
    some (formatOption :: { name := "dry-run" } :: { name := "output", takesValue := true } ::
      { name := "out-dir", letter := some 'o', takesValue := true } ::
      { name := "binding", letter := some 'b', takesValue := true, repeatable := true } ::
      commonOptions)
  | "bindings" => some ({ name := "json" } :: commonOptions)
  | "types" =>
    some (formatOption :: { name := "schema", letter := some 's', takesValue := true } ::
      commonOptions)
  | _ => none

def readCheck (args : List Argument) : Except UsageError Command := do
  let schema ← readPlain readPath? "schema" args
  let format ← readOption readFormat? "format" args
  return .check schema format.join

def readGenerate (args : List Argument) : Except UsageError Command := do
  let schema ← readPlain readPath? "schema" args
  let outDir ← readOption readPath? "out-dir" args
  let output ← readOption OutputFormat.ofName? "output" args
  let format ← readOption readFormat? "format" args
  return .generate {
    schema, outDir, output
    bindings := (valuesOf "binding" args).flatMap (·.splitOn ",")
    format := format.join
    dryRun := isGiven "dry-run" args }

def readBindings (args : List Argument) : Except UsageError Command :=
  match plainWords args with
  | [] => .ok (.bindings (isGiven "json" args))
  | word :: _ => .error (.unexpectedArgument word)

def readTypes (args : List Argument) : Except UsageError Command := do
  let type ← readPlain some "type" args
  let schema ← readOption readPath? "schema" args
  let format ← readOption readFormat? "format" args
  match type with
  | some type => return .types type schema format.join
  | none => .error (.missingArgument "type")

/-- What a command line asks for. -/
inductive Invocation where
  | run (command : Command)
  | showVersion
  | showHelp
deriving DecidableEq

/-- Reads the words after the name of a command. -/
def readCommand (name : String) (words : List String) : Except UsageError Invocation := do
  match optionsOf? name with
  | none => .error (.unknownCommand name)
  | some specs =>
    let args ← readWords specs none words
    if isGiven "help" args then return .showHelp
    checkRepeated specs args
    match name with
    | "check" => .run <$> readCheck args
    | "generate" => .run <$> readGenerate args
    | "bindings" => .run <$> readBindings args
    | _ => .run <$> readTypes args

/-- Options before the name of a command. -/
def leadingOptions : List OptionSpec :=
  { name := "version", letter := some 'V' } :: commonOptions

/-- The first option of a word that asks for something else than a command. -/
def special? : List Argument → Option Invocation
  | [] => none
  | .option "version" _ :: _ => some .showVersion
  | .option "help" _ :: _ => some .showHelp
  | _ :: args => special? args

/-- Reads the options that no fault precedes: those of a cluster up to the first unknown letter. -/
def readLeading (word : String) : Except UsageError (List Argument) :=
  match word.toList with
  | '-' :: '-' :: cs => (·.1) <$> readNamed leadingOptions cs
  | '-' :: cs => readLetters cs
  | _ => .error (.unknownCommand word)
where
  /-- The letters are taken one by one, so that a special one ends the reading. -/
  readLetters : List Char → Except UsageError (List Argument)
  | [] => .ok []
  | c :: cs => do
    let (args, _) ← readCluster leadingOptions [c]
    if (special? args).isSome then return args
    return args ++ (← readLetters cs)

/-- Reads a command line. -/
def read : List String → Except UsageError Invocation
  | [] => .error .missingCommand
  | word :: words =>
    if looksLikeOption word then do
      if word = "--" then
        .error .missingCommand
      else
        let args ← readLeading word
        match special? args with
        | some invocation => return invocation
        | none => read words
    else readCommand word words

end Arguments

end Cookery
