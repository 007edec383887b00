/-!
# Arguments

The arguments of one level of a command line: options, the names of subcommands,
and places for plain arguments.  An option with a value takes it from the same
argument, behind an equals sign, or from the next one, which may then not look like
an option itself.  The argument `--` ends the options: whatever follows is plain.

Arguments are taken one after the other, and the first that does not fit, or that
asks for help or the version, ends it.  A subcommand ends its level too, and takes
all further arguments with it.
-/

set_option autoImplicit false

namespace EntityStore.CommandLine

/-- An option: its long name, its letter if it has one, and whether it takes a value. -/
structure OptionSpec where
  name : String
  letter : Option Char := none
  takesValue : Bool := true
  acceptsEmpty : Bool := true

/-- What one level accepts.  Where there are subcommands, `help` asks for help on one of the
topics, each a chain of subcommands. -/
structure LevelSpec where
  options : List OptionSpec := []
  subcommands : List String := []
  helpTopics : List (List String) := []
  places : Nat := 0
  hasVersion : Bool := false

/-- Why arguments were not taken to their end. -/
inductive Stop where
  | wrongUsage
  | help
  | version
  deriving DecidableEq, Repr

/-- The arguments of one level: options with their values, plain arguments, and a subcommand with
the arguments behind it. -/
structure Level where
  options : List (String × String) := []
  plain : List String := []
  subcommand : Option (String × List String) := none
  deriving DecidableEq, Repr

namespace Level

/-- The value of an option. -/
def option? (level : Level) (name : String) : Option String := level.options.lookup name

/-- The value of an option that has to be given. -/
def required (level : Level) (name : String) : Except Stop String :=
  match level.option? name with
  | some value => .ok value
  | none => .error .wrongUsage

/-- The level with one more option, which may be given only once. -/
def withOption (level : Level) (spec : OptionSpec) (value : String) : Except Stop Level :=
  if (level.option? spec.name).isSome || (value.isEmpty && !spec.acceptsEmpty) then
    .error .wrongUsage
  else .ok { level with options := level.options ++ [(spec.name, value)] }

/-- The level with one more plain argument, if there is a place for it. -/
def withPlain (spec : LevelSpec) (level : Level) (argument : String) : Except Stop Level :=
  if level.plain.length < spec.places then
    .ok { level with plain := level.plain ++ [argument] }
  else .error .wrongUsage

end Level

/-- Whether an argument looks like an option. -/
def looksLikeOption (argument : String) : Bool :=
  argument.startsWith "-" && argument ≠ "-"

/-- A text before and behind its first equals sign. -/
def splitEquals (text : List Char) : String × Option String :=
  match text.dropWhile (· ≠ '=') with
  | [] => (String.ofList text, none)
  | _ :: value => (String.ofList (text.takeWhile (· ≠ '=')), some (String.ofList value))

/-- What an option does with its own value, if there is one, and with the arguments behind it: the
level with the option, and the arguments that are left. -/
def takeOption (spec : OptionSpec) (attached : Option String) (level : Level)
    (rest : List String) : Except Stop (Level × List String) :=
  match spec.takesValue, attached, rest with
  | false, none, _ => (level.withOption { spec with acceptsEmpty := true } "").map (·, rest)
  | false, some _, _ => .error .wrongUsage
  | true, some value, _ => (level.withOption spec value).map (·, rest)
  | true, none, value :: others =>
      if looksLikeOption value then .error .wrongUsage
      else (level.withOption spec value).map (·, others)
  | true, none, [] => .error .wrongUsage

/-- Takes an option by its long name. -/
def takeLong (spec : LevelSpec) (body : List Char) (level : Level) (rest : List String) :
    Except Stop (Level × List String) :=
  let (name, value) := splitEquals body
  match spec.options.find? fun option => option.name = name with
  | some option => takeOption option value level rest
  | none =>
      if name = "help" && value.isNone then .error .help
      else if name = "version" && spec.hasVersion && value.isNone then .error .version
      else .error .wrongUsage

/-- Takes options by their letters, several of which may stand together. -/
def takeLetters (spec : LevelSpec) (level : Level) (rest : List String) :
    List Char → Except Stop (Level × List String)
  | [] => .ok (level, rest)
  | letter :: letters =>
      match spec.options.find? fun option => option.letter = some letter with
      | some option =>
          if option.takesValue then
            let attached :=
              match letters with
              | [] => none
              | '=' :: value => some (String.ofList value)
              | value => some (String.ofList value)
            takeOption option attached level rest
          else do
            let (level, rest) ← takeOption option none level rest
            takeLetters spec level rest letters
      | none =>
          if letter = 'h' then .error .help
          else if letter = 'V' && spec.hasVersion then .error .version
          else .error .wrongUsage

/-- Takes the arguments of a level.  Every argument is taken in one of at most as many steps as
there are arguments. -/
def takeLevel (spec : LevelSpec) : Nat → Level → List String → Except Stop Level
  | _, level, [] => .ok level
  | 0, level, _ => .ok level
  | steps + 1, level, argument :: rest =>
      if spec.subcommands.contains argument then
        .ok { level with subcommand := some (argument, rest) }
      else if argument = "help" && !spec.subcommands.isEmpty then
        .error (if spec.helpTopics.contains rest then .help else .wrongUsage)
      else if argument = "--" then rest.foldlM (Level.withPlain spec) level
      else if argument.startsWith "--" then do
        let (level, rest) ← takeLong spec (argument.toList.drop 2) level rest
        takeLevel spec steps level rest
      else if looksLikeOption argument then do
        let (level, rest) ← takeLetters spec level rest (argument.toList.drop 1)
        takeLevel spec steps level rest
      else do
        let level ← level.withPlain spec argument
        takeLevel spec steps level rest

/-- The arguments of a level. -/
def parseLevel (spec : LevelSpec) (arguments : List String) : Except Stop Level :=
  takeLevel spec arguments.length {} arguments

end EntityStore.CommandLine
