import EntityStore.CommandLine.Arguments

/-!
# Invocations

What a command line asks for: which configuration to use, in which form to report,
and one command on domains, classes, attributes, or the store as a whole.
-/

set_option autoImplicit false

namespace EntityStore.CommandLine

/-- A command on domains.  A domain is given by its key or its mnemonic. -/
inductive DomainCommand where
  | add (name mnemonic color : String)
  | list
  | delete (domain : String)
  deriving DecidableEq, Repr

/-- A command on classes. -/
inductive ClassCommand where
  | add (name domain : String)
  | list (domain : Option String)
  | delete (id : String)
  deriving DecidableEq, Repr

/-- A command on attributes. -/
inductive AttributeCommand where
  | add (name owner : String)
  | list (owner : Option String)
  | delete (id : String)
  deriving DecidableEq, Repr

/-- A command. -/
inductive Command where
  | domain (command : DomainCommand)
  | class (command : ClassCommand)
  | attribute (command : AttributeCommand)
  | info
  deriving DecidableEq, Repr

/-- What a command line asks for. -/
structure Invocation where
  config : Option String
  appRoot : String
  json : Bool
  command : Command
  deriving DecidableEq, Repr

/-! ## Reading command lines -/

/-- The actions on a kind of entity. -/
def actionNames : List String := ["add", "list", "delete"]

/-- The kinds of entities that commands work on. -/
def kindNames : List String := ["domain", "class", "attribute"]

/-- What there is help on among the actions. -/
def actionTopics : List (List String) := [] :: ["help"] :: actionNames.map fun name => [name]

/-- What comes before the command. -/
def rootSpec : LevelSpec :=
  { options := [
      { name := "config", letter := some 'c' },
      { name := "app-root", acceptsEmpty := false },
      { name := "json", takesValue := false }]
    subcommands := kindNames ++ ["info"]
    helpTopics := [] :: ["help"] :: ["info"] ::
      kindNames.flatMap fun kind => actionTopics.map fun topic => kind :: topic
    hasVersion := true }

/-- What comes after a kind of entity. -/
def actionSpec : LevelSpec := { subcommands := actionNames, helpTopics := actionTopics }

/-- Options with a value and without a letter. -/
def optionsSpec (names : List String) : LevelSpec :=
  { options := names.map fun name => { name } }

/-- The subcommand of a level, which has to be there. -/
def Level.subcommandOrStop (level : Level) : Except Stop (String × List String) :=
  match level.subcommand with
  | some found => .ok found
  | none => .error .wrongUsage

/-- The one plain argument of an action. -/
def parsePlain (arguments : List String) : Except Stop String := do
  match (← parseLevel { places := 1 } arguments).plain with
  | [argument] => return argument
  | _ => .error .wrongUsage

/-- An action and its arguments. -/
def parseAction (arguments : List String) : Except Stop (String × List String) := do
  (← parseLevel actionSpec arguments).subcommandOrStop

/-- The command on domains that arguments ask for. -/
def parseDomain (arguments : List String) : Except Stop DomainCommand := do
  let (action, rest) ← parseAction arguments
  match action with
  | "add" =>
      let level ← parseLevel (optionsSpec ["name", "mnemonic", "color"]) rest
      return .add (← level.required "name") (← level.required "mnemonic")
        (← level.required "color")
  | "list" =>
      let _ ← parseLevel {} rest
      return .list
  | _ => return .delete (← parsePlain rest)

/-- The command on classes that arguments ask for. -/
def parseClass (arguments : List String) : Except Stop ClassCommand := do
  let (action, rest) ← parseAction arguments
  match action with
  | "add" =>
      let level ← parseLevel (optionsSpec ["name", "domain"]) rest
      return .add (← level.required "name") (← level.required "domain")
  | "list" => return .list ((← parseLevel (optionsSpec ["domain"]) rest).option? "domain")
  | _ => return .delete (← parsePlain rest)

/-- The command on attributes that arguments ask for. -/
def parseAttribute (arguments : List String) : Except Stop AttributeCommand := do
  let (action, rest) ← parseAction arguments
  match action with
  | "add" =>
      let level ← parseLevel (optionsSpec ["name", "class"]) rest
      return .add (← level.required "name") (← level.required "class")
  | "list" => return .list ((← parseLevel (optionsSpec ["class"]) rest).option? "class")
  | _ => return .delete (← parsePlain rest)

/-- What a command line asks for.  `standardConfig` is the configuration to use when the command
line names none. -/
def Invocation.parse (standardConfig : Option String) (arguments : List String) :
    Except Stop Invocation := do
  let level ← parseLevel rootSpec arguments
  let (name, rest) ← level.subcommandOrStop
  let command ←
    match name with
    | "domain" => (parseDomain rest).map Command.domain
    | "class" => (parseClass rest).map Command.class
    | "attribute" => (parseAttribute rest).map Command.attribute
    | _ => (parseLevel {} rest).map fun _ => Command.info
  return {
    config := (level.option? "config").or standardConfig
    appRoot := (level.option? "app-root").getD "."
    json := (level.option? "json").isSome
    command }

end EntityStore.CommandLine
