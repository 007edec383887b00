import EntityStore.Application
import EntityStore.CommandLine.Invocation
import EntityStore.Deployment.Contexts
import EntityStore.Report.Json
import EntityStore.Report.TextTable

/-!
# Running command lines

A run finds the settings, starts an application on them, carries out one command
with a data context of its own, and gives everything back before it reports.  What
it reports is text: a sentence, a table or JSON when the command succeeded, and the
message of the fault otherwise.  Nothing is reported before the command is over, so a
run writes either to its output or to its error output.  A table that cannot be laid
out ends the run on the spot, and so does an operation that breaks off.

A command reads everything that it reports from one data context.  The names that a
table shows in the place of keys are looked up one by one, which a list in JSON does
not need.
-/

set_option autoImplicit false

namespace EntityStore.CommandLine

open Model

/-! ## Reports -/

/-- Entities that can be reported. -/
structure Reporting (ε : Type) where
  kind : EntityType ε
  json : ε → JsonResult

/-- Domains in reports. -/
def domainReporting : Reporting Domain :=
  { kind := Domain.entityType
    json := fun domain => .record [
      ("id", .ofText? domain.id),
      ("name", .text domain.name),
      ("rgb_color", .text domain.rgbColor),
      ("mnemonic", .text domain.mnemonic)] }

/-- Classes in reports. -/
def classReporting : Reporting Class :=
  { kind := Class.entityType
    json := fun entity => .record [
      ("id", .ofText? entity.id),
      ("name", .text entity.name),
      ("domain", .text entity.domain.id)] }

/-- Attributes in reports. -/
def attributeReporting : Reporting Attribute :=
  { kind := Attribute.entityType
    json := fun entity => .record [
      ("id", .ofText? entity.id),
      ("name", .text entity.name),
      ("class", .text entity.owner.id)] }

/-- What a command reports, unless it is a table that cannot be laid out. -/
abbrev Report := Option String

/-- A result in JSON on lines of its own. -/
def jsonReport (result : JsonResult) : Report := some (result.pretty ++ "\n")

/-! ## Steps of commands -/

variable {ε : Type}

/-- Saves a new entity and reports it. -/
def saveNew (json : Bool) (reporting : Reporting ε) (context : DataContext) (entity : ε) :
    Action Report := do
  match ← context.save reporting.kind entity with
  | (.error fault, _) => throw fault
  | (.ok (), saved) =>
      let id := (reporting.kind.id? saved).getD ""
      return if json then jsonReport (reporting.json saved)
        else some s!"Saved {reporting.kind.mapping.entity} {id}\n"

/-- The entities that match restrictions, by name. -/
def listByName (kind : EntityType ε) (context : DataContext) (restrictions : List Restriction) :
    Action (List ε) :=
  context.query kind { restrictions, order := [⟨"name", false⟩] }

/-- The domain under a key, or else the one with that mnemonic. -/
def findDomain (context : DataContext) (key : String) : Action Domain := do
  let kind := Domain.entityType
  match ← context.find kind key with
  | some domain => return domain
  | none =>
      let criteria : Criteria :=
        { restrictions := [.compare "mnemonic" .equal (.text key)] }
      match ← context.queryOne kind criteria with
      | some domain => return domain
      | none => throw (.notFound kind.mapping.table key)

/-- Reports a list of entities, in JSON or as a table with one line for each. -/
def reportList (json : Bool) (reporting : Reporting ε) (headings : List String)
    (line : ε → Action (List String)) (entities : List ε) : Action Report := do
  if json then return jsonReport (.list (entities.map reporting.json))
  else return ({ headings, rows := ← entities.mapM line } : TextTable).text?

/-! ## Commands -/

/-- Carries out a command on domains. -/
def DomainCommand.run (json : Bool) (context : DataContext) : DomainCommand → Action Report
  | .add name mnemonic color =>
      saveNew json domainReporting context { name, rgbColor := color, mnemonic }
  | .list => do
      let domains ← listByName Domain.entityType context []
      reportList json domainReporting ["Id", "Name", "Mnemonic", "Color"]
        (fun domain => return [domain.id.getD "", domain.name, domain.mnemonic, domain.rgbColor])
        domains
  | .delete key => do
      let domain ← findDomain context key
      context.delete Domain.entityType domain
      return some s!"Deleted domain {domain.name}\n"

/-- Carries out a command on classes. -/
def ClassCommand.run (json : Bool) (context : DataContext) : ClassCommand → Action Report
  | .add name key => do
      let domain ← findDomain context key
      match Domain.entityType.reference domain with
      | .error fault => throw fault
      | .ok domain => saveNew json classReporting context { name, domain }
  | .list key => do
      let restrictions ←
        match key with
        | none => pure []
        | some key =>
            let domain ← findDomain context key
            match Domain.entityType.reference domain with
            | .error fault => throw fault
            | .ok reference => pure [Restriction.compare "domain" .equal (.text reference.id)]
      let classes ← listByName Class.entityType context restrictions
      reportList json classReporting ["Id", "Name", "Domain"]
        (fun entity => do
          let domain ← context.resolve Domain.entityType entity.domain
          return [entity.id.getD "", entity.name, domain.name])
        classes
  | .delete id => do
      let entity ← context.get Class.entityType id
      context.delete Class.entityType entity
      return some s!"Deleted class {entity.name}\n"

/-- Carries out a command on attributes. -/
def AttributeCommand.run (json : Bool) (context : DataContext) :
    AttributeCommand → Action Report
  | .add name id => do
      let owner ← context.get Class.entityType id
      match Class.entityType.reference owner with
      | .error fault => throw fault
      | .ok owner => saveNew json attributeReporting context { name, owner }
  | .list key => do
      let restrictions := key.toList.map fun id => Restriction.compare "class" .equal (.text id)
      let attributes ← listByName Attribute.entityType context restrictions
      reportList json attributeReporting ["Id", "Name", "Class"]
        (fun entity => do
          let owner ← context.resolve Class.entityType entity.owner
          return [entity.id.getD "", entity.name, owner.name])
        attributes
  | .delete id => do
      let entity ← context.get Attribute.entityType id
      context.delete Attribute.entityType entity
      return some s!"Deleted attribute {entity.name}\n"

/-- The number of entities of a type. -/
def entityCount (kind : EntityType ε) (context : DataContext) : Action Int := do
  let rows ← context.select kind { items := [.rowCount] }
  return (((rows.head?.bind List.head?).bind Value.integer?).map Int64.toInt).getD 0

/-- Reports the configuration, the place of the data, the tables and the pool. -/
def reportInfo (json : Bool) (application : Application) (context : DataContext) :
    Action Report := do
  let tables := [
    (Domain.mapping.table, ← entityCount Domain.entityType context),
    (Class.mapping.table, ← entityCount Class.entityType context),
    (Attribute.mapping.table, ← entityCount Attribute.entityType context)]
  let location ← application.location
  let pool ← Deployment.stats application.pool
  let settings := application.settings
  if json then
    return jsonReport (.record [
      ("config_file", .ofText? settings.propertyFile),
      ("application_url", .ofText? settings.applicationUrl),
      ("database", .text location.shown),
      ("tables", .list (tables.map fun (table, rows) =>
        .record [("table", .text table), ("rows", .number rows)])),
      ("pool", .text pool.shown)])
  else
    let table : TextTable :=
      { headings := ["Table", "Rows"]
        rows := tables.map fun (table, rows) => [table, toString rows] }
    return table.text?.map fun text =>
      "Config file:     " ++ settings.propertyFile.getD "-" ++ "\n" ++
      "Application URL: " ++ settings.applicationUrl.getD "-" ++ "\n" ++
      "Database:        " ++ location.shown ++ "\n" ++
      pool.shown ++ "\n\n" ++ text

/-- Carries out a command. -/
def Command.run (json : Bool) (application : Application) (context : DataContext) :
    Command → Action Report
  | .domain command => command.run json context
  | .class command => command.run json context
  | .attribute command => command.run json context
  | .info => reportInfo json application context

/-! ## Runs -/

/-- What a run is told by its surroundings: the home directory, the directory for temporary files,
and the configuration to use when the command line names none. -/
structure Surroundings where
  home : Option String
  temporaryDirectory : String
  standardConfig : Option String := none

/-- Why a run failed: before the application was started, while it was, or after, or because the
table that it was to report could not be laid out. -/
inductive RunFault where
  | configuration (fault : Fault)
  | start (fault : Fault)
  | command (fault : Fault)
  | layout
  deriving DecidableEq, Repr

namespace RunFault

/-- How a failed run is reported. -/
def message : RunFault → String
  | .configuration fault => s!"Error: Failed to load configuration: {fault.message}"
  | .start fault => s!"Error: Failed to start vera: {fault.message}"
  | .command .panic => Fault.panic.message
  | .command fault => s!"Error: {fault.message}"
  | .layout => "Formatting argument out of range"

/-- The exit status of a failed run: two when the data were refused, one for any other fault, and
that of a program which broke off when it did. -/
def status (failure : RunFault) : Nat :=
  match failure with
  | .command .panic => 101
  | .configuration fault | .start fault | .command fault => if fault.isValidation then 2 else 1
  | .layout => 101

end RunFault

/-- Where an invocation looks for its settings. -/
def Invocation.locator (surroundings : Surroundings) (invocation : Invocation) : ConfigLocator :=
  { explicit := invocation.config, home := surroundings.home, appRoot := invocation.appRoot }

/-- The settings that an invocation uses. -/
def Invocation.settings (surroundings : Surroundings) (files : FileTree)
    (invocation : Invocation) : Except Fault AppSettings :=
  AppSettings.load (invocation.locator surroundings) surroundings.temporaryDirectory files

/-- The directory of the database that an invocation works on, if its settings name one. -/
def Invocation.databaseDirectory? (surroundings : Surroundings) (files : FileTree)
    (invocation : Invocation) : Option String :=
  match invocation.settings surroundings files with
  | .error _ => none
  | .ok settings =>
      match settings.poolSettings.url with
      | .file directory => some directory
      | .memory _ => none

/-- Carries out an invocation, and answers its report. -/
def Invocation.run (surroundings : Surroundings) (issuer : KeyIssuer) (invocation : Invocation) :
    ExceptT RunFault (StateM Deployment) String := do
  match invocation.settings surroundings (← get).files with
  | .error fault => throw (.configuration fault)
  | .ok settings =>
      let application ← (Application.start settings issuer).adapt RunFault.start
      let report ← ExceptT.adapt RunFault.command do
        let context ← Deployment.openContext application.factory
        let report ← observing (invocation.command.run invocation.json application context)
        -- The run breaks off before it gives anything back.
        if let .ok none := report then return none
        if let .error .panic := report then throw .panic
        context.close
        application.shutDown
        liftExcept report
      match report with
      | some text => return text
      | none => throw .layout

/-- What a run leaves on its two outputs, and its exit status. -/
structure RunResult where
  status : Nat
  output : String := ""
  error : String := ""
  deriving DecidableEq, Repr

/-- The version that a run reports when it is asked for. -/
def versionLine : String := "vera 0.1.0\n"

/-- What a run says when its command line cannot be understood. -/
def usageLine : String := "Usage: vera [OPTIONS] <COMMAND>\n"

/-- Runs a command line on a file tree, and answers the file tree afterwards. -/
def run (surroundings : Surroundings) (moment : Timestamp) (bits : Nat → Nat)
    (arguments : List String) (files : FileTree) : RunResult × FileTree :=
  match Invocation.parse surroundings.standardConfig arguments with
  | .error .version => ({ status := 0, output := versionLine }, files)
  | .error .help => ({ status := 0, output := usageLine }, files)
  | .error .wrongUsage => ({ status := 2, error := usageLine }, files)
  | .ok invocation =>
      let issuer := KeyIssuer.random .standard bits
      let (answer, deployment) :=
        (invocation.run surroundings issuer).run { files, origin := moment }
      match answer with
      | .ok output => ({ status := 0, output }, deployment.files)
      | .error failure =>
          ({ status := failure.status, error := failure.message ++ "\n" }, deployment.files)

end EntityStore.CommandLine
