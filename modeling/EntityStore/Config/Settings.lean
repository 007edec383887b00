import EntityStore.Config.Properties

/-!
# Settings

Where a database is and how connections to it are pooled.  A URL names a database
in memory or a directory.  The settings of a pool can be read from properties, all
of whose names begin with the name of the pool, and are checked for contradictions
before they are used.

The settings of an application either hold those of its pool or, when its
properties name no driver, the directory of a temporary database.
-/

set_option autoImplicit false

namespace EntityStore

/-! ## URLs -/

/-- Where a database is. -/
inductive StorageUrl where
  | memory (name : String)
  | file (directory : String)
  deriving DecidableEq, Repr

namespace StorageUrl

/-- The rest of a text behind a beginning that it may have. -/
def behind? (beginning text : String) : Option String :=
  if beginning.toList.isPrefixOf text.toList then
    some (String.ofList (text.toList.drop beginning.length))
  else none

/-- The URL that a text denotes. -/
def parse (text : String) : Except UrlFault StorageUrl :=
  match behind? "vera:" text with
  | none => .error .scheme
  | some rest =>
      match behind? "mem:" rest, behind? "file:" rest with
      | some name, _ => if name.isEmpty then .error .noName else .ok (.memory name)
      | none, some directory =>
          if directory.isEmpty then .error .noDirectory else .ok (.file directory)
      | none, none => .error (.unknownKind text)

/-- The text of a URL. -/
def text : StorageUrl → String
  | .memory name => "vera:mem:" ++ name
  | .file directory => "vera:file:" ++ directory

end StorageUrl

/-! ## Pools -/

/-- The nanoseconds of a second. -/
def second : Nat := 1000000000

/-- How connections to a database are pooled.  Spans of time are in nanoseconds. -/
structure PoolSettings where
  url : StorageUrl
  username : String := "sa"
  password : String := ""
  connectTimeout : Nat := 30 * second
  maxConnections : Nat := 10
  minConnections : Nat := 1
  idleTimeout : Option Nat := some (600 * second)
  maxLifetime : Option Nat := some (1800 * second)
  deriving DecidableEq, Repr

namespace PoolSettings

/-- Checks that settings do not contradict themselves. -/
def validate (settings : PoolSettings) : Except SettingsFault Unit :=
  if settings.username.isEmpty then .error .noUser
  else if settings.maxConnections = 0 then .error .noConnections
  else if settings.maxConnections < settings.minConnections then .error .minimumAboveMaximum
  else .ok ()

/-- The text form of settings, which never shows the password. -/
def shown (settings : PoolSettings) : String :=
  s!"{settings.url.text} (user '{settings.username}', password ***)"

/-- The number that a property denotes: decimal digits, perhaps after a plus sign, of a value
that fits in sixty-four bits, with blanks around them passed over. -/
def count? (raw : String) : Option Nat := do
  let trimmed := Text.trim raw.toList
  let digits := if trimmed.head? = some '+' then trimmed.drop 1 else trimmed
  let number ← Text.natural? digits
  if number < 0x10000000000000000 then return number else none

/-- A number among the properties of a pool, or another number when it is not given. -/
def countOr (properties : Properties) (pool key : String) (otherwise : Nat) :
    Except Fault Nat :=
  match properties.section? pool key with
  | none => .ok otherwise
  | some raw =>
      match count? raw with
      | some number => .ok number
      | none => .error (.config (.badCount pool key raw))

/-- The name of the only storage driver. -/
def driverName : String := "vera"

/-- The settings of a pool among properties. -/
def ofProperties (properties : Properties) (pool : String) : Except Fault PoolSettings := do
  match properties.section? pool "driver" with
  | none => .error (.config (.noDriver pool))
  | some driver =>
      if driver ≠ driverName then
        .error (.storageUnavailable (.unknownDriver driver pool))
      else
        match properties.section? pool "url" with
        | none => .error (.config (.noUrl pool))
        | some text =>
            match StorageUrl.parse text with
            | .error fault => .error (.config (.badUrl pool fault))
            | .ok url => do
                let standard : PoolSettings := { url }
                let settings := { standard with
                  username := (properties.section? pool "userid").getD standard.username
                  password := (properties.section? pool "password").getD standard.password
                  minConnections := ← countOr properties pool "minconn" standard.minConnections
                  maxConnections := ← countOr properties pool "maxconn" standard.maxConnections }
                match settings.validate with
                | .ok () => return settings
                | .error fault => .error (.config (.badPool pool fault))

end PoolSettings

/-! ## Applications -/

/-- Where the data of an application are. -/
inductive DatabaseSource where
  | pool (settings : PoolSettings)
  | temporary (directory : String)
  deriving DecidableEq, Repr

/-- The settings of an application. -/
structure AppSettings where
  propertyFile : Option String := none
  applicationUrl : Option String := none
  database : DatabaseSource
  deriving DecidableEq, Repr

namespace AppSettings

/-- The name under which the pool of an application is configured. -/
def poolName : String := "vera"

/-- The directory of a temporary database. -/
def temporaryDatabase (temporaryDirectory : String) : String :=
  joinPath (joinPath temporaryDirectory "veraDB") "data"

/-- The settings of an application among properties. -/
def ofProperties (properties : Properties) (temporaryDirectory : String) :
    Except Fault AppSettings := do
  let database ←
    if (properties.section? poolName "driver").isSome then
      (PoolSettings.ofProperties properties poolName).map DatabaseSource.pool
    else .ok (.temporary (temporaryDatabase temporaryDirectory))
  return { applicationUrl := properties.get? "application.url", database }

/-- The settings with another place for a temporary database. -/
def withTemporary (settings : AppSettings) (directory : String) : AppSettings :=
  match settings.database with
  | .temporary _ => { settings with database := .temporary directory }
  | .pool _ => settings

/-- The settings of the pool that an application uses. -/
def poolSettings (settings : AppSettings) : PoolSettings :=
  match settings.database with
  | .pool pool => pool
  | .temporary directory => { url := .file directory }

end AppSettings

/-! ## Finding the properties file -/

/-- Where to look for the properties file: under a given name, in a home directory, and in the
directory of an application. -/
structure ConfigLocator where
  explicit : Option String := none
  home : Option String := none
  appRoot : String
  deriving DecidableEq, Repr

namespace ConfigLocator

/-- The name of the properties file when none is given. -/
def standardName : String := "vera.properties"

/-- The places to look at, in order.  The last of them is the one that is reported missing. -/
def candidates (locator : ConfigLocator) : List String :=
  let inApp := joinPath locator.appRoot "conf"
  match locator.explicit with
  | some name =>
      if name.startsWith "/" then [name]
      else (locator.home.map fun home => joinPath home name).toList ++ [joinPath inApp name]
  | none =>
      (locator.home.map fun home => joinPath (joinPath home ".vera") standardName).toList ++
        [joinPath inApp standardName]

/-- The first of the candidates that is there. -/
def locate (locator : ConfigLocator) (files : FileTree) : Except Fault String :=
  match locator.candidates.find? fun path => files.exists? path with
  | some path => .ok path
  | none => .error (.config (.missingFile (locator.candidates.getLastD "")))

end ConfigLocator

/-- The settings in the properties file that a locator finds. -/
def AppSettings.load (locator : ConfigLocator) (temporaryDirectory : String)
    (files : FileTree) : Except Fault AppSettings := do
  let path ← locator.locate files
  let properties ← Properties.load path files
  return { ← ofProperties properties temporaryDirectory with propertyFile := some path }

end EntityStore
