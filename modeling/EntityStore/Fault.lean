import EntityStore.Value

/-!
# Faults

Everything that can go wrong is a value of `Fault`: one constructor for each class
of fault, carrying the cause that arose.  A cause names the facts of its situation
and nothing else; how a fault reads is decided here and only here, by `message`.
Every class that reports in words of its own also has a cause `stated`, for a
report whose wording is given from outside.

Two classes of fault are singled out.  A fault `isValidation` rejects one write and
leaves the store as it was, so the caller may mend the data and try again; a fault
that `isFatal` means that the store cannot serve at all.

One fault is not a report.  An operation that takes something for granted which does
not hold breaks off where it stands (`panic`), and what it had done so far stays done.
-/

set_option autoImplicit false

namespace EntityStore

/-! ## Causes -/

/-- Why an operation on files failed. -/
inductive FileFault where
  | noEntry
  | alreadyThere
  | notDirectory
  | isDirectory
  | notEmpty
  | nameTooLong
  | nulInName
  | notText
  deriving DecidableEq, Repr

/-- What the operating system says about a failed operation on files. -/
def FileFault.message : FileFault → String
  | .noEntry => "No such file or directory (os error 2)"
  | .alreadyThere => "File exists (os error 17)"
  | .notDirectory => "Not a directory (os error 20)"
  | .isDirectory => "Is a directory (os error 21)"
  | .nameTooLong => "File name too long (os error 36)"
  | .notEmpty => "Directory not empty (os error 39)"
  | .nulInName => "file name contained an unexpected NUL byte"
  | .notText => "stream did not contain valid UTF-8"

/-- Why a database URL was refused. -/
inductive UrlFault where
  | scheme
  | noName
  | noDirectory
  | unknownKind (url : String)
  deriving DecidableEq, Repr

/-- How a refused URL is reported. -/
def UrlFault.message : UrlFault → String
  | .scheme => "URL must start with 'vera:'"
  | .noName => "In-memory URL needs a database name"
  | .noDirectory => "File URL needs a directory"
  | .unknownKind url => s!"Unknown storage kind in '{url}'"

/-- Why the settings of a pool contradict themselves. -/
inductive SettingsFault where
  | noUser
  | noConnections
  | minimumAboveMaximum
  deriving DecidableEq, Repr

/-- How contradictory settings are reported. -/
def SettingsFault.message : SettingsFault → String
  | .noUser => "Username cannot be empty"
  | .noConnections => "max_connections must be > 0"
  | .minimumAboveMaximum => "min_connections cannot exceed max_connections"

/-- Why a properties file could not be read to its end. -/
inductive PropertiesFault where
  | file (fault : FileFault)
  | line (text : String) (position : Nat)
  deriving DecidableEq, Repr

/-- How an unreadable properties file is reported. -/
def PropertiesFault.message : PropertiesFault → String
  | .file fault => fault.message
  | .line text position => s!"Error parsing line: '{text}', error at line index: {position}"

/-- Why the bytes of a snapshot were refused. -/
inductive ImageFault where
  | malformed
  | version (number : Nat)
  deriving DecidableEq, Repr

/-- How refused bytes are reported. -/
def ImageFault.message : ImageFault → String
  | .malformed => "Failed to deserialize snapshot"
  | .version number => s!"Unsupported snapshot version {number}"

/-- Why a snapshot file could not be loaded. -/
inductive SnapshotFault where
  | file (fault : FileFault)
  | image (fault : ImageFault)
  deriving DecidableEq, Repr

/-- What is wrong with the configuration. -/
inductive ConfigCause where
  | unreadableFile (path : String) (fault : FileFault)
  | malformedFile (path : String) (fault : PropertiesFault)
  | missingFile (path : String)
  | noDriver (pool : String)
  | noUrl (pool : String)
  | badUrl (pool : String) (fault : UrlFault)
  | badCount (pool key raw : String)
  | badPool (pool : String) (fault : SettingsFault)
  | badSettings (fault : SettingsFault)
  | otherLayout (table : String)
  | shortKeyColumn (table column : String) (length : Nat) (strategy : String) (needed : Nat)
  | unregisteredReference (entity field target : String)
  | stated (text : String)
  deriving DecidableEq, Repr

/-- Why the storage cannot be used. -/
inductive StorageCause where
  | noDataDirectory (path : String) (fault : FileFault)
  | unreadableDatabase (path : String) (fault : SnapshotFault)
  | unknownDriver (driver pool : String)
  | poolExhausted (nanoseconds : Nat)
  | stated (text : String)
  deriving DecidableEq, Repr

/-- Which two types do not agree. -/
inductive TypeCause where
  | column (column : String) (expected : DataType) (found : ValueKind)
  | incomparable (left right : ValueKind)
  | pattern (field : String) (found : ValueKind)
  | textField (field : String) (found : ValueKind)
  | summand (field : String) (found : ValueKind)
  | stated (text : String)
  deriving DecidableEq, Repr

/-- Which constraint a write violates. -/
inductive ConstraintCause where
  | nullColumn (column : String)
  | tooLong (column : String) (limit length : Nat)
  | duplicateKey (column key : String)
  | changedKey (table old new : String)
  | danglingReference (column table key target : String)
  | stillReferenced (key table referrer : String)
  | unsavedTarget (entity : String)
  | nullField (field entity : String)
  | stated (text : String)
  deriving DecidableEq, Repr

/-- Why something cannot be a key. -/
inductive IdentifierCause where
  | notText (table : String) (found : Value)
  | unsaved (entity : String)
  | stated (text : String)
  deriving DecidableEq, Repr

/-- Why an operation cannot be carried out. -/
inductive ExecutionCause where
  | rowWidth (expected found : Nat)
  | mappedWidth (table : String) (found declared : Nat)
  | noValue (table field : String)
  | noItems
  | mixedItems
  | sumOverflow (field : String)
  | connectionClosed
  | connectionReturned
  | transactionActive
  | noTransaction
  | manyMatches (entity : String) (count : Nat)
  | image (fault : ImageFault)
  | stated (text : String)
  deriving DecidableEq, Repr

/-- Which step with a snapshot file failed. -/
inductive FileCause where
  | createTemporary
  | replaceSnapshot
  | readSnapshot (fault : FileFault)
  | system (fault : FileFault)
  | stated (text : String)
  deriving DecidableEq, Repr

/-! ## Faults -/

/-- A failed operation, by the class of its fault. -/
inductive Fault where
  | config (cause : ConfigCause)
  | storageUnavailable (cause : StorageCause)
  | alreadyInitialized
  | notInitialized
  | tableExists (table : String)
  | tableNotFound (table : String)
  | columnNotFound (column table : String)
  | unknownEntity (entity : String)
  | notFound (table key : String)
  | typeMismatch (cause : TypeCause)
  | constraint (cause : ConstraintCause)
  | invalidIdentifier (cause : IdentifierCause)
  | execution (cause : ExecutionCause)
  | lock (text : String)
  | file (cause : FileCause)
  | panic
  deriving DecidableEq, Repr

/-- The fault of a snapshot that could not be loaded. -/
def SnapshotFault.toFault : SnapshotFault → Fault
  | .file fault => .file (.readSnapshot fault)
  | .image fault => .execution (.image fault)

/-! ## Messages -/

/-- A span of nanoseconds in a unit, with as many places as it needs. -/
def spanIn (unit : Nat) (label : String) (nanoseconds : Nat) : String :=
  let rest := nanoseconds % unit
  let places := (toString (unit + rest)).toList.drop 1
  let fraction := String.ofList (places.reverse.dropWhile (· == '0')).reverse
  if rest = 0 then s!"{nanoseconds / unit}{label}"
  else s!"{nanoseconds / unit}.{fraction}{label}"

/-- A span of nanoseconds in its largest unit. -/
def spanText (nanoseconds : Nat) : String :=
  if nanoseconds < 1000 then spanIn 1 "ns" nanoseconds
  else if nanoseconds < 1000000 then spanIn 1000 "µs" nanoseconds
  else if nanoseconds < 1000000000 then spanIn 1000000 "ms" nanoseconds
  else spanIn 1000000000 "s" nanoseconds

/-- How a cause in the configuration reads. -/
def ConfigCause.message : ConfigCause → String
  | .unreadableFile path fault => s!"Cannot read config file {path}: {fault.message}"
  | .malformedFile path fault => s!"Malformed config file {path}: {fault.message}"
  | .missingFile path => s!"The config file {path} does not exist"
  | .noDriver pool => s!"Pool '{pool}' has no '{pool}.driver'"
  | .noUrl pool => s!"Pool '{pool}' has no '{pool}.url'"
  | .badUrl pool fault => s!"Pool '{pool}': {fault.message}"
  | .badCount pool key raw => s!"Pool '{pool}': '{pool}.{key}' must be a number, got '{raw}'"
  | .badPool pool fault => s!"Pool '{pool}': {fault.message}"
  | .badSettings fault => fault.message
  | .otherLayout table => s!"Table '{table}' exists with a different column layout"
  | .shortKeyColumn table column length strategy needed =>
      s!"Key column '{table}.{column}' holds {length} characters but " ++
        s!"'{strategy}' keys are {needed} long"
  | .unregisteredReference entity field target =>
      s!"'{entity}.{field}' references '{target}', which is not a registered entity table"
  | .stated text => text

/-- How a failed step with a snapshot file reads. -/
def FileCause.message : FileCause → String
  | .createTemporary => "Failed to create temp file"
  | .replaceSnapshot => "Failed to replace snapshot"
  | .readSnapshot fault => s!"Failed to read snapshot: {fault.message}"
  | .system fault => fault.message
  | .stated text => text

/-- How an operation that cannot be carried out reads. -/
def ExecutionCause.message : ExecutionCause → String
  | .rowWidth expected found => s!"Expected {expected} columns, got {found}"
  | .mappedWidth table found declared =>
      s!"Row for '{table}' has {found} values, mapping declares {declared}"
  | .noValue table field => s!"Row of '{table}' has no value for '{field}'"
  | .noItems => "Selection has no items"
  | .mixedItems => "Cannot mix aggregate and plain property selections"
  | .sumOverflow field => s!"Integer overflow summing '{field}'"
  | .connectionClosed => "Connection is closed"
  | .connectionReturned => "Connection already returned to pool"
  | .transactionActive => "Transaction already active"
  | .noTransaction => "No active transaction"
  | .manyMatches entity count => s!"query_one on '{entity}' matched {count} rows"
  | .image fault => fault.message
  | .stated text => text

/-- How a snapshot that could not be loaded reads inside another report. -/
def SnapshotFault.message : SnapshotFault → String
  | .file fault => "I/O error: " ++ (FileCause.readSnapshot fault).message
  | .image fault => "Execution error: " ++ fault.message

/-- How unusable storage reads. -/
def StorageCause.message : StorageCause → String
  | .noDataDirectory path fault => s!"Cannot create data directory {path}: {fault.message}"
  | .unreadableDatabase path fault => s!"Cannot read database at {path}: {fault.message}"
  | .unknownDriver driver pool => s!"No storage driver named '{driver}' (pool '{pool}')"
  | .poolExhausted nanoseconds =>
      s!"Connection pool timeout: no connection available within {spanText nanoseconds}"
  | .stated text => text

/-- How disagreeing types read. -/
def TypeCause.message : TypeCause → String
  | .column name expected found =>
      s!"Column '{name}' expects type {expected.label}, got {found.label}"
  | .incomparable left right =>
      s!"Cannot compare incompatible types: {left.label} and {right.label}"
  | .pattern field found => s!"LIKE on '{field}' needs TEXT, got {found.label}"
  | .textField field found => s!"Field '{field}' expects TEXT, got {found.label}"
  | .summand field found => s!"Cannot sum '{field}': {found.label} is not numeric"
  | .stated text => text

/-- How a violated constraint reads. -/
def ConstraintCause.message : ConstraintCause → String
  | .nullColumn column => s!"Column '{column}' cannot be NULL"
  | .tooLong column limit length =>
      s!"Column '{column}' allows at most {limit} characters, got {length}"
  | .duplicateKey column key =>
      s!"Unique constraint violation: Column '{column}' already contains value {key}"
  | .changedKey table old new => s!"Key of '{table}' cannot change from '{old}' to '{new}'"
  | .danglingReference column table key target =>
      s!"Column '{column}' of '{table}' references non-existent key '{key}' in '{target}'"
  | .stillReferenced key table referrer =>
      s!"Delete of '{key}' in '{table}' violates foreign key constraint from '{referrer}'"
  | .unsavedTarget entity => s!"Cannot reference an unsaved {entity}"
  | .nullField field entity => s!"Field '{field}' of '{entity}' is NULL"
  | .stated text => text

/-- How a refused key reads. -/
def IdentifierCause.message : IdentifierCause → String
  | .notText table found => s!"Key of '{table}' must be non-empty text, got {found.shown}"
  | .unsaved entity => s!"Cannot delete an unsaved {entity}"
  | .stated text => text

namespace Fault

/-- How a fault reads. -/
def message : Fault → String
  | .config cause => s!"Configuration error: {cause.message}"
  | .storageUnavailable cause => s!"Storage unavailable: {cause.message}"
  | .alreadyInitialized => "Persistence registry is already initialized"
  | .notInitialized => "Persistence registry is not initialized"
  | .tableExists table => s!"Table '{table}' already exists"
  | .tableNotFound table => s!"Table '{table}' not found"
  | .columnNotFound column table => s!"Column '{column}' not found in table '{table}'"
  | .unknownEntity entity => s!"Entity type '{entity}' is not registered"
  | .notFound table key => s!"No row in '{table}' with key '{key}'"
  | .typeMismatch cause => s!"Type mismatch: {cause.message}"
  | .constraint cause => s!"Constraint violation: {cause.message}"
  | .invalidIdentifier cause => s!"Invalid identifier: {cause.message}"
  | .execution cause => s!"Execution error: {cause.message}"
  | .lock text => s!"Lock error: {text}"
  | .file cause => s!"I/O error: {cause.message}"
  | .panic => "The operation broke off"

/-- Whether the fault rejects one write, which may be mended and tried again. -/
def isValidation : Fault → Bool
  | .typeMismatch _ | .constraint _ | .invalidIdentifier _ => true
  | _ => false

/-- Whether the store cannot serve after the fault. -/
def isFatal : Fault → Bool
  | .config _ | .storageUnavailable _ | .alreadyInitialized | .notInitialized => true
  | _ => false

end Fault

end EntityStore
