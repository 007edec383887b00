import EntityStore.Key.Uuid

/-!
# Key strategies

Every entity gets a key when it is first saved.  A strategy says under which name
it is recorded, and how long its keys are; the two that are built in issue random
identifiers in one of their two texts, and can tell whether a key is one of theirs.

An issuer is a strategy at work: an endless supply of keys and how many of them
have been issued.  The supply is fixed from the start, be it a list of keys or a
stream of random bits, so that what is issued next is a function of the issuer.
-/

set_option autoImplicit false

namespace EntityStore

/-- A built-in way to write identifiers as keys. -/
inductive KeyEncoding where
  | compact
  | hyphenated
  deriving DecidableEq, Repr

namespace KeyEncoding

/-- The name under which a table records the strategy. -/
def name : KeyEncoding → String
  | .compact => "uuid4-compact"
  | .hyphenated => "uuid4-hyphenated"

/-- The version of the identifiers that are issued. -/
def issuedVersion (_ : KeyEncoding) : Nat := 4

/-- The length of every key. -/
def keyLength : KeyEncoding → Nat
  | .compact => 22
  | .hyphenated => 36

/-- The key of an identifier. -/
def encode : KeyEncoding → Uuid → String
  | .compact => Uuid.compact
  | .hyphenated => Uuid.hyphenated

/-- The identifier of a key. -/
def decode? : KeyEncoding → String → Option Uuid
  | .compact => Uuid.ofCompact?
  | .hyphenated => Uuid.ofHyphenated?

/-- The encoding that is used unless another is asked for. -/
def standard : KeyEncoding := .compact

/-- The encoding with a name. -/
def ofName? (name : String) : Option KeyEncoding :=
  [KeyEncoding.compact, .hyphenated].find? fun encoding => encoding.name = name

end KeyEncoding

/-! ## Schemes -/

/-- What the shape of a key tells about its origin. -/
structure KeyScheme where
  encoding : KeyEncoding
  version : Nat
  deriving DecidableEq, Repr

/-- The text form of a scheme. -/
def KeyScheme.shown (scheme : KeyScheme) : String :=
  match scheme.encoding with
  | .compact => s!"compact uuid v{scheme.version}"
  | .hyphenated => s!"hyphenated uuid v{scheme.version}"

/-- The scheme of a key, if some built-in strategy could have issued it. -/
def KeyScheme.detect? (key : String) : Option KeyScheme :=
  match KeyEncoding.compact.decode? key with
  | some uuid => some ⟨.compact, uuid.version⟩
  | none => (KeyEncoding.hyphenated.decode? key).map fun uuid => ⟨.hyphenated, uuid.version⟩

/-! ## Strategies at work -/

/-- What tables and registries need to know of a strategy. -/
structure KeyStrategy where
  name : String
  keyLength : Nat
  deriving DecidableEq, Repr

/-- The strategy of a built-in encoding. -/
def KeyEncoding.strategy (encoding : KeyEncoding) : KeyStrategy :=
  ⟨encoding.name, encoding.keyLength⟩

/-- A strategy, its supply of keys, and how many of them have been issued. -/
structure KeyIssuer where
  strategy : KeyStrategy
  supply : Nat → String
  issued : Nat := 0

namespace KeyIssuer

/-- The next key, and the issuer after it. -/
def next (issuer : KeyIssuer) : String × KeyIssuer :=
  (issuer.supply issuer.issued, { issuer with issued := issuer.issued + 1 })

/-- The issuer of listed keys, and of one key for ever when they are used up. -/
def listed (strategy : KeyStrategy) (keys : List String) (last : String) : KeyIssuer :=
  { strategy, supply := fun place => keys.getD place last }

/-- The issuer of random identifiers in an encoding. -/
def random (encoding : KeyEncoding) (bits : Nat → Nat) : KeyIssuer :=
  { strategy := encoding.strategy
    supply := fun place => encoding.encode (Uuid.random (bits place)) }

end KeyIssuer

end EntityStore
