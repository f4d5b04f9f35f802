import Daybook.Listing.Params
import Daybook.Text.Numeral
import Daybook.Text.Split

/-!
# Settings

What a service needs to know before it starts, read from the named entries of an environment.  Only
the address of the database must be given; every other entry has a standard value.  Reading stops at
the first entry that is wrong, and page limits that were read satisfy `PageLimits.Valid`.
-/

namespace Daybook

open Listing (PageLimits)

structure NumericEntry where
  name : String
  -- The name of the range in messages.
  range : String
  -- The greatest number of the range; the least is 0.
  most : Nat
  -- The number when the entry is not set.
  standard : Nat
deriving DecidableEq, Repr

inductive LimitFault
  | notPositive
  | standardExceedsMost (limits : PageLimits)
  | mostTooLarge (most : Nat)
deriving DecidableEq

inductive SettingsFault
  | missing (name : String)
  | numeral (entry : NumericEntry) (fault : Text.NumeralFault)
  | limits (fault : LimitFault)
deriving DecidableEq

/-- The entries that are set, each to a text.  One that is set to something else is left out: it
counts as one that is not set, but for the words that a missing address of the database has. -/
abbrev Environment := String → Option String

namespace NumericEntry

def read (entry : NumericEntry) (environment : Environment) : Except SettingsFault Nat :=
  match environment entry.name with
  | none => .ok entry.standard
  | some text => (Text.readNat entry.most text.toList).mapError (.numeral entry)

def port : NumericEntry := ⟨"PORT", "u16", 0xFFFF, 3000⟩

def connections : NumericEntry := ⟨"DATABASE_MAX_CONNECTIONS", "u32", 0xFFFFFFFF, 10⟩

def standardLimit : NumericEntry := ⟨"PAGE_LIMIT_DEFAULT", "u64", 0xFFFFFFFFFFFFFFFF, 10⟩

def largestLimit : NumericEntry := ⟨"PAGE_LIMIT_MAX", "u64", 0xFFFFFFFFFFFFFFFF, 100⟩

def timeout : NumericEntry := ⟨"QUERY_TIMEOUT_SECS", "u64", 0xFFFFFFFFFFFFFFFF, 30⟩

end NumericEntry

def databaseEntry : String := "DATABASE_URL"

def originsEntry : String := "CORS_ALLOWED_ORIGINS"

/-! ## Messages -/

def LimitFault.message : LimitFault → String
  | notPositive => "page limits must be positive"
  | standardExceedsMost limits =>
    s!"PAGE_LIMIT_DEFAULT ({limits.standard}) exceeds PAGE_LIMIT_MAX ({limits.most})"
  | mostTooLarge most => s!"PAGE_LIMIT_MAX ({most}) does not fit a BIGINT"

-- The wording of a fault, with its cause at the end.
def SettingsFault.message : SettingsFault → String
  | missing name => s!"{name} environment variable is required: environment variable not found"
  | numeral entry fault =>
    entry.name ++ " must be a valid " ++ entry.range ++ ": " ++ fault.message
  | limits fault => fault.message

/-! ## Page limits -/

def LimitFault.of? (limits : PageLimits) : Option LimitFault :=
  if limits.standard = 0 ∨ limits.most = 0 then some .notPositive
  else if limits.most < limits.standard then some (.standardExceedsMost limits)
  else if Sql.largestBigInt < limits.most then some (.mostTooLarge limits.most)
  else none

/-- Limits without a fault are valid. -/
theorem LimitFault.of?_eq_none_iff {limits : PageLimits} :
    LimitFault.of? limits = none ↔ limits.Valid := by
  unfold LimitFault.of?
  constructor
  · intro h
    split at h
    · cases h
    · split at h
      · cases h
      · split at h
        · cases h
        · exact ⟨by omega, by omega, by omega⟩
  · rintro ⟨h₁, h₂, h₃⟩
    rw [if_neg (by omega), if_neg (by omega), if_neg (by omega)]

def readLimits (environment : Environment) : Except SettingsFault PageLimits := do
  let standard ← NumericEntry.standardLimit.read environment
  let most ← NumericEntry.largestLimit.read environment
  match LimitFault.of? { standard, most } with
  | some fault => .error (.limits fault)
  | none => return { standard, most }

/-! ## All settings -/

structure Settings where
  port : Nat
  databaseUrl : String
  -- How many connections to the database may be open at a time.
  connections : Nat
  -- Where requests of browsers may come from.
  origins : List String
  limits : PageLimits
  timeoutSeconds : Nat
deriving DecidableEq

namespace Settings

/-- Origins stand between commas, where blanks around them do not count.  When nothing is said every
origin is allowed. -/
def readOrigins (environment : Environment) : List String :=
  match environment originsEntry with
  | none => ["*"]
  | some text => (Text.pieces ',' text.toList).map fun piece => .ofList (Text.trim piece)

def read (environment : Environment) : Except SettingsFault Settings := do
  let port ← NumericEntry.port.read environment
  let databaseUrl ← match environment databaseEntry with
    | none => .error (.missing databaseEntry)
    | some url => .ok url
  let connections ← NumericEntry.connections.read environment
  let limits ← readLimits environment
  let timeoutSeconds ← NumericEntry.timeout.read environment
  return {
    port, databaseUrl, connections, limits, timeoutSeconds, origins := readOrigins environment }

end Settings

end Daybook
