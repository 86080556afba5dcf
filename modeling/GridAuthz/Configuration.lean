import GridAuthz.Calendar.Duration
import GridAuthz.Text.Json

/-!
# Configurations

The settings of a trust store and of a validator are read from JSON: an object whose members
are the settings, or a list of the settings in order. A setting that is not there has its
default. Unknown and repeated settings are errors.
-/

namespace GridAuthz

namespace Configuration

/-- The settings of a JSON value by their names, given the names in order. -/
def settings? (names : List String) : Json → Option (List (String × Json))
  | .array items => if items.length ≤ names.length then some (names.zip items) else none
  | .object members =>
    let given := members.map (·.1)
    if given.all names.contains && given.eraseDups.length = given.length then some members
    else none
  | _ => none

/-- A setting, or its default when it is not there. -/
def setting? {α : Type} (settings : List (String × Json)) (name : String) (default : α)
    (read? : Json → Option α) : Option α :=
  match settings.lookup name with
  | none => some default
  | some value => read? value

/-- A number of seconds, of at most 64 bits. -/
def seconds? : Json → Option Duration
  | .number (some n) => if n < UInt64.size then some (.ofSeconds n) else none
  | _ => none

/-- A text. -/
def text? : Json → Option String
  | .text s => some s
  | _ => none

/-- A list of texts. -/
def texts? : Json → Option (List String)
  | .array items => items.mapM text?
  | _ => none

/-- A text or `null`. -/
def optionalText? : Json → Option (Option String)
  | .null => some none
  | .text s => some (some s)
  | _ => none

end Configuration

/-- The settings of a trust store. -/
structure TrustStoreSettings where
  /-- The trust directories. -/
  directories : List String := ["/etc/grid-security/vomsdir"]
  /-- The time between loads. -/
  period : Duration := .ofSeconds (12 * 60 * 60)
  deriving DecidableEq

namespace TrustStoreSettings

/-- The settings of a JSON value. -/
def ofJson? (j : Json) : Option TrustStoreSettings := do
  let default : TrustStoreSettings := {}
  let settings ← Configuration.settings? ["trust_dirs", "update_frequency_secs"] j
  return {
    directories := ← Configuration.setting? settings "trust_dirs" default.directories
      Configuration.texts?
    period := ← Configuration.setting? settings "update_frequency_secs" default.period
      Configuration.seconds? }

/-- The settings of a text. -/
def parse? (text : String) : Option TrustStoreSettings := (Json.parse? text).bind ofJson?

end TrustStoreSettings

/-- The settings of a validator. -/
structure ValidatorSettings where
  /-- The host that targets are compared with. Without it attributes that are meant for certain
  hosts only are rejected. -/
  localHost : Option String := none
  /-- How far the clock of an attribute authority may be ahead. -/
  clockSkew : Duration := .ofSeconds (5 * 60)
  deriving DecidableEq

namespace ValidatorSettings

/-- The settings of a JSON value. -/
def ofJson? (j : Json) : Option ValidatorSettings := do
  let default : ValidatorSettings := {}
  let settings ← Configuration.settings? ["local_hostname", "clock_skew_secs"] j
  return {
    localHost := ← Configuration.setting? settings "local_hostname" default.localHost
      Configuration.optionalText?
    clockSkew := ← Configuration.setting? settings "clock_skew_secs" default.clockSkew
      Configuration.seconds? }

/-- The settings of a text. -/
def parse? (text : String) : Option ValidatorSettings := (Json.parse? text).bind ofJson?

end ValidatorSettings

end GridAuthz
