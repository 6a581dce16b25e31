import ReviewFeed.Settings.Basic
import ReviewFeed.Toml.Reader

/-!
# Reading settings

Settings are read from a JSON value, or from a TOML document by way of the JSON
value that it describes.  Names that are not known are passed over, and what is
absent has its default; but what is there has to be readable.  A group of settings
may also be an array of them in order.
-/

namespace ReviewFeed

mutual

/-- The JSON value of a TOML value.  A point in time is an object with a name that
no setting has. -/
def Toml.toJson : Toml → Json
  | .string text => .string text
  | .integer value => .ofInt value
  | .float => .number (.float (Binary64.zero false))
  | .bool value => .bool value
  | .time => .object [("$time", .null)]
  | .array items => .array (Toml.itemsJson items)
  | .tables items => .array (Toml.itemsJson items)
  | .table _ entries => .object (Toml.entriesJson entries)

def Toml.itemsJson : List Toml → List Json
  | [] => []
  | item :: rest => item.toJson :: Toml.itemsJson rest

def Toml.entriesJson : List (String × Toml) → Members
  | [] => []
  | (key, value) :: rest => (key, value.toJson) :: Toml.entriesJson rest

end

/-- What is done with the items of an array beyond the settings of a group. -/
inductive ExtraItems
  | refused
  | ignored
  deriving DecidableEq, Repr

/-- The settings of a group by their names. -/
def Fields.ofGroup? (extra : ExtraItems) (names : List String) (value : Json) : Option Fields :=
  match extra, value with
  | .ignored, .array items => Fields.ofJson? names (.array (items.take names.length))
  | _, value => Fields.ofJson? names value

/-- A setting that has a default and has to be readable if it is there. -/
def Fields.setting (fields : Fields) (name : String) (default : α) (reader : Json → Option α) :
    Option α :=
  match fields name with
  | none => some default
  | some value => reader value

/-- A number up to a bound. -/
def Json.upTo? (bound : Nat) (value : Json) : Option Nat :=
  (value.integerIn? 0 bound).map Int.toNat

/-- A value that may be null. -/
def Json.nullable? (reader : Json → Option α) : Json → Option (Option α)
  | .null => some none
  | value => (reader value).map some

def SshSettings.read? (extra : ExtraItems) (value : Json) : Option SshSettings := do
  let fields ←
    Fields.ofGroup? extra ["host", "port", "user", "key_file", "connect_timeout_secs"] value
  let default := SshSettings.default
  let host ← fields.setting "host" default.host Json.string?
  let port ← fields.setting "port" default.port (Json.upTo? 65535)
  let user ← fields.setting "user" default.user (Json.nullable? Json.string?)
  let keyFile ← fields.setting "key_file" default.keyFile (Json.nullable? Json.string?)
  let connectTimeout ←
    fields.setting "connect_timeout_secs" default.connectTimeout (Json.upTo? 18446744073709551615)
  some { host, port, user, keyFile, connectTimeout }

def RestSettings.read? (extra : ExtraItems) (value : Json) : Option RestSettings := do
  let fields ←
    Fields.ofGroup? extra ["frontend_url", "http_user", "http_password_env", "proxy"] value
  let default := RestSettings.default
  let frontendUrl ← fields.setting "frontend_url" default.frontendUrl Json.string?
  let httpUser ← fields.setting "http_user" default.httpUser (Json.nullable? Json.string?)
  let httpPasswordEnv ←
    fields.setting "http_password_env" default.httpPasswordEnv Json.string?
  let proxy ← fields.setting "proxy" default.proxy (Json.nullable? Json.string?)
  some { frontendUrl, httpUser, httpPasswordEnv, proxy }

def DispatchSettings.read? (extra : ExtraItems) (value : Json) : Option DispatchSettings := do
  let fields ← Fields.ofGroup? extra ["queue_capacity", "workers"] value
  let default := DispatchSettings.default
  let queueCapacity ←
    fields.setting "queue_capacity" default.queueCapacity (Json.upTo? 18446744073709551615)
  let workers ← fields.setting "workers" default.workers (Json.upTo? 18446744073709551615)
  some { queueCapacity, workers }

namespace Settings

def read? (extra : ExtraItems) (value : Json) : Option Settings := do
  let fields ← Fields.ofGroup? extra ["ssh", "rest", "dispatch"] value
  let ssh ← fields.setting "ssh" .default (SshSettings.read? extra)
  let rest ← fields.setting "rest" .default (RestSettings.read? extra)
  let dispatch ← fields.setting "dispatch" .default (DispatchSettings.read? extra)
  some { ssh, rest, dispatch }

/-- Reads settings from a JSON value, where an array has no more items than its
group has settings. -/
def ofJson? (value : Json) : Option Settings :=
  read? .refused value

def ofToml? (text : String) : Option Settings := do
  let entries ← Toml.read? text
  read? .ignored (.object (Toml.entriesJson entries))

end Settings

end ReviewFeed
