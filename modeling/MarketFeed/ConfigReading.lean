import MarketFeed.FeedConfig
import MarketFeed.TomlDocument

/-!
Reading a configuration from a TOML document. Every section and every setting may be left out, and
what is not known is passed over. A section is a table; an array gives its settings in their order,
and surplus elements are passed over.
-/

namespace MarketFeed

/-- Why no configuration could be read. -/
inductive ConfigError where
  /-- The file could not be found. -/
  | notFound
  /-- The file is not text. -/
  | notText
  /-- The text is not a document, or a setting has a value of the wrong form. -/
  | malformed
  /-- The settings cannot work. -/
  | invalid (reason : InvalidConfig)
  deriving DecidableEq

namespace Toml

/-- A whole number below a bound. -/
def wholeBelow? (bound : Nat) : Value → Option Nat
  | .integer n => if 0 ≤ n ∧ n < bound then some n.toNat else none
  | _ => none

def word64? (value : Value) : Option UInt64 := (wholeBelow? UInt64.size value).map UInt64.ofNat

def word32? (value : Value) : Option UInt32 := (wholeBelow? UInt32.size value).map UInt32.ofNat

def word16? (value : Value) : Option UInt16 := (wholeBelow? UInt16.size value).map UInt16.ofNat

def bool? : Value → Option Bool
  | .boolean b => some b
  | _ => none

def text? : Value → Option String
  | .string s => some s
  | _ => none

/-- A setting that may also be left without a value. -/
def optional? {α : Type} (read : Value → Option α) (value : Value) : Option (Option α) :=
  (read value).map some

/-! ### Sections -/

/-- The settings of a section by name. -/
abbrev Settings := String → Option Value

/-- The elements of an array as the settings of the given names. -/
def settingsOf (names : List String) (elements : List Value) : Settings := fun name =>
  (names.zip elements).lookup name

/-- The settings of a section whose settings have the given names. A date has none of them. -/
def settings? (names : List String) : Value → Option Settings
  | .table _ entries => some fun name => entries.lookup name
  | .array elements | .tables elements => some (settingsOf names elements)
  | .dateTime _ => some fun _ => none
  | _ => none

/-- A setting, or what holds where it is left out; nothing when it has the wrong form. -/
def Settings.get? {α : Type} (settings : Settings) (name : String) (standard : α)
    (read : Value → Option α) : Option α :=
  match settings name with
  | none => some standard
  | some value => read value

/-- A setting that must be there. -/
def Settings.require? {α : Type} (settings : Settings) (name : String) (read : Value → Option α) :
    Option α :=
  (settings name).bind read

end Toml

open Toml

/-- The transport whose kind is named, with settings that must be there but for the interface. -/
def TransportSettings.ofKind? (kind : String) (settings : Settings) : Option TransportSettings := do
  let address? (value : Value) : Option IPv4 := do IPv4.parse? (← text? value)
  let endpoint? (value : Value) : Option SocketAddress := do SocketAddress.parse? (← text? value)
  match kind with
  | "multicast" =>
      pure (.multicast (← settings.require? "group" address?) (← settings.require? "port" word16?)
        (← settings.get? "interface" .unspecified address?))
  | "udp" => pure (.udp (← settings.require? "bind" endpoint?))
  | "tcp" => pure (.tcp (← settings.require? "address" text?))
  | _ => none

/-- The names of a transport's settings, by its kind. -/
def TransportSettings.names : String → List String
  | "multicast" => ["group", "port", "interface"]
  | "udp" => ["bind"]
  | "tcp" => ["address"]
  | _ => []

/-- The section on the transport. Its kind must be named; in an array it comes first, and there is
nothing behind the settings of the kind. -/
def TransportSettings.ofToml? : Value → Option TransportSettings
  | .table _ entries => do
      let settings : Settings := fun name => entries.lookup name
      ofKind? (← settings.require? "kind" text?) settings
  | .array (kind :: elements) => do
      let kind ← text? kind
      if elements.length ≤ (names kind).length then
        ofKind? kind (settingsOf (names kind) elements)
      else none
  | _ => none

def SocketSettings.ofToml? (value : Value) : Option SocketSettings := do
  let get ← settings? ["recv_buffer_bytes", "send_buffer_bytes", "nodelay", "reuse_port",
    "poll_interval_ms", "connect_timeout_ms"] value
  let recvBufferBytes ← Settings.get? get "recv_buffer_bytes" standard.recvBufferBytes Toml.word64?
  let sendBufferBytes ← Settings.get? get "send_buffer_bytes" standard.sendBufferBytes Toml.word64?
  let noDelay ← Settings.get? get "nodelay" standard.noDelay bool?
  let reusePort ← Settings.get? get "reuse_port" standard.reusePort bool?
  let pollIntervalMs ← Settings.get? get "poll_interval_ms" standard.pollIntervalMs Toml.word64?
  let connectTimeoutMs ←
    Settings.get? get "connect_timeout_ms" standard.connectTimeoutMs Toml.word64?
  pure { recvBufferBytes, sendBufferBytes, noDelay, reusePort, pollIntervalMs, connectTimeoutMs }

def HeartbeatSettings.ofToml? (value : Value) : Option HeartbeatSettings := do
  let get ← settings? ["interval_ms", "missed_before_disconnect", "send"] value
  let intervalMs ← Settings.get? get "interval_ms" standard.intervalMs Toml.word64?
  let missedBeforeDisconnect ←
    Settings.get? get "missed_before_disconnect" standard.missedBeforeDisconnect Toml.word32?
  let send ← Settings.get? get "send" standard.send bool?
  pure { intervalMs, missedBeforeDisconnect, send }

def CpuSettings.ofToml? (value : Value) : Option CpuSettings := do
  let get ← settings? ["receive_core", "processing_core", "aux_core"] value
  let receiveCore ← Settings.get? get "receive_core" none (optional? Toml.word64?)
  let processingCore ← Settings.get? get "processing_core" none (optional? Toml.word64?)
  let auxCore ← Settings.get? get "aux_core" none (optional? Toml.word64?)
  pure { receiveCore, processingCore, auxCore }

def SequenceSettings.ofToml? (value : Value) : Option SequenceSettings := do
  let get ← settings? ["initial", "max_missing"] value
  let initial ← Settings.get? get "initial" none (optional? Toml.word64?)
  let maxMissing ← Settings.get? get "max_missing" standard.maxMissing Toml.word64?
  pure { initial, maxMissing }

def RecoverySettings.ofToml? (value : Value) : Option RecoverySettings := do
  let get ← settings? ["enabled", "endpoint", "retry_interval_ms", "max_range", "timeout_ms"] value
  let enabled ← Settings.get? get "enabled" standard.enabled bool?
  let endpoint ← Settings.get? get "endpoint" none (optional? text?)
  let retryIntervalMs ← Settings.get? get "retry_interval_ms" standard.retryIntervalMs Toml.word64?
  let maxRange ← Settings.get? get "max_range" standard.maxRange Toml.word64?
  let timeoutMs ← Settings.get? get "timeout_ms" standard.timeoutMs Toml.word64?
  pure { enabled, endpoint, retryIntervalMs, maxRange, timeoutMs }

def BookSettings.ofToml? (value : Value) : Option BookSettings := do
  let get ← settings? ["enabled", "max_depth"] value
  let enabled ← Settings.get? get "enabled" standard.enabled bool?
  let maxDepth ← Settings.get? get "max_depth" standard.maxDepth Toml.word64?
  pure { enabled, maxDepth }

def FeatureSettings.ofToml? (value : Value) : Option FeatureSettings := do
  let get ← settings? ["latency_tracking", "subscribe_all"] value
  let latencyTracking ← Settings.get? get "latency_tracking" standard.latencyTracking bool?
  let subscribeAll ← Settings.get? get "subscribe_all" standard.subscribeAll bool?
  pure { latencyTracking, subscribeAll }

namespace FeedConfig

/-- The configuration that the sections of a document give, which may not work yet. -/
def ofToml? (entries : Entries) : Option FeedConfig := do
  let get : Settings := fun name => entries.lookup name
  let transport ← get.get? "transport" .standard TransportSettings.ofToml?
  let socket ← get.get? "socket" .standard SocketSettings.ofToml?
  let heartbeat ← get.get? "heartbeat" .standard HeartbeatSettings.ofToml?
  let cpu ← get.get? "cpu" .standard CpuSettings.ofToml?
  let sequence ← get.get? "sequence" .standard SequenceSettings.ofToml?
  let recovery ← get.get? "recovery" .standard RecoverySettings.ofToml?
  let book ← get.get? "book" .standard BookSettings.ofToml?
  let features ← get.get? "features" .standard FeatureSettings.ofToml?
  pure { transport, socket, heartbeat, cpu, sequence, recovery, book, features }

/-- The configuration, if its settings can work. -/
def check (config : FeedConfig) : Except ConfigError FeedConfig :=
  match config.fault? with
  | some reason => .error (.invalid reason)
  | none => .ok config

/-- The configuration that a text spells. -/
def ofText (text : String) : Except ConfigError FeedConfig :=
  match (document? text).bind ofToml? with
  | none => .error .malformed
  | some config => config.check

/-- The configuration in a file with the given bytes, if there is such a file. -/
def ofFile (contents : Option Bytes) : Except ConfigError FeedConfig :=
  match contents with
  | none => .error .notFound
  | some bytes =>
      match Utf8.read? bytes with
      | none => .error .notText
      | some text => ofText text

end FeedConfig

end MarketFeed
