import MarketFeed.BookKeeping
import MarketFeed.SequenceTracker
import MarketFeed.NetAddress

/-!
The configuration of a feed: where it comes from, how its sockets, heartbeats, recovery and books
behave, and what is wrong with settings that cannot work. Durations are given in milliseconds.
-/

namespace MarketFeed

/-- Where a feed comes from. -/
inductive TransportSettings where
  | multicast (group : IPv4) (port : UInt16) (interface : IPv4)
  | udp (bind : SocketAddress)
  | tcp (address : String)
  deriving DecidableEq

/-- How sockets are opened. -/
structure SocketSettings where
  recvBufferBytes : UInt64
  sendBufferBytes : UInt64
  noDelay : Bool
  reusePort : Bool
  pollIntervalMs : UInt64
  connectTimeoutMs : UInt64
  deriving DecidableEq

/-- How a silent connection is noticed. An interval of 0 turns this off. -/
structure HeartbeatSettings where
  intervalMs : UInt64
  missedBeforeDisconnect : UInt32
  send : Bool
  deriving DecidableEq

/-- The processor cores the workers are tied to. -/
structure CpuSettings where
  receiveCore : Option UInt64
  processingCore : Option UInt64
  auxCore : Option UInt64
  deriving DecidableEq

/-- Where a stream starts and how many missing numbers are looked for. -/
structure SequenceSettings where
  initial : Option UInt64
  maxMissing : UInt64
  deriving DecidableEq

/-- How missing numbers are asked for. -/
structure RecoverySettings where
  enabled : Bool
  endpoint : Option String
  retryIntervalMs : UInt64
  maxRange : UInt64
  timeoutMs : UInt64
  deriving DecidableEq

/-- Whether books are kept, and the depth of their snapshots. -/
structure BookSettings where
  enabled : Bool
  maxDepth : UInt64
  deriving DecidableEq

/-- What else a feed may do. -/
structure FeatureSettings where
  latencyTracking : Bool
  subscribeAll : Bool
  deriving DecidableEq

structure FeedConfig where
  transport : TransportSettings
  socket : SocketSettings
  heartbeat : HeartbeatSettings
  cpu : CpuSettings
  sequence : SequenceSettings
  recovery : RecoverySettings
  book : BookSettings
  features : FeatureSettings
  deriving DecidableEq

/-! ### What holds unless set otherwise -/

namespace TransportSettings

/-- Any port of any interface. -/
def standard : TransportSettings := .udp (.v4 .unspecified 0)

end TransportSettings

/-- Eight mebibytes to receive, one to send, a look every ten milliseconds. -/
def SocketSettings.standard : SocketSettings :=
  { recvBufferBytes := 8388608, sendBufferBytes := 1048576, noDelay := true, reusePort := false,
    pollIntervalMs := 10, connectTimeoutMs := 2000 }

/-- A heartbeat a second, three of which may be missed. -/
def HeartbeatSettings.standard : HeartbeatSettings :=
  { intervalMs := 1000, missedBeforeDisconnect := 3, send := true }

/-- No ties. -/
def CpuSettings.standard : CpuSettings :=
  { receiveCore := none, processingCore := none, auxCore := none }

/-- The first number seen is the start. -/
def SequenceSettings.standard : SequenceSettings :=
  { initial := none, maxMissing := UInt64.ofNat SequenceTracker.defaultMaxMissing }

/-- No recovery; a thousand numbers at a time, twice a second, once it is turned on. -/
def RecoverySettings.standard : RecoverySettings :=
  { enabled := false, endpoint := none, retryIntervalMs := 500, maxRange := 1000, timeoutMs := 1000 }

/-- Books are kept. -/
def BookSettings.standard : BookSettings :=
  { enabled := true, maxDepth := UInt64.ofNat Books.defaultMaxDepth }

/-- Messages are timed, and every instrument is of interest. -/
def FeatureSettings.standard : FeatureSettings :=
  { latencyTracking := true, subscribeAll := true }

/-- The configuration in which nothing has been set. -/
def FeedConfig.standard : FeedConfig :=
  { transport := .standard, socket := .standard, heartbeat := .standard, cpu := .standard,
    sequence := .standard, recovery := .standard, book := .standard, features := .standard }

/-- A length of time has more whole seconds than a word can hold. -/
inductive DurationError where
  | overflow
  deriving DecidableEq

def DurationError.message : DurationError → String
  | .overflow => "overflow when multiplying duration by scalar"

/-- The silence, in milliseconds, after which a connection counts as lost: the interval times the
beats that may be missed, of which there is at least one. -/
def HeartbeatSettings.timeoutMs (settings : HeartbeatSettings) : Except DurationError Nat :=
  let total := settings.intervalMs.toNat * max settings.missedBeforeDisconnect.toNat 1
  if total / 1000 < UInt64.size then .ok total else .error .overflow

/-! ### Settings that cannot work -/

/-- The settings that must not be 0. -/
inductive PositiveSetting where
  | pollInterval
  | connectTimeout
  | recoveryTimeout
  | maxMissing
  | maxRange
  | maxDepth
  deriving DecidableEq

namespace PositiveSetting

/-- The settings in the order in which they are looked at. -/
def all : List PositiveSetting :=
  [.pollInterval, .connectTimeout, .recoveryTimeout, .maxMissing, .maxRange, .maxDepth]

/-- The name of the setting in a configuration file. -/
def name : PositiveSetting → String
  | .pollInterval => "socket.poll_interval_ms"
  | .connectTimeout => "socket.connect_timeout_ms"
  | .recoveryTimeout => "recovery.timeout_ms"
  | .maxMissing => "sequence.max_missing"
  | .maxRange => "recovery.max_range"
  | .maxDepth => "book.max_depth"

def value (config : FeedConfig) : PositiveSetting → UInt64
  | .pollInterval => config.socket.pollIntervalMs
  | .connectTimeout => config.socket.connectTimeoutMs
  | .recoveryTimeout => config.recovery.timeoutMs
  | .maxMissing => config.sequence.maxMissing
  | .maxRange => config.recovery.maxRange
  | .maxDepth => config.book.maxDepth

def clear (config : FeedConfig) : PositiveSetting → FeedConfig
  | .pollInterval => { config with socket.pollIntervalMs := 0 }
  | .connectTimeout => { config with socket.connectTimeoutMs := 0 }
  | .recoveryTimeout => { config with recovery.timeoutMs := 0 }
  | .maxMissing => { config with sequence.maxMissing := 0 }
  | .maxRange => { config with recovery.maxRange := 0 }
  | .maxDepth => { config with book.maxDepth := 0 }

end PositiveSetting

/-- Why a configuration cannot work. -/
inductive InvalidConfig where
  | notMulticast (group : IPv4)
  | emptyAddress
  | zero (setting : PositiveSetting)
  deriving DecidableEq

def InvalidConfig.message : InvalidConfig → String
  | .notMulticast group =>
      "invalid config: transport.group " ++ group.text ++ " is not a multicast address"
  | .emptyAddress => "invalid config: transport.address is empty"
  | .zero setting => "invalid config: " ++ setting.name ++ " must be > 0"

/-- What is wrong with where a feed is to come from. -/
def TransportSettings.fault? : TransportSettings → Option InvalidConfig
  | .multicast group _ _ => if group.isMulticast then none else some (.notMulticast group)
  | .tcp address => if address.isEmpty then some .emptyAddress else none
  | .udp _ => none

/-- The first thing that is wrong with a configuration. -/
def FeedConfig.fault? (config : FeedConfig) : Option InvalidConfig :=
  config.transport.fault? <|>
    (PositiveSetting.all.find? fun setting => setting.value config == 0).map .zero

end MarketFeed
