import MarketFeed.BoundedQueue
import MarketFeed.DisconnectSignal
import MarketFeed.FeedEvent
import MarketFeed.FeedProcessor
import MarketFeed.Retransmission

/-!
The state of a session: four workers, each somewhere in its loop, and what they share. The receiver
hands packets to the processing worker over one queue and the gap filler over another; the processing
worker hands gap requests to the gap filler; the monitor watches for silence. A flag stops the
receiver, the monitor and the gap filler, two more flags say that no more packets will come, and a
signal holds the reason why the session ended. Whoever closes the session is a fifth party.
-/

namespace MarketFeed

/-- Someone who is told of events. Told of a message of a certain kind, it may fail for good. -/
structure Listener where
  failsOn : Option MessageKind
  deriving DecidableEq

def Listener.fails (listener : Listener) (message : Message) : Bool :=
  listener.failsOn == some message.kind

/-- Where missing packets are asked for: from a source that was given from outside, or from the server
that the configuration names. -/
inductive GapSource where
  | installed
  | server (client : RetransmissionClient)
  deriving DecidableEq

abbrev GapReply := Except RecoveryError (List Bytes)

/-- How long a connection may be silent, in nanoseconds, and whether heartbeats are sent on it. -/
structure HeartbeatPlan where
  silenceLimit : UInt64
  sends : Bool
  deriving DecidableEq

/-- The silence allowed by the settings, in nanoseconds modulo `2 ^ 64`. -/
def HeartbeatSettings.silenceLimit (settings : HeartbeatSettings) : Except DurationError UInt64 :=
  settings.timeoutMs.map fun timeout => UInt64.ofNat (nanoseconds timeout)

/-- The silence that a monitor is to watch for; where there is none, this does not matter. -/
def HeartbeatSettings.watchedSilence (settings : HeartbeatSettings) : Except DurationError UInt64 :=
  if settings.intervalMs = 0 then .ok 0 else settings.silenceLimit

/-- Whether a connection that was last active at some time has been silent for too long now. -/
def HeartbeatPlan.isOverdue (plan : HeartbeatPlan) (lastActivity now : UInt64) : Bool :=
  plan.silenceLimit < saturatingSub now lastActivity

/-- What comes of a look at the clock: no heartbeat is due, or one is, and sending it may fail. -/
inductive Beat where
  | notDue
  | due
  | failing (fault : TransportFault)
  deriving DecidableEq

/-! ### Where the workers stand -/

inductive ReceiverStage where
  | checking
  | takingBuffer
  | listening (hasBuffer : Bool)
  | received (packet : Bytes) (time : UInt64)
  | storing (packet : Bytes) (time : UInt64)
  | failing (reason : String)
  | announcing (reason : String)
  | stopping
  | leaving
  | finished
  deriving DecidableEq

inductive MonitorStage where
  | checking
  | sleeping
  | announcing (reason : String)
  | stopping
  | finished
  deriving DecidableEq

inductive GapFillerStage where
  | checking
  | taking
  | asking (request : GapRequest)
  | storing (packets : List Bytes)
  | leaving
  | finished
  deriving DecidableEq

/-- Where the processing worker stands. It is lost once the listener has failed, or a message could not
be counted. -/
inductive ProcessingStage where
  | packets (left : Nat)
  | recovered (left : Nat)
  | polling
  | checkingReceiver
  | checkingGapFiller
  | drainingPackets (worked : Bool)
  | drainingRecovered (worked : Bool)
  | notifying
  | finished
  | lost
  deriving DecidableEq

/-- A packet that the processing worker has taken off a queue. One of the receiver's is still in its
buffer. -/
inductive PacketInHand where
  | direct (packet : Bytes) (time : UInt64)
  | recovered (packet : Bytes)
  deriving DecidableEq

inductive ClosingStage where
  | notBegun
  | stopping
  | awaitingReceiver
  | awaitingMonitor
  | releasingReceiver
  | awaitingGapFiller
  | releasingGapFiller
  | awaitingProcessing
  | closed
  deriving DecidableEq

/-! ### The session -/

structure Session where
  stop : Bool
  receiverDone : Bool
  gapFillerDone : Bool
  signal : DisconnectSignal
  freeBuffers : Nat
  packets : BoundedQueue (Bytes × UInt64)
  recovered : BoundedQueue Bytes
  requests : BoundedQueue GapRequest
  link : Link
  lastActivity : UInt64
  heartbeat : HeartbeatPlan
  processor : Processor
  listener : Listener
  source : Option GapSource
  receiver : ReceiverStage
  monitor : MonitorStage
  gapFiller : GapFillerStage
  processing : ProcessingStage
  inHand : Option PacketInHand
  closing : ClosingStage

namespace Session

/-- Buffers for packets on their way to the processing worker. -/
def bufferCount : Nat := 4096

/-- Packets that may wait for the processing worker. -/
def packetLimit : Nat := 4095

/-- Retransmitted packets that may wait for the processing worker. -/
def recoveredLimit : Nat := 1023

/-- Gap requests that may wait for the gap filler. -/
def requestLimit : Nat := 63

/-- Packets taken from each queue before the processing worker looks at anything else. -/
def batchSize : Nat := 64

/-- The session that a configuration asks for, at its start, with so much silence allowed. Without a
source of missing packets there is no gap filler, and nothing is asked for; with an interval of 0 there
is no monitor. -/
def fresh (config : FeedConfig) (link : Link) (listener : Listener) (source : Option GapSource)
    (books : Books) (subscriptions : Subscriptions) (counters : Counters) (now silenceLimit : UInt64) :
    Session :=
  let recovers := config.recovery.enabled && source.isSome
  { stop := false
    receiverDone := false
    gapFillerDone := source.isNone
    signal := .clear
    freeBuffers := bufferCount
    packets := .empty packetLimit
    recovered := .empty recoveredLimit
    requests := .empty requestLimit
    link
    lastActivity := now
    heartbeat := { silenceLimit, sends := config.heartbeat.send && link matches .stream _ }
    processor :=
      .ofConfig { config with recovery.enabled := recovers } books subscriptions counters
    listener
    source
    receiver := .checking
    monitor := if config.heartbeat.intervalMs = 0 then .finished else .checking
    gapFiller := if source.isSome then .checking else .finished
    processing := .packets batchSize
    inHand := none
    closing := .notBegun }

/-- The session that a configuration asks for, at its start, if the silence to be watched for can be
told. -/
def start (config : FeedConfig) (link : Link) (listener : Listener) (source : Option GapSource)
    (books : Books) (subscriptions : Subscriptions) (counters : Counters) (now : UInt64) :
    Except DurationError Session :=
  config.heartbeat.watchedSilence.map
    (fresh config link listener source books subscriptions counters now)

/-- The listener, unless it was lost. -/
def listener? (session : Session) : Option Listener :=
  if session.processing = .lost then none else some session.listener

end Session

end MarketFeed
