import MarketFeed.SessionState

/-!
The steps of a session. An action names the party that takes a step and says what the world outside
does about it: what comes in, what the clock shows, how a request is answered. A step looks at, or
changes, one of the things that the parties share, so every interleaving of the parties is a list of
actions; meanwhile the choice of instruments may change. What can be seen of a run is the history of its
events.
-/

namespace MarketFeed

/-- The queue over which a packet came to the processing worker. -/
inductive Lane where
  | direct
  | recovered
  deriving DecidableEq, Repr

/-- What can be seen of a session. -/
inductive SessionEvent where
  /-- Someone wanted the session to end. -/
  | raised (reason : String)
  /-- A packet was put on a queue. -/
  | stored (lane : Lane) (packet : Bytes)
  /-- A packet was taken off a queue and processed. -/
  | processed (lane : Lane) (packet : Bytes) (accepted : Bool)
  /-- The listener was told. -/
  | told (event : FeedEvent)
  /-- Missing packets were asked for. -/
  | asked (source : Option GapSource) (request : GapRequest)
  /-- A heartbeat was sent. -/
  | sent (packet : Bytes)
  deriving DecidableEq

/-- Which worker takes a step, and what happens outside meanwhile. -/
inductive WorkerAction where
  | receive (arrival : Arrival) (now : UInt64)
  | monitor (beat : Beat) (now : UInt64)
  | fillGap (reply : GapReply)
  | process (now : Nat)

/-- A step of a worker, or of whoever closes the session, or a change of the choice of instruments. -/
inductive SessionAction where
  | work (action : WorkerAction)
  | close (reason : String)
  | choose (call : Subscriptions.Call)

namespace Session

/-- What became of a step: the session after it and the events of the step. -/
abbrev Outcome := Session × List SessionEvent

def quietly (session : Session) : Option Outcome := some (session, [])

def count (session : Session) (change : Counters → Counters) : Session :=
  { session with processor.counters := change session.processor.counters }

def countDrop (session : Session) : Session :=
  session.count fun c => { c with packetsDropped := c.packetsDropped + 1 }

def freeBuffer (session : Session) : Session :=
  { session with freeBuffers := session.freeBuffers + 1 }

/-! ### The receiver -/

def noteArrival (session : Session) (packet : Bytes) (now : UInt64) : Session :=
  { session with lastActivity := now }.count fun c =>
    { c with
      packetsReceived := c.packetsReceived + 1
      bytesReceived := c.bytesReceived + UInt64.ofNat packet.length }

/-- What the receiver makes of what has come in. Without a buffer a packet is dropped at once. -/
def takeArrival (session : Session) (hasBuffer : Bool) (now : UInt64) : Arrival → Session
  | .nothing =>
      { if hasBuffer then session.freeBuffer else session with receiver := .checking }
  | .packet packet =>
      let noted := session.noteArrival packet now
      if hasBuffer then { noted with receiver := .received packet now }
      else { noted.countDrop with receiver := .checking }
  | .fault fault =>
      { if hasBuffer then session.freeBuffer else session with
        receiver := .failing ("receive failed: " ++ fault.message) }

def receiverStep (session : Session) (arrival : Arrival) (now : UInt64) : Option Outcome :=
  match session.receiver with
  | .checking =>
      quietly { session with receiver := if session.stop then .leaving else .takingBuffer }
  | .takingBuffer =>
      quietly <|
        if session.freeBuffers = 0 then { session with receiver := .listening false }
        else { session with freeBuffers := session.freeBuffers - 1, receiver := .listening true }
  | .listening hasBuffer => quietly (session.takeArrival hasBuffer now arrival)
  | .received packet time =>
      quietly <|
        if session.stop then { session.countDrop.freeBuffer with receiver := .checking }
        else { session with receiver := .storing packet time }
  | .storing packet time =>
      match session.packets.push? (packet, time) with
      | some packets =>
          some ({ session with packets, receiver := .checking }, [.stored .direct packet])
      | none => quietly { session.countDrop.freeBuffer with receiver := .checking }
  | .failing reason =>
      quietly { session with receiver := if session.stop then .leaving else .announcing reason }
  | .announcing reason =>
      some ({ session with signal := session.signal.raise reason, receiver := .stopping },
        [.raised reason])
  | .stopping => quietly { session with stop := true, receiver := .leaving }
  | .leaving => quietly { session with receiverDone := true, receiver := .finished }
  | .finished => none

/-! ### The monitor -/

/-- What the monitor does when it wakes up. -/
def wakeMonitor (session : Session) (beat : Beat) (now : UInt64) : Outcome :=
  if session.heartbeat.isOverdue session.lastActivity now then
    ({ session with monitor := .announcing "heartbeat timeout" }, [])
  else
    match session.heartbeat.sends, beat with
    | true, .due => ({ session with monitor := .checking }, [.sent (heartbeatPacket now)])
    | true, .failing fault =>
        ({ session with monitor := .announcing ("heartbeat send failed: " ++ fault.message) }, [])
    | _, _ => ({ session with monitor := .checking }, [])

def monitorStep (session : Session) (beat : Beat) (now : UInt64) : Option Outcome :=
  match session.monitor with
  | .checking =>
      quietly { session with monitor := if session.stop then .finished else .sleeping }
  | .sleeping => some (session.wakeMonitor beat now)
  | .announcing reason =>
      some ({ session with signal := session.signal.raise reason, monitor := .stopping },
        [.raised reason])
  | .stopping => quietly { session with stop := true, monitor := .finished }
  | .finished => none

/-! ### The gap filler -/

/-- What the gap filler makes of a reply. -/
def takeReply (session : Session) : GapReply → Session
  | .ok packets =>
      { session.count fun c =>
          { c with
            retransmittedPackets := c.retransmittedPackets + UInt64.ofNat packets.length } with
        gapFiller := .storing packets }
  | .error _ => { session with gapFiller := .checking }

def gapFillerStep (session : Session) (reply : GapReply) : Option Outcome :=
  match session.gapFiller with
  | .checking =>
      quietly { session with gapFiller := if session.stop then .leaving else .taking }
  | .taking =>
      quietly <|
        match session.requests.pop? with
        | none => { session with gapFiller := .checking }
        | some (request, requests) => { session with requests, gapFiller := .asking request }
  | .asking request => some (session.takeReply reply, [.asked session.source request])
  | .storing [] => quietly { session with gapFiller := .checking }
  | .storing (packet :: rest) =>
      match session.recovered.push? packet with
      | some recovered =>
          some ({ session with recovered, gapFiller := .storing rest },
            [.stored .recovered packet])
      | none => quietly { session.countDrop with gapFiller := .storing rest }
  | .leaving => quietly { session with gapFillerDone := true, gapFiller := .finished }
  | .finished => none

/-! ### The processing worker -/

/-- What the processor has done and what the listener was told when the processing worker breaks down
over some messages, if it does: at a message that cannot be counted, or behind one that the listener
fails on. -/
def breakdown? (listener : Listener) :
    Processor → List Message → Option (Processor × List Message)
  | _, [] => none
  | processor, message :: rest =>
      match processor.accept message with
      | .error _ => some (processor, [])
      | .ok (processor, handling) =>
          let told := if Processor.isDelivered handling then [message] else []
          if told.any listener.fails then some (processor, told)
          else (breakdown? listener processor rest).map fun (processor, later) =>
            (processor, told ++ later)

/-- The events of telling the listener of messages. -/
def tell (messages : List Message) : List SessionEvent :=
  messages.map fun message => .told (.message message)

/-- Processes a packet and tells the listener, unless the worker breaks down and is lost. -/
def handle (session : Session) (lane : Lane) (packet : Bytes) (time : UInt64) : Outcome :=
  match breakdown? session.listener session.processor (Packet.decode packet).messages,
    session.processor.process packet time with
  | none, .ok done =>
      ({ session with processor := done.processor },
        tell done.delivered ++ [.processed lane packet done.result.isOk])
  | broken, _ =>
      let (processor, messages) := broken.getD (session.processor, [])
      ({ session with processor, processing := .lost }, tell messages)

/-- Lays a packet down, handles it and gives its buffer back if it has one. -/
def handleInHand (session : Session) (now : Nat) : PacketInHand → Outcome
  | .direct packet time => { session with inHand := none }.freeBuffer.handle .direct packet time
  | .recovered packet =>
      { session with inHand := none }.handle .recovered packet (UInt64.ofNat now)

def takeDirect (session : Session) (next empty : ProcessingStage) : Session :=
  match session.packets.pop? with
  | none => { session with processing := empty }
  | some ((packet, time), packets) =>
      { session with packets, inHand := some (.direct packet time), processing := next }

def takeRecovered (session : Session) (next empty : ProcessingStage) : Session :=
  match session.recovered.pop? with
  | none => { session with processing := empty }
  | some (packet, recovered) =>
      { session with recovered, inHand := some (.recovered packet), processing := next }

/-- Sees whether packets have to be asked for. A request is forgotten when the queue is full. -/
def pollGapFill (session : Session) (now : Nat) : Session :=
  let (request, processor) := session.processor.pollGapFill now
  let requests := (request.bind session.requests.push?).getD session.requests
  { session with processor, requests, processing := .checkingReceiver }

/-- Tells the listener that the connection is gone, and why, if a reason is there. -/
def notify (session : Session) : Outcome :=
  ({ session with signal := session.signal.taken, processing := .finished },
    (session.signal.reason.map fun reason => .told (.disconnected reason)).toList)

/-- A step of the processing worker with nothing in hand. It takes batches off both queues until no
more packets can come, then all that is left, and ends with the notice. -/
def proceed (session : Session) (now : Nat) : Option Outcome :=
  match session.processing with
  | .packets 0 => quietly { session with processing := .recovered batchSize }
  | .packets (left + 1) => quietly (session.takeDirect (.packets left) (.recovered batchSize))
  | .recovered 0 => quietly { session with processing := .polling }
  | .recovered (left + 1) => quietly (session.takeRecovered (.recovered left) .polling)
  | .polling => quietly (session.pollGapFill now)
  | .checkingReceiver =>
      quietly { session with
        processing := if session.receiverDone then .checkingGapFiller else .packets batchSize }
  | .checkingGapFiller =>
      quietly { session with
        processing := if session.gapFillerDone then .drainingPackets false else .packets batchSize }
  | .drainingPackets worked =>
      quietly (session.takeDirect (.drainingPackets true) (.drainingRecovered worked))
  | .drainingRecovered worked =>
      quietly (session.takeRecovered (.drainingRecovered true)
        (if worked then .drainingPackets false else .notifying))
  | .notifying => some session.notify
  | .finished | .lost => none

/-- A step of the processing worker. A packet in hand comes first. -/
def processingStep (session : Session) (now : Nat) : Option Outcome :=
  match session.inHand with
  | some taken => some (session.handleInHand now taken)
  | none => session.proceed now

/-! ### Closing -/

/-- A step of closing the session. Waiting for a worker is a step that becomes possible when the
worker has ended. -/
def closingStep (session : Session) (reason : String) : Option Outcome :=
  match session.closing with
  | .notBegun =>
      some ({ session with signal := session.signal.raise reason, closing := .stopping },
        [.raised reason])
  | .stopping => quietly { session with stop := true, closing := .awaitingReceiver }
  | .awaitingReceiver =>
      if session.receiver = .finished then quietly { session with closing := .awaitingMonitor }
      else none
  | .awaitingMonitor =>
      if session.monitor = .finished then quietly { session with closing := .releasingReceiver }
      else none
  | .releasingReceiver =>
      quietly { session with receiverDone := true, closing := .awaitingGapFiller }
  | .awaitingGapFiller =>
      if session.gapFiller = .finished then quietly { session with closing := .releasingGapFiller }
      else none
  | .releasingGapFiller =>
      quietly { session with gapFillerDone := true, closing := .awaitingProcessing }
  | .awaitingProcessing =>
      if session.processing = .finished ∨ session.processing = .lost then
        quietly { session with closing := .closed }
      else none
  | .closed => none

/-! ### Runs -/

def workerStep (session : Session) : WorkerAction → Option Outcome
  | .receive arrival now => session.receiverStep arrival now
  | .monitor beat now => session.monitorStep beat now
  | .fillGap reply => session.gapFillerStep reply
  | .process now => session.processingStep now

def choose (session : Session) (call : Subscriptions.Call) : Session :=
  { session with processor.subscriptions := session.processor.subscriptions.apply call }

/-- A step of the session, where the party that the action names can take one. -/
def step (session : Session) : SessionAction → Option Outcome
  | .work action => session.workerStep action
  | .close reason => session.closingStep reason
  | .choose call => quietly (session.choose call)

/-- The session after an action; one that cannot take place changes nothing. -/
def perform (session : Session) (action : SessionAction) : Outcome :=
  (session.step action).getD (session, [])

/-- The session after some actions, and its history meanwhile. -/
def run (session : Session) : List SessionAction → Outcome
  | [] => (session, [])
  | action :: rest =>
      let (session, events) := session.perform action
      let (session, later) := session.run rest
      (session, events ++ later)

end Session

end MarketFeed
