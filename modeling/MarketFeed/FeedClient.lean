import MarketFeed.SessionSchedule

/-!
A client of a feed: it is configured, connects, and disconnects, any number of times, until it is shut
down. While it is connected a session has the listener and the source of missing packets; books,
subscriptions and counters outlast every session. A call that is refused changes nothing.
-/

namespace MarketFeed

/-- What a client has been brought to. -/
inductive ClientState where
  | uninitialized
  | initialized
  | connected
  | ready
  | disconnected
  | shutDown
  deriving DecidableEq, Repr

def ClientState.text : ClientState → String
  | .uninitialized => "uninitialized"
  | .initialized => "initialized"
  | .connected => "connected"
  | .ready => "ready"
  | .disconnected => "disconnected"
  | .shutDown => "shut down"

/-- The calls that depend on the state. -/
inductive ClientOperation where
  | configure
  | connect
  deriving DecidableEq, Repr

def ClientOperation.text : ClientOperation → String
  | .configure => "initialize"
  | .connect => "connect"

/-- Why a call was refused. -/
inductive ClientError where
  | invalidState (operation : ClientOperation) (state : ClientState)
  | config (reason : InvalidConfig)
  | transport (fault : TransportFault)
  | listenerLost
  /-- The silence to be watched for cannot be told; this leaves the client between two states. -/
  | duration (error : DurationError)
  deriving DecidableEq

def ClientError.message : ClientError → String
  | .invalidState operation state => "cannot " ++ operation.text ++ " while " ++ state.text
  | .config reason => reason.message
  | .transport fault => "transport failed: " ++ fault.message
  | .listenerLost => "event handler was lost when a worker thread panicked"
  | .duration error => error.message

/-- What outlasts a session. -/
structure Market where
  books : Books
  subscriptions : Subscriptions
  counters : Counters

def Session.market (session : Session) : Market :=
  { books := session.processor.books, subscriptions := session.processor.subscriptions,
    counters := session.processor.counters }

def Session.withMarket (session : Session) (market : Market) : Session :=
  { session with
    processor.books := market.books
    processor.subscriptions := market.subscriptions
    processor.counters := market.counters }

/-- A client. Its own market stands for the one of the session while there is none. -/
structure FeedClient where
  state : ClientState
  config : Option FeedConfig
  listener : Option Listener
  source : Option GapSource
  idleMarket : Market
  session : Option Session
  localAddress : Option SocketAddress

namespace FeedClient

/-- A client that has not been configured. -/
def start (listener : Listener) (source : Option GapSource) : FeedClient :=
  { state := .uninitialized, config := none, listener := some listener, source,
    idleMarket := ⟨.blank Books.defaultMaxDepth, .all, .zero⟩, session := none, localAddress := none }

def market (client : FeedClient) : Market := client.session.elim client.idleMarket Session.market

def isDisconnected (client : FeedClient) : Bool :=
  match client.session with
  | some session => session.signal.raised
  | none => client.state == .disconnected || client.state == .shutDown

/-- The state as shown: a client whose connection is gone is disconnected. -/
def shownState (client : FeedClient) : ClientState :=
  if client.state = .ready ∧ client.isDisconnected then .disconnected else client.state

/-! ### Calls -/

def changeMarket (client : FeedClient) (change : Market → Market) : FeedClient :=
  match client.session with
  | some session =>
      { client with session := some (session.withMarket (change session.market)) }
  | none => { client with idleMarket := change client.idleMarket }

def choose (client : FeedClient) (call : Subscriptions.Call) : FeedClient :=
  client.changeMarket fun market =>
    { market with subscriptions := market.subscriptions.apply call }

def resetCounters (client : FeedClient) : FeedClient :=
  client.changeMarket fun market => { market with counters := .zero }

/-- Takes over a configuration, with blank books and the subscriptions that it asks for. -/
def adopt (client : FeedClient) (config : FeedConfig) : FeedClient :=
  let configured := client.changeMarket fun market =>
    { market with
      books := .blank config.book.maxDepth.toNat
      subscriptions := if config.features.subscribeAll then .all else .none }
  { configured with config := some config, state := .initialized }

/-- Configures the client, unless it is connected or shut down, or the configuration cannot work. -/
def configure (client : FeedClient) (config : FeedConfig) : FeedClient × Option ClientError :=
  match client.state with
  | .uninitialized | .initialized | .disconnected =>
      match config.fault? with
      | some reason => (client, some (.config reason))
      | none => (client.adopt config, none)
  | state => (client, some (.invalidState .configure state))

/-- The source that a session is to have: the one at hand, or else the server that the configuration
names, and none when nothing is to be recovered. -/
def sessionSource (client : FeedClient) (config : FeedConfig) : Option GapSource :=
  if config.recovery.enabled then
    client.source <|> config.recovery.endpoint.map fun endpoint =>
      .server { endpoint, channel := 0, timeoutMs := config.recovery.timeoutMs }
  else none

/-- The client once its connection is open: the session takes the listener and the source. -/
def enter (client : FeedClient) (config : FeedConfig) (listener : Listener) (link : Link)
    (address : SocketAddress) (now : UInt64) : FeedClient × Option ClientError :=
  let opened :=
    { client with
      state := .connected
      listener := none
      source := if config.recovery.enabled then none else client.source
      localAddress := some address }
  let market := client.market
  match Session.start config link listener (client.sessionSource config) market.books
      market.subscriptions market.counters now with
  | .error e => (opened, some (.duration e))
  | .ok session => ({ opened with session := some session, state := .ready }, none)

/-- Opens the connection that a configuration asks for, with the listener at hand. -/
def openSession (client : FeedClient) (config : FeedConfig) (host : Host) (now : UInt64) :
    FeedClient × Option ClientError :=
  match client.listener with
  | none => (client, some .listenerLost)
  | some listener =>
      match host.openLink config.transport with
      | .error fault => (client, some (.transport fault))
      | .ok (link, address) => client.enter config listener link address now

/-- Connects the client: opens its connection and starts a session. -/
def connect (client : FeedClient) (host : Host) (now : UInt64) : FeedClient × Option ClientError :=
  match client.state, client.config with
  | .initialized, some config | .disconnected, some config => client.openSession config host now
  | state, _ => (client, some (.invalidState .connect state))

/-- Closes the session, if there is one, in some way and takes back what it had. -/
def endSession (client : FeedClient) (close : Session → Session.Outcome) :
    FeedClient × List SessionEvent :=
  match client.session with
  | none => (client, [])
  | some session =>
      let (session, events) := close session
      ({ client with
          listener := session.listener?
          source := session.source <|> client.source
          idleMarket := session.market
          session := none
          localAddress := none }, events)

/-- Disconnects the client, closing its session in some way; without a session nothing happens. -/
def disconnectBy (client : FeedClient) (close : Session → Session.Outcome) :
    FeedClient × List SessionEvent :=
  match client.session with
  | none => (client, [])
  | some _ =>
      let (client, events) := client.endSession close
      ({ client with state := .disconnected }, events)

/-- Shuts the client down for good, closing its session in some way. -/
def shutDownBy (client : FeedClient) (close : Session → Session.Outcome) :
    FeedClient × List SessionEvent :=
  if client.state = .shutDown then (client, [])
  else
    let (client, events) := client.endSession close
    ({ client with state := .shutDown }, events)

def disconnect (client : FeedClient) (now : Nat) : FeedClient × List SessionEvent :=
  client.disconnectBy (·.close "local disconnect" now)

def shutDown (client : FeedClient) (now : Nat) : FeedClient × List SessionEvent :=
  client.shutDownBy (·.close "shutdown" now)

/-- Lets the session go on in some way; without one nothing happens. -/
def inSession (client : FeedClient) (go : Session → Session.Outcome) :
    FeedClient × List SessionEvent :=
  match client.session with
  | none => (client, [])
  | some session =>
      let (session, events) := go session
      ({ client with session := some session }, events)

/-- Lets a worker of the session take a step. -/
def perform (client : FeedClient) (action : WorkerAction) : FeedClient × List SessionEvent :=
  client.inSession (·.perform (.work action))

end FeedClient

end MarketFeed
