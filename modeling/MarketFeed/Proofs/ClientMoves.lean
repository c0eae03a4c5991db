import MarketFeed.Proofs.ClientLife

/-! What each call can do to a client, whether or not all goes as it should. A call is one of the moves,
and a move tells where the client stood when it was made. Everything else that is said of all clients is
said move by move. -/

namespace MarketFeed.FeedClient

variable {client next : FeedClient} {config : FeedConfig} {call : ClientCall}

/-- A client on its way into a session: the listener, and the source if it is wanted, are given away. -/
def entering (client : FeedClient) (config : FeedConfig) (address : SocketAddress) : FeedClient :=
  { client with
    state := .connected
    listener := none
    source := if config.recovery.enabled then none else client.source
    localAddress := some address }

/-- The session that a client starts with a configuration. -/
def startSession (client : FeedClient) (config : FeedConfig) (listener : Listener) (link : Link)
    (now : UInt64) : Except DurationError Session :=
  Session.start config link listener (client.sessionSource config) client.market.books
    client.market.subscriptions client.market.counters now

/-- What a call can do to a client. -/
inductive Move (client : FeedClient) : ClientCall → FeedClient → Prop where
  /-- The call is refused, or there is nothing for it to do. -/
  | stay (call : ClientCall) : Move client call client
  | adopt (config : FeedConfig)
      (hstate : client.state ∈ [.uninitialized, .initialized, .disconnected]) :
      Move client (.configure config) (client.adopt config)
  | enter (config : FeedConfig) (host : Host) (listener : Listener) (link : Link)
      (address : SocketAddress) (now : UInt64) (session : Session)
      (hstate : client.state ∈ [.initialized, .disconnected]) (hconfig : client.config = some config)
      (hsession : client.startSession config listener link now = .ok session) :
      Move client (.connect host now)
        { client.entering config address with session := some session, state := .ready }
  /-- The silence to be watched for cannot be told, and the client stays between two states. -/
  | breakOff (config : FeedConfig) (host : Host) (address : SocketAddress) (now : UInt64)
      (hstate : client.state ∈ [.initialized, .disconnected]) (hconfig : client.config = some config) :
      Move client (.connect host now) (client.entering config address)
  | disconnect (session : Session) (closing : List SessionAction)
      (hsession : client.session = some session) :
      Move client (.disconnect closing)
        { (client.endSession (·.run closing)).1 with state := .disconnected }
  | shutDown (closing : List SessionAction) :
      Move client (.shutDown closing) { (client.endSession (·.run closing)).1 with state := .shutDown }
  | work (session : Session) (action : WorkerAction) (hsession : client.session = some session) :
      Move client (.work action)
        { client with session := some (session.perform (.work action)).1 }
  | changeMarket (call : ClientCall) (change : Market → Market) :
      Move client call (client.changeMarket change)

theorem openSession_move {host : Host} {now : UInt64}
    (hstate : client.state ∈ [.initialized, .disconnected]) (hconfig : client.config = some config) :
    client.Move (.connect host now) (client.openSession config host now).1 := by
  cases hlistener : client.listener with
  | none =>
      rw [openSession, hlistener]
      exact .stay _
  | some listener =>
      rcases openSession_cases hlistener config host now with ⟨fault, hfault⟩ |
        ⟨link, address, hopened⟩
      · rw [hfault]
        exact .stay _
      · rw [hopened]
        cases hstart : client.startSession config listener link now with
        | error error =>
            have hentered : (client.enter config listener link address now).1 =
                client.entering config address := by
              rw [startSession] at hstart
              simp only [enter, hstart]
              rfl
            rw [hentered]
            exact .breakOff config host address now hstate hconfig
        | ok session =>
            have hentered : (client.enter config listener link address now).1 =
                { client.entering config address with session := some session, state := .ready } := by
              rw [startSession] at hstart
              simp only [enter, hstart]
              rfl
            rw [hentered]
            exact .enter config host listener link address now session hstate hconfig hstart

theorem answer_move (client : FeedClient) (call : ClientCall) :
    client.Move call (client.answer call).1 := by
  cases call with
  | configure config =>
      rw [answer, FeedClient.configure]
      cases hstate : client.state with
      | uninitialized | initialized | disconnected =>
          cases hfault : config.fault? with
          | some reason => exact .stay _
          | none => exact .adopt config (by rw [hstate]; decide)
      | connected | ready | shutDown => exact .stay _
  | connect host now =>
      rw [answer, FeedClient.connect]
      split
      · rename_i config hstate hconfig
        exact openSession_move (by rw [hstate]; decide) hconfig
      · rename_i config hstate hconfig
        exact openSession_move (by rw [hstate]; decide) hconfig
      · exact .stay _
  | disconnect closing =>
      rw [answer, disconnectBy]
      cases hsession : client.session with
      | none => exact .stay _
      | some session => exact .disconnect session closing hsession
  | shutDown closing =>
      rw [answer, shutDownBy]
      split
      · exact .stay _
      · exact .shutDown closing
  | work action =>
      rw [answer, perform, inSession]
      cases hsession : client.session with
      | none => exact .stay _
      | some session => exact .work session action hsession
  | choose call =>
      exact .changeMarket (.choose call) fun market =>
        { market with subscriptions := market.subscriptions.apply call }
  | resetCounters =>
      exact .changeMarket .resetCounters fun market => { market with counters := .zero }

/-- What every step to another client keeps, every run keeps. -/
theorem run_keeps {P : FeedClient → Prop}
    (hkeeps : ∀ {client next call}, Move client call next → P client → P next) (h : P client)
    (calls : List ClientCall) : P (client.run calls) := by
  induction calls generalizing client with
  | nil => exact h
  | cons call calls ih => exact ih (hkeeps (client.answer_move call) h)

theorem isSome_session_changeMarket (client : FeedClient) (change : Market → Market) :
    (client.changeMarket change).session.isSome = client.session.isSome := by
  cases hsession : client.session with
  | none => rw [changeMarket_of_none hsession, hsession]
  | some session =>
      rw [changeMarket_of_some hsession]
      rfl

theorem state_changeMarket (client : FeedClient) (change : Market → Market) :
    (client.changeMarket change).state = client.state := by
  unfold FeedClient.changeMarket
  split <;> rfl

theorem session_endSession (client : FeedClient) (close : Session → Session.Outcome) :
    (client.endSession close).1.session = none := by
  cases hsession : client.session with
  | none => rw [endSession_of_none hsession, hsession]
  | some session => rw [endSession_of_some hsession]

/-- A client stands firm when its state tells whether it has a session and whether it has been
configured. -/
structure Firm (client : FeedClient) : Prop where
  ready : client.session.isSome ↔ client.state = .ready
  configured : client.state ∈ [.initialized, .connected, .ready, .disconnected] →
    client.config.isSome

namespace Firm

theorem start (listener : Listener) (source : Option GapSource) :
    (FeedClient.start listener source).Firm :=
  ⟨iff_of_false Bool.false_ne_true (show ClientState.uninitialized ≠ .ready by decide),
    fun hmem => absurd (show ClientState.uninitialized ∈ _ from hmem) (by decide)⟩

theorem session_eq_none (h : client.Firm) {states : List ClientState}
    (hstate : client.state ∈ states) (hready : .ready ∉ states) : client.session = none :=
  Option.not_isSome_iff_eq_none.1 fun hsome => hready (h.ready.1 hsome ▸ hstate)

theorem move (hmove : Move client call next) (h : client.Firm) : next.Firm := by
  cases hmove with
  | stay => exact h
  | adopt config hstate =>
      have hnone := h.session_eq_none hstate (by decide)
      refine ⟨iff_of_false ?_ (show ClientState.initialized ≠ .ready by decide), fun _ => rfl⟩
      rw [FeedClient.adopt, changeMarket_of_none hnone, hnone]
      exact Bool.false_ne_true
  | enter config host listener link address now session hstate hconfig hsession =>
      exact ⟨iff_of_true rfl rfl, fun _ => Option.isSome_of_mem hconfig⟩
  | breakOff config host address now hstate hconfig =>
      have hnone := h.session_eq_none hstate (by decide)
      refine ⟨iff_of_false ?_ (show ClientState.connected ≠ .ready by decide),
        fun _ => Option.isSome_of_mem hconfig⟩
      rw [entering, hnone]
      exact Bool.false_ne_true
  | disconnect session closing hsession =>
      have hready : client.state = .ready := h.ready.1 (Option.isSome_of_mem hsession)
      refine ⟨iff_of_false ?_ (show ClientState.disconnected ≠ .ready by decide), fun _ => ?_⟩
      · rw [session_endSession]
        exact Bool.false_ne_true
      · rw [config_endSession]
        exact h.configured (by rw [hready]; decide)
  | shutDown closing =>
      refine ⟨iff_of_false ?_ (show ClientState.shutDown ≠ .ready by decide),
        fun hmem => absurd (show ClientState.shutDown ∈ _ from hmem) (by decide)⟩
      rw [session_endSession]
      exact Bool.false_ne_true
  | work session action hsession =>
      have hready : client.state = .ready := h.ready.1 (Option.isSome_of_mem hsession)
      exact ⟨iff_of_true rfl hready, h.configured⟩
  | changeMarket call change =>
      refine ⟨?_, fun hmem => ?_⟩
      · rw [isSome_session_changeMarket, state_changeMarket]
        exact h.ready
      · rw [config_changeMarket]
        rw [state_changeMarket] at hmem
        exact h.configured hmem

theorem run (h : client.Firm) (calls : List ClientCall) : (client.run calls).Firm :=
  run_keeps move h calls

end Firm

end MarketFeed.FeedClient
