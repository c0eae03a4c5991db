import MarketFeed.FeedClient
import MarketFeed.Proofs.SessionClosing

/-! The life of a client. The listener goes into a session and comes back when it is closed, a call that
is refused changes nothing, and a client that was shut down stays so. -/

namespace MarketFeed

/-- What is done to a client, and what happens to it. A session is closed by steps of all its parties,
in any order. -/
inductive ClientCall where
  | configure (config : FeedConfig)
  | connect (host : Host) (now : UInt64)
  | disconnect (closing : List SessionAction)
  | shutDown (closing : List SessionAction)
  | work (action : WorkerAction)
  | choose (call : Subscriptions.Call)
  | resetCounters

namespace FeedClient

/-- The client after a call, and why the call was refused if it was. -/
def answer (client : FeedClient) : ClientCall → FeedClient × Option ClientError
  | .configure config => client.configure config
  | .connect host now => client.connect host now
  | .disconnect closing => ((client.disconnectBy (·.run closing)).1, none)
  | .shutDown closing => ((client.shutDownBy (·.run closing)).1, none)
  | .work action => ((client.perform action).1, none)
  | .choose call => (client.choose call, none)
  | .resetCounters => (client.resetCounters, none)

def run (client : FeedClient) : List ClientCall → FeedClient
  | [] => client
  | call :: calls => (client.answer call).1.run calls

/-- Whether these actions close the session, if there is one, and its processing worker is not lost. -/
def closesWith (client : FeedClient) (closing : List SessionAction) : Bool :=
  client.session.all fun session =>
    (session.run closing).1.closing == .closed && (session.run closing).1.processing != .lost

/-- Whether a call goes as it should outside the client: a session that is to be closed gets closed and
no worker is lost, and the silence of a configuration that can work can be told. -/
def goesWell (client : FeedClient) : ClientCall → Bool
  | .configure config => config.fault?.isSome || config.heartbeat.watchedSilence.isOk
  | .disconnect closing | .shutDown closing => client.closesWith closing
  | _ => true

/-- Whether all calls go as they should. -/
def allGoWell (client : FeedClient) : List ClientCall → Bool
  | [] => true
  | call :: calls => client.goesWell call && (client.answer call).1.allGoWell calls

variable {client next : FeedClient} {config : FeedConfig} {host : Host} {now : UInt64}
  {error : ClientError} {closing : List SessionAction} {call : ClientCall} {calls : List ClientCall}

/-- A configuration is refused, or taken over by a client that has no session. -/
theorem configure_cases (client : FeedClient) (config : FeedConfig) :
    (∃ error, client.configure config = (client, some error)) ∨
      config.fault? = none ∧ client.state ≠ .ready ∧ client.state ≠ .shutDown ∧
        client.configure config = (client.adopt config, none) := by
  unfold configure
  cases hstate : client.state with
  | uninitialized | initialized | disconnected =>
      cases hfault : config.fault? with
      | some reason => exact Or.inl ⟨_, rfl⟩
      | none => exact Or.inr ⟨rfl, nofun, nofun, rfl⟩
  | connected | ready | shutDown => exact Or.inl ⟨_, rfl⟩

/-- Connecting is refused in the state that the client is in, or a client without a session opens one. -/
theorem connect_cases (client : FeedClient) (host : Host) (now : UInt64) :
    client.connect host now = (client, some (.invalidState .connect client.state)) ∨
      ∃ config, client.config = some config ∧ client.state ≠ .ready ∧ client.state ≠ .shutDown ∧
        client.connect host now = client.openSession config host now := by
  unfold connect
  split
  · rename_i config hstate hconfig
    exact Or.inr ⟨config, hconfig, by rw [hstate]; nofun, by rw [hstate]; nofun, rfl⟩
  · rename_i config hstate hconfig
    exact Or.inr ⟨config, hconfig, by rw [hstate]; nofun, by rw [hstate]; nofun, rfl⟩
  · exact Or.inl rfl

/-- A client with a listener opens a session, unless the host does not let it. -/
theorem openSession_cases {listener : Listener} (hlistener : client.listener = some listener)
    (config : FeedConfig) (host : Host) (now : UInt64) :
    (∃ fault, client.openSession config host now = (client, some (.transport fault))) ∨
      ∃ link address, client.openSession config host now =
        client.enter config listener link address now := by
  unfold openSession
  rw [hlistener]
  cases host.openLink config.transport with
  | error fault => exact Or.inl ⟨fault, rfl⟩
  | ok opened => exact Or.inr ⟨opened.1, opened.2, rfl⟩

/-- Entering a session works where the silence can be told. -/
theorem enter_ok {silenceLimit : UInt64} (hsilence : config.heartbeat.watchedSilence = .ok silenceLimit)
    (client : FeedClient) (listener : Listener) (link : Link) (address : SocketAddress)
    (now : UInt64) :
    ∃ session source, session.closing = .notBegun ∧
      client.enter config listener link address now =
        ({ client with
            state := .ready
            listener := none
            source
            session := some session
            localAddress := some address }, none) := by
  have hstart (books : Books) (subscriptions : Subscriptions) (counters : Counters) :
      Session.start config link listener (client.sessionSource config) books subscriptions counters now =
        .ok (.fresh config link listener (client.sessionSource config) books subscriptions counters now
          silenceLimit) := by
    rw [Session.start, hsilence]
    rfl
  refine ⟨.fresh config link listener (client.sessionSource config) client.market.books
    client.market.subscriptions client.market.counters now silenceLimit,
    if config.recovery.enabled then none else client.source, rfl, ?_⟩
  unfold enter
  simp only [hstart]

theorem endSession_of_none (hnone : client.session = none) (close : Session → Session.Outcome) :
    (client.endSession close).1 = client := by
  rw [endSession, hnone]

theorem endSession_of_some {session : Session} (hsession : client.session = some session)
    (close : Session → Session.Outcome) :
    (client.endSession close).1 =
      { client with
        listener := (close session).1.listener?
        source := (close session).1.source <|> client.source
        idleMarket := (close session).1.market
        session := none
        localAddress := none } := by
  rw [endSession, hsession]

theorem changeMarket_of_none (hnone : client.session = none) (change : Market → Market) :
    client.changeMarket change = { client with idleMarket := change client.idleMarket } := by
  rw [changeMarket, hnone]

theorem changeMarket_of_some {session : Session} (hsession : client.session = some session)
    (change : Market → Market) :
    client.changeMarket change =
      { client with session := some (session.withMarket (change session.market)) } := by
  rw [changeMarket, hsession]

/-! ### What holds of every client -/

/-- A client is coherent when its state, its listener and its address tell whether it has a session, and
when the silence of its configuration can be told. -/
structure Coherent (client : FeedClient) : Prop where
  ready : client.session.isSome ↔ client.state = .ready
  listener : client.listener.isSome ↔ client.session = none
  localAddress : client.session = none → client.localAddress = none
  notBegun : ∀ session, client.session = some session → session.closing = .notBegun
  silence : ∀ config, client.config = some config → config.heartbeat.watchedSilence.isOk

theorem start_coherent (listener : Listener) (source : Option GapSource) :
    (start listener source).Coherent where
  ready := iff_of_false Bool.false_ne_true nofun
  listener := iff_of_true rfl rfl
  localAddress _ := rfl
  notBegun _ h := absurd h (Option.some_ne_none _).symm
  silence _ h := absurd h (Option.some_ne_none _).symm

namespace Coherent

theorem session_eq_none (h : client.Coherent) (hstate : client.state ≠ .ready) :
    client.session = none :=
  Option.not_isSome_iff_eq_none.1 fun hsome => hstate (h.ready.1 hsome)

theorem exists_listener (h : client.Coherent) (hnone : client.session = none) :
    ∃ listener, client.listener = some listener :=
  Option.isSome_iff_exists.1 (h.listener.2 hnone)

theorem configure (h : client.Coherent) (hwell : client.goesWell (.configure config)) :
    (client.configure config).1.Coherent := by
  rcases client.configure_cases config with ⟨error, hrefused⟩ | ⟨hworks, hready, -, haccepted⟩
  · rw [hrefused]
    exact h
  · have hnone := h.session_eq_none hready
    have hsilence : config.heartbeat.watchedSilence.isOk := by
      rw [goesWell, hworks] at hwell
      exact hwell
    rw [haccepted, adopt, changeMarket_of_none hnone]
    exact { h with
      ready := iff_of_false (hnone ▸ Bool.false_ne_true) nofun
      silence := fun _ hconfig => Option.some.inj hconfig ▸ hsilence }

/-- A client that goes on to a session does so with its listener. -/
theorem openSession (h : client.Coherent) (hready : client.state ≠ .ready)
    (hconfig : client.config = some config) (host : Host) (now : UInt64) :
    (∃ fault, client.openSession config host now = (client, some (.transport fault))) ∨
      (client.openSession config host now).1.Coherent ∧
        (client.openSession config host now).2 = none := by
  obtain ⟨listener, hlistener⟩ := h.exists_listener (h.session_eq_none hready)
  rcases openSession_cases hlistener config host now with hfault | ⟨link, address, hopened⟩
  · exact Or.inl hfault
  · obtain ⟨silenceLimit, hsilence⟩ : ∃ silenceLimit,
        config.heartbeat.watchedSilence = .ok silenceLimit := by
      have hisOk := h.silence config hconfig
      cases hwatched : config.heartbeat.watchedSilence with
      | error e =>
          rw [hwatched] at hisOk
          cases hisOk
      | ok silenceLimit => exact ⟨silenceLimit, rfl⟩
    obtain ⟨session, source, hclosing, hentered⟩ := enter_ok hsilence client listener link address now
    rw [hopened, hentered]
    refine Or.inr ⟨{ h with
      ready := iff_of_true rfl rfl
      listener := iff_of_false Bool.false_ne_true (Option.some_ne_none session)
      localAddress := fun hnone => absurd hnone (Option.some_ne_none session)
      notBegun := fun _ hsession => Option.some.inj hsession ▸ hclosing }, rfl⟩

theorem connect (h : client.Coherent) (host : Host) (now : UInt64) :
    (client.connect host now).1.Coherent := by
  rcases client.connect_cases host now with hrefused | ⟨config, hconfig, hready, -, hopens⟩
  · rw [hrefused]
    exact h
  · rw [hopens]
    rcases h.openSession hready hconfig host now with ⟨fault, hfault⟩ | ⟨hcoherent, -⟩
    · rw [hfault]
      exact h
    · exact hcoherent

/-- A client whose session is closed has its listener again. -/
theorem endSession (h : client.Coherent) (hcloses : client.closesWith closing) {state : ClientState}
    (hstate : state ≠ .ready) :
    { (client.endSession (·.run closing)).1 with state }.Coherent := by
  cases hsession : client.session with
  | none =>
      rw [endSession_of_none hsession]
      exact { h with ready := iff_of_false (hsession ▸ Bool.false_ne_true) hstate }
  | some session =>
      rw [closesWith, hsession] at hcloses
      obtain ⟨-, hkept⟩ := Bool.and_eq_true_iff.1 hcloses
      have hlistener : (session.run closing).1.listener? = some (session.run closing).1.listener :=
        if_neg (bne_iff_ne.1 hkept)
      rw [endSession_of_some hsession, hlistener]
      exact { h with
        ready := iff_of_false Bool.false_ne_true hstate
        listener := iff_of_true rfl rfl
        localAddress := fun _ => rfl
        notBegun := fun _ hnone => absurd hnone (Option.some_ne_none _).symm }

theorem disconnectBy (h : client.Coherent) (hcloses : client.closesWith closing) :
    (client.disconnectBy (·.run closing)).1.Coherent := by
  unfold FeedClient.disconnectBy
  split
  · exact h
  · exact h.endSession hcloses nofun

theorem shutDownBy (h : client.Coherent) (hcloses : client.closesWith closing) :
    (client.shutDownBy (·.run closing)).1.Coherent := by
  unfold FeedClient.shutDownBy
  split
  · exact h
  · exact h.endSession hcloses nofun

/-- A client whose session goes on is coherent while nobody has begun to close it. -/
theorem goOn (h : client.Coherent) {session next : Session} (hsession : client.session = some session)
    (hnext : next.closing = .notBegun) : { client with session := some next }.Coherent :=
  { h with
    ready := iff_of_true rfl (h.ready.1 (hsession ▸ rfl))
    listener := h.listener.trans (iff_of_false (hsession ▸ Option.some_ne_none _)
      (Option.some_ne_none _))
    localAddress := fun hnone => absurd hnone (Option.some_ne_none _)
    notBegun := fun _ hsame => Option.some.inj hsame ▸ hnext }

theorem perform (h : client.Coherent) (action : WorkerAction) :
    (client.perform action).1.Coherent := by
  unfold FeedClient.perform inSession
  cases hsession : client.session with
  | none => exact h
  | some session =>
      have hclosing : (session.perform (.work action)).1.closing = session.closing := by
        unfold Session.perform
        cases hstep : session.step (.work action) with
        | none => rfl
        | some outcome => exact Session.workerStep_closing hstep
      exact h.goOn hsession (hclosing.trans (h.notBegun session hsession))

theorem changeMarket (h : client.Coherent) (change : Market → Market) :
    (client.changeMarket change).Coherent := by
  cases hsession : client.session with
  | none =>
      rw [changeMarket_of_none hsession]
      exact { h with }
  | some session =>
      rw [changeMarket_of_some hsession]
      exact h.goOn hsession (h.notBegun session hsession)

theorem answer (h : client.Coherent) (hwell : client.goesWell call) :
    (client.answer call).1.Coherent := by
  cases call with
  | configure config => exact h.configure hwell
  | connect host now => exact h.connect host now
  | disconnect closing => exact h.disconnectBy hwell
  | shutDown closing => exact h.shutDownBy hwell
  | work action => exact h.perform action
  | choose call =>
      exact h.changeMarket fun market =>
        { market with subscriptions := market.subscriptions.apply call }
  | resetCounters => exact h.changeMarket fun market => { market with counters := .zero }

theorem run (h : client.Coherent) (hwell : client.allGoWell calls) : (client.run calls).Coherent := by
  induction calls generalizing client with
  | nil => exact h
  | cons call calls ih =>
      obtain ⟨hcall, hcalls⟩ := Bool.and_eq_true_iff.1 hwell
      exact ih (h.answer hcall) hcalls

end Coherent

theorem configure_refused (hrefused : (client.configure config).2 = some error) :
    (client.configure config).1 = client := by
  rcases client.configure_cases config with ⟨reason, hsame⟩ | ⟨-, -, -, haccepted⟩
  · rw [hsame]
  · rw [haccepted] at hrefused
    cases hrefused

theorem connect_refused (h : client.Coherent)
    (hrefused : (client.connect host now).2 = some error) : (client.connect host now).1 = client := by
  rcases client.connect_cases host now with hsame | ⟨config, hconfig, hready, -, hopens⟩
  · rw [hsame]
  · rw [hopens] at hrefused ⊢
    rcases h.openSession hready hconfig host now with ⟨fault, hfault⟩ | ⟨-, hnone⟩
    · rw [hfault]
    · rw [hnone] at hrefused
      cases hrefused

/-- The listener is at hand whenever a session is to be opened. -/
theorem connect_ne_listenerLost (h : client.Coherent) (host : Host) (now : UInt64) :
    (client.connect host now).2 ≠ some .listenerLost := by
  intro hlost
  rcases client.connect_cases host now with hsame | ⟨config, hconfig, hready, -, hopens⟩
  · rw [hsame] at hlost
    cases hlost
  · rw [hopens] at hlost
    rcases h.openSession hready hconfig host now with ⟨fault, hfault⟩ | ⟨-, hnone⟩
    · rw [hfault] at hlost
      cases hlost
    · rw [hnone] at hlost
      cases hlost

theorem config_openSession (client : FeedClient) (config : FeedConfig) (host : Host) (now : UInt64) :
    (client.openSession config host now).1.config = client.config := by
  cases hlistener : client.listener with
  | none => rw [openSession, hlistener]
  | some listener =>
      rcases openSession_cases hlistener config host now with ⟨fault, hfault⟩ |
        ⟨link, address, hopened⟩
      · rw [hfault]
      · rw [hopened, enter]
        simp only
        split <;> rfl

theorem config_connect (client : FeedClient) (host : Host) (now : UInt64) :
    (client.connect host now).1.config = client.config := by
  rcases client.connect_cases host now with hsame | ⟨config, -, -, -, hopens⟩
  · rw [hsame]
  · rw [hopens, config_openSession]

theorem config_endSession (client : FeedClient) (close : Session → Session.Outcome) :
    (client.endSession close).1.config = client.config := by
  cases hsession : client.session with
  | none => rw [endSession_of_none hsession]
  | some session => rw [endSession_of_some hsession]

theorem config_disconnectBy (client : FeedClient) (close : Session → Session.Outcome) :
    (client.disconnectBy close).1.config = client.config := by
  unfold disconnectBy
  split
  · rfl
  · exact config_endSession client close

theorem config_shutDownBy (client : FeedClient) (close : Session → Session.Outcome) :
    (client.shutDownBy close).1.config = client.config := by
  unfold shutDownBy
  split
  · rfl
  · exact config_endSession client close

theorem config_perform (client : FeedClient) (action : WorkerAction) :
    (client.perform action).1.config = client.config := by
  unfold perform inSession
  split <;> rfl

theorem config_changeMarket (client : FeedClient) (change : Market → Market) :
    (client.changeMarket change).config = client.config := by
  unfold changeMarket
  split <;> rfl

/-- A configuration once stored is replaced by another one at most. -/
theorem isSome_config_answer (hconfig : client.config.isSome) (call : ClientCall) :
    (client.answer call).1.config.isSome := by
  cases call with
  | configure config =>
      rcases client.configure_cases config with ⟨error, hrefused⟩ | ⟨-, -, -, haccepted⟩
      · rwa [answer, hrefused]
      · rw [answer, haccepted]
        rfl
  | connect host now => rwa [answer, config_connect]
  | disconnect closing => rwa [answer, config_disconnectBy]
  | shutDown closing => rwa [answer, config_shutDownBy]
  | work action => rwa [answer, config_perform]
  | choose call => rwa [answer, choose, config_changeMarket]
  | resetCounters => rwa [answer, resetCounters, config_changeMarket]

theorem isSome_config_run (hconfig : client.config.isSome) (calls : List ClientCall) :
    (client.run calls).config.isSome := by
  induction calls generalizing client with
  | nil => exact hconfig
  | cons call calls ih => exact ih (isSome_config_answer hconfig call)

/-- A client that was shut down stays so. -/
theorem state_answer_of_shutDown (h : client.Coherent) (hstate : client.state = .shutDown)
    (call : ClientCall) : (client.answer call).1.state = .shutDown := by
  have hnone : client.session = none := h.session_eq_none (hstate ▸ nofun)
  cases call with
  | configure config =>
      rcases client.configure_cases config with ⟨error, hrefused⟩ | ⟨-, -, hopen, -⟩
      · rwa [answer, hrefused]
      · exact absurd hstate hopen
  | connect host now =>
      rcases client.connect_cases host now with hrefused | ⟨config, -, -, hopen, -⟩
      · rwa [answer, hrefused]
      · exact absurd hstate hopen
  | disconnect closing => rwa [answer, disconnectBy, hnone]
  | shutDown closing => rwa [answer, shutDownBy, if_pos hstate]
  | work action => rwa [answer, perform, inSession, hnone]
  | choose call => rwa [answer, choose, changeMarket_of_none hnone]
  | resetCounters => rwa [answer, resetCounters, changeMarket_of_none hnone]

theorem state_run_of_shutDown (h : client.Coherent) (hstate : client.state = .shutDown)
    (hwell : client.allGoWell calls) : (client.run calls).state = .shutDown := by
  induction calls generalizing client with
  | nil => exact hstate
  | cons call calls ih =>
      obtain ⟨hcall, hcalls⟩ := Bool.and_eq_true_iff.1 hwell
      exact ih (h.answer hcall) (state_answer_of_shutDown h hstate call) hcalls

theorem state_shutDownBy (client : FeedClient) (close : Session → Session.Outcome) :
    (client.shutDownBy close).1.state = .shutDown := by
  unfold shutDownBy
  split
  · assumption
  · rfl

theorem refusals_of_shutDown (hstate : client.state = .shutDown) :
    (∀ config, (client.configure config).2 = some (.invalidState .configure .shutDown)) ∧
      ∀ host now, (client.connect host now).2 = some (.invalidState .connect .shutDown) := by
  refine ⟨fun config => ?_, fun host now => ?_⟩
  · rw [configure, hstate]
  · rcases client.connect_cases host now with hrefused | ⟨config, -, -, hopen, -⟩
    · rw [hrefused, hstate]
    · exact absurd hstate hopen

theorem run_append (client : FeedClient) (calls later : List ClientCall) :
    client.run (calls ++ later) = (client.run calls).run later := by
  induction calls generalizing client with
  | nil => rfl
  | cons call calls ih => exact ih _

theorem allGoWell_append (client : FeedClient) (calls later : List ClientCall) :
    client.allGoWell (calls ++ later) =
      (client.allGoWell calls && (client.run calls).allGoWell later) := by
  induction calls generalizing client with
  | nil => rfl
  | cons call calls ih => rw [List.cons_append, allGoWell, allGoWell, ih, Bool.and_assoc, run]

theorem endSession_congr {close close' : Session → Session.Outcome}
    (hsame : ∀ session, client.session = some session → close session = close' session) :
    client.endSession close = client.endSession close' := by
  unfold endSession
  cases hsession : client.session with
  | none => rfl
  | some session => simp only [hsame session hsession]

/-- There is always a way to close the session. -/
theorem Coherent.exists_closing (h : client.Coherent) (reason : String) (now : Nat) :
    ∃ closing, ∀ session, client.session = some session →
      session.close reason now = session.run closing ∧
        (session.run closing).1.closing = .closed := by
  cases hsession : client.session with
  | none => exact ⟨[], fun _ hnone => absurd hnone (Option.some_ne_none _).symm⟩
  | some session =>
      obtain ⟨closing, hclosing⟩ := session.isRun_close reason now
      refine ⟨closing, fun _ hsame => ?_⟩
      cases hsame
      exact ⟨hclosing, hclosing ▸ session.close_closed (h.notBegun session hsession) reason now⟩

/-- Closing one party after the other, with whatever reason, is one of the ways in which the session
ends when a client is disconnected or shut down. -/
theorem Coherent.closes_in_turn (h : client.Coherent) (reason : String) (now : Nat) :
    ∃ closing,
      (∀ session, client.session = some session → (session.run closing).1.closing = .closed) ∧
      client.disconnectBy (·.close reason now) = client.disconnectBy (·.run closing) ∧
      client.shutDownBy (·.close reason now) = client.shutDownBy (·.run closing) := by
  obtain ⟨closing, hclosing⟩ := h.exists_closing reason now
  have hsame := endSession_congr fun session hsession => (hclosing session hsession).1
  refine ⟨closing, fun session hsession => (hclosing session hsession).2, ?_, ?_⟩
  · rw [FeedClient.disconnectBy, FeedClient.disconnectBy, hsame]
  · rw [FeedClient.shutDownBy, FeedClient.shutDownBy, hsame]

/-- **A client stays coherent.** Whatever is done to it, in any order, and whatever becomes of its
connections: it has a session exactly while it is ready, and its listener exactly while it has none, so
that connecting never misses the listener; without a session it has no address; a call that is refused
changes nothing; a configuration stays once there is one; and a client that was shut down stays so and
refuses. -/
theorem run_keeps_coherent (listener : Listener) (source : Option GapSource) {calls : List ClientCall}
    (hwell : (start listener source).allGoWell calls) :
    let client := (start listener source).run calls
    (client.session.isSome ↔ client.state = .ready) ∧
    (client.listener.isSome ↔ client.session = none) ∧
    (client.session = none → client.localAddress = none) ∧
    (∀ host now, (client.connect host now).2 ≠ some .listenerLost) ∧
    (∀ config error, (client.configure config).2 = some error →
      (client.configure config).1 = client) ∧
    (∀ host now error, (client.connect host now).2 = some error →
      (client.connect host now).1 = client) ∧
    (∀ before config after, calls = before ++ .configure config :: after →
      (((start listener source).run before).configure config).2 = none → client.config.isSome) ∧
    ∀ closing, .shutDown closing ∈ calls → client.state = .shutDown ∧
      (∀ config, (client.configure config).2 = some (.invalidState .configure .shutDown)) ∧
      ∀ host now, (client.connect host now).2 = some (.invalidState .connect .shutDown) := by
  have hbegun := start_coherent listener source
  have h := hbegun.run hwell
  refine ⟨h.ready, h.listener, h.localAddress, connect_ne_listenerLost h,
    fun config error => configure_refused, fun host now error => connect_refused h, ?_, ?_⟩
  · rintro before config after rfl haccepted
    rw [run_append, run]
    refine isSome_config_run ?_ after
    rcases ((start listener source).run before).configure_cases config with ⟨error, hrefused⟩ |
      ⟨-, -, -, hadopts⟩
    · rw [hrefused] at haccepted
      cases haccepted
    · rw [answer, hadopts]
      rfl
  · intro closing hclosing
    have hstate : ((start listener source).run calls).state = .shutDown := by
      obtain ⟨before, after, rfl⟩ := List.append_of_mem hclosing
      rw [allGoWell_append, Bool.and_eq_true] at hwell
      obtain ⟨hbefore, hafter⟩ := hwell
      obtain ⟨hcall, hafter⟩ := Bool.and_eq_true_iff.1 hafter
      rw [run_append, run]
      exact state_run_of_shutDown ((hbegun.run hbefore).answer hcall) (state_shutDownBy _ _) hafter
    exact ⟨hstate, refusals_of_shutDown hstate⟩

/-- Steps that close a session without a gap filler. -/
def quietClosing : List SessionAction :=
  inTurn
    [(2, .close "local disconnect"), (4, .work (.receive .nothing 0)),
     (2, .work (.monitor .notDue 0)), (5, .close "local disconnect"), (12, .work (.process 0)),
     (1, .close "local disconnect")]

/-- A client connects before it is configured, then through a host whose ports are all taken, then well.
The peer goes away, the client connects again, is configured while it is connected, and is shut down. -/
def eventfulLife : List ClientCall :=
  let deaf : Host := { Host.isolated with bind := fun _ => .error .addressInUse }
  [.connect .isolated 0, .configure .standard, .connect deaf 0, .connect .isolated 0] ++
    List.replicate 6 (.work (.receive (.fault .closedByPeer) 0)) ++
    [.disconnect quietClosing, .connect .isolated 0, .configure .standard, .shutDown quietClosing,
     .configure .standard, .connect .isolated 0]

theorem run_keeps_coherent_eventfulLife :
    let client := (start ⟨none⟩ none).run eventfulLife
    (start ⟨none⟩ none).allGoWell eventfulLife = true ∧
    ((start ⟨none⟩ none).run (eventfulLife.take 10)).shownState = .disconnected ∧
    ((start ⟨none⟩ none).run (eventfulLife.take 12)).state = .ready ∧
    client.state = .shutDown ∧ client.session = none ∧ client.listener.isSome ∧
    client.config.isSome ∧ client.localAddress = none ∧
    ∀ config, (client.configure config).2 = some (.invalidState .configure .shutDown) := by
  have hwell : (start ⟨none⟩ none).allGoWell eventfulLife = true := by decide +kernel
  have hlost : ((start ⟨none⟩ none).run (eventfulLife.take 10)).shownState = .disconnected := by
    decide +kernel
  have hagain : ((start ⟨none⟩ none).run (eventfulLife.take 12)).state = .ready := by decide +kernel
  have haccepted : (((start ⟨none⟩ none).run (eventfulLife.take 1)).configure .standard).2 = none := by
    decide +kernel
  obtain ⟨hready, hlistener, haddress, -, -, -, hconfig, hdown⟩ :=
    run_keeps_coherent ⟨none⟩ none hwell
  obtain ⟨hstate, hrefuses, -⟩ := hdown quietClosing (List.mem_of_getElem? (i := 13) rfl)
  have hnone : ((start ⟨none⟩ none).run eventfulLife).session = none :=
    Option.not_isSome_iff_eq_none.1 fun hsome => by
      rw [hstate] at hready
      cases hready.1 hsome
  exact ⟨hwell, hlost, hagain, hstate, hnone, hlistener.2 hnone, hconfig _ _ _ rfl haccepted,
    haddress hnone, hrefuses⟩

end FeedClient

end MarketFeed
