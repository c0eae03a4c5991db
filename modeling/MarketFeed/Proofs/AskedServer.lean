import MarketFeed.Proofs.ClientMoves

/-! Whom a client asks for missing packets. A session asks the source that it started with and no other.
A client that was given no source takes the server that a configuration names when it first opens a
session with one, and that server is handed from session to session as if it had been given from
outside: what a later configuration names does not matter. -/

namespace MarketFeed

/-- Whether packets were asked for. -/
def SessionEvent.asks : SessionEvent → Bool
  | .asked .. => true
  | _ => false

namespace Session

variable {first session next : Session} {events later : List SessionEvent}

/-- What holds of a stretch of a session: it keeps its source and asks nobody else, and once its gap
filler has ended it asks nobody. -/
structure Asking (session : Session) (events : List SessionEvent) (next : Session) : Prop where
  source : next.source = session.source
  asked : ∀ source request, .asked source request ∈ events → source = session.source
  ended : session.gapFiller = .finished →
    next.gapFiller = .finished ∧ ∀ event ∈ events, event.asks = false

namespace Asking

theorem refl (session : Session) : Asking session [] session :=
  ⟨rfl, fun _ _ hasked => absurd hasked List.not_mem_nil, fun hended => ⟨hended, List.forall_mem_nil _⟩⟩

theorem trans (h : Asking first events session) (hlater : Asking session later next) :
    Asking first (events ++ later) next := by
  refine ⟨hlater.source.trans h.source, fun source request hasked => ?_, fun hended => ?_⟩
  · rcases List.mem_append.1 hasked with hbefore | hafter
    · exact h.asked source request hbefore
    · exact (hlater.asked source request hafter).trans h.source
  · obtain ⟨hstill, hbefore⟩ := h.ended hended
    obtain ⟨hlast, hafter⟩ := hlater.ended hstill
    exact ⟨hlast, List.forall_mem_append.2 ⟨hbefore, hafter⟩⟩

/-- Steps in which nobody is asked. -/
theorem ofQuiet (hsource : next.source = session.source) (hgapFiller : next.gapFiller = session.gapFiller)
    (hquiet : ∀ event ∈ events, event.asks = false) : Asking session events next := by
  refine ⟨hsource, fun source request hasked => ?_, fun hended => ⟨hgapFiller.trans hended, hquiet⟩⟩
  have hasks := hquiet _ hasked
  simp [SessionEvent.asks] at hasks

end Asking

theorem asking_receiverStep {arrival : Arrival} {now : UInt64}
    (hstep : session.receiverStep arrival now = some (next, events)) : Asking session events next := by
  cases receiverStep_move hstep with
  | listen hasBuffer =>
      apply Asking.ofQuiet _ _ (List.forall_mem_nil _)
      · cases arrival <;> cases hasBuffer <;> rfl
      · cases arrival <;> cases hasBuffer <;> rfl
  | store | announce => exact .ofQuiet rfl rfl (List.forall_mem_singleton.2 rfl)
  | _ => exact .ofQuiet rfl rfl (List.forall_mem_nil _)

theorem asking_monitorStep {beat : Beat} {now : UInt64}
    (hstep : session.monitorStep beat now = some (next, events)) : Asking session events next := by
  cases monitorStep_move hstep with
  | send | announce => exact .ofQuiet rfl rfl (List.forall_mem_singleton.2 rfl)
  | _ => exact .ofQuiet rfl rfl (List.forall_mem_nil _)

/-- Only the gap filler asks. -/
theorem asking_gapFillerStep {reply : GapReply}
    (hstep : session.gapFillerStep reply = some (next, events)) : Asking session events next := by
  have hopen : session.gapFiller ≠ .finished := by
    intro hended
    rw [gapFillerStep_eq_none.2 hended] at hstep
    cases hstep
  refine ⟨?_, fun source request hasked => ?_, fun hended => absurd hended hopen⟩
  · cases gapFillerStep_move hstep with
    | ask => cases reply <;> rfl
    | _ => rfl
  · cases gapFillerStep_move hstep with
    | ask request' =>
        cases List.mem_singleton.1 hasked
        rfl
    | store => cases List.mem_singleton.1 hasked
    | _ => cases hasked

theorem asks_tell {messages : List Message} : ∀ event ∈ tell messages, event.asks = false := by
  intro event hevent
  obtain ⟨message, -, rfl⟩ := List.mem_map.1 hevent
  rfl

theorem asking_handle (session : Session) (lane : Lane) (packet : Bytes) (time : UInt64) :
    Asking session (session.handle lane packet time).2 (session.handle lane packet time).1 := by
  rcases session.handle_cases lane packet time with ⟨processor, messages, hhandle⟩ |
    ⟨done, -, hhandle⟩
  · rw [hhandle]
    exact .ofQuiet rfl rfl asks_tell
  · rw [hhandle]
    exact .ofQuiet rfl rfl (List.forall_mem_append.2 ⟨asks_tell, List.forall_mem_singleton.2 rfl⟩)

theorem asking_handleInHand (session : Session) (now : Nat) (taken : PacketInHand) :
    Asking session (session.handleInHand now taken).2 (session.handleInHand now taken).1 := by
  cases taken with
  | direct packet time =>
      have hlaid : Asking session [] { session with inHand := none }.freeBuffer :=
        .ofQuiet rfl rfl (List.forall_mem_nil _)
      exact hlaid.trans (asking_handle _ .direct packet time)
  | recovered packet =>
      have hlaid : Asking session [] { session with inHand := none } :=
        .ofQuiet rfl rfl (List.forall_mem_nil _)
      exact hlaid.trans (asking_handle _ .recovered packet (UInt64.ofNat now))

theorem asking_processingStep {now : Nat}
    (hstep : session.processingStep now = some (next, events)) : Asking session events next := by
  rcases processingStep_cases hstep with ⟨taken, -, hhandled⟩ | ⟨-, hproceed⟩
  · have hasking := session.asking_handleInHand now taken
    rw [hhandled] at hasking
    exact hasking
  · cases proceed_move hproceed with
    | notify =>
        refine .ofQuiet rfl rfl fun event hevent => ?_
        rw [notify, Option.mem_toList] at hevent
        obtain ⟨reason, -, rfl⟩ := Option.map_eq_some_iff.1 hevent
        rfl
    | _ => exact .ofQuiet rfl rfl (List.forall_mem_nil _)

theorem asking_closingStep {reason : String}
    (hstep : session.closingStep reason = some (next, events)) : Asking session events next := by
  cases closingStep_move hstep with
  | begin => exact .ofQuiet rfl rfl (List.forall_mem_singleton.2 rfl)
  | _ => exact .ofQuiet rfl rfl (List.forall_mem_nil _)

theorem asking_step {action : SessionAction} (hstep : session.step action = some (next, events)) :
    Asking session events next := by
  cases action with
  | work action =>
      cases action with
      | receive arrival now => exact asking_receiverStep hstep
      | monitor beat now => exact asking_monitorStep hstep
      | fillGap reply => exact asking_gapFillerStep hstep
      | process now => exact asking_processingStep hstep
  | close reason => exact asking_closingStep hstep
  | choose call =>
      cases hstep
      exact .ofQuiet rfl rfl (List.forall_mem_nil _)

theorem asking_run (session : Session) (actions : List SessionAction) :
    Asking session (session.run actions).2 (session.run actions).1 :=
  run_keeps (P := fun next events => Asking session events next)
    (fun h hstep => h.trans (asking_step hstep)) [] (.refl session) actions

theorem asking_perform (session : Session) (action : SessionAction) :
    Asking session (session.perform action).2 (session.perform action).1 := by
  unfold perform
  cases hstep : session.step action with
  | none => exact .refl session
  | some outcome => exact asking_step hstep

/-- A session starts with the source that it is given, and without one its gap filler has ended. -/
theorem start_source {config : FeedConfig} {link : Link} {listener : Listener}
    {source : Option GapSource} {books : Books} {subscriptions : Subscriptions} {counters : Counters}
    {now : UInt64}
    (hstart : start config link listener source books subscriptions counters now = .ok session) :
    session.source = source ∧ (source = none → session.gapFiller = .finished) := by
  obtain ⟨silenceLimit, -, rfl⟩ := exists_of_map_ok hstart
  refine ⟨rfl, fun hnone => ?_⟩
  rw [hnone]
  rfl

end Session

/-! ### The source of a session

Sessions hand their source on: what one leaves behind is what the next one starts with. -/

/-- The server that a configuration names, if anything is to be recovered. -/
def FeedConfig.server? (config : FeedConfig) : Option GapSource :=
  if config.recovery.enabled then
    config.recovery.endpoint.map fun endpoint =>
      .server { endpoint, channel := 0, timeoutMs := config.recovery.timeoutMs }
  else none

namespace FeedClient

variable {client next : FeedClient} {call : ClientCall} {config : FeedConfig} {session : Session}
  {given : Option GapSource} {past : List FeedConfig}

/-- The configuration of the session that was opened on the way from one client to the next, if any
was. -/
def opens? (client next : FeedClient) : Option FeedConfig :=
  if client.session.isNone ∧ next.session.isSome then client.config else none

/-- The configurations with which the sessions of a run were opened, in order. -/
def opened (client : FeedClient) : List ClientCall → List FeedConfig
  | [] => []
  | call :: calls =>
      let next := (client.answer call).1
      (client.opens? next).toList ++ next.opened calls

/-- The source that is handed from session to session: the one that was given from outside, or else the
server of the first configuration that named one. -/
def handedSource (given : Option GapSource) (past : List FeedConfig) : Option GapSource :=
  given.or (past.findSome? FeedConfig.server?)

theorem handedSource_concat (given : Option GapSource) (past : List FeedConfig) (config : FeedConfig) :
    handedSource given (past ++ [config]) = (handedSource given past).or config.server? := by
  simp [handedSource, List.findSome?_append, Option.or_assoc]

theorem sessionSource_eq (client : FeedClient) (config : FeedConfig) :
    client.sessionSource config =
      if config.recovery.enabled then client.source.or config.server? else none := by
  rw [sessionSource, FeedConfig.server?]
  cases config.recovery.enabled <;> simp

theorem opens?_eq_none (h : next.session.isSome → client.session.isSome) :
    client.opens? next = none := by
  rw [opens?, if_neg]
  rintro ⟨hnone, hsome⟩
  rw [Option.isNone_iff_eq_none] at hnone
  rw [hnone] at h
  exact Bool.false_ne_true (h hsome)

theorem source_changeMarket (client : FeedClient) (change : Market → Market) :
    (client.changeMarket change).source = client.source := by
  unfold FeedClient.changeMarket
  split <;> rfl

/-- A session has the source that is handed on when its configuration wants one, and while it has it the
client does not. Without a source nobody asks. -/
structure Holds (session : Session) (client : FeedClient) (config : FeedConfig)
    (handed : Option GapSource) : Prop where
  session_source : session.source = if config.recovery.enabled then handed else none
  client_source : client.source = if config.recovery.enabled then none else handed
  ended : session.source = none → session.gapFiller = .finished

namespace Holds

variable {handed : Option GapSource}

/-- What the session and the client have, together. -/
theorem together (h : Holds session client config handed) : session.source.or client.source = handed := by
  rw [h.session_source, h.client_source]
  cases config.recovery.enabled <;> simp

theorem goOn {events : List SessionEvent} {later : Session} (h : Holds session client config handed)
    (hasking : session.Asking events later) (hsource : next.source = client.source) :
    Holds later next config handed where
  session_source := hasking.source.trans h.session_source
  client_source := hsource.trans h.client_source
  ended hnone := (hasking.ended (h.ended (hasking.source ▸ hnone))).1

end Holds

/-- Where the source is once some sessions have been opened: with the client while it can be connected,
and with the session or the client while there is a session. -/
structure Sourced (given : Option GapSource) (past : List FeedConfig) (client : FeedClient) : Prop where
  firm : client.Firm
  atHand : client.state ∈ [.uninitialized, .initialized, .disconnected] →
    client.source = handedSource given past
  held : ∀ session, client.session = some session → ∃ config, client.config = some config ∧
    past.getLast? = some config ∧ Holds session client config (handedSource given past)

namespace Sourced

theorem start (listener : Listener) (given : Option GapSource) :
    Sourced given [] (FeedClient.start listener given) where
  firm := .start listener given
  atHand _ := (Option.or_none).symm
  held _ hsession := absurd hsession (Option.some_ne_none _).symm

/-- A client without a session that cannot be connected any more. -/
theorem ofClosed (hfirm : client.Firm) (hnone : client.session = none)
    (hstate : client.state ∉ [.uninitialized, .initialized, .disconnected]) :
    Sourced given past client where
  firm := hfirm
  atHand hmem := absurd hmem hstate
  held session hsession := by
    rw [hnone] at hsession
    cases hsession

/-- The session that was just started. -/
theorem enter {listener : Listener} {link : Link} {address : SocketAddress} {now : UInt64}
    (h : Sourced given past client)
    (hstate : client.state ∈ [.initialized, .disconnected]) (hconfig : client.config = some config)
    (hfirm : { client.entering config address with session := some session, state := .ready }.Firm)
    (hsession : client.startSession config listener link now = .ok session) :
    Sourced given (past ++ [config])
      { client.entering config address with session := some session, state := .ready } := by
  have hathand : client.source = handedSource given past := by
    apply h.atHand
    simp only [List.mem_cons, List.not_mem_nil, or_false] at hstate ⊢
    exact Or.inr hstate
  obtain ⟨hsource, hended⟩ := Session.start_source hsession
  refine ⟨hfirm, fun hmem => absurd (show ClientState.ready ∈ _ from hmem) (by decide), ?_⟩
  intro started hstarted
  cases hstarted
  refine ⟨config, hconfig, List.getLast?_concat, ?_, ?_, fun hnone => hended (hsource ▸ hnone)⟩
  · rw [hsource, sessionSource_eq, hathand, handedSource_concat]
  · show (if config.recovery.enabled then none else client.source) = _
    rw [hathand, handedSource_concat, FeedConfig.server?]
    cases config.recovery.enabled <;> simp

theorem move (hmove : Move client call next) (h : Sourced given past client) :
    Sourced given (past ++ (client.opens? next).toList) next := by
  have hfirm : next.Firm := h.firm.move hmove
  cases hmove with
  | stay =>
      rw [opens?_eq_none id, Option.toList_none, List.append_nil]
      exact h
  | adopt config hstate =>
      have hnone : client.session = none := h.firm.session_eq_none hstate (by decide)
      have hstill : (client.adopt config).session = none := by
        rw [FeedClient.adopt, changeMarket_of_none hnone, hnone]
      rw [opens?_eq_none (by simp [hstill]), Option.toList_none, List.append_nil]
      refine ⟨hfirm, fun _ => (source_changeMarket client _).trans (h.atHand hstate), ?_⟩
      intro session hsession
      rw [hstill] at hsession
      cases hsession
  | enter config host listener link address now session hstate hconfig hsession =>
      have hnone : client.session = none := h.firm.session_eq_none hstate (by decide)
      rw [opens?, if_pos ⟨by rw [hnone]; rfl, rfl⟩, hconfig]
      exact h.enter hstate hconfig hfirm hsession
  | breakOff config host address now hstate hconfig =>
      have hnone : client.session = none := h.firm.session_eq_none hstate (by decide)
      exact .ofClosed hfirm hnone (show ClientState.connected ∉ _ by decide)
  | disconnect session closing hsession =>
      have hended := session_endSession client (·.run closing)
      rw [opens?_eq_none (by simp [hended]), Option.toList_none, List.append_nil]
      refine ⟨hfirm, fun _ => ?_, fun session hsession => ?_⟩
      · obtain ⟨config, -, -, hholds⟩ := h.held session hsession
        rw [endSession_of_some hsession, ← hholds.together, ← (session.asking_run closing).source]
        simp
      · rw [hended] at hsession
        cases hsession
  | shutDown closing =>
      exact .ofClosed hfirm (session_endSession client _) (show ClientState.shutDown ∉ _ by decide)
  | work session action hsession =>
      have hready : client.state = .ready := h.firm.ready.1 (Option.isSome_of_mem hsession)
      rw [opens?_eq_none (by simp [hsession]), Option.toList_none, List.append_nil]
      refine ⟨hfirm, fun hmem => ?_, fun later hlater => ?_⟩
      · rw [hready] at hmem
        exact absurd hmem (by decide)
      · cases hlater
        obtain ⟨config, hconfig, hlast, hholds⟩ := h.held session hsession
        exact ⟨config, hconfig, hlast, hholds.goOn (session.asking_perform (.work action)) rfl⟩
  | changeMarket call change =>
      have hsome := isSome_session_changeMarket client change
      rw [opens?_eq_none (by rw [hsome]; exact id), Option.toList_none, List.append_nil]
      refine ⟨hfirm, fun hmem => ?_, fun later hlater => ?_⟩
      · rw [state_changeMarket] at hmem
        exact (source_changeMarket client change).trans (h.atHand hmem)
      · obtain ⟨session, hsession⟩ : ∃ session, client.session = some session := by
          rw [← Option.isSome_iff_exists, ← hsome, hlater]
          rfl
        obtain ⟨config, hconfig, hlast, hholds⟩ := h.held session hsession
        refine ⟨config, (config_changeMarket client change).trans hconfig, hlast, ?_⟩
        rw [changeMarket_of_some hsession] at hlater ⊢
        cases hlater
        exact hholds.goOn (.ofQuiet rfl rfl (List.forall_mem_nil _)) rfl

theorem run (h : Sourced given past client) (calls : List ClientCall) :
    Sourced given (past ++ client.opened calls) (client.run calls) := by
  induction calls generalizing client past with
  | nil =>
      rw [opened, List.append_nil]
      exact h
  | cons call calls ih =>
      rw [opened, ← List.append_assoc]
      exact ih (h.move (client.answer_move call))

end Sourced

/-- **The server that a session asks is the first one that was named.** Whatever has been done to a client
that was given no source: when its session recovers anything, it has the server of the first
configuration, of all those that sessions were opened with, that named one. It asks that server and
nobody else, and nobody when there is none. So the current configuration decides as long as no session
before was opened with another server. -/
theorem run_asks_first_server (listener : Listener) (calls : List ClientCall) {session : Session}
    (hsession : ((start listener none).run calls).session = some session) :
    let opened := (start listener none).opened calls
    ∃ config, ((start listener none).run calls).config = some config ∧
      opened.getLast? = some config ∧
      session.source =
        (if config.recovery.enabled then opened.findSome? FeedConfig.server? else none) ∧
      (∀ actions source request, .asked source request ∈ (session.run actions).2 →
        source = session.source ∧ source.isSome) ∧
      ((∀ earlier ∈ opened, earlier.server?.isSome → earlier.server? = config.server?) →
        session.source = config.server?) := by
  intro opened
  have hsourced : Sourced none opened ((start listener none).run calls) :=
    (Sourced.start listener none).run calls
  obtain ⟨config, hconfig, hlast, hholds⟩ := hsourced.held session hsession
  have hsource : session.source =
      if config.recovery.enabled then opened.findSome? FeedConfig.server? else none :=
    hholds.session_source
  refine ⟨config, hconfig, hlast, hsource, fun actions source request hasked => ?_, fun hsame => ?_⟩
  · have hasking := session.asking_run actions
    have hkept : source = session.source := hasking.asked source request hasked
    refine ⟨hkept, ?_⟩
    rw [hkept, Option.isSome_iff_ne_none]
    intro hnone
    have hquiet := (hasking.ended (hholds.ended hnone)).2 _ hasked
    simp [SessionEvent.asks] at hquiet
  · rw [hsource]
    by_cases henabled : config.recovery.enabled = true
    · rw [if_pos henabled]
      cases hfirst : opened.findSome? FeedConfig.server? with
      | none =>
          have hmem : config ∈ opened := List.mem_of_getLast? hlast
          exact (List.findSome?_eq_none_iff.1 hfirst config hmem).symm
      | some server =>
          obtain ⟨earlier, hmem, hserver⟩ := List.exists_of_findSome?_eq_some hfirst
          rw [← hserver]
          exact hsame earlier hmem (by rw [hserver]; rfl)
    · rw [if_neg henabled, FeedConfig.server?, if_neg henabled]

/-- The sequence numbers start at 1, and what is missing is to be asked for. -/
def recoveringFrom (endpoint : Option String) (timeoutMs : UInt64) : FeedConfig :=
  { FeedConfig.standard with
    sequence := { SequenceSettings.standard with initial := some 1 }
    recovery := { RecoverySettings.standard with enabled := true, endpoint, timeoutMs } }

/-- Steps that close a session with a gap filler. -/
def closingWithFiller : List SessionAction :=
  inTurn
    [(2, .close "local disconnect"), (4, .work (.receive .nothing 0)),
     (2, .work (.monitor .notDue 0)), (3, .close "local disconnect"),
     (2, .work (.fillGap (.ok []))), (2, .close "local disconnect"), (12, .work (.process 0)),
     (1, .close "local disconnect")]

/-- A client has a session with one server, and is configured anew before the next one. -/
def movedLife (second : FeedConfig) : List ClientCall :=
  [.configure (recoveringFrom (some "a:1") 1000), .connect .isolated 0, .disconnect closingWithFiller,
   .configure second, .connect .isolated 0]

/-- Whom the session of a client asks when the first trade to come in is the second one. -/
def asksOverGap (client : FeedClient) : List SessionEvent :=
  client.session.elim [] fun session =>
    (session.run (inTurn
      [(5, .work (.receive (.packet (Processor.tradePacket 2)) 1)), (6, .work (.process 1)),
       (3, .work (.fillGap (.ok [])))])).2.filter SessionEvent.asks

theorem run_asks_first_server_movedLife :
    let client := (start ⟨none⟩ none).run (movedLife (recoveringFrom (some "b:2") 1000))
    ∃ session, client.session = some session ∧
      ∀ actions source request, .asked source request ∈ (session.run actions).2 →
        source = some (.server ⟨"a:1", 0, 1000⟩) := by
  intro client
  have hsome : client.session.isSome := by decide +kernel
  obtain ⟨session, hsession⟩ := Option.isSome_iff_exists.1 hsome
  obtain ⟨config, hconfig, -, hsource, hasks, -⟩ := run_asks_first_server ⟨none⟩ _ hsession
  have hsecond : client.config = some (recoveringFrom (some "b:2") 1000) := by decide +kernel
  have hfirst : ((start ⟨none⟩ none).opened
      (movedLife (recoveringFrom (some "b:2") 1000))).findSome? FeedConfig.server? =
        some (.server ⟨"a:1", 0, 1000⟩) := by
    decide +kernel
  cases hsecond.symm.trans hconfig
  rw [hfirst] at hsource
  refine ⟨session, hsession, fun actions source request hasked => ?_⟩
  exact (hasks actions source request hasked).1.trans hsource

/-- A configuration that names another server, one that names none, and one that waits for another time
all come too late: the server of the session before is asked. -/
theorem movedLife_asks_former_server :
    let client (second : FeedConfig) := (start ⟨none⟩ none).run (movedLife second)
    let elsewhere := recoveringFrom (some "b:2") 1000
    let nowhere := recoveringFrom none 1000
    let hastily := recoveringFrom (some "a:1") 5
    let former : GapSource := .server ⟨"a:1", 0, 1000⟩
    (start ⟨none⟩ none).allGoWell (movedLife elsewhere) = true ∧
    (client elsewhere).config = some elsewhere ∧
      elsewhere.server? = some (.server ⟨"b:2", 0, 1000⟩) ∧
      asksOverGap (client elsewhere) = [.asked (some former) ⟨1, 1⟩] ∧
    (client nowhere).config = some nowhere ∧ nowhere.server? = none ∧
      asksOverGap (client nowhere) = [.asked (some former) ⟨1, 1⟩] ∧
    (client hastily).config = some hastily ∧
      hastily.server? = some (.server ⟨"a:1", 0, 5⟩) ∧
      asksOverGap (client hastily) = [.asked (some former) ⟨1, 1⟩] := by
  decide +kernel

end FeedClient

end MarketFeed
