import MarketFeed.Proofs.SessionOrder
import MarketFeed.Proofs.SessionTraffic

/-! The notice that a session is over. It is given once, after the last packet, with the first of all
reasons; after it nobody does anything that the listener could hear of. -/

namespace MarketFeed

/-- Whether an event concerns neither a packet nor the listener. -/
def SessionEvent.isAside : SessionEvent → Bool
  | .raised _ | .sent _ => true
  | _ => false

namespace DisconnectSignal

variable {events : List SessionEvent}

theorem foldl_after_raised {signal : DisconnectSignal} (hraised : signal.raised = true)
    (hsilent : ∀ event ∈ events, event.isNotice = false) : events.foldl after signal = signal := by
  induction events with
  | nil => rfl
  | cons event events ih =>
      obtain ⟨hevent, hlater⟩ := List.forall_mem_cons.1 hsilent
      have hkept : signal.after event = signal := by
        cases event with
        | raised reason => exact raise_of_raised hraised reason
        | told event =>
            cases event with
            | message message => rfl
            | disconnected reason => cases hevent
        | _ => rfl
      rw [List.foldl_cons, hkept]
      exact ih hlater

/-- Until the notice is given, the signal holds the first reason. -/
theorem foldl_after_clear (hsilent : ∀ event ∈ events, event.isNotice = false) :
    events.foldl after clear = (reasons events).head?.elim clear fun reason => ⟨true, some reason⟩ := by
  induction events with
  | nil => rfl
  | cons event events ih =>
      obtain ⟨hevent, hlater⟩ := List.forall_mem_cons.1 hsilent
      cases event with
      | raised reason => exact foldl_after_raised rfl hlater
      | told event =>
          cases event with
          | message message => exact ih hlater
          | disconnected reason => cases hevent
      | stored | processed | asked | sent => exact ih hlater

end DisconnectSignal

namespace Session

variable {session next : Session} {events : List SessionEvent}

theorem isNotice_of_isAside {event : SessionEvent} (h : event.isAside = true) :
    event.isNotice = false := by
  cases event with
  | raised | sent => rfl
  | _ => cases h

theorem takeArrival_frame (session : Session) (hasBuffer : Bool) (now : UInt64) (arrival : Arrival) :
    (session.takeArrival hasBuffer now arrival).processing = session.processing ∧
      (session.takeArrival hasBuffer now arrival).closing = session.closing := by
  cases arrival <;> cases hasBuffer <;> exact ⟨rfl, rfl⟩

theorem receiverStep_silent {arrival : Arrival} {now : UInt64}
    (hstep : session.receiverStep arrival now = some (next, events)) :
    (next.processing = session.processing ∧ next.closing = session.closing) ∧
      ∀ event ∈ events, event.isNotice = false := by
  cases receiverStep_move hstep with
  | listen => exact ⟨takeArrival_frame .., List.forall_mem_nil _⟩
  | store | announce => exact ⟨⟨rfl, rfl⟩, List.forall_mem_singleton.2 rfl⟩
  | _ => exact ⟨⟨rfl, rfl⟩, List.forall_mem_nil _⟩

theorem gapFillerStep_silent {reply : GapReply}
    (hstep : session.gapFillerStep reply = some (next, events)) :
    (next.processing = session.processing ∧ next.closing = session.closing) ∧
      ∀ event ∈ events, event.isNotice = false := by
  cases gapFillerStep_move hstep with
  | ask => exact ⟨by cases reply <;> exact ⟨rfl, rfl⟩, List.forall_mem_singleton.2 rfl⟩
  | store => exact ⟨⟨rfl, rfl⟩, List.forall_mem_singleton.2 rfl⟩
  | _ => exact ⟨⟨rfl, rfl⟩, List.forall_mem_nil _⟩

theorem monitorStep_aside {beat : Beat} {now : UInt64}
    (hstep : session.monitorStep beat now = some (next, events)) :
    (next.processing = session.processing ∧ next.closing = session.closing) ∧
      ∀ event ∈ events, event.isAside = true := by
  cases monitorStep_move hstep with
  | send | announce => exact ⟨⟨rfl, rfl⟩, List.forall_mem_singleton.2 rfl⟩
  | _ => exact ⟨⟨rfl, rfl⟩, List.forall_mem_nil _⟩

theorem closingStep_aside {reason : String}
    (hstep : session.closingStep reason = some (next, events)) :
    next.processing = session.processing ∧ ∀ event ∈ events, event.isAside = true := by
  cases closingStep_move hstep with
  | begin => exact ⟨rfl, List.forall_mem_singleton.2 rfl⟩
  | _ => exact ⟨rfl, List.forall_mem_nil _⟩

theorem isNotice_tell {messages : List Message} {event : SessionEvent} (h : event ∈ tell messages) :
    event.isNotice = false := by
  obtain ⟨message, -, rfl⟩ := List.mem_map.1 h
  rfl

theorem handle_silent (hopen : session.processing ≠ .finished) (lane : Lane) (packet : Bytes)
    (time : UInt64) :
    (session.handle lane packet time).1.processing ≠ .finished ∧
      ∀ event ∈ (session.handle lane packet time).2, event.isNotice = false := by
  rcases session.handle_cases lane packet time with ⟨processor, messages, hhandle⟩ |
    ⟨done, -, hhandle⟩
  · rw [hhandle]
    exact ⟨nofun, fun event => isNotice_tell⟩
  · rw [hhandle]
    refine ⟨hopen, fun event hevent => ?_⟩
    rcases List.mem_append.1 hevent with hmessage | hpacket
    · exact isNotice_tell hmessage
    · rw [List.mem_singleton.1 hpacket]
      rfl

theorem handleInHand_silent (hopen : session.processing ≠ .finished) (now : Nat)
    (taken : PacketInHand) :
    (session.handleInHand now taken).1.processing ≠ .finished ∧
      ∀ event ∈ (session.handleInHand now taken).2, event.isNotice = false := by
  have hlaid : { session with inHand := none }.processing ≠ .finished := hopen
  cases taken with
  | direct packet time =>
      have hfreed : { session with inHand := none }.freeBuffer.processing ≠ .finished := hopen
      exact handle_silent hfreed .direct packet time
  | recovered packet => exact handle_silent hlaid .recovered packet (UInt64.ofNat now)

/-- The processing worker gives the notice as its last step, and only then. -/
theorem processingStep_silent {now : Nat} (hopen : session.processing ≠ .finished)
    (hstep : session.processingStep now = some (next, events)) :
    (session.processing = .notifying ∧ session.notify = (next, events)) ∨
      next.processing ≠ .finished ∧ ∀ event ∈ events, event.isNotice = false := by
  rcases processingStep_cases hstep with ⟨taken, -, hhandled⟩ | ⟨-, hproceed⟩
  · have hsilent := handleInHand_silent hopen now taken
    rw [hhandled] at hsilent
    exact Or.inr hsilent
  · cases proceed_move hproceed with
    | notify hprocessing => exact Or.inl ⟨hprocessing, rfl⟩
    | _ => exact Or.inr ⟨nofun, List.forall_mem_nil _⟩

/-! ### Before and after the notice

The processing worker ends with the notice, when nothing waits for it and nothing more can come. -/

theorem step_cases {action : SessionAction} (hopen : session.processing ≠ .finished)
    (hstep : session.step action = some (next, events)) :
    (session.processing = .notifying ∧ session.notify = (next, events)) ∨
      next.processing ≠ .finished ∧ ∀ event ∈ events, event.isNotice = false := by
  cases action with
  | work action =>
      cases action with
      | receive arrival now =>
          obtain ⟨⟨hkept, -⟩, hsilent⟩ := receiverStep_silent hstep
          exact Or.inr ⟨hkept ▸ hopen, hsilent⟩
      | monitor beat now =>
          obtain ⟨⟨hkept, -⟩, haside⟩ := monitorStep_aside hstep
          exact Or.inr ⟨hkept ▸ hopen, fun event hevent => isNotice_of_isAside (haside event hevent)⟩
      | fillGap reply =>
          obtain ⟨⟨hkept, -⟩, hsilent⟩ := gapFillerStep_silent hstep
          exact Or.inr ⟨hkept ▸ hopen, hsilent⟩
      | process now => exact processingStep_silent hopen hstep
  | close reason =>
      obtain ⟨hkept, haside⟩ := closingStep_aside hstep
      exact Or.inr ⟨hkept ▸ hopen, fun event hevent => isNotice_of_isAside (haside event hevent)⟩
  | choose call =>
      cases hstep
      exact Or.inr ⟨hopen, List.forall_mem_nil _⟩

/-- Once the notice has been given, only the monitor and whoever closes the session go on. -/
theorem step_after_notice {action : SessionAction} (h : session.Orderly)
    (hfinished : session.processing = .finished)
    (hstep : session.step action = some (next, events)) :
    next.processing = .finished ∧ ∀ event ∈ events, event.isAside = true := by
  obtain ⟨hreceiver, hgapFiller, hinHand⟩ := h.ended hfinished
  rw [← hfinished]
  cases action with
  | work action =>
      cases action with
      | receive arrival now =>
          cases hstep.symm.trans (receiverStep_eq_none.2 hreceiver)
      | monitor beat now =>
          obtain ⟨⟨hkept, -⟩, haside⟩ := monitorStep_aside hstep
          exact ⟨hkept, haside⟩
      | fillGap reply =>
          cases hstep.symm.trans (gapFillerStep_eq_none.2 hgapFiller)
      | process now =>
          rcases processingStep_cases hstep with ⟨taken, htaken, -⟩ | ⟨-, hproceed⟩
          · cases htaken.symm.trans hinHand
          · cases hproceed.symm.trans (proceed_eq_none.2 (Or.inl hfinished))
  | close reason => exact closingStep_aside hstep
  | choose call =>
      cases hstep
      exact ⟨rfl, List.forall_mem_nil _⟩

/-- What a history shows before the notice and after it. -/
inductive Noticed (session : Session) (events : List SessionEvent) : Prop where
  | notYet (hopen : session.processing ≠ .finished)
      (hsilent : ∀ event ∈ events, event.isNotice = false)
  | once (before after : List SessionEvent) (reason : String)
      (hfinished : session.processing = .finished)
      (hevents : events = before ++ .told (.disconnected reason) :: after)
      (hsilent : ∀ event ∈ before, event.isNotice = false)
      (hreason : (reasons before).head? = some reason)
      (hprocessed : ∀ lane, processedOn lane before = storedOn lane before)
      (haside : ∀ event ∈ after, event.isAside = true)

/-- The notice is given with the first reason, when nothing is waiting any more. -/
theorem Noticed.notify {first : Session} {limit : Nat} (hfirst : first.Untouched)
    (htraffic : Traffic first limit events session) (h : session.Orderly)
    (hnotifying : session.processing = .notifying)
    (hsilent : ∀ event ∈ events, event.isNotice = false) :
    Noticed session.notify.1 (events ++ session.notify.2) := by
  have hraised := h.raised_of_last (hnotifying ▸ rfl)
  have hsignal := htraffic.signal
  rw [hfirst.signal, DisconnectSignal.foldl_after_clear hsilent] at hsignal
  cases hreasons : (reasons events).head? with
  | none =>
      rw [hreasons] at hsignal
      rw [hsignal] at hraised
      cases hraised
  | some reason =>
      rw [hreasons] at hsignal
      have hnotice : session.notify.2 = [.told (.disconnected reason)] := by
        rw [Session.notify, hsignal]
        rfl
      refine .once events [] reason rfl (by rw [hnotice]) hsilent hreasons (fun lane => ?_)
        (List.forall_mem_nil _)
      have hlane := htraffic.lanes (hnotifying ▸ nofun) lane
      obtain ⟨hrecovered, hinHand⟩ := h.drainedAll (hnotifying ▸ rfl)
      have hpackets := h.drainedPackets (hnotifying ▸ rfl)
      rw [waiting_eq_nil hfirst.inHand hfirst.packets hfirst.recovered,
        waiting_eq_nil hinHand hpackets hrecovered, List.append_nil] at hlane
      exact hlane.symm

/-- What has been seen since a session began. -/
structure Chronicle (first session : Session) (events : List SessionEvent) : Prop where
  orderly : session.Orderly
  traffic : ∃ limit, Traffic first limit events session
  noticed : Noticed session events

theorem Chronicle.step {first : Session} {later : List SessionEvent} {action : SessionAction}
    (hfirst : first.Untouched) (h : Chronicle first session events)
    (hstep : session.step action = some (next, later)) : Chronicle first next (events ++ later) := by
  obtain ⟨limit, htraffic⟩ := h.traffic
  refine ⟨h.orderly.step hstep, ⟨_, htraffic.trans (traffic_step hstep)⟩, ?_⟩
  cases h.noticed with
  | notYet hopen hsilent =>
      rcases step_cases hopen hstep with ⟨hnotifying, hnotify⟩ | ⟨hstill, hlater⟩
      · have hnoticed := Noticed.notify hfirst htraffic h.orderly hnotifying hsilent
        rw [hnotify] at hnoticed
        exact hnoticed
      · exact .notYet hstill (List.forall_mem_append.2 ⟨hsilent, hlater⟩)
  | once before after reason hfinished hevents hsilent hreason hprocessed haside =>
      obtain ⟨hstill, hlater⟩ := step_after_notice h.orderly hfinished hstep
      refine .once before (after ++ later) reason hstill ?_ hsilent hreason hprocessed
        (List.forall_mem_append.2 ⟨haside, hlater⟩)
      rw [hevents, List.append_assoc, List.cons_append]

theorem Chronicle.run {first : Session} (hfirst : first.Untouched) (actions : List SessionAction) :
    Chronicle first (first.run actions).1 (first.run actions).2 := by
  have hopen : first.processing ≠ .finished := by
    rw [hfirst.processing]
    nofun
  have hbegun : Chronicle first first [] :=
    ⟨.ofUntouched hfirst, ⟨0, .refl first⟩, .notYet hopen (List.forall_mem_nil _)⟩
  exact run_keeps (fun h hstep => Chronicle.step hfirst h hstep) [] hbegun actions

theorem countP_isNotice_eq_zero (hsilent : ∀ event ∈ events, event.isNotice = false) :
    events.countP SessionEvent.isNotice = 0 :=
  List.countP_eq_zero.2 fun event hevent => ne_true_of_eq_false (hsilent event hevent)

theorem filterMap_aside {α : Type} {f : SessionEvent → Option α} {after : List SessionEvent}
    (haside : ∀ event ∈ after, event.isAside = true)
    (hf : ∀ event, event.isAside = true → f event = none) : after.filterMap f = [] :=
  List.filterMap_eq_nil_iff.2 fun event hevent => hf event (haside event hevent)

theorem storedOn_aside {after : List SessionEvent} (haside : ∀ event ∈ after, event.isAside = true)
    (lane : Lane) : storedOn lane after = [] :=
  filterMap_aside haside fun event hevent => by
    cases event with
    | raised | sent => rfl
    | _ => cases hevent

theorem processedOn_aside {after : List SessionEvent}
    (haside : ∀ event ∈ after, event.isAside = true) (lane : Lane) : processedOn lane after = [] :=
  filterMap_aside haside fun event hevent => by
    cases event with
    | raised | sent => rfl
    | _ => cases hevent

theorem Noticed.countP_eq (h : Noticed session events) :
    events.countP SessionEvent.isNotice = if session.processing = .finished then 1 else 0 := by
  cases h with
  | notYet hopen hsilent => rw [if_neg hopen, countP_isNotice_eq_zero hsilent]
  | once before after reason hfinished hevents hsilent hreason hprocessed haside =>
      have hlater : ∀ event ∈ after, event.isNotice = false :=
        fun event hevent => isNotice_of_isAside (haside event hevent)
      rw [if_pos hfinished, hevents, List.countP_append, List.countP_cons,
        countP_isNotice_eq_zero hsilent, countP_isNotice_eq_zero hlater]
      rfl

theorem Noticed.around {reason : String} (h : Noticed session events)
    (hnotice : .told (.disconnected reason) ∈ events) : ∃ before after,
      events = before ++ .told (.disconnected reason) :: after ∧
      (reasons before).head? = some reason ∧ (∀ event, .told event ∉ after) ∧
      ∀ lane, processedOn lane before = storedOn lane events ∧ processedOn lane after = [] := by
  cases h with
  | notYet hopen hsilent => cases hsilent _ hnotice
  | once before after first hfinished hevents hsilent hreason hprocessed haside =>
      have hfirst : reason = first := by
        rw [hevents] at hnotice
        rcases List.mem_append.1 hnotice with hbefore | hbehind
        · cases hsilent _ hbefore
        · rcases List.mem_cons.1 hbehind with hsame | hafter
          · cases hsame
            rfl
          · cases haside _ hafter
      subst hfirst
      refine ⟨before, after, hevents, hreason, fun event hevent => ?_, fun lane =>
        ⟨?_, processedOn_aside haside lane⟩⟩
      · cases haside _ hevent
      · have hstored : storedOn lane (.told (.disconnected reason) :: after) = [] :=
          storedOn_aside haside lane
        rw [hprocessed, hevents, storedOn_append, hstored, List.append_nil]

/-- **The notice is given once.** However a session comes to its end, the listener is told so once, with
the first reason that anyone gave, behind all packets of both queues; and it is told nothing more. -/
theorem notice_given_once {config : FeedConfig} {link : Link} {listener : Listener}
    {source : Option GapSource} {books : Books} {subscriptions : Subscriptions} {counters : Counters}
    {now : UInt64} {session final : Session} {actions : List SessionAction}
    {events : List SessionEvent}
    (hstart : start config link listener source books subscriptions counters now = .ok session)
    (hrun : session.run actions = (final, events)) :
    events.countP SessionEvent.isNotice ≤ 1 ∧
    (final.closing = .closed → final.processing ≠ .lost →
      events.countP SessionEvent.isNotice = 1) ∧
    ∀ reason, .told (.disconnected reason) ∈ events → ∃ before after,
      events = before ++ .told (.disconnected reason) :: after ∧
      (reasons before).head? = some reason ∧ (∀ event, .told event ∉ after) ∧
      ∀ lane, processedOn lane before = storedOn lane events ∧ processedOn lane after = [] := by
  have hchronicle : Chronicle session final events := by
    have hwhole := Chronicle.run (start_ok hstart).1 actions
    rw [hrun] at hwhole
    exact hwhole
  have hcount := hchronicle.noticed.countP_eq
  refine ⟨?_, fun hclosed hkept => ?_, fun reason => hchronicle.noticed.around⟩
  · rw [hcount]
    split <;> omega
  · rw [hcount, if_pos ((hchronicle.orderly.closed hclosed).resolve_right hkept)]

def cancellation : Message := ⟨⟨32, 51, 7, 1, 0⟩, .tradeCancel 9⟩

def cancellationPacket : Bytes := ((PacketDraft.start 0 1 0).push cancellation).finish

/-- The receiver fails while the session is being closed, and is the second to give a reason. -/
def faultWhileClosing : List SessionAction :=
  inTurn
    [(5, .work (.receive (.packet cancellationPacket) 1)), (4, .work (.receive (.fault .closedByPeer) 2)),
     (2, .close "local disconnect"), (3, .work (.receive .nothing 3)),
     (1, .work (.monitor .notDue 3)), (5, .close "local disconnect"), (12, .work (.process 3)),
     (1, .close "local disconnect")]

theorem notice_given_once_faultWhileClosing :
    ∃ (session final : Session) (events before after : List SessionEvent),
      start .standard .datagrams ⟨none⟩ none (.blank 4) .all .zero 0 = .ok session ∧
      session.run faultWhileClosing = (final, events) ∧
      final.closing = .closed ∧ final.processing ≠ .lost ∧
      storedOn .direct events = [cancellationPacket] ∧
      reasons events = ["local disconnect", "receive failed: tcp session closed by peer"] ∧
      events.countP SessionEvent.isNotice = 1 ∧
      events = before ++ .told (.disconnected "local disconnect") :: after ∧
      .told (.message cancellation) ∈ before ∧ (∀ event, .told event ∉ after) ∧
      processedOn .direct before = [cancellationPacket] := by
  let session := fresh .standard .datagrams ⟨none⟩ none (.blank 4) .all .zero 0 3000000000
  have hstart : start .standard .datagrams ⟨none⟩ none (.blank 4) .all .zero 0 = .ok session := rfl
  have hrun : session.run faultWhileClosing =
      ((session.run faultWhileClosing).1, (session.run faultWhileClosing).2) := (Prod.eta _).symm
  have hclosed : (session.run faultWhileClosing).1.closing = .closed := by decide +kernel
  have hkept : (session.run faultWhileClosing).1.processing ≠ .lost := by decide +kernel
  obtain ⟨-, honce, haround⟩ := notice_given_once hstart hrun
  obtain ⟨before, after, hevents, -, hlast, hprocessed⟩ :=
    haround "local disconnect" (by decide +kernel)
  have htold : .told (.message cancellation) ∈ (session.run faultWhileClosing).2 := by decide +kernel
  have hbefore : .told (.message cancellation) ∈ before := by
    rw [hevents] at htold
    rcases List.mem_append.1 htold with hbefore | hbehind
    · exact hbefore
    · rcases List.mem_cons.1 hbehind with hsame | hafter
      · cases hsame
      · exact absurd hafter (hlast _)
  refine ⟨session, _, _, before, after, hstart, hrun, hclosed, hkept, by decide +kernel,
    by decide +kernel, honce hclosed hkept, hevents, hbefore, hlast, ?_⟩
  rw [(hprocessed .direct).1]
  decide +kernel

end Session

end MarketFeed
