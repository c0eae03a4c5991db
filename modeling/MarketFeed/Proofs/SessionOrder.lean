import MarketFeed.Proofs.MessageHandling
import MarketFeed.Proofs.SessionMoves

/-! In which order a session ends. A reason is given before anyone is stopped, the receiver and the gap
filler are stopped before they say that they are done, and the processing worker does not go on to its
last packets before both have said so. Every step keeps this, whoever takes it. -/

namespace MarketFeed

/-- Whether no more packets can come. -/
def ProcessingStage.isLast : ProcessingStage → Bool
  | .drainingPackets _ | .drainingRecovered _ | .notifying | .finished => true
  | _ => false

/-- Whether, moreover, none of the receiver's packets is waiting. -/
def ProcessingStage.hasDrainedPackets : ProcessingStage → Bool
  | .drainingRecovered _ | .notifying | .finished => true
  | _ => false

/-- Whether, moreover, none of the gap filler's packets is waiting. -/
def ProcessingStage.hasDrainedAll : ProcessingStage → Bool
  | .notifying | .finished => true
  | _ => false

theorem ProcessingStage.isLast_of_hasDrainedPackets {stage : ProcessingStage}
    (h : stage.hasDrainedPackets = true) : stage.isLast = true := by
  cases stage with
  | drainingRecovered | notifying | finished => rfl
  | _ => cases h

theorem ProcessingStage.hasDrainedPackets_of_hasDrainedAll {stage : ProcessingStage}
    (h : stage.hasDrainedAll = true) : stage.hasDrainedPackets = true := by
  cases stage with
  | notifying | finished => rfl
  | _ => cases h

namespace Session

/-- Whether reasons, stops and ends have come in their order. -/
structure Orderly (session : Session) : Prop where
  stop : session.stop = true → session.signal.raised = true
  receiverStopping : session.receiver = .stopping → session.signal.raised = true
  receiverLeaving : session.receiver = .leaving ∨ session.receiver = .finished → session.stop = true
  receiverDone : session.receiverDone = true → session.receiver = .finished
  monitorStopping : session.monitor = .stopping → session.signal.raised = true
  gapFillerDone : session.gapFillerDone = true → session.gapFiller = .finished
  closingStopping : session.closing = .stopping → session.signal.raised = true
  closingReceiver : session.closing = .awaitingMonitor ∨ session.closing = .releasingReceiver →
    session.receiver = .finished
  closingGapFiller : session.closing = .releasingGapFiller → session.gapFiller = .finished
  closed : session.closing = .closed → session.processing = .finished ∨ session.processing = .lost
  checking : session.processing = .checkingGapFiller → session.receiverDone = true
  last : session.processing.isLast = true →
    session.receiverDone = true ∧ session.gapFillerDone = true
  drainedPackets : session.processing.hasDrainedPackets = true → session.packets.items = []
  drainedAll : session.processing.hasDrainedAll = true →
    session.recovered.items = [] ∧ session.inHand = none

/-- Whether nothing has happened in a session yet. -/
structure Untouched (session : Session) : Prop where
  stop : session.stop = false
  receiverDone : session.receiverDone = false
  gapFillerDone : session.gapFillerDone = true → session.gapFiller = .finished
  signal : session.signal = .clear
  packets : session.packets.items = []
  recovered : session.recovered.items = []
  inHand : session.inHand = none
  receiver : session.receiver = .checking
  monitor : session.monitor = .checking ∨ session.monitor = .finished
  gapFiller : session.gapFiller = .checking ∨ session.gapFiller = .finished
  processing : session.processing = .packets batchSize
  closing : session.closing = .notBegun

/-- A session starts with nothing done. -/
theorem start_ok {config : FeedConfig} {link : Link} {listener : Listener} {source : Option GapSource}
    {books : Books} {subscriptions : Subscriptions} {counters : Counters} {now : UInt64}
    {session : Session}
    (hstart : start config link listener source books subscriptions counters now = .ok session) :
    session.Untouched ∧ session.processor.counters = counters := by
  obtain ⟨silenceLimit, -, rfl⟩ := exists_of_map_ok hstart
  refine ⟨?_, rfl⟩
  constructor
  case gapFillerDone =>
    cases source with
    | none => exact fun _ => rfl
    | some source => nofun
  case monitor =>
    by_cases hunwatched : config.heartbeat.intervalMs = 0
    · exact Or.inr (if_pos hunwatched)
    · exact Or.inl (if_neg hunwatched)
  case gapFiller =>
    cases source with
    | none => exact Or.inr rfl
    | some source => exact Or.inl rfl
  all_goals rfl

namespace Orderly

variable {session next : Session} {events : List SessionEvent}

theorem raise (h : session.Orderly) (reason : String) :
    { session with signal := session.signal.raise reason }.Orderly :=
  have hraised := DisconnectSignal.raised_raise session.signal reason
  { h with
    stop := fun _ => hraised
    receiverStopping := fun _ => hraised
    monitorStopping := fun _ => hraised
    closingStopping := fun _ => hraised }

theorem halt (h : session.Orderly) (hraised : session.signal.raised = true) :
    { session with stop := true }.Orderly :=
  { h with stop := fun _ => hraised, receiverLeaving := fun _ => rfl }

/-- While the receiver is at work, nobody has been told that it is done. -/
theorem setReceiver (h : session.Orderly) (hopen : session.receiver ≠ .finished) (stage : ReceiverStage)
    (hstopping : stage = .stopping → session.signal.raised = true)
    (hleaving : stage = .leaving ∨ stage = .finished → session.stop = true) :
    { session with receiver := stage }.Orderly :=
  { h with
    receiverStopping := hstopping
    receiverLeaving := hleaving
    receiverDone := fun hdone => absurd (h.receiverDone hdone) hopen
    closingReceiver := fun hclosing => absurd (h.closingReceiver hclosing) hopen }

theorem setMonitor (h : session.Orderly) (stage : MonitorStage)
    (hstopping : stage = .stopping → session.signal.raised = true) :
    { session with monitor := stage }.Orderly :=
  { h with monitorStopping := hstopping }

/-- While the gap filler is at work, nobody has been told that it is done. -/
theorem setGapFiller (h : session.Orderly) (hopen : session.gapFiller ≠ .finished)
    (stage : GapFillerStage) : { session with gapFiller := stage }.Orderly :=
  { h with
    gapFillerDone := fun hdone => absurd (h.gapFillerDone hdone) hopen
    closingGapFiller := fun hclosing => absurd (h.closingGapFiller hclosing) hopen }

theorem setProcessing (h : session.Orderly) (hopen : session.closing ≠ .closed) (stage : ProcessingStage)
    (hchecking : stage = .checkingGapFiller → session.receiverDone = true)
    (hlast : stage.isLast = true → session.receiverDone = true ∧ session.gapFillerDone = true)
    (hpackets : stage.hasDrainedPackets = true → session.packets.items = [])
    (hall : stage.hasDrainedAll = true → session.recovered.items = [] ∧ session.inHand = none) :
    { session with processing := stage }.Orderly :=
  { h with
    closed := fun hclosed => absurd hclosed hopen
    checking := hchecking
    last := hlast
    drainedPackets := hpackets
    drainedAll := hall }

/-- A stage at which packets may still come asks for little. -/
theorem setEarly (h : session.Orderly) (hopen : session.closing ≠ .closed) (stage : ProcessingStage)
    (hchecking : stage = .checkingGapFiller → session.receiverDone = true)
    (hearly : stage.isLast = false) : { session with processing := stage }.Orderly := by
  have hlast : ¬stage.isLast = true := ne_true_of_eq_false hearly
  exact h.setProcessing hopen stage hchecking (fun h => absurd h hlast)
    (fun h => absurd (ProcessingStage.isLast_of_hasDrainedPackets h) hlast)
    (fun h => absurd (ProcessingStage.isLast_of_hasDrainedPackets
      (ProcessingStage.hasDrainedPackets_of_hasDrainedAll h)) hlast)

theorem setClosing (h : session.Orderly) (stage : ClosingStage)
    (hstopping : stage = .stopping → session.signal.raised = true)
    (hreceiver : stage = .awaitingMonitor ∨ stage = .releasingReceiver → session.receiver = .finished)
    (hgapFiller : stage = .releasingGapFiller → session.gapFiller = .finished)
    (hclosed : stage = .closed → session.processing = .finished ∨ session.processing = .lost) :
    { session with closing := stage }.Orderly :=
  { h with
    closingStopping := hstopping
    closingReceiver := hreceiver
    closingGapFiller := hgapFiller
    closed := hclosed }

theorem endReceiver (h : session.Orderly) (hend : session.receiver = .finished) :
    { session with receiverDone := true }.Orderly :=
  { h with
    receiverDone := fun _ => hend
    checking := fun _ => rfl
    last := fun hlast => ⟨rfl, (h.last hlast).2⟩ }

theorem endGapFiller (h : session.Orderly) (hend : session.gapFiller = .finished) :
    { session with gapFillerDone := true }.Orderly :=
  { h with
    gapFillerDone := fun _ => hend
    last := fun hlast => ⟨(h.last hlast).1, rfl⟩ }

/-- While the receiver is at work, its packets are still taken from the queue. -/
theorem setPackets (h : session.Orderly) (hopen : session.receiver ≠ .finished)
    (packets : BoundedQueue (Bytes × UInt64)) : { session with packets }.Orderly :=
  { h with
    drainedPackets := fun hdrained =>
      absurd (h.receiverDone (h.last (ProcessingStage.isLast_of_hasDrainedPackets hdrained)).1) hopen }

/-- While the gap filler is at work, its packets are still taken from the queue. -/
theorem setRecovered (h : session.Orderly) (hopen : session.gapFiller ≠ .finished)
    (recovered : BoundedQueue Bytes) : { session with recovered }.Orderly :=
  { h with
    drainedAll := fun hdrained =>
      absurd (h.gapFillerDone (h.last (ProcessingStage.isLast_of_hasDrainedPackets
        (ProcessingStage.hasDrainedPackets_of_hasDrainedAll hdrained))).2) hopen }

/-! ### Each party -/

theorem takeArrival (h : session.Orderly) (hopen : session.receiver ≠ .finished) (hasBuffer : Bool)
    (now : UInt64) (arrival : Arrival) : (session.takeArrival hasBuffer now arrival).Orderly := by
  have hkept : (if hasBuffer then session.freeBuffer else session).Orderly ∧
      (if hasBuffer then session.freeBuffer else session).receiver ≠ .finished := by
    cases hasBuffer with
    | true => exact ⟨{ h with }, hopen⟩
    | false => exact ⟨h, hopen⟩
  cases arrival with
  | nothing => exact hkept.1.setReceiver hkept.2 .checking nofun nofun
  | packet packet =>
      have hnoted : (session.noteArrival packet now).Orderly := { h with }
      cases hasBuffer with
      | true => exact hnoted.setReceiver hopen (.received packet now) nofun nofun
      | false =>
          have hdropped : (session.noteArrival packet now).countDrop.Orderly := { h with }
          exact hdropped.setReceiver hopen .checking nofun nofun
  | fault fault => exact hkept.1.setReceiver hkept.2 (.failing _) nofun nofun

theorem receiverStep (h : session.Orderly) {arrival : Arrival} {now : UInt64}
    (hstep : session.receiverStep arrival now = some (next, events)) : next.Orderly := by
  have hopen : session.receiver ≠ .finished :=
    mt receiverStep_eq_none.2 (Option.ne_none_iff_exists'.2 ⟨_, hstep⟩)
  cases receiverStep_move hstep with
  | goOn | lackBuffer | keep | report => exact h.setReceiver hopen _ nofun nofun
  | quit _ hstop | giveUp _ _ hstop => exact h.setReceiver hopen .leaving nofun fun _ => hstop
  | takeBuffer =>
      have htaken : { session with freeBuffers := session.freeBuffers - 1 }.Orderly := { h with }
      exact htaken.setReceiver hopen (.listening true) nofun nofun
  | listen hasBuffer => exact h.takeArrival hopen hasBuffer now arrival
  | dropAtStop | dropOverfull =>
      have hdropped : session.countDrop.freeBuffer.Orderly := { h with }
      exact hdropped.setReceiver hopen .checking nofun nofun
  | store packet time packets =>
      exact (h.setPackets hopen packets).setReceiver hopen .checking nofun nofun
  | announce reason =>
      exact (h.raise reason).setReceiver hopen .stopping
        (fun _ => DisconnectSignal.raised_raise session.signal reason) nofun
  | stop hreceiver =>
      exact (h.halt (h.receiverStopping hreceiver)).setReceiver hopen .leaving nofun fun _ => rfl
  | finish hreceiver =>
      have hstop := h.receiverLeaving (Or.inl hreceiver)
      exact (h.setReceiver hopen .finished nofun fun _ => hstop).endReceiver rfl

theorem monitorStep (h : session.Orderly) {beat : Beat} {now : UInt64}
    (hstep : session.monitorStep beat now = some (next, events)) : next.Orderly := by
  cases monitorStep_move hstep with
  | goOn | quit | findOverdue | findFault | send | rest => exact h.setMonitor _ nofun
  | announce reason =>
      exact (h.raise reason).setMonitor .stopping
        fun _ => DisconnectSignal.raised_raise session.signal reason
  | stop hmonitor => exact (h.halt (h.monitorStopping hmonitor)).setMonitor .finished nofun

theorem gapFillerStep (h : session.Orderly) {reply : GapReply}
    (hstep : session.gapFillerStep reply = some (next, events)) : next.Orderly := by
  have hopen : session.gapFiller ≠ .finished :=
    mt gapFillerStep_eq_none.2 (Option.ne_none_iff_exists'.2 ⟨_, hstep⟩)
  cases gapFillerStep_move hstep with
  | goOn | quit | findNone | endStoring => exact h.setGapFiller hopen _
  | take request requests =>
      have htaken : { session with requests }.Orderly := { h with }
      exact htaken.setGapFiller hopen (.asking request)
  | ask request =>
      cases reply with
      | ok packets =>
          have hcounted (change : Counters → Counters) : (session.count change).Orderly := { h with }
          exact (hcounted _).setGapFiller hopen _
      | error e => exact h.setGapFiller hopen _
  | drop packet rest =>
      have hdropped : session.countDrop.Orderly := { h with }
      exact hdropped.setGapFiller hopen (.storing rest)
  | store packet rest recovered =>
      exact (h.setRecovered hopen recovered).setGapFiller hopen (.storing rest)
  | finish => exact (h.setGapFiller hopen .finished).endGapFiller rfl

theorem handle (h : session.Orderly) (lane : Lane) (packet : Bytes) (time : UInt64) :
    (session.handle lane packet time).1.Orderly := by
  rcases session.handle_cases lane packet time with ⟨processor, messages, hhandle⟩ |
    ⟨done, -, hhandle⟩
  · rw [hhandle]
    exact { h with
      closed := fun _ => Or.inr rfl
      checking := nofun
      last := nofun
      drainedPackets := nofun
      drainedAll := nofun }
  · rw [hhandle]
    exact { h with }

theorem handleInHand (h : session.Orderly) (now : Nat) (taken : PacketInHand) :
    (session.handleInHand now taken).1.Orderly := by
  have hlaid : { session with inHand := none }.Orderly :=
    { h with drainedAll := fun hdrained => ⟨(h.drainedAll hdrained).1, rfl⟩ }
  cases taken with
  | direct packet time =>
      have hfreed : { session with inHand := none }.freeBuffer.Orderly := { hlaid with }
      exact hfreed.handle .direct packet time
  | recovered packet => exact hlaid.handle .recovered packet (UInt64.ofNat now)

/-- A packet of the receiver is taken where more may be waiting. -/
theorem takePacket (h : session.Orderly) (hundrained : session.processing.hasDrainedPackets = false)
    (packets : BoundedQueue (Bytes × UInt64)) (inHand : Option PacketInHand) :
    { session with packets, inHand }.Orderly := by
  have hpackets : ¬session.processing.hasDrainedPackets = true := ne_true_of_eq_false hundrained
  exact { h with
    drainedPackets := fun hdrained => absurd hdrained hpackets
    drainedAll := fun hdrained =>
      absurd (ProcessingStage.hasDrainedPackets_of_hasDrainedAll hdrained) hpackets }

/-- A packet of the gap filler is taken where more may be waiting. -/
theorem takeRecovered (h : session.Orderly) (hundrained : session.processing.hasDrainedAll = false)
    (recovered : BoundedQueue Bytes) (inHand : Option PacketInHand) :
    { session with recovered, inHand }.Orderly :=
  { h with drainedAll := fun hdrained => absurd hdrained (ne_true_of_eq_false hundrained) }

theorem proceed (h : session.Orderly) {now : Nat} (hinHand : session.inHand = none)
    (hstep : session.proceed now = some (next, events)) : next.Orderly := by
  have hopen : session.closing ≠ .closed :=
    mt h.closed (mt proceed_eq_none.2 (Option.ne_none_iff_exists'.2 ⟨_, hstep⟩))
  cases proceed_move hstep with
  | endPackets | endRecovered | goRound => exact h.setEarly hopen _ nofun rfl
  | takePacket left packet time packets =>
      exact (h.setEarly hopen (.packets left) nofun rfl).takePacket rfl packets _
  | takeRecovered left packet recovered =>
      exact (h.setEarly hopen (.recovered left) nofun rfl).takeRecovered rfl recovered _
  | poll =>
      have hpolled := h.setEarly hopen .checkingReceiver nofun rfl
      exact { hpolled with }
  | seeReceiverDone _ hdone => exact h.setEarly hopen .checkingGapFiller (fun _ => hdone) rfl
  | seeGapFillerDone hprocessing hdone =>
      have hreceiver := h.checking hprocessing
      exact h.setProcessing hopen _ nofun (fun _ => ⟨hreceiver, hdone⟩) nofun nofun
  | drainPacket worked packet time packets hprocessing =>
      have hlast := h.last (hprocessing ▸ rfl)
      exact (h.setProcessing hopen (.drainingPackets true) nofun (fun _ => hlast) nofun
        nofun).takePacket rfl packets _
  | endDrainPackets worked hprocessing hnone =>
      have hlast := h.last (hprocessing ▸ rfl)
      exact h.setProcessing hopen _ nofun (fun _ => hlast) (fun _ => hnone) nofun
  | drainRecovered worked packet recovered hprocessing =>
      have hlast := h.last (hprocessing ▸ rfl)
      have hpackets := h.drainedPackets (hprocessing ▸ rfl)
      exact (h.setProcessing hopen (.drainingRecovered true) nofun (fun _ => hlast)
        (fun _ => hpackets) nofun).takeRecovered rfl recovered _
  | drainAgain hprocessing =>
      have hlast := h.last (hprocessing ▸ rfl)
      exact h.setProcessing hopen _ nofun (fun _ => hlast) nofun nofun
  | endDrain hprocessing hnone =>
      have hlast := h.last (hprocessing ▸ rfl)
      have hpackets := h.drainedPackets (hprocessing ▸ rfl)
      exact h.setProcessing hopen .notifying nofun (fun _ => hlast) (fun _ => hpackets)
        fun _ => ⟨hnone, hinHand⟩
  | notify hprocessing =>
      have hlast := h.last (hprocessing ▸ rfl)
      have hpackets := h.drainedPackets (hprocessing ▸ rfl)
      have hall := h.drainedAll (hprocessing ▸ rfl)
      have hfinished := h.setProcessing hopen .finished nofun (fun _ => hlast) (fun _ => hpackets)
        fun _ => hall
      exact { hfinished with }

theorem processingStep (h : session.Orderly) {now : Nat}
    (hstep : session.processingStep now = some (next, events)) : next.Orderly := by
  rcases processingStep_cases hstep with ⟨taken, -, hhandled⟩ | ⟨hinHand, hproceed⟩
  · have hkept := h.handleInHand now taken
    rw [hhandled] at hkept
    exact hkept
  · exact h.proceed hinHand hproceed

theorem closingStep (h : session.Orderly) {reason : String}
    (hstep : session.closingStep reason = some (next, events)) : next.Orderly := by
  cases closingStep_move hstep with
  | begin =>
      exact (h.raise reason).setClosing .stopping
        (fun _ => DisconnectSignal.raised_raise session.signal reason) nofun nofun nofun
  | stop hclosing =>
      exact (h.halt (h.closingStopping hclosing)).setClosing .awaitingReceiver nofun nofun nofun nofun
  | meetReceiver _ hended =>
      exact h.setClosing .awaitingMonitor nofun (fun _ => hended) nofun nofun
  | meetMonitor hclosing =>
      exact h.setClosing .releasingReceiver nofun (fun _ => h.closingReceiver (Or.inl hclosing)) nofun
        nofun
  | releaseReceiver hclosing =>
      exact (h.endReceiver (h.closingReceiver (Or.inr hclosing))).setClosing .awaitingGapFiller nofun
        nofun nofun nofun
  | meetGapFiller _ hended =>
      exact h.setClosing .releasingGapFiller nofun nofun (fun _ => hended) nofun
  | releaseGapFiller hclosing =>
      exact (h.endGapFiller (h.closingGapFiller hclosing)).setClosing .awaitingProcessing nofun nofun
        nofun nofun
  | meetProcessing _ hended => exact h.setClosing .closed nofun nofun nofun fun _ => hended

theorem step (h : session.Orderly) {action : SessionAction}
    (hstep : session.step action = some (next, events)) : next.Orderly := by
  cases action with
  | work action =>
      cases action with
      | receive arrival now => exact h.receiverStep hstep
      | monitor beat now => exact h.monitorStep hstep
      | fillGap reply => exact h.gapFillerStep hstep
      | process now => exact h.processingStep hstep
  | close reason => exact h.closingStep hstep
  | choose call =>
      cases hstep
      exact { h with }

theorem ofUntouched (h : session.Untouched) : session.Orderly where
  stop hstop := by rw [h.stop] at hstop; cases hstop
  receiverStopping hreceiver := by rw [h.receiver] at hreceiver; cases hreceiver
  receiverLeaving hreceiver := by rw [h.receiver] at hreceiver; rcases hreceiver with h | h <;> cases h
  receiverDone hdone := by rw [h.receiverDone] at hdone; cases hdone
  monitorStopping hmonitor := by
    rcases h.monitor with hchecking | hfinished
    · rw [hchecking] at hmonitor; cases hmonitor
    · rw [hfinished] at hmonitor; cases hmonitor
  gapFillerDone := h.gapFillerDone
  closingStopping hclosing := by rw [h.closing] at hclosing; cases hclosing
  closingReceiver hclosing := by rw [h.closing] at hclosing; rcases hclosing with h | h <;> cases h
  closingGapFiller hclosing := by rw [h.closing] at hclosing; cases hclosing
  closed hclosing := by rw [h.closing] at hclosing; cases hclosing
  checking hprocessing := by rw [h.processing] at hprocessing; cases hprocessing
  last hlast := by rw [h.processing] at hlast; cases hlast
  drainedPackets _ := h.packets
  drainedAll _ := ⟨h.recovered, h.inHand⟩

/-- Nobody but the monitor and whoever closes the session goes on once the notice has been given. -/
theorem ended (h : session.Orderly) (hfinished : session.processing = .finished) :
    session.receiver = .finished ∧ session.gapFiller = .finished ∧ session.inHand = none := by
  obtain ⟨hreceiver, hgapFiller⟩ := h.last (hfinished ▸ rfl)
  exact ⟨h.receiverDone hreceiver, h.gapFillerDone hgapFiller, (h.drainedAll (hfinished ▸ rfl)).2⟩

theorem raised_of_last (h : session.Orderly) (hlast : session.processing.isLast = true) :
    session.signal.raised = true :=
  h.stop (h.receiverLeaving (Or.inr (h.receiverDone (h.last hlast).1)))

end Orderly

/-- What every step keeps, together with the history, holds after every run. -/
theorem run_keeps {P : Session → List SessionEvent → Prop}
    (hkeeps : ∀ {session next events later action}, P session events →
      session.step action = some (next, later) → P next (events ++ later))
    {session : Session} (events : List SessionEvent) (h : P session events)
    (actions : List SessionAction) :
    P (session.run actions).1 (events ++ (session.run actions).2) := by
  induction actions generalizing session events with
  | nil =>
      rw [run, List.append_nil]
      exact h
  | cons action actions ih =>
      rw [run, ← List.append_assoc]
      refine ih _ ?_
      unfold perform
      cases hstep : session.step action with
      | none =>
          rw [Option.getD_none, List.append_nil]
          exact h
      | some outcome => exact hkeeps h hstep

theorem Orderly.run {session : Session} (h : session.Orderly) (actions : List SessionAction) :
    (session.run actions).1.Orderly :=
  run_keeps (fun h hstep => Orderly.step h hstep) [] h actions

end Session

end MarketFeed
