import MarketFeed.SessionStep

/-! What each party of a session can do. A step of a party is one of its moves, and a move tells what
the party has seen when it makes it. Everything else that is said of steps is said move by move. -/

namespace MarketFeed

namespace BoundedQueue

variable {α : Type} {queue next : BoundedQueue α} {item : α}

theorem items_of_push? (hpush : queue.push? item = some next) : next.items = queue.items ++ [item] := by
  obtain ⟨-, hnext⟩ := Option.ite_none_left_eq_some.1 hpush
  cases hnext
  rfl

theorem items_of_pop? (hpop : queue.pop? = some (item, next)) : queue.items = item :: next.items := by
  unfold pop? at hpop
  cases hitems : queue.items with
  | nil =>
      rw [hitems] at hpop
      cases hpop
  | cons first rest =>
      rw [hitems] at hpop
      cases hpop
      rfl

theorem items_of_pop?_eq_none (hpop : queue.pop? = none) : queue.items = [] := by
  unfold pop? at hpop
  cases hitems : queue.items with
  | nil => rfl
  | cons first rest =>
      rw [hitems] at hpop
      cases hpop

end BoundedQueue

namespace Session

variable {session next : Session} {events : List SessionEvent}

/-- What the receiver can do. -/
inductive ReceiverMove (session : Session) (arrival : Arrival) (now : UInt64) :
    Session → List SessionEvent → Prop where
  | goOn (hreceiver : session.receiver = .checking) (hstop : session.stop = false) :
      ReceiverMove session arrival now { session with receiver := .takingBuffer } []
  | quit (hreceiver : session.receiver = .checking) (hstop : session.stop = true) :
      ReceiverMove session arrival now { session with receiver := .leaving } []
  | lackBuffer (hreceiver : session.receiver = .takingBuffer) (hfree : session.freeBuffers = 0) :
      ReceiverMove session arrival now { session with receiver := .listening false } []
  | takeBuffer (hreceiver : session.receiver = .takingBuffer) (hfree : session.freeBuffers ≠ 0) :
      ReceiverMove session arrival now
        { session with freeBuffers := session.freeBuffers - 1, receiver := .listening true } []
  | listen (hasBuffer : Bool) (hreceiver : session.receiver = .listening hasBuffer) :
      ReceiverMove session arrival now (session.takeArrival hasBuffer now arrival) []
  | dropAtStop (packet : Bytes) (time : UInt64) (hreceiver : session.receiver = .received packet time)
      (hstop : session.stop = true) :
      ReceiverMove session arrival now { session.countDrop.freeBuffer with receiver := .checking } []
  | keep (packet : Bytes) (time : UInt64) (hreceiver : session.receiver = .received packet time)
      (hstop : session.stop = false) :
      ReceiverMove session arrival now { session with receiver := .storing packet time } []
  | dropOverfull (packet : Bytes) (time : UInt64)
      (hreceiver : session.receiver = .storing packet time)
      (hpush : session.packets.push? (packet, time) = none) :
      ReceiverMove session arrival now { session.countDrop.freeBuffer with receiver := .checking } []
  | store (packet : Bytes) (time : UInt64) (packets : BoundedQueue (Bytes × UInt64))
      (hreceiver : session.receiver = .storing packet time)
      (hpush : session.packets.push? (packet, time) = some packets) :
      ReceiverMove session arrival now { session with packets, receiver := .checking }
        [.stored .direct packet]
  | giveUp (reason : String) (hreceiver : session.receiver = .failing reason)
      (hstop : session.stop = true) :
      ReceiverMove session arrival now { session with receiver := .leaving } []
  | report (reason : String) (hreceiver : session.receiver = .failing reason)
      (hstop : session.stop = false) :
      ReceiverMove session arrival now { session with receiver := .announcing reason } []
  | announce (reason : String) (hreceiver : session.receiver = .announcing reason) :
      ReceiverMove session arrival now
        { session with signal := session.signal.raise reason, receiver := .stopping }
        [.raised reason]
  | stop (hreceiver : session.receiver = .stopping) :
      ReceiverMove session arrival now { session with stop := true, receiver := .leaving } []
  | finish (hreceiver : session.receiver = .leaving) :
      ReceiverMove session arrival now { session with receiverDone := true, receiver := .finished } []

theorem receiverStep_move {arrival : Arrival} {now : UInt64}
    (hstep : session.receiverStep arrival now = some (next, events)) :
    session.ReceiverMove arrival now next events := by
  unfold receiverStep at hstep
  cases hreceiver : session.receiver with
  | checking =>
      rw [hreceiver] at hstep
      cases hstep
      split
      · rename_i hstop
        exact .quit hreceiver hstop
      · rename_i hstop
        exact .goOn hreceiver (eq_false_of_ne_true hstop)
  | takingBuffer =>
      rw [hreceiver] at hstep
      cases hstep
      split
      · rename_i hfree
        exact .lackBuffer hreceiver hfree
      · rename_i hfree
        exact .takeBuffer hreceiver hfree
  | listening hasBuffer =>
      rw [hreceiver] at hstep
      cases hstep
      exact .listen hasBuffer hreceiver
  | received packet time =>
      rw [hreceiver] at hstep
      cases hstep
      split
      · rename_i hstop
        exact .dropAtStop packet time hreceiver hstop
      · rename_i hstop
        exact .keep packet time hreceiver (eq_false_of_ne_true hstop)
  | storing packet time =>
      rw [hreceiver] at hstep
      simp only at hstep
      split at hstep
      · rename_i packets hpush
        cases hstep
        exact .store packet time packets hreceiver hpush
      · rename_i hpush
        cases hstep
        exact .dropOverfull packet time hreceiver hpush
  | failing reason =>
      rw [hreceiver] at hstep
      cases hstep
      split
      · rename_i hstop
        exact .giveUp reason hreceiver hstop
      · rename_i hstop
        exact .report reason hreceiver (eq_false_of_ne_true hstop)
  | announcing reason =>
      rw [hreceiver] at hstep
      cases hstep
      exact .announce reason hreceiver
  | stopping =>
      rw [hreceiver] at hstep
      cases hstep
      exact .stop hreceiver
  | leaving =>
      rw [hreceiver] at hstep
      cases hstep
      exact .finish hreceiver
  | finished =>
      rw [hreceiver] at hstep
      cases hstep

theorem receiverStep_eq_none {arrival : Arrival} {now : UInt64} :
    session.receiverStep arrival now = none ↔ session.receiver = .finished := by
  unfold receiverStep
  cases session.receiver with
  | finished => exact iff_of_true rfl rfl
  | storing packet time =>
      simp only
      split <;> exact iff_of_false nofun nofun
  | _ => exact iff_of_false nofun nofun

/-- What the monitor can do. -/
inductive MonitorMove (session : Session) (beat : Beat) (now : UInt64) :
    Session → List SessionEvent → Prop where
  | goOn (hmonitor : session.monitor = .checking) (hstop : session.stop = false) :
      MonitorMove session beat now { session with monitor := .sleeping } []
  | quit (hmonitor : session.monitor = .checking) (hstop : session.stop = true) :
      MonitorMove session beat now { session with monitor := .finished } []
  | findOverdue (hmonitor : session.monitor = .sleeping)
      (hoverdue : session.heartbeat.isOverdue session.lastActivity now = true) :
      MonitorMove session beat now { session with monitor := .announcing "heartbeat timeout" } []
  | findFault (fault : TransportFault) (hmonitor : session.monitor = .sleeping)
      (hsends : session.heartbeat.sends = true) (hbeat : beat = .failing fault) :
      MonitorMove session beat now
        { session with monitor := .announcing ("heartbeat send failed: " ++ fault.message) } []
  | send (hmonitor : session.monitor = .sleeping) (hsends : session.heartbeat.sends = true)
      (hbeat : beat = .due) :
      MonitorMove session beat now { session with monitor := .checking } [.sent (heartbeatPacket now)]
  | rest (hmonitor : session.monitor = .sleeping)
      (hbeat : session.heartbeat.sends = false ∨ beat = .notDue) :
      MonitorMove session beat now { session with monitor := .checking } []
  | announce (reason : String) (hmonitor : session.monitor = .announcing reason) :
      MonitorMove session beat now
        { session with signal := session.signal.raise reason, monitor := .stopping }
        [.raised reason]
  | stop (hmonitor : session.monitor = .stopping) :
      MonitorMove session beat now { session with stop := true, monitor := .finished } []

theorem wakeMonitor_move {beat : Beat} {now : UInt64} (hmonitor : session.monitor = .sleeping)
    (hwake : session.wakeMonitor beat now = (next, events)) :
    session.MonitorMove beat now next events := by
  unfold wakeMonitor at hwake
  split at hwake
  · rename_i hoverdue
    cases hwake
    exact .findOverdue hmonitor hoverdue
  · cases hsends : session.heartbeat.sends with
    | false =>
        rw [hsends] at hwake
        cases hwake
        exact .rest hmonitor (Or.inl hsends)
    | true =>
        rw [hsends] at hwake
        cases beat with
        | notDue =>
            cases hwake
            exact .rest hmonitor (Or.inr rfl)
        | due =>
            cases hwake
            exact .send hmonitor hsends rfl
        | failing fault =>
            cases hwake
            exact .findFault fault hmonitor hsends rfl

theorem monitorStep_move {beat : Beat} {now : UInt64}
    (hstep : session.monitorStep beat now = some (next, events)) :
    session.MonitorMove beat now next events := by
  unfold monitorStep at hstep
  cases hmonitor : session.monitor with
  | checking =>
      rw [hmonitor] at hstep
      cases hstep
      split
      · rename_i hstop
        exact .quit hmonitor hstop
      · rename_i hstop
        exact .goOn hmonitor (eq_false_of_ne_true hstop)
  | sleeping =>
      rw [hmonitor] at hstep
      exact wakeMonitor_move hmonitor (Option.some.inj hstep)
  | announcing reason =>
      rw [hmonitor] at hstep
      cases hstep
      exact .announce reason hmonitor
  | stopping =>
      rw [hmonitor] at hstep
      cases hstep
      exact .stop hmonitor
  | finished =>
      rw [hmonitor] at hstep
      cases hstep

theorem monitorStep_eq_none {beat : Beat} {now : UInt64} :
    session.monitorStep beat now = none ↔ session.monitor = .finished := by
  unfold monitorStep
  cases session.monitor with
  | finished => exact iff_of_true rfl rfl
  | _ => exact iff_of_false nofun nofun

/-- What the gap filler can do. -/
inductive GapFillerMove (session : Session) (reply : GapReply) :
    Session → List SessionEvent → Prop where
  | goOn (hgapFiller : session.gapFiller = .checking) (hstop : session.stop = false) :
      GapFillerMove session reply { session with gapFiller := .taking } []
  | quit (hgapFiller : session.gapFiller = .checking) (hstop : session.stop = true) :
      GapFillerMove session reply { session with gapFiller := .leaving } []
  | findNone (hgapFiller : session.gapFiller = .taking) (hpop : session.requests.pop? = none) :
      GapFillerMove session reply { session with gapFiller := .checking } []
  | take (request : GapRequest) (requests : BoundedQueue GapRequest)
      (hgapFiller : session.gapFiller = .taking)
      (hpop : session.requests.pop? = some (request, requests)) :
      GapFillerMove session reply { session with requests, gapFiller := .asking request } []
  | ask (request : GapRequest) (hgapFiller : session.gapFiller = .asking request) :
      GapFillerMove session reply (session.takeReply reply) [.asked session.source request]
  | endStoring (hgapFiller : session.gapFiller = .storing []) :
      GapFillerMove session reply { session with gapFiller := .checking } []
  | drop (packet : Bytes) (rest : List Bytes) (hgapFiller : session.gapFiller = .storing (packet :: rest))
      (hpush : session.recovered.push? packet = none) :
      GapFillerMove session reply { session.countDrop with gapFiller := .storing rest } []
  | store (packet : Bytes) (rest : List Bytes) (recovered : BoundedQueue Bytes)
      (hgapFiller : session.gapFiller = .storing (packet :: rest))
      (hpush : session.recovered.push? packet = some recovered) :
      GapFillerMove session reply { session with recovered, gapFiller := .storing rest }
        [.stored .recovered packet]
  | finish (hgapFiller : session.gapFiller = .leaving) :
      GapFillerMove session reply { session with gapFillerDone := true, gapFiller := .finished } []

theorem gapFillerStep_move {reply : GapReply}
    (hstep : session.gapFillerStep reply = some (next, events)) :
    session.GapFillerMove reply next events := by
  unfold gapFillerStep at hstep
  cases hgapFiller : session.gapFiller with
  | checking =>
      rw [hgapFiller] at hstep
      cases hstep
      split
      · rename_i hstop
        exact .quit hgapFiller hstop
      · rename_i hstop
        exact .goOn hgapFiller (eq_false_of_ne_true hstop)
  | taking =>
      rw [hgapFiller] at hstep
      cases hstep
      cases hpop : session.requests.pop? with
      | none => exact .findNone hgapFiller hpop
      | some popped => exact .take popped.1 popped.2 hgapFiller hpop
  | asking request =>
      rw [hgapFiller] at hstep
      cases hstep
      exact .ask request hgapFiller
  | storing packets =>
      rw [hgapFiller] at hstep
      cases packets with
      | nil =>
          cases hstep
          exact .endStoring hgapFiller
      | cons packet rest =>
          simp only at hstep
          split at hstep
          · rename_i recovered hpush
            cases hstep
            exact .store packet rest recovered hgapFiller hpush
          · rename_i hpush
            cases hstep
            exact .drop packet rest hgapFiller hpush
  | leaving =>
      rw [hgapFiller] at hstep
      cases hstep
      exact .finish hgapFiller
  | finished =>
      rw [hgapFiller] at hstep
      cases hstep

theorem gapFillerStep_eq_none {reply : GapReply} :
    session.gapFillerStep reply = none ↔ session.gapFiller = .finished := by
  unfold gapFillerStep
  cases session.gapFiller with
  | finished => exact iff_of_true rfl rfl
  | storing packets =>
      cases packets with
      | nil => exact iff_of_false nofun nofun
      | cons packet rest =>
          simp only
          split <;> exact iff_of_false nofun nofun
  | _ => exact iff_of_false nofun nofun

/-- What the processing worker can do with nothing in hand. -/
inductive ProcessingMove (session : Session) (now : Nat) : Session → List SessionEvent → Prop where
  | endPackets (left : Nat) (hprocessing : session.processing = .packets left)
      (hnone : left = 0 ∨ session.packets.items = []) :
      ProcessingMove session now { session with processing := .recovered batchSize } []
  | takePacket (left : Nat) (packet : Bytes) (time : UInt64)
      (packets : BoundedQueue (Bytes × UInt64)) (hprocessing : session.processing = .packets (left + 1))
      (hpop : session.packets.pop? = some ((packet, time), packets)) :
      ProcessingMove session now
        { session with packets, inHand := some (.direct packet time), processing := .packets left } []
  | endRecovered (left : Nat) (hprocessing : session.processing = .recovered left)
      (hnone : left = 0 ∨ session.recovered.items = []) :
      ProcessingMove session now { session with processing := .polling } []
  | takeRecovered (left : Nat) (packet : Bytes) (recovered : BoundedQueue Bytes)
      (hprocessing : session.processing = .recovered (left + 1))
      (hpop : session.recovered.pop? = some (packet, recovered)) :
      ProcessingMove session now
        { session with recovered, inHand := some (.recovered packet), processing := .recovered left } []
  | poll (hprocessing : session.processing = .polling) :
      ProcessingMove session now (session.pollGapFill now) []
  | goRound (stage : ProcessingStage) (hprocessing : session.processing = stage)
      (hmore : stage = .checkingReceiver ∧ session.receiverDone = false ∨
        stage = .checkingGapFiller ∧ session.gapFillerDone = false) :
      ProcessingMove session now { session with processing := .packets batchSize } []
  | seeReceiverDone (hprocessing : session.processing = .checkingReceiver)
      (hdone : session.receiverDone = true) :
      ProcessingMove session now { session with processing := .checkingGapFiller } []
  | seeGapFillerDone (hprocessing : session.processing = .checkingGapFiller)
      (hdone : session.gapFillerDone = true) :
      ProcessingMove session now { session with processing := .drainingPackets false } []
  | drainPacket (worked : Bool) (packet : Bytes) (time : UInt64)
      (packets : BoundedQueue (Bytes × UInt64))
      (hprocessing : session.processing = .drainingPackets worked)
      (hpop : session.packets.pop? = some ((packet, time), packets)) :
      ProcessingMove session now
        { session with
          packets, inHand := some (.direct packet time), processing := .drainingPackets true } []
  | endDrainPackets (worked : Bool) (hprocessing : session.processing = .drainingPackets worked)
      (hnone : session.packets.items = []) :
      ProcessingMove session now { session with processing := .drainingRecovered worked } []
  | drainRecovered (worked : Bool) (packet : Bytes) (recovered : BoundedQueue Bytes)
      (hprocessing : session.processing = .drainingRecovered worked)
      (hpop : session.recovered.pop? = some (packet, recovered)) :
      ProcessingMove session now
        { session with
          recovered, inHand := some (.recovered packet), processing := .drainingRecovered true } []
  | drainAgain (hprocessing : session.processing = .drainingRecovered true)
      (hnone : session.recovered.items = []) :
      ProcessingMove session now { session with processing := .drainingPackets false } []
  | endDrain (hprocessing : session.processing = .drainingRecovered false)
      (hnone : session.recovered.items = []) :
      ProcessingMove session now { session with processing := .notifying } []
  | notify (hprocessing : session.processing = .notifying) :
      ProcessingMove session now session.notify.1 session.notify.2

theorem takeDirect_cases (session : Session) (stage empty : ProcessingStage) :
    (session.packets.items = [] ∧
      session.takeDirect stage empty = { session with processing := empty }) ∨
    ∃ packet time packets, session.packets.pop? = some ((packet, time), packets) ∧
      session.takeDirect stage empty =
        { session with packets, inHand := some (.direct packet time), processing := stage } := by
  unfold takeDirect
  cases hpop : session.packets.pop? with
  | none => exact Or.inl ⟨BoundedQueue.items_of_pop?_eq_none hpop, rfl⟩
  | some popped => exact Or.inr ⟨_, _, _, rfl, rfl⟩

theorem takeRecovered_cases (session : Session) (stage empty : ProcessingStage) :
    (session.recovered.items = [] ∧
      session.takeRecovered stage empty = { session with processing := empty }) ∨
    ∃ packet recovered, session.recovered.pop? = some (packet, recovered) ∧
      session.takeRecovered stage empty =
        { session with recovered, inHand := some (.recovered packet), processing := stage } := by
  unfold takeRecovered
  cases hpop : session.recovered.pop? with
  | none => exact Or.inl ⟨BoundedQueue.items_of_pop?_eq_none hpop, rfl⟩
  | some popped => exact Or.inr ⟨_, _, rfl, rfl⟩

theorem proceed_move {now : Nat} (hstep : session.proceed now = some (next, events)) :
    session.ProcessingMove now next events := by
  unfold proceed at hstep
  cases hprocessing : session.processing with
  | packets left =>
      rw [hprocessing] at hstep
      cases left with
      | zero =>
          cases hstep
          exact .endPackets 0 hprocessing (Or.inl rfl)
      | succ left =>
          cases hstep
          rcases session.takeDirect_cases (.packets left) (.recovered batchSize) with
            ⟨hnone, htaken⟩ | ⟨packet, time, packets, hpop, htaken⟩
          · rw [htaken]
            exact .endPackets _ hprocessing (Or.inr hnone)
          · rw [htaken]
            exact .takePacket left packet time packets hprocessing hpop
  | recovered left =>
      rw [hprocessing] at hstep
      cases left with
      | zero =>
          cases hstep
          exact .endRecovered 0 hprocessing (Or.inl rfl)
      | succ left =>
          cases hstep
          rcases session.takeRecovered_cases (.recovered left) .polling with
            ⟨hnone, htaken⟩ | ⟨packet, recovered, hpop, htaken⟩
          · rw [htaken]
            exact .endRecovered _ hprocessing (Or.inr hnone)
          · rw [htaken]
            exact .takeRecovered left packet recovered hprocessing hpop
  | polling =>
      rw [hprocessing] at hstep
      cases hstep
      exact .poll hprocessing
  | checkingReceiver =>
      rw [hprocessing] at hstep
      cases hstep
      split
      · rename_i hdone
        exact .seeReceiverDone hprocessing hdone
      · rename_i hdone
        exact .goRound _ hprocessing (Or.inl ⟨rfl, eq_false_of_ne_true hdone⟩)
  | checkingGapFiller =>
      rw [hprocessing] at hstep
      cases hstep
      split
      · rename_i hdone
        exact .seeGapFillerDone hprocessing hdone
      · rename_i hdone
        exact .goRound _ hprocessing (Or.inr ⟨rfl, eq_false_of_ne_true hdone⟩)
  | drainingPackets worked =>
      rw [hprocessing] at hstep
      cases hstep
      rcases session.takeDirect_cases (.drainingPackets true) (.drainingRecovered worked) with
        ⟨hnone, htaken⟩ | ⟨packet, time, packets, hpop, htaken⟩
      · rw [htaken]
        exact .endDrainPackets worked hprocessing hnone
      · rw [htaken]
        exact .drainPacket worked packet time packets hprocessing hpop
  | drainingRecovered worked =>
      rw [hprocessing] at hstep
      cases hstep
      rcases session.takeRecovered_cases (.drainingRecovered true)
        (if worked then .drainingPackets false else .notifying) with
        ⟨hnone, htaken⟩ | ⟨packet, recovered, hpop, htaken⟩
      · rw [htaken]
        cases worked with
        | true => exact .drainAgain hprocessing hnone
        | false => exact .endDrain hprocessing hnone
      · rw [htaken]
        exact .drainRecovered worked packet recovered hprocessing hpop
  | notifying =>
      rw [hprocessing] at hstep
      cases hstep
      exact .notify hprocessing
  | finished | lost =>
      rw [hprocessing] at hstep
      cases hstep

/-- A packet in hand comes first. -/
theorem processingStep_cases {now : Nat}
    (hstep : session.processingStep now = some (next, events)) :
    (∃ taken, session.inHand = some taken ∧ session.handleInHand now taken = (next, events)) ∨
      session.inHand = none ∧ session.proceed now = some (next, events) := by
  unfold processingStep at hstep
  cases hinHand : session.inHand with
  | none =>
      rw [hinHand] at hstep
      exact Or.inr ⟨rfl, hstep⟩
  | some taken =>
      rw [hinHand] at hstep
      exact Or.inl ⟨taken, rfl, Option.some.inj hstep⟩

theorem proceed_eq_none {now : Nat} :
    session.proceed now = none ↔ session.processing = .finished ∨ session.processing = .lost := by
  unfold proceed
  split
  case h_11 hfinished => exact iff_of_true rfl (Or.inl hfinished)
  case h_12 hlost => exact iff_of_true rfl (Or.inr hlost)
  all_goals
    rename_i hprocessing
    rw [hprocessing]
    exact iff_of_false nofun (by rintro (h | h) <;> cases h)

/-- Either the worker is lost over a packet, or it processes it. -/
theorem handle_cases (session : Session) (lane : Lane) (packet : Bytes) (time : UInt64) :
    (∃ processor messages, session.handle lane packet time =
      ({ session with processor, processing := .lost }, tell messages)) ∨
    ∃ done, session.processor.process packet time = .ok done ∧
      session.handle lane packet time = ({ session with processor := done.processor },
        tell done.delivered ++ [.processed lane packet done.result.isOk]) := by
  unfold handle
  split
  · rename_i done _ hprocess
    exact Or.inr ⟨done, hprocess, rfl⟩
  · exact Or.inl ⟨_, _, rfl⟩

/-- What whoever closes the session can do. -/
inductive ClosingMove (session : Session) (reason : String) :
    Session → List SessionEvent → Prop where
  | begin (hclosing : session.closing = .notBegun) :
      ClosingMove session reason
        { session with signal := session.signal.raise reason, closing := .stopping }
        [.raised reason]
  | stop (hclosing : session.closing = .stopping) :
      ClosingMove session reason { session with stop := true, closing := .awaitingReceiver } []
  | meetReceiver (hclosing : session.closing = .awaitingReceiver)
      (hended : session.receiver = .finished) :
      ClosingMove session reason { session with closing := .awaitingMonitor } []
  | meetMonitor (hclosing : session.closing = .awaitingMonitor) (hended : session.monitor = .finished) :
      ClosingMove session reason { session with closing := .releasingReceiver } []
  | releaseReceiver (hclosing : session.closing = .releasingReceiver) :
      ClosingMove session reason
        { session with receiverDone := true, closing := .awaitingGapFiller } []
  | meetGapFiller (hclosing : session.closing = .awaitingGapFiller)
      (hended : session.gapFiller = .finished) :
      ClosingMove session reason { session with closing := .releasingGapFiller } []
  | releaseGapFiller (hclosing : session.closing = .releasingGapFiller) :
      ClosingMove session reason
        { session with gapFillerDone := true, closing := .awaitingProcessing } []
  | meetProcessing (hclosing : session.closing = .awaitingProcessing)
      (hended : session.processing = .finished ∨ session.processing = .lost) :
      ClosingMove session reason { session with closing := .closed } []

theorem closingStep_move {reason : String}
    (hstep : session.closingStep reason = some (next, events)) :
    session.ClosingMove reason next events := by
  unfold closingStep at hstep
  cases hclosing : session.closing with
  | notBegun =>
      rw [hclosing] at hstep
      cases hstep
      exact .begin hclosing
  | stopping =>
      rw [hclosing] at hstep
      cases hstep
      exact .stop hclosing
  | awaitingReceiver =>
      rw [hclosing] at hstep
      obtain ⟨hended, hnext⟩ := Option.ite_none_right_eq_some.1 hstep
      cases hnext
      exact .meetReceiver hclosing hended
  | awaitingMonitor =>
      rw [hclosing] at hstep
      obtain ⟨hended, hnext⟩ := Option.ite_none_right_eq_some.1 hstep
      cases hnext
      exact .meetMonitor hclosing hended
  | releasingReceiver =>
      rw [hclosing] at hstep
      cases hstep
      exact .releaseReceiver hclosing
  | awaitingGapFiller =>
      rw [hclosing] at hstep
      obtain ⟨hended, hnext⟩ := Option.ite_none_right_eq_some.1 hstep
      cases hnext
      exact .meetGapFiller hclosing hended
  | releasingGapFiller =>
      rw [hclosing] at hstep
      cases hstep
      exact .releaseGapFiller hclosing
  | awaitingProcessing =>
      rw [hclosing] at hstep
      obtain ⟨hended, hnext⟩ := Option.ite_none_right_eq_some.1 hstep
      cases hnext
      exact .meetProcessing hclosing hended
  | closed =>
      rw [hclosing] at hstep
      cases hstep

end Session

end MarketFeed
