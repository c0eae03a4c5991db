import MarketFeed.Proofs.SessionNotice

/-! Closing a session comes to an end. Once a session has been stopped, the receiver, the monitor and
the gap filler have few steps left, and once they are done, each step of the processing worker uses up
something of what is waiting. -/

namespace MarketFeed

/-- The steps left to the receiver of a stopped session, at most, when nothing comes in. -/
def ReceiverStage.stepsLeft : ReceiverStage → Nat
  | .takingBuffer => 4
  | .listening _ | .received _ _ | .storing _ _ | .announcing _ => 3
  | .checking | .failing _ | .stopping => 2
  | .leaving => 1
  | .finished => 0

/-- The steps left to the monitor of a stopped session, at most, before the silence is too long. -/
def MonitorStage.stepsLeft : MonitorStage → Nat
  | .sleeping | .announcing _ => 2
  | .checking | .stopping => 1
  | .finished => 0

/-- The steps left to the gap filler of a stopped session, at most, when requests are turned down. -/
def GapFillerStage.stepsLeft : GapFillerStage → Nat
  | .taking => 4
  | .asking _ => 3
  | .storing packets => packets.length + 3
  | .checking => 2
  | .leaving => 1
  | .finished => 0

/-- The steps left to the processing worker, at most, when nothing is waiting and nothing more can
come. -/
def ProcessingStage.stepsLeft : ProcessingStage → Nat
  | .packets _ => 8
  | .recovered _ => 7
  | .polling => 6
  | .checkingReceiver => 5
  | .checkingGapFiller => 4
  | .drainingPackets worked => if worked then 5 else 3
  | .drainingRecovered worked => if worked then 4 else 2
  | .notifying => 1
  | .finished | .lost => 0

namespace Session

/-- The steps left to the processing worker, at most, when nothing more can come. Taking a packet may
send it once more through the last two queues. -/
def processingLeft (session : Session) : Nat :=
  4 * (session.packets.size + session.recovered.size) + session.inHand.elim 0 (fun _ => 1) +
    session.processing.stepsLeft

variable {session next : Session} {events : List SessionEvent}

theorem receiverStep_stopped {now : UInt64} (hstop : session.stop = true)
    (hstep : session.receiverStep .nothing now = some (next, events)) :
    next.receiver.stepsLeft < session.receiver.stepsLeft ∧ next.stop = true := by
  cases receiverStep_move hstep with
  | goOn _ hgoing | keep _ _ _ hgoing | report _ _ hgoing => cases hstop.symm.trans hgoing
  | quit hreceiver | lackBuffer hreceiver | takeBuffer hreceiver | dropAtStop _ _ hreceiver
  | dropOverfull _ _ hreceiver | store _ _ _ hreceiver | giveUp _ hreceiver | announce _ hreceiver
  | finish hreceiver =>
      rw [hreceiver]
      exact ⟨Nat.lt_add_one _, hstop⟩
  | listen hasBuffer hreceiver =>
      rw [hreceiver]
      cases hasBuffer <;> exact ⟨Nat.lt_add_one _, hstop⟩
  | stop hreceiver =>
      rw [hreceiver]
      exact ⟨Nat.lt_add_one _, rfl⟩

theorem isOverdue_self (plan : HeartbeatPlan) (now : UInt64) : plan.isOverdue now now = false := by
  refine decide_eq_false fun hless => ?_
  rw [UInt64.lt_iff_toNat_lt, toNat_saturatingSub, Nat.sub_self] at hless
  exact Nat.not_lt_zero _ hless

/-- As long as the time of the last activity is shown, the silence is not too long. -/
theorem monitorStep_stopped (hstop : session.stop = true)
    (hstep : session.monitorStep .notDue session.lastActivity = some (next, events)) :
    next.monitor.stepsLeft < session.monitor.stepsLeft ∧ next.stop = true ∧
      next.lastActivity = session.lastActivity ∧ next.receiver = session.receiver := by
  cases monitorStep_move hstep with
  | goOn _ hgoing => cases hstop.symm.trans hgoing
  | findOverdue _ hoverdue => cases (isOverdue_self _ _).symm.trans hoverdue
  | findFault _ _ _ hbeat | send _ _ hbeat => cases hbeat
  | quit hmonitor | rest hmonitor | announce _ hmonitor =>
      rw [hmonitor]
      exact ⟨Nat.lt_add_one _, hstop, rfl, rfl⟩
  | stop hmonitor =>
      rw [hmonitor]
      exact ⟨Nat.lt_add_one _, rfl, rfl, rfl⟩

theorem gapFillerStep_stopped {e : RecoveryError} (hstop : session.stop = true)
    (hstep : session.gapFillerStep (.error e) = some (next, events)) :
    next.gapFiller.stepsLeft < session.gapFiller.stepsLeft ∧ next.stop = true ∧
      next.receiverDone = session.receiverDone := by
  cases gapFillerStep_move hstep with
  | goOn _ hgoing => cases hstop.symm.trans hgoing
  | findNone hgapFiller =>
      rw [hgapFiller]
      exact ⟨Nat.lt_of_lt_of_le (Nat.lt_add_one 2) (Nat.le_succ 3), hstop, rfl⟩
  | drop packet rest hgapFiller | store packet rest recovered hgapFiller =>
      rw [hgapFiller]
      have hless : rest.length + 3 < (packet :: rest).length + 3 := Nat.lt_add_one _
      exact ⟨hless, hstop, rfl⟩
  | quit hgapFiller | take _ _ hgapFiller | ask _ hgapFiller | endStoring hgapFiller
  | finish hgapFiller =>
      rw [hgapFiller]
      exact ⟨Nat.lt_add_one _, hstop, rfl⟩

theorem handle_frame (session : Session) (lane : Lane) (packet : Bytes) (time : UInt64) :
    ∃ processor processing, (session.handle lane packet time).1 =
        { session with processor, processing } ∧
      processing.stepsLeft ≤ session.processing.stepsLeft := by
  rcases session.handle_cases lane packet time with ⟨processor, messages, hhandle⟩ |
    ⟨done, -, hhandle⟩
  · exact ⟨processor, .lost, by rw [hhandle], Nat.zero_le _⟩
  · exact ⟨done.processor, session.processing, by rw [hhandle], Nat.le_refl _⟩

theorem handleInHand_left {taken : PacketInHand} (hinHand : session.inHand = some taken) (now : Nat) :
    (session.handleInHand now taken).1.processingLeft < session.processingLeft := by
  have hless (idle : Session) (lane : Lane) (packet : Bytes) (time : UInt64)
      (hidle : idle.processingLeft + 1 = session.processingLeft) :
      (idle.handle lane packet time).1.processingLeft < session.processingLeft := by
    obtain ⟨processor, processing, hhandle, hle⟩ := idle.handle_frame lane packet time
    have hkept : (idle.handle lane packet time).1.processingLeft ≤ idle.processingLeft := by
      rw [hhandle]
      exact Nat.add_le_add_left hle _
    omega
  have hlaid : { session with inHand := none }.processingLeft + 1 = session.processingLeft := by
    rw [processingLeft, processingLeft, hinHand]
    exact Nat.add_right_comm _ _ _
  cases taken with
  | direct packet time => exact hless _ .direct packet time hlaid
  | recovered packet => exact hless _ .recovered packet (UInt64.ofNat now) hlaid

theorem takePacket_left {packet : Bytes} {time : UInt64} {packets : BoundedQueue (Bytes × UInt64)}
    {current stage : ProcessingStage} (hinHand : session.inHand = none)
    (hpop : session.packets.pop? = some ((packet, time), packets))
    (hprocessing : session.processing = current) (hstage : stage.stepsLeft ≤ current.stepsLeft + 2) :
    { session with
      packets, inHand := some (.direct packet time), processing := stage }.processingLeft <
        session.processingLeft := by
  have hsize : session.packets.size = packets.size + 1 :=
    congrArg List.length (BoundedQueue.items_of_pop? hpop)
  rw [processingLeft, processingLeft, hinHand, hprocessing, hsize]
  show 4 * (packets.size + session.recovered.size) + 1 + stage.stepsLeft < 4 * _ + 0 + _
  omega

theorem takeRecovered_left {packet : Bytes} {recovered : BoundedQueue Bytes}
    {current stage : ProcessingStage} (hinHand : session.inHand = none)
    (hpop : session.recovered.pop? = some (packet, recovered))
    (hprocessing : session.processing = current) (hstage : stage.stepsLeft ≤ current.stepsLeft + 2) :
    { session with
      recovered, inHand := some (.recovered packet), processing := stage }.processingLeft <
        session.processingLeft := by
  have hsize : session.recovered.size = recovered.size + 1 :=
    congrArg List.length (BoundedQueue.items_of_pop? hpop)
  rw [processingLeft, processingLeft, hinHand, hprocessing, hsize]
  show 4 * (session.packets.size + recovered.size) + 1 + stage.stepsLeft < 4 * _ + 0 + _
  omega

/-- When nothing more can come, every step of the processing worker brings it nearer to its end. -/
theorem proceed_left {now : Nat} (hreceiver : session.receiverDone = true)
    (hgapFiller : session.gapFillerDone = true) (hinHand : session.inHand = none)
    (hstep : session.proceed now = some (next, events)) :
    next.processingLeft < session.processingLeft := by
  have hstage {current stage : ProcessingStage} (hprocessing : session.processing = current)
      (hless : stage.stepsLeft < current.stepsLeft) :
      { session with processing := stage }.processingLeft < session.processingLeft :=
    Nat.add_lt_add_left (hprocessing ▸ hless) _
  cases proceed_move hstep with
  | endPackets _ hprocessing | endRecovered _ hprocessing | seeReceiverDone hprocessing
  | seeGapFillerDone hprocessing | endDrain hprocessing | drainAgain hprocessing =>
      exact hstage hprocessing (Nat.lt_add_one _)
  | endDrainPackets worked hprocessing =>
      exact hstage hprocessing (by cases worked <;> decide)
  | poll hprocessing =>
      have hpolled : { session with processing := .checkingReceiver }.processingLeft <
          session.processingLeft := hstage hprocessing (Nat.lt_add_one 5)
      exact hpolled
  | notify hprocessing =>
      have hended : { session with processing := .finished }.processingLeft <
          session.processingLeft := hstage hprocessing (Nat.lt_add_one 0)
      exact hended
  | goRound stage hprocessing hmore =>
      rcases hmore with ⟨-, hmore⟩ | ⟨-, hmore⟩
      · cases hreceiver.symm.trans hmore
      · cases hgapFiller.symm.trans hmore
  | takePacket left packet time packets hprocessing hpop =>
      exact takePacket_left hinHand hpop hprocessing (Nat.le_add_right 8 2)
  | takeRecovered left packet recovered hprocessing hpop =>
      exact takeRecovered_left hinHand hpop hprocessing (Nat.le_add_right 7 2)
  | drainPacket worked packet time packets hprocessing hpop =>
      exact takePacket_left hinHand hpop hprocessing (by cases worked <;> decide)
  | drainRecovered worked packet recovered hprocessing hpop =>
      exact takeRecovered_left hinHand hpop hprocessing (by cases worked <;> decide)

theorem processingStep_left {now : Nat} (hreceiver : session.receiverDone = true)
    (hgapFiller : session.gapFillerDone = true)
    (hstep : session.processingStep now = some (next, events)) :
    next.processingLeft < session.processingLeft := by
  rcases processingStep_cases hstep with ⟨taken, hinHand, hhandled⟩ | ⟨hinHand, hproceed⟩
  · have hless := handleInHand_left hinHand now
    rw [hhandled] at hless
    exact hless
  · exact proceed_left hreceiver hgapFiller hinHand hproceed

/-- What the processing worker leaves as it is. -/
def Aside (session next : Session) : Prop :=
  next.closing = session.closing ∧ next.receiverDone = session.receiverDone ∧
    next.gapFillerDone = session.gapFillerDone

theorem handleInHand_aside (session : Session) (now : Nat) (taken : PacketInHand) :
    Aside session (session.handleInHand now taken).1 := by
  have hhandled (idle : Session) (lane : Lane) (packet : Bytes) (time : UInt64) :
      Aside idle (idle.handle lane packet time).1 := by
    obtain ⟨_, _, hhandle, -⟩ := idle.handle_frame lane packet time
    rw [hhandle]
    exact ⟨rfl, rfl, rfl⟩
  cases taken <;> exact hhandled _ _ _ _

theorem processingStep_aside {now : Nat}
    (hstep : session.processingStep now = some (next, events)) : Aside session next := by
  rcases processingStep_cases hstep with ⟨taken, -, hhandled⟩ | ⟨-, hproceed⟩
  · have haside := session.handleInHand_aside now taken
    rw [hhandled] at haside
    exact haside
  · cases proceed_move hproceed <;> exact ⟨rfl, rfl, rfl⟩

/-- No worker closes the session. -/
theorem workerStep_closing {action : WorkerAction}
    (hstep : session.workerStep action = some (next, events)) : next.closing = session.closing := by
  cases action with
  | receive arrival now => exact (receiverStep_silent hstep).1.2
  | monitor beat now => exact (monitorStep_aside hstep).1.2
  | fillGap reply => exact (gapFillerStep_silent hstep).1.2
  | process now => exact (processingStep_aside hstep).1

theorem run_cons (session : Session) (action : SessionAction) (actions : List SessionAction) :
    (session.run (action :: actions)).1 = ((session.perform action).1.run actions).1 :=
  rfl

theorem working_of_none {action : WorkerAction} (hnone : session.workerStep action = none)
    (count : Nat) : session.working count action = (session, []) := by
  have hperform : session.perform (.work action) = (session, []) := by
    rw [perform, step, hnone]
    rfl
  induction count with
  | zero => rfl
  | succ count ih =>
      rw [working, repeated] at ih ⊢
      rw [List.replicate_succ, run, hperform]
      simp only [ih, List.append_nil]

/-- A worker that has no more than so many steps left has ended after them, and what its steps keep
still holds. -/
theorem working_ends (P : Session → Prop) (stepsLeft : Session → Nat) (action : WorkerAction)
    (hkeeps : ∀ {session next events}, P session →
      session.workerStep action = some (next, events) → P next ∧ stepsLeft next < stepsLeft session)
    (count : Nat) (h : P session) (hcount : stepsLeft session ≤ count) :
    P (session.working count action).1 ∧
      (session.working count action).1.workerStep action = none := by
  induction count generalizing session with
  | zero =>
      cases hstep : session.workerStep action with
      | none => exact ⟨h, hstep⟩
      | some outcome =>
          have hless := (hkeeps h hstep).2
          omega
  | succ count ih =>
      cases hstep : session.workerStep action with
      | none =>
          rw [working_of_none hstep]
          exact ⟨h, hstep⟩
      | some outcome =>
          obtain ⟨hnext, hless⟩ := hkeeps h hstep
          have hworking : (session.working (count + 1) action).1 =
              (outcome.1.working count action).1 := by
            have hperform : session.perform (.work action) = outcome := by
              rw [perform, step, hstep]
              rfl
            rw [working, repeated, List.replicate_succ, run_cons, hperform]
            rfl
          rw [hworking]
          exact ih hnext (by omega)

theorem processing_of_none {now : Nat} (hnone : session.processingStep now = none) :
    session.processing = .finished ∨ session.processing = .lost := by
  unfold processingStep at hnone
  split at hnone
  · cases hnone
  · exact proceed_eq_none.1 hnone

/-! ### One party after the other

The steps given to each party are as many as it can have left. -/

theorem close_begins (hclosing : session.closing = .notBegun) (reason : String) :
    (session.repeated 2 (.close reason)).1.stop = true ∧
      (session.repeated 2 (.close reason)).1.closing = .awaitingReceiver := by
  have hfirst : session.perform (.close reason) =
      ({ session with signal := session.signal.raise reason, closing := .stopping },
        [.raised reason]) := by
    rw [perform, step, closingStep, hclosing]
    rfl
  rw [repeated, List.replicate_succ, run_cons, hfirst]
  exact ⟨rfl, rfl⟩

theorem endReceiver_ends (hstop : session.stop = true) :
    session.endReceiver.1.stop = true ∧ session.endReceiver.1.closing = session.closing ∧
      session.endReceiver.1.receiver = .finished := by
  have hfew : session.receiver.stepsLeft ≤ 4 := by
    unfold ReceiverStage.stepsLeft
    split <;> omega
  obtain ⟨⟨hstopped, hclosing⟩, hnone⟩ := working_ends
    (fun next => next.stop = true ∧ next.closing = session.closing) (·.receiver.stepsLeft)
    (.receive .nothing session.lastActivity)
    (fun ⟨hstop, hclosing⟩ hstep =>
      have ⟨hless, hstopped⟩ := receiverStep_stopped hstop hstep
      ⟨⟨hstopped, (workerStep_closing hstep).trans hclosing⟩, hless⟩)
    4 ⟨hstop, rfl⟩ hfew
  exact ⟨hstopped, hclosing, receiverStep_eq_none.1 hnone⟩

theorem endMonitor_ends (hstop : session.stop = true) :
    session.endMonitor.1.stop = true ∧ session.endMonitor.1.closing = session.closing ∧
      session.endMonitor.1.receiver = session.receiver ∧
      session.endMonitor.1.monitor = .finished := by
  have hfew : session.monitor.stepsLeft ≤ 2 := by
    unfold MonitorStage.stepsLeft
    split <;> omega
  obtain ⟨⟨hstopped, hclosing, hreceiver, -⟩, hnone⟩ := working_ends
    (fun next => next.stop = true ∧ next.closing = session.closing ∧
      next.receiver = session.receiver ∧ next.lastActivity = session.lastActivity)
    (·.monitor.stepsLeft) (.monitor .notDue session.lastActivity)
    (fun ⟨hstop, hclosing, hreceiver, hactivity⟩ hstep => by
      have hclosing' := (workerStep_closing hstep).trans hclosing
      rw [← hactivity] at hstep
      obtain ⟨hless, hstopped, hactivity', hreceiver'⟩ := monitorStep_stopped hstop hstep
      exact ⟨⟨hstopped, hclosing', hreceiver'.trans hreceiver, hactivity'.trans hactivity⟩, hless⟩)
    2 ⟨hstop, rfl, rfl, rfl⟩ hfew
  exact ⟨hstopped, hclosing, hreceiver, monitorStep_eq_none.1 hnone⟩

theorem close_goes_on (hclosing : session.closing = .awaitingReceiver)
    (hreceiver : session.receiver = .finished) (hmonitor : session.monitor = .finished)
    (reason : String) :
    (session.repeated 3 (.close reason)).1.stop = session.stop ∧
      (session.repeated 3 (.close reason)).1.receiverDone = true ∧
      (session.repeated 3 (.close reason)).1.closing = .awaitingGapFiller := by
  have hfirst : session.perform (.close reason) =
      ({ session with closing := .awaitingMonitor }, []) := by
    rw [perform, step, closingStep, hclosing]
    exact congrArg (Option.getD · _) (if_pos hreceiver)
  have hsecond : { session with closing := .awaitingMonitor }.perform (.close reason) =
      ({ session with closing := .releasingReceiver }, []) :=
    congrArg (Option.getD · _) (if_pos hmonitor)
  rw [repeated, List.replicate_succ, run_cons, hfirst, List.replicate_succ, run_cons, hsecond]
  exact ⟨rfl, rfl, rfl⟩

theorem endGapFiller_ends (hstop : session.stop = true) :
    session.endGapFiller.1.closing = session.closing ∧
      session.endGapFiller.1.receiverDone = session.receiverDone ∧
      session.endGapFiller.1.gapFiller = .finished := by
  have hfew : session.gapFiller.stepsLeft ≤ session.packetsInHand + 5 := by
    unfold packetsInHand GapFillerStage.stepsLeft
    cases session.gapFiller <;> simp only <;> omega
  obtain ⟨⟨-, hclosing, hreceiver⟩, hnone⟩ := working_ends
    (fun next => next.stop = true ∧ next.closing = session.closing ∧
      next.receiverDone = session.receiverDone)
    (·.gapFiller.stepsLeft) (.fillGap (.error (.rejected ⟨0, 0⟩)))
    (fun ⟨hstop, hclosing, hreceiver⟩ hstep =>
      have ⟨hless, hstopped, hreceiver'⟩ := gapFillerStep_stopped hstop hstep
      ⟨⟨hstopped, (workerStep_closing hstep).trans hclosing, hreceiver'.trans hreceiver⟩, hless⟩)
    _ ⟨hstop, rfl, rfl⟩ hfew
  exact ⟨hclosing, hreceiver, gapFillerStep_eq_none.1 hnone⟩

theorem close_releases (hclosing : session.closing = .awaitingGapFiller)
    (hgapFiller : session.gapFiller = .finished) (reason : String) :
    (session.repeated 2 (.close reason)).1.receiverDone = session.receiverDone ∧
      (session.repeated 2 (.close reason)).1.gapFillerDone = true ∧
      (session.repeated 2 (.close reason)).1.closing = .awaitingProcessing := by
  have hfirst : session.perform (.close reason) =
      ({ session with closing := .releasingGapFiller }, []) := by
    rw [perform, step, closingStep, hclosing]
    exact congrArg (Option.getD · _) (if_pos hgapFiller)
  rw [repeated, List.replicate_succ, run_cons, hfirst]
  exact ⟨rfl, rfl, rfl⟩

theorem endProcessing_ends (hreceiver : session.receiverDone = true)
    (hgapFiller : session.gapFillerDone = true) (now : Nat) :
    (session.endProcessing now).1.closing = session.closing ∧
      ((session.endProcessing now).1.processing = .finished ∨
        (session.endProcessing now).1.processing = .lost) := by
  have hfew : session.processingLeft ≤
      4 * (session.packets.size + session.recovered.size) + 11 := by
    have hstage : session.processing.stepsLeft ≤ 8 := by
      unfold ProcessingStage.stepsLeft
      split <;> (try split) <;> omega
    have hinHand : session.inHand.elim 0 (fun _ => 1) ≤ 1 := by
      cases session.inHand <;> simp only [Option.elim] <;> omega
    rw [processingLeft]
    omega
  obtain ⟨⟨hclosing, -, -⟩, hnone⟩ := working_ends (Aside session) processingLeft (.process now)
    (fun ⟨hclosing, hdone, hdone'⟩ hstep =>
      have ⟨hclosing', hkept, hkept'⟩ := processingStep_aside hstep
      ⟨⟨hclosing'.trans hclosing, hkept.trans hdone, hkept'.trans hdone'⟩,
        processingStep_left (hdone.trans hreceiver) (hdone'.trans hgapFiller) hstep⟩)
    _ ⟨rfl, rfl, rfl⟩ hfew
  exact ⟨hclosing, processing_of_none hnone⟩

theorem close_ends (hclosing : session.closing = .awaitingProcessing)
    (hended : session.processing = .finished ∨ session.processing = .lost) (reason : String) :
    (session.repeated 1 (.close reason)).1.closing = .closed := by
  have honly : session.perform (.close reason) = ({ session with closing := .closed }, []) := by
    rw [perform, step, closingStep, hclosing]
    exact congrArg (Option.getD · _) (if_pos hended)
  rw [repeated, List.replicate_succ, run_cons, honly]
  rfl

theorem andThen_fst (first : Outcome) (next : Session → Outcome) :
    (andThen first next).1 = (next first.1).1 :=
  rfl

/-- Closing a session closes it, wherever its workers stand. -/
theorem close_closed (hclosing : session.closing = .notBegun) (reason : String) (now : Nat) :
    (session.close reason now).1.closing = .closed := by
  unfold close
  simp only [andThen_fst]
  obtain ⟨hstop, hbegun⟩ := close_begins hclosing reason
  obtain ⟨hstop, hclosing, hreceiver⟩ := endReceiver_ends hstop
  obtain ⟨hstop, hclosing', hreceiver', hmonitor⟩ := endMonitor_ends hstop
  obtain ⟨hstop', hdone, hawaiting⟩ := close_goes_on (hclosing'.trans (hclosing.trans hbegun))
    (hreceiver'.trans hreceiver) hmonitor reason
  obtain ⟨hclosing, hdone', hgapFiller⟩ := endGapFiller_ends (hstop'.trans hstop)
  obtain ⟨hkept, hgapFillerDone, hreleased⟩ :=
    close_releases (hclosing.trans hawaiting) hgapFiller reason
  obtain ⟨hclosing, hended⟩ := endProcessing_ends (hkept.trans (hdone'.trans hdone)) hgapFillerDone now
  exact close_ends (hclosing.trans hreleased) hended reason

theorem run_append (session : Session) (actions later : List SessionAction) :
    session.run (actions ++ later) = andThen (session.run actions) (·.run later) := by
  induction actions generalizing session with
  | nil => rfl
  | cons action actions ih => simp only [List.cons_append, run, ih, andThen, List.append_assoc]

/-- Whether something that becomes of a session is a run of it. -/
def IsRun (session : Session) (outcome : Outcome) : Prop :=
  ∃ actions, outcome = session.run actions

theorem IsRun.andThen {outcome : Outcome} {next : Session → Outcome} (h : IsRun session outcome)
    (hnext : ∀ session, IsRun session (next session)) : IsRun session (andThen outcome next) := by
  obtain ⟨actions, rfl⟩ := h
  obtain ⟨later, hlater⟩ := hnext (session.run actions).1
  refine ⟨actions ++ later, ?_⟩
  rw [run_append, Session.andThen, Session.andThen, hlater]

/-- Closing is a run in which one party at a time goes on. -/
theorem isRun_close (session : Session) (reason : String) (now : Nat) :
    IsRun session (session.close reason now) := by
  have hrepeated (count : Nat) (session : Session) :
      IsRun session (session.repeated count (.close reason)) := ⟨_, rfl⟩
  have hreceiver (session : Session) : IsRun session session.endReceiver := ⟨_, rfl⟩
  have hmonitor (session : Session) : IsRun session session.endMonitor := ⟨_, rfl⟩
  have hgapFiller (session : Session) : IsRun session session.endGapFiller := ⟨_, rfl⟩
  have hprocessing (session : Session) : IsRun session (session.endProcessing now) := ⟨_, rfl⟩
  have hstopped := ((hrepeated 2 session).andThen hreceiver).andThen hmonitor
  have hfilled := (hstopped.andThen (hrepeated 3)).andThen hgapFiller
  unfold close
  exact ((hfilled.andThen (hrepeated 2)).andThen hprocessing).andThen (hrepeated 1)

end Session

end MarketFeed
