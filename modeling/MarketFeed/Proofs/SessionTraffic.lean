import MarketFeed.Proofs.MessageAccounts
import MarketFeed.Proofs.SessionMoves
import MarketFeed.SessionSchedule

/-! What moves in a session. A packet that comes in is dropped and counted, or else it waits until it is
processed; along each queue the packets keep their order. All of this is said of one step first and
added up over a run. -/

namespace MarketFeed

namespace SessionEvent

def reason? : SessionEvent → Option String
  | .raised reason => some reason
  | _ => none

/-- The packet that is put on a queue. -/
def storedOn? (lane : Lane) : SessionEvent → Option Bytes
  | .stored other packet => if other = lane then some packet else none
  | _ => none

/-- The packet of a queue that is processed. -/
def processedOn? (lane : Lane) : SessionEvent → Option Bytes
  | .processed other packet _ => if other = lane then some packet else none
  | _ => none

/-- Whether a packet is processed and accepted. -/
def isAccepted : SessionEvent → Bool
  | .processed _ _ accepted => accepted
  | _ => false

/-- Whether the listener is told that the connection is gone. -/
def isNotice : SessionEvent → Bool
  | .told (.disconnected _) => true
  | _ => false

end SessionEvent

/-- The reasons that were raised, the first one first. -/
def reasons (events : List SessionEvent) : List String := events.filterMap SessionEvent.reason?

/-- The packets put on a queue, in order. -/
def storedOn (lane : Lane) (events : List SessionEvent) : List Bytes :=
  events.filterMap (SessionEvent.storedOn? lane)

/-- The packets of a queue that were processed, in order. -/
def processedOn (lane : Lane) (events : List SessionEvent) : List Bytes :=
  events.filterMap (SessionEvent.processedOn? lane)

theorem storedOn_append (lane : Lane) (events later : List SessionEvent) :
    storedOn lane (events ++ later) = storedOn lane events ++ storedOn lane later :=
  List.filterMap_append

theorem processedOn_append (lane : Lane) (events later : List SessionEvent) :
    processedOn lane (events ++ later) = processedOn lane events ++ processedOn lane later :=
  List.filterMap_append

/-- How many packets were processed and accepted. -/
def acceptedCount (events : List SessionEvent) : Nat := events.countP SessionEvent.isAccepted

/-- The signal behind an event. -/
def DisconnectSignal.after (signal : DisconnectSignal) : SessionEvent → DisconnectSignal
  | .raised reason => signal.raise reason
  | .told (.disconnected _) => signal.taken
  | _ => signal

/-- How many packets the receiver holds. -/
def ReceiverStage.load : ReceiverStage → Nat
  | .received _ _ | .storing _ _ => 1
  | _ => 0

/-- The packet in hand, if it came over that queue. -/
def PacketInHand.of (lane : Lane) : PacketInHand → List Bytes
  | .direct packet _ => if lane = .direct then [packet] else []
  | .recovered packet => if lane = .recovered then [packet] else []

namespace Session

/-- The packets of a queue that are still on it. -/
def queued (session : Session) : Lane → List Bytes
  | .direct => session.packets.items.map Prod.fst
  | .recovered => session.recovered.items

/-- The packets of a queue that were not processed yet, the oldest first. -/
def waiting (session : Session) (lane : Lane) : List Bytes :=
  session.inHand.elim [] (PacketInHand.of lane) ++ session.queued lane

theorem waiting_eq_nil {session : Session} (hinHand : session.inHand = none)
    (hpackets : session.packets.items = []) (hrecovered : session.recovered.items = []) (lane : Lane) :
    session.waiting lane = [] := by
  rw [waiting, hinHand]
  cases lane with
  | direct => exact List.map_eq_nil_iff.2 hpackets
  | recovered => exact hrecovered

/-- How many packets have come in and were neither dropped nor processed yet. -/
def inFlight (session : Session) : Nat :=
  session.receiver.load + session.packetsInHand + (session.waiting .direct).length +
    (session.waiting .recovered).length

end Session

/-- How many packets come in. -/
def Arrival.packetCount : Arrival → Nat
  | .packet _ => 1
  | _ => 0

/-- How many packets an answer has. -/
def GapReply.packetCount : GapReply → Nat
  | .ok packets => packets.length
  | .error _ => 0

/-- How many packets an action brings at most. -/
def SessionAction.packetCount : SessionAction → Nat
  | .work (.receive arrival _) => arrival.packetCount
  | .work (.fillGap reply) => GapReply.packetCount reply
  | _ => 0

/-- How many packets some actions bring at most. -/
def packetsBrought : List SessionAction → Nat
  | [] => 0
  | action :: actions => action.packetCount + packetsBrought actions

/-- Actions that are taken so many times each, one behind the other. -/
def inTurn (parts : List (Nat × SessionAction)) : List SessionAction :=
  parts.flatMap fun (count, action) => List.replicate count action

/-- The counters of packets have gone on by so many that came, came again and were dropped. -/
structure Counters.Advanced (before : Counters) (received retransmitted dropped : Nat)
    (after : Counters) : Prop where
  received : after.packetsReceived = before.packetsReceived + UInt64.ofNat received
  retransmitted :
    after.retransmittedPackets = before.retransmittedPackets + UInt64.ofNat retransmitted
  dropped : after.packetsDropped = before.packetsDropped + UInt64.ofNat dropped

namespace Counters.Advanced

variable {first second third : Counters} {received retransmitted dropped more again lost : Nat}

theorem refl (counters : Counters) : Advanced counters 0 0 0 counters :=
  ⟨(UInt64.add_zero _).symm, (UInt64.add_zero _).symm, (UInt64.add_zero _).symm⟩

theorem trans (h : Advanced first received retransmitted dropped second)
    (h' : Advanced second more again lost third) :
    Advanced first (received + more) (retransmitted + again) (dropped + lost) third := by
  constructor
  · rw [h'.received, h.received, UInt64.ofNat_add, UInt64.add_assoc]
  · rw [h'.retransmitted, h.retransmitted, UInt64.ofNat_add, UInt64.add_assoc]
  · rw [h'.dropped, h.dropped, UInt64.ofNat_add, UInt64.add_assoc]

end Counters.Advanced

/-- A packet that is processed is accepted or else counted as dropped. -/
theorem Processor.advanced_of_process {p : Processor} {packet : Bytes} {received : UInt64}
    {done : Processed} (hprocess : p.process packet received = .ok done) :
    p.counters.Advanced 0 0 (if done.result.isOk then 0 else 1) done.processor.counters := by
  have hrespond : p.respond (.packet packet received) =
      .ok (.processed done.result done.delivered, done.processor) := by
    rw [respond, hprocess]
    rfl
  obtain ⟨handled, unknown, haccounts⟩ := respond_accounts hrespond
  obtain ⟨_, _, _, hcounters⟩ := haccounts.counted
  rw [hcounters]
  refine ⟨(UInt64.add_zero _).symm, (UInt64.add_zero _).symm, ?_⟩
  cases done.result <;> rfl

namespace Session

/-! ### What happens between two states -/

/-- What lies between two states: the signal follows the events, and unless the processing worker was
lost, what was waiting and what was put on a queue has been processed in that order or is waiting, and
what came in has been dropped or accepted or is on its way. -/
structure Traffic (session : Session) (limit : Nat) (events : List SessionEvent) (next : Session) :
    Prop where
  lost : session.processing = .lost → next.processing = .lost
  signal : next.signal = events.foldl DisconnectSignal.after session.signal
  lanes : next.processing ≠ .lost → ∀ lane,
    session.waiting lane ++ storedOn lane events = processedOn lane events ++ next.waiting lane
  counts : next.processing ≠ .lost → ∃ received retransmitted dropped,
    session.processor.counters.Advanced received retransmitted dropped next.processor.counters ∧
    received + retransmitted ≤ limit ∧
    received + retransmitted + session.inFlight = dropped + acceptedCount events + next.inFlight

namespace Traffic

variable {session next final : Session} {limit further : Nat} {events later : List SessionEvent}

theorem refl (session : Session) : Traffic session 0 [] session where
  lost := id
  signal := rfl
  lanes _ _ := List.append_nil _
  counts _ := ⟨0, 0, 0, .refl _, Nat.le_refl 0, rfl⟩

theorem trans (h : Traffic session limit events next) (h' : Traffic next further later final) :
    Traffic session (limit + further) (events ++ later) final where
  lost := h'.lost ∘ h.lost
  signal := by rw [List.foldl_append, ← h.signal, h'.signal]
  lanes hkept lane := by
    have hbetween : next.processing ≠ .lost := mt h'.lost hkept
    calc session.waiting lane ++ storedOn lane (events ++ later)
        = session.waiting lane ++ storedOn lane events ++ storedOn lane later := by
          rw [storedOn_append, List.append_assoc]
      _ = processedOn lane events ++ (next.waiting lane ++ storedOn lane later) := by
          rw [h.lanes hbetween, List.append_assoc]
      _ = processedOn lane (events ++ later) ++ final.waiting lane := by
          rw [h'.lanes hkept, ← List.append_assoc, processedOn_append]
  counts hkept := by
    have hbetween : next.processing ≠ .lost := mt h'.lost hkept
    obtain ⟨received, retransmitted, dropped, hcounters, hlimit, hbalance⟩ := h.counts hbetween
    obtain ⟨more, again, lost, hcounters', hfurther, hbalance'⟩ := h'.counts hkept
    refine ⟨_, _, _, hcounters.trans hcounters', by omega, ?_⟩
    rw [acceptedCount] at hbalance hbalance' ⊢
    rw [List.countP_append]
    omega

/-- Where nothing moves. -/
structure Still (session next : Session) : Prop where
  lost : session.processing = .lost → next.processing = .lost
  signal : next.signal = session.signal
  counters : next.processor.counters = session.processor.counters
  load : next.receiver.load = session.receiver.load
  packetsInHand : next.packetsInHand = session.packetsInHand
  waiting : next.waiting = session.waiting

theorem Still.traffic (h : Still session next) : Traffic session limit [] next where
  lost := h.lost
  signal := h.signal
  lanes _ lane := by
    rw [h.waiting]
    exact List.append_nil _
  counts _ := by
    refine ⟨0, 0, 0, ?_, Nat.zero_le limit, ?_⟩
    · rw [h.counters]
      exact .refl _
    · rw [inFlight, inFlight, h.load, h.packetsInHand, h.waiting]
      rfl

/-- Where a packet comes in, is dropped or goes from one place to another, and nothing else moves. -/
theorem ofCounts (received retransmitted dropped : Nat)
    (hlost : session.processing = .lost → next.processing = .lost)
    (hsignal : next.signal = session.signal)
    (hwaiting : next.waiting = session.waiting)
    (hcounters : session.processor.counters.Advanced received retransmitted dropped
      next.processor.counters)
    (hlimit : received + retransmitted ≤ limit)
    (hbalance : received + retransmitted + (session.receiver.load + session.packetsInHand) =
      dropped + (next.receiver.load + next.packetsInHand)) :
    Traffic session limit [] next where
  lost := hlost
  signal := hsignal
  lanes _ lane := by
    rw [hwaiting]
    exact List.append_nil _
  counts _ := by
    refine ⟨received, retransmitted, dropped, hcounters, hlimit, ?_⟩
    rw [inFlight, inFlight, hwaiting]
    show _ = dropped + 0 + _
    omega

/-- Where the receiver or the gap filler drops a packet. -/
theorem drop (hlost : session.processing = .lost → next.processing = .lost)
    (hsignal : next.signal = session.signal)
    (hwaiting : next.waiting = session.waiting)
    (hcounters : next.processor.counters = session.countDrop.processor.counters)
    (hheld : session.receiver.load + session.packetsInHand =
      next.receiver.load + next.packetsInHand + 1) : Traffic session limit [] next := by
  refine .ofCounts 0 0 1 hlost hsignal hwaiting ?_ (Nat.zero_le limit) (by omega)
  rw [hcounters]
  exact ⟨(UInt64.add_zero _).symm, (UInt64.add_zero _).symm, rfl⟩

/-- Where the receiver or the gap filler puts a packet on its queue. -/
theorem store (lane : Lane) (packet : Bytes)
    (hlost : session.processing = .lost → next.processing = .lost)
    (hsignal : next.signal = session.signal)
    (hcounters : next.processor.counters = session.processor.counters)
    (hinHand : next.inHand = session.inHand)
    (hqueued : ∀ other, next.queued other =
      session.queued other ++ storedOn other [.stored lane packet])
    (hheld : session.receiver.load + session.packetsInHand =
      next.receiver.load + next.packetsInHand + 1) :
    Traffic session limit [.stored lane packet] next := by
  have hwaiting (other : Lane) :
      next.waiting other = session.waiting other ++ storedOn other [.stored lane packet] := by
    rw [waiting, waiting, hinHand, hqueued, List.append_assoc]
  refine ⟨hlost, hsignal, fun _ other => (hwaiting other).symm, fun _ => ⟨0, 0, 0, ?_,
    Nat.zero_le limit, ?_⟩⟩
  · rw [hcounters]
    exact .refl _
  · have hone : (storedOn .direct [.stored lane packet]).length +
        (storedOn .recovered [.stored lane packet]).length = 1 := by
      cases lane <;> rfl
    rw [inFlight, inFlight, hwaiting, hwaiting, List.length_append, List.length_append]
    show _ = 0 + 0 + _
    omega

/-- Where someone gives a reason, and nothing moves after that. -/
theorem raise {reason : String}
    (h : Still { session with signal := session.signal.raise reason } next) :
    Traffic session limit [.raised reason] next := by
  have hraised : Traffic session limit [.raised reason]
      { session with signal := session.signal.raise reason } :=
    ⟨id, rfl, fun _ _ => List.append_nil _, fun _ => ⟨0, 0, 0, .refl _, Nat.zero_le limit, rfl⟩⟩
  have hstill : Traffic _ 0 [] next := h.traffic
  exact hraised.trans hstill

end Traffic

variable {session next : Session} {limit : Nat} {events : List SessionEvent}

theorem traffic_takeArrival {hasBuffer : Bool} (hreceiver : session.receiver = .listening hasBuffer)
    (now : UInt64) (arrival : Arrival) :
    Traffic session arrival.packetCount [] (session.takeArrival hasBuffer now arrival) := by
  have hload : session.receiver.load = 0 := by rw [hreceiver]; rfl
  cases arrival with
  | nothing =>
      refine Traffic.Still.traffic ?_
      cases hasBuffer <;> exact ⟨id, rfl, rfl, hload.symm, rfl, rfl⟩
  | packet packet =>
      cases hasBuffer with
      | true =>
          refine .ofCounts 1 0 0 id rfl rfl
            ⟨rfl, (UInt64.add_zero _).symm, (UInt64.add_zero _).symm⟩ (Nat.le_refl 1) ?_
          rw [hload]
          show _ = 0 + (1 + session.packetsInHand)
          omega
      | false =>
          refine .ofCounts 1 0 1 id rfl rfl
            ⟨rfl, (UInt64.add_zero _).symm, rfl⟩ (Nat.le_refl 1) ?_
          rw [hload]
          show _ = 1 + (0 + session.packetsInHand)
          omega
  | fault fault =>
      refine Traffic.Still.traffic ?_
      cases hasBuffer <;> exact ⟨id, rfl, rfl, hload.symm, rfl, rfl⟩

theorem held_of_receiver {stage : ReceiverStage} (hreceiver : session.receiver = stage)
    (hload : stage.load = 1) :
    session.receiver.load + session.packetsInHand = 0 + session.packetsInHand + 1 := by
  rw [hreceiver, hload]
  omega

theorem traffic_receiverStep {arrival : Arrival} {now : UInt64}
    (hstep : session.receiverStep arrival now = some (next, events)) :
    Traffic session arrival.packetCount events next := by
  cases receiverStep_move hstep with
  | goOn hreceiver | quit hreceiver | lackBuffer hreceiver | takeBuffer hreceiver
  | keep _ _ hreceiver | giveUp _ hreceiver | report _ hreceiver | stop hreceiver
  | finish hreceiver =>
      exact Traffic.Still.traffic ⟨id, rfl, rfl, by rw [hreceiver]; rfl, rfl, rfl⟩
  | listen hasBuffer hreceiver => exact traffic_takeArrival hreceiver now arrival
  | dropAtStop packet time hreceiver | dropOverfull packet time hreceiver =>
      exact .drop id rfl rfl rfl (held_of_receiver hreceiver rfl)
  | store packet time packets hreceiver hpush =>
      refine .store .direct packet id rfl rfl rfl ?_ (held_of_receiver hreceiver rfl)
      rintro (_ | _)
      · show packets.items.map Prod.fst = session.packets.items.map Prod.fst ++ [packet]
        rw [BoundedQueue.items_of_push? hpush, List.map_append]
        rfl
      · exact (List.append_nil _).symm
  | announce reason hreceiver => exact .raise ⟨id, rfl, rfl, by rw [hreceiver]; rfl, rfl, rfl⟩

theorem traffic_monitorStep {beat : Beat} {now : UInt64}
    (hstep : session.monitorStep beat now = some (next, events)) :
    Traffic session 0 events next := by
  cases monitorStep_move hstep with
  | goOn | quit | findOverdue | findFault | rest | stop =>
      exact Traffic.Still.traffic ⟨id, rfl, rfl, rfl, rfl, rfl⟩
  | send =>
      exact ⟨id, rfl, fun _ _ => List.append_nil _, fun _ => ⟨0, 0, 0, .refl _, Nat.le_refl 0, rfl⟩⟩
  | announce reason => exact .raise ⟨id, rfl, rfl, rfl, rfl, rfl⟩

theorem traffic_gapFillerStep {reply : GapReply}
    (hstep : session.gapFillerStep reply = some (next, events)) :
    Traffic session (GapReply.packetCount reply) events next := by
  have hheld {packet : Bytes} {rest : List Bytes}
      (hgapFiller : session.gapFiller = .storing (packet :: rest)) :
      session.receiver.load + session.packetsInHand = session.receiver.load + rest.length + 1 := by
    rw [packetsInHand, hgapFiller]
    rfl
  cases gapFillerStep_move hstep with
  | goOn hgapFiller | quit hgapFiller | findNone hgapFiller | take _ _ hgapFiller
  | endStoring hgapFiller | finish hgapFiller =>
      have hnone : session.packetsInHand = 0 := by simp only [packetsInHand, hgapFiller, List.length_nil]
      exact Traffic.Still.traffic ⟨id, rfl, rfl, rfl, hnone.symm, rfl⟩
  | ask request hgapFiller =>
      have hnone : session.packetsInHand = 0 := by rw [packetsInHand, hgapFiller]
      cases reply with
      | ok packets =>
          have hanswered : Traffic session packets.length [] (session.takeReply (.ok packets)) := by
            refine .ofCounts 0 packets.length 0 id rfl rfl
              ⟨(UInt64.add_zero _).symm, rfl, (UInt64.add_zero _).symm⟩ (Nat.zero_add _).le ?_
            rw [hnone]
            show 0 + packets.length + (session.receiver.load + 0) =
              0 + (session.receiver.load + packets.length)
            omega
          exact { hanswered with }
      | error e =>
          have hrefused : Traffic session 0 [] (session.takeReply (.error e)) :=
            Traffic.Still.traffic ⟨id, rfl, rfl, rfl, hnone.symm, rfl⟩
          exact { hrefused with }
  | drop packet rest hgapFiller => exact .drop id rfl rfl rfl (hheld hgapFiller)
  | store packet rest recovered hgapFiller hpush =>
      refine .store .recovered packet id rfl rfl rfl ?_ (hheld hgapFiller)
      rintro (_ | _)
      · exact (List.append_nil _).symm
      · exact BoundedQueue.items_of_push? hpush

/-- Telling the listener of messages is none of the events that count here. -/
theorem filterMap_tell {α : Type} {f : SessionEvent → Option α}
    (hf : ∀ message, f (.told (.message message)) = none) (messages : List Message) :
    (tell messages).filterMap f = [] := by
  rw [tell, List.filterMap_map]
  exact List.filterMap_eq_nil_iff.2 fun message _ => hf message

theorem foldl_tell (signal : DisconnectSignal) (messages : List Message) :
    (tell messages).foldl DisconnectSignal.after signal = signal := by
  induction messages with
  | nil => rfl
  | cons message messages ih => exact ih

theorem acceptedCount_tell (messages : List Message) (events : List SessionEvent) :
    acceptedCount (tell messages ++ events) = acceptedCount events := by
  induction messages with
  | nil => rfl
  | cons message messages ih => exact ih

/-- A packet in hand is processed, and then it neither waits nor is on its way any more. -/
theorem traffic_handle {lane : Lane} {packet : Bytes} {taken : PacketInHand}
    (hinHand : session.inHand = some taken)
    (htaken : ∀ other, taken.of other = if lane = other then [packet] else [])
    (freeBuffers : Nat) (time : UInt64) :
    Traffic session limit
      ({ session with inHand := none, freeBuffers }.handle lane packet time).2
      ({ session with inHand := none, freeBuffers }.handle lane packet time).1 := by
  have hwaiting (other : Lane) :
      session.waiting other = (if lane = other then [packet] else []) ++ session.queued other := by
    rw [waiting, hinHand, ← htaken]
    rfl
  rcases { session with inHand := none, freeBuffers }.handle_cases lane packet time with
    ⟨processor, messages, hhandle⟩ | ⟨done, hprocess, hhandle⟩
  · rw [hhandle]
    exact ⟨fun _ => rfl, (foldl_tell session.signal messages).symm, fun hkept => absurd rfl hkept,
      fun hkept => absurd rfl hkept⟩
  · rw [hhandle]
    constructor
    case lost => exact id
    case signal =>
      rw [List.foldl_append, foldl_tell]
      rfl
    case lanes =>
      intro _ other
      have hstored : storedOn other (tell done.delivered) = [] := filterMap_tell (fun _ => rfl) _
      have hprocessed : processedOn other (tell done.delivered) = [] := filterMap_tell (fun _ => rfl) _
      rw [storedOn_append, processedOn_append, hstored, hprocessed, hwaiting]
      refine (List.append_nil _).trans ?_
      cases lane <;> cases other <;> rfl
    case counts =>
      intro _
      refine ⟨0, 0, _, Processor.advanced_of_process hprocess, Nat.zero_le limit, ?_⟩
      have hone : (if done.result.isOk then 0 else 1) +
          acceptedCount [.processed lane packet done.result.isOk] = 1 := by
        cases done.result <;> rfl
      have hinFlight : session.inFlight = 1 + (session.receiver.load + session.packetsInHand +
          (session.queued .direct).length + (session.queued .recovered).length) := by
        rw [inFlight, hwaiting, hwaiting]
        cases lane <;>
          simp only [reduceCtorEq, if_true, if_false, List.length_append, List.length_singleton,
            List.length_nil] <;>
          omega
      rw [acceptedCount_tell, hone, hinFlight]
      exact Nat.zero_add _

theorem traffic_handleInHand {taken : PacketInHand} (hinHand : session.inHand = some taken)
    (now : Nat) :
    Traffic session limit (session.handleInHand now taken).2 (session.handleInHand now taken).1 := by
  cases taken with
  | direct packet time =>
      exact traffic_handle hinHand (fun other => by cases other <;> rfl) (session.freeBuffers + 1) time
  | recovered packet =>
      exact traffic_handle hinHand (fun other => by cases other <;> rfl) session.freeBuffers
        (UInt64.ofNat now)

/-- A packet that is taken off its queue is still waiting. -/
theorem traffic_takePacket {packet : Bytes} {time : UInt64} {packets : BoundedQueue (Bytes × UInt64)}
    (hopen : session.processing ≠ .lost) (hinHand : session.inHand = none)
    (hpop : session.packets.pop? = some ((packet, time), packets)) (stage : ProcessingStage) :
    Traffic session limit []
      { session with packets, inHand := some (.direct packet time), processing := stage } := by
  refine Traffic.Still.traffic ⟨fun hlost => absurd hlost hopen, rfl, rfl, rfl, rfl,
    funext fun lane => ?_⟩
  rw [waiting, waiting, hinHand]
  cases lane with
  | direct =>
      show packet :: packets.items.map Prod.fst = session.packets.items.map Prod.fst
      rw [BoundedQueue.items_of_pop? hpop, List.map_cons]
  | recovered => rfl

theorem traffic_takeRecovered {packet : Bytes} {recovered : BoundedQueue Bytes}
    (hopen : session.processing ≠ .lost) (hinHand : session.inHand = none)
    (hpop : session.recovered.pop? = some (packet, recovered)) (stage : ProcessingStage) :
    Traffic session limit []
      { session with recovered, inHand := some (.recovered packet), processing := stage } := by
  refine Traffic.Still.traffic ⟨fun hlost => absurd hlost hopen, rfl, rfl, rfl, rfl,
    funext fun lane => ?_⟩
  rw [waiting, waiting, hinHand]
  cases lane with
  | direct => rfl
  | recovered => exact (BoundedQueue.items_of_pop? hpop).symm

theorem traffic_pollGapFill (hopen : session.processing ≠ .lost) (now : Nat) :
    Traffic session limit [] (session.pollGapFill now) := by
  refine .ofCounts 0 0 0 (fun hlost => absurd hlost hopen) rfl rfl ?_ (Nat.zero_le limit) rfl
  obtain ⟨scheduler, gapRequests, hpoll⟩ := session.processor.pollGapFill_snd now
  show session.processor.counters.Advanced 0 0 0 (session.processor.pollGapFill now).2.counters
  rw [hpoll]
  exact ⟨(UInt64.add_zero _).symm, (UInt64.add_zero _).symm, (UInt64.add_zero _).symm⟩

theorem traffic_notify (hopen : session.processing ≠ .lost) :
    Traffic session limit session.notify.2 session.notify.1 := by
  have hlost : session.processing = .lost → session.notify.1.processing = .lost :=
    fun hlost => absurd hlost hopen
  unfold notify at hlost ⊢
  cases hreason : session.signal.reason with
  | none =>
      refine ⟨hlost, ?_, fun _ _ => List.append_nil _, fun _ => ⟨0, 0, 0, .refl _, Nat.zero_le _, rfl⟩⟩
      show ({ session.signal with reason := none } : DisconnectSignal) = session.signal
      rw [← hreason]
  | some reason =>
      exact ⟨hlost, rfl, fun _ _ => List.append_nil _,
        fun _ => ⟨0, 0, 0, .refl _, Nat.zero_le _, rfl⟩⟩

theorem traffic_proceed {now : Nat} (hinHand : session.inHand = none)
    (hstep : session.proceed now = some (next, events)) : Traffic session 0 events next := by
  have hopen : session.processing ≠ .lost := fun hlost =>
    Option.ne_none_iff_exists'.2 ⟨_, hstep⟩ (proceed_eq_none.2 (Or.inr hlost))
  cases proceed_move hstep with
  | endPackets | endRecovered | goRound | seeReceiverDone | seeGapFillerDone | endDrainPackets
  | drainAgain | endDrain =>
      exact Traffic.Still.traffic ⟨fun hlost => absurd hlost hopen, rfl, rfl, rfl, rfl, rfl⟩
  | takePacket _ packet time packets _ hpop | drainPacket _ packet time packets _ hpop =>
      exact traffic_takePacket hopen hinHand hpop _
  | takeRecovered _ packet recovered _ hpop | drainRecovered _ packet recovered _ hpop =>
      exact traffic_takeRecovered hopen hinHand hpop _
  | poll => exact traffic_pollGapFill hopen now
  | notify => exact traffic_notify hopen

theorem traffic_processingStep {now : Nat}
    (hstep : session.processingStep now = some (next, events)) : Traffic session 0 events next := by
  rcases processingStep_cases hstep with ⟨taken, hinHand, hhandled⟩ | ⟨hinHand, hproceed⟩
  · have htraffic : Traffic session 0 _ _ := traffic_handleInHand hinHand now
    rw [hhandled] at htraffic
    exact htraffic
  · exact traffic_proceed hinHand hproceed

theorem traffic_closingStep {reason : String}
    (hstep : session.closingStep reason = some (next, events)) : Traffic session 0 events next := by
  cases closingStep_move hstep with
  | begin => exact .raise ⟨id, rfl, rfl, rfl, rfl, rfl⟩
  | stop | meetReceiver | meetMonitor | releaseReceiver | meetGapFiller | releaseGapFiller
  | meetProcessing => exact Traffic.Still.traffic ⟨id, rfl, rfl, rfl, rfl, rfl⟩

theorem traffic_step {action : SessionAction} (hstep : session.step action = some (next, events)) :
    Traffic session action.packetCount events next := by
  cases action with
  | work action =>
      cases action with
      | receive arrival now => exact traffic_receiverStep hstep
      | monitor beat now => exact traffic_monitorStep hstep
      | fillGap reply => exact traffic_gapFillerStep hstep
      | process now => exact traffic_processingStep hstep
  | close reason => exact traffic_closingStep hstep
  | choose call =>
      cases hstep
      exact Traffic.Still.traffic ⟨id, rfl, rfl, rfl, rfl, rfl⟩

theorem traffic_perform (session : Session) (action : SessionAction) :
    Traffic session action.packetCount (session.perform action).2 (session.perform action).1 := by
  unfold perform
  cases hstep : session.step action with
  | none => exact Traffic.Still.traffic ⟨id, rfl, rfl, rfl, rfl, rfl⟩
  | some outcome => exact traffic_step hstep

theorem traffic_run (session : Session) (actions : List SessionAction) :
    Traffic session (packetsBrought actions) (session.run actions).2 (session.run actions).1 := by
  induction actions generalizing session with
  | nil => exact .refl session
  | cons action actions ih => exact (traffic_perform session action).trans (ih _)

end Session

end MarketFeed
