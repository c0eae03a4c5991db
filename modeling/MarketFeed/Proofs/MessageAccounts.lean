import MarketFeed.FeedEvent
import MarketFeed.Proofs.OnceOnly
import MarketFeed.Proofs.ProcessorUse

/-! The accounts of a processor. Whatever is done with it, every message that came in an accepted packet
has been counted under one head: it went to the listener, its instrument was not chosen, it was a
duplicate, or its type was not known. The gaps are counted twice, by the tracker and among the counters,
and refused packets are counted by themselves. -/

namespace MarketFeed

/-- A packet that is accepted has handed over as many messages as it says. -/
theorem Packet.dispatched_eq_length {packet : Bytes} {summary : Summary}
    (haccepted : (decode packet).result = .ok summary) :
    summary.dispatched = (decode packet).messages.length := by
  by_cases hpacket : ∃ records, IsPacket packet records
  · obtain ⟨records, hrecords⟩ := hpacket
    obtain ⟨unknown, hdecode, -⟩ := decode_of_isPacket hrecords
    rw [hdecode] at haccepted ⊢
    cases haccepted
    rfl
  · obtain ⟨e, hdecode, -⟩ := decode_of_forall_not (not_exists.1 hpacket)
    rw [hdecode] at haccepted
    cases haccepted

def SequenceOutcome.gapCount : SequenceOutcome → UInt64
  | .gap _ _ => 1
  | .inOrder | .recovered | .duplicate => 0

theorem SequenceTracker.gapEvents_receive {tracker after : SequenceTracker} {n : UInt64}
    {outcome : SequenceOutcome} (hreceive : tracker.receive n = .ok (outcome, after)) :
    after.gapEvents = tracker.gapEvents + outcome.gapCount := by
  rcases receive_cases hreceive with ⟨-, rfl, rfl⟩ | ⟨expected, untracked, -, -, rfl, -, rfl⟩ |
    ⟨expected, -, -, ⟨-, rfl, rfl⟩ | ⟨-, rfl, rfl⟩⟩
  · exact (UInt64.add_zero _).symm
  · rfl
  · exact (UInt64.add_zero _).symm
  · exact (UInt64.add_zero _).symm

namespace EventTally

theorem total_countKind (tally : EventTally) (kind : MessageKind) :
    (tally.countKind kind).total = tally.total + 1 := by
  cases kind <;> simp only [countKind, total] <;> ac_rfl

theorem total_foldl_count (tally : EventTally) (messages : List Message) :
    ((messages.map FeedEvent.message).foldl count tally).total =
      tally.total + UInt64.ofNat messages.length := by
  induction messages generalizing tally with
  | nil => exact (UInt64.add_zero _).symm
  | cons message messages ih =>
      rw [List.map_cons, List.foldl_cons, ih, count, total_countKind, List.length_cons,
        UInt64.ofNat_add, UInt64.add_assoc, UInt64.add_comm 1]
      rfl

end EventTally

namespace Processor

variable {p q r : Processor} {message : Message} {messages : List Message} {handling : Handling}
  {handled more : List (Message × Handling)} {unknown further : Nat} {reply : Reply}
  {replies later : List Reply} {call : Call} {calls : List Call}

/-- Whether the gaps counted are those that the tracker has counted. -/
def CountsGaps (p : Processor) : Prop := p.counters.sequenceErrors = p.tracker.gapEvents

/-- While messages are taken in, gaps are all that is counted. -/
structure OnlyGaps (p q : Processor) : Prop where
  counters : q.counters = { p.counters with sequenceErrors := q.counters.sequenceErrors }
  gaps : p.CountsGaps → q.CountsGaps

theorem OnlyGaps.refl (p : Processor) : p.OnlyGaps p := ⟨rfl, id⟩

theorem OnlyGaps.trans (h : p.OnlyGaps q) (h' : q.OnlyGaps r) : p.OnlyGaps r := by
  refine ⟨?_, h'.gaps ∘ h.gaps⟩
  rw [h'.counters, h.counters]

theorem offer_counts (p : Processor) (message : Message) :
    (p.offer message).1.counters = p.counters ∧ (p.offer message).1.tracker = p.tracker := by
  unfold offer
  split
  · exact ⟨rfl, rfl⟩
  · split <;> exact ⟨rfl, rfl⟩

theorem pass_counts (p : Processor) (message : Message) (outcome : SequenceOutcome) :
    (p.pass message outcome).1.tracker = p.tracker ∧
      (p.pass message outcome).1.counters =
        { p.counters with sequenceErrors := p.counters.sequenceErrors + outcome.gapCount } := by
  cases outcome with
  | duplicate =>
      refine ⟨rfl, ?_⟩
      rw [SequenceOutcome.gapCount, UInt64.add_zero]
      rfl
  | gap first last =>
      let counted := { p with counters.sequenceErrors := p.counters.sequenceErrors + 1 }
      exact (offer_counts counted message).symm
  | inOrder | recovered =>
      rw [SequenceOutcome.gapCount, UInt64.add_zero]
      exact (offer_counts p message).symm

theorem accept_onlyGaps (haccept : p.accept message = .ok (q, handling)) : p.OnlyGaps q := by
  rcases accept_cases haccept with ⟨-, rfl, -⟩ | ⟨next, -, -, rfl⟩ | ⟨-, outcome, tracker, hreceive, hpass⟩
  · exact .refl q
  · exact ⟨rfl, id⟩
  · obtain ⟨htracker, hcounters⟩ := pass_counts { p with tracker } message outcome
    rw [hpass] at htracker hcounters
    refine ⟨by rw [hcounters], fun h => ?_⟩
    rw [CountsGaps, hcounters, htracker, SequenceTracker.gapEvents_receive hreceive]
    exact congrArg (· + outcome.gapCount) h

theorem consume_onlyGaps (hconsume : p.consume messages = .ok (q, handled)) : p.OnlyGaps q := by
  induction messages generalizing p handled with
  | nil =>
      cases hconsume
      exact .refl _
  | cons message messages ih =>
      obtain ⟨between, handling, later, haccept, hlater, -⟩ := consume_cons_ok hconsume
      exact (accept_onlyGaps haccept).trans (ih hlater)

/-! ### What runs do to the counters -/

def Call.isPacket : Call → Bool
  | .packet _ _ => true
  | _ => false

/-- The messages of known and unknown types that are said to have come. -/
def Reply.messageCount : Reply → Nat
  | .processed (.ok summary) _ => summary.dispatched + summary.unknown
  | _ => 0

/-- All messages that are said to have come. -/
def arrivals : List Reply → Nat
  | [] => 0
  | reply :: replies => reply.messageCount + arrivals replies

theorem arrivals_append (replies later : List Reply) :
    arrivals (replies ++ later) = arrivals replies + arrivals later := by
  induction replies with
  | nil => exact (Nat.zero_add _).symm
  | cons reply replies ih => rw [List.cons_append, arrivals, arrivals, ih, Nat.add_assoc]

/-- Whether a packet has been refused. -/
def Reply.isRefusal : Reply → Bool
  | .processed (.error _) _ => true
  | _ => false

/-- The counters once messages have been handled, others were found to be of no known type, and packets
have been refused. -/
def countAll (counters : Counters) (unknown : Nat) (handled : List (Message × Handling))
    (refused : Nat) : Counters :=
  { countMessages counters unknown handled with
    decodeErrors := counters.decodeErrors + UInt64.ofNat refused
    packetsDropped := counters.packetsDropped + UInt64.ofNat refused }

theorem countAll_zero (counters : Counters) (unknown : Nat) (handled : List (Message × Handling)) :
    countAll counters unknown handled 0 = countMessages counters unknown handled := by
  have hzero (count : UInt64) : count + UInt64.ofNat 0 = count := UInt64.add_zero count
  rw [countAll, hzero, hzero]
  rfl

theorem countAll_nil (counters : Counters) : countAll counters 0 [] 0 = counters := by
  rw [countAll_zero, countMessages_nil]

theorem countAll_append (counters : Counters) (unknown further refused dropped : Nat)
    (first second : List (Message × Handling)) :
    countAll (countAll counters unknown first refused) further second dropped =
      countAll counters (unknown + further) (first ++ second) (refused + dropped) := by
  rw [countAll, countAll, countAll, ← countMessages_append, UInt64.ofNat_add, ← UInt64.add_assoc,
    ← UInt64.add_assoc]
  rfl

/-- What a processor has counted from one time to another, when it gave the replies, handled messages
and met others of no known type. -/
structure Accounts (p : Processor) (replies : List Reply) (handled : List (Message × Handling))
    (unknown : Nat) (q : Processor) : Prop where
  told : replies.flatMap Reply.told = delivered handled
  arrived : arrivals replies = handled.length + unknown
  counted : ∃ sequenceErrors gapRequests latency, q.counters =
    { countAll p.counters unknown handled (replies.countP Reply.isRefusal) with
      sequenceErrors, gapRequests, latency }
  gaps : p.CountsGaps → q.CountsGaps

namespace Accounts

theorem refl (p : Processor) : Accounts p [] [] 0 p :=
  ⟨rfl, rfl, ⟨_, _, _, (countAll_nil p.counters).symm⟩, id⟩

theorem trans (h : Accounts p replies handled unknown q) (h' : Accounts q later more further r) :
    Accounts p (replies ++ later) (handled ++ more) (unknown + further) r := by
  refine ⟨?_, ?_, ?_, h'.gaps ∘ h.gaps⟩
  · rw [List.flatMap_append, h.told, h'.told, delivered_append]
  · rw [arrivals_append, h.arrived, h'.arrived, List.length_append]
    omega
  · obtain ⟨_, _, _, hcounters⟩ := h.counted
    obtain ⟨sequenceErrors, gapRequests, latency, hcounters'⟩ := h'.counted
    refine ⟨sequenceErrors, gapRequests, latency, ?_⟩
    rw [hcounters', hcounters, List.countP_append, ← countAll_append]
    rfl

end Accounts

/-- A packet that is refused had no message, and one that is accepted counts all of its messages. -/
theorem conclude_accounts {bytes : Bytes} {received : UInt64}
    (hconsume : (p.read bytes received).consume (Packet.decode bytes).messages = .ok (q, handled)) :
    ∃ unknown, Accounts p [.processed (Packet.decode bytes).result (delivered handled)] handled unknown
      (q.conclude (Packet.decode bytes).result handled) := by
  cases hresult : (Packet.decode bytes).result with
  | error e =>
      rw [Packet.messages_eq_nil hresult] at hconsume
      cases hconsume
      have hrefused : countAll p.counters 0 [] 1 = p.refuse.counters := by
        rw [countAll, countMessages_nil]
        rfl
      exact ⟨0, rfl, rfl, ⟨_, _, _, hrefused.symm⟩, id⟩
  | ok summary =>
      have hdispatched : summary.dispatched = handled.length :=
        (Packet.dispatched_eq_length hresult).trans (length_of_consume hconsume).symm
      obtain ⟨latency, hconclude⟩ := conclude_accepted hdispatched q
      obtain ⟨hcounters, hgaps⟩ := consume_onlyGaps hconsume
      rw [hconclude]
      refine ⟨summary.unknown, List.append_nil _, ?_, ⟨q.counters.sequenceErrors,
        p.counters.gapRequests, latency, ?_⟩, hgaps⟩
      · exact congrArg (· + summary.unknown) hdispatched
      · show { countMessages q.counters summary.unknown handled with latency } =
          { countAll p.counters summary.unknown handled 0 with
            sequenceErrors := q.counters.sequenceErrors, latency }
        rw [countAll_zero, hcounters]
        rfl

/-- Every call is accounted for. -/
theorem respond_accounts (hrespond : p.respond call = .ok (reply, q)) :
    ∃ handled unknown, Accounts p [reply] handled unknown q := by
  have hnone := countAll_nil p.counters
  cases call with
  | packet bytes received =>
      obtain ⟨taken, handled, hconsume, rfl, rfl⟩ := respond_packet_ok hrespond
      exact ⟨handled, conclude_accounts hconsume⟩
  | poll now =>
      obtain ⟨scheduler, gapRequests, hpoll⟩ := pollGapFill_snd p now
      cases hrespond
      rw [hpoll]
      refine ⟨[], 0, rfl, rfl, ⟨p.counters.sequenceErrors, gapRequests, p.counters.latency, ?_⟩, id⟩
      exact congrArg (fun counters : Counters => { counters with gapRequests }) hnone.symm
  | choose call =>
      cases hrespond
      exact ⟨[], 0, rfl, rfl, ⟨_, _, _, hnone.symm⟩, id⟩

theorem serve_accounts (hserve : p.serve calls = .ok (replies, q)) :
    ∃ handled unknown, Accounts p replies handled unknown q := by
  induction calls generalizing p replies with
  | nil =>
      cases hserve
      exact ⟨[], 0, .refl _⟩
  | cons call calls ih =>
      obtain ⟨reply, between, later, hrespond, hlater, rfl⟩ := serve_cons_ok hserve
      obtain ⟨handled, unknown, h⟩ := respond_accounts hrespond
      obtain ⟨more, further, h'⟩ := ih hlater
      exact ⟨handled ++ more, unknown + further, h.trans h'⟩

theorem countP_isRefusal_le (hserve : p.serve calls = .ok (replies, q)) :
    replies.countP Reply.isRefusal ≤ calls.countP Call.isPacket := by
  induction calls generalizing p replies with
  | nil =>
      cases hserve
      exact Nat.le_refl 0
  | cons call calls ih =>
      obtain ⟨reply, between, later, hrespond, hlater, rfl⟩ := serve_cons_ok hserve
      have hle := ih hlater
      rw [List.countP_cons, List.countP_cons]
      cases call with
      | packet bytes received =>
          have hpacket : (Call.packet bytes received).isPacket = true := rfl
          rw [if_pos hpacket]
          split <;> omega
      | poll now =>
          cases hrespond
          exact hle
      | choose call =>
          cases hrespond
          exact hle

def Call.arrivals : Call → List Message
  | .packet bytes _ => (Packet.decode bytes).messages
  | _ => []

theorem Counted.respond_ok (h : p.Counted (passed handled))
    (hnumbers : ∀ message ∈ call.arrivals, message.kind.isAdministrative = false →
      message.header.sequence ≠ largest) :
    ∃ reply q more, p.respond call = .ok (reply, q) ∧ q.Counted (passed more) := by
  cases call with
  | packet bytes received =>
      have hread : (p.read bytes received).Counted (passed handled) := h.congr rfl
      have hnumbers : ∀ message ∈ (Packet.decode bytes).messages ++ [],
          message.kind.isAdministrative = false → message.header.sequence ≠ largest := by
        rw [List.append_nil]
        exact hnumbers
      obtain ⟨⟨taken, more⟩, hconsume⟩ := invariant_counted.consume_ok
        (fun ⟨hcounted, hnumbers⟩ => hcounted.accept_ok (hnumbers _ List.mem_cons_self))
        ⟨hread, hnumbers⟩
      obtain ⟨hcounted, -⟩ := invariant_counted.consume ⟨hread, hnumbers⟩ hconsume
      obtain ⟨decoder, counters, hconclude⟩ := taken.conclude_eq (Packet.decode bytes).result more
      rw [respond_packet, hconsume]
      refine ⟨_, _, handled ++ more, rfl, hcounted.congr ?_⟩
      rw [hconclude]
  | poll now =>
      obtain ⟨scheduler, gapRequests, hpoll⟩ := pollGapFill_snd p now
      refine ⟨_, _, handled, rfl, h.congr ?_⟩
      rw [hpoll]
  | choose call => exact ⟨_, _, handled, rfl, h.congr rfl⟩

/-- Where no message has the largest number, nothing stops a processor. -/
theorem Counted.serve_ok (h : p.Counted (passed handled))
    (hnumbers : ∀ message ∈ calls.flatMap Call.arrivals, message.kind.isAdministrative = false →
      message.header.sequence ≠ largest) :
    ∃ replies q, p.serve calls = .ok (replies, q) := by
  induction calls generalizing p handled with
  | nil => exact ⟨[], p, rfl⟩
  | cons call calls ih =>
      rw [List.flatMap_cons, List.forall_mem_append] at hnumbers
      obtain ⟨reply, between, more, hrespond, hbetween⟩ := h.respond_ok hnumbers.1
      obtain ⟨later, q, hlater⟩ := ih hbetween hnumbers.2
      refine ⟨reply :: later, q, ?_⟩
      rw [serve_cons, hrespond]
      show (between.serve calls).map _ = _
      rw [hlater]
      rfl

theorem toNat_countWhere (hfew : handled.length < UInt64.size) (way : Handling → Bool) :
    (countWhere handled way).toNat = handled.countP (way ·.2) :=
  UInt64.toNat_ofNat_of_lt' (Nat.lt_of_le_of_lt List.countP_le_length hfew)

/-- Every message is handled in one of three ways. -/
theorem length_eq_countP (handled : List (Message × Handling)) :
    handled.length = handled.countP (isDelivered ·.2) + handled.countP (·.2 == .filtered) +
      handled.countP (·.2 == .duplicate) := by
  induction handled with
  | nil => rfl
  | cons first handled ih =>
      obtain ⟨message, handling⟩ := first
      rw [List.length_cons, List.countP_cons, List.countP_cons, List.countP_cons, ih]
      cases handling <;> simp [isDelivered] <;> omega

theorem length_delivered (handled : List (Message × Handling)) :
    (delivered handled).length = handled.countP (isDelivered ·.2) := by
  rw [delivered, List.length_filterMap_eq_countP]
  refine List.countP_congr fun first _ => ?_
  obtain ⟨message, handling⟩ := first
  cases handling <;> rfl

/-- What the books refuse goes to the listener all the same. -/
theorem countP_refused_le (handled : List (Message × Handling)) :
    handled.countP (·.2 == .delivered true) ≤ handled.countP (isDelivered ·.2) := by
  refine List.countP_mono_left fun first _ hrefused => ?_
  rw [beq_iff_eq.1 hrefused]
  rfl

/-- Whether the counters of a processor, all of which stood at 0, agree with the replies, with what the
listener was told and with the tracker. -/
structure Balanced (replies : List Reply) (q : Processor) : Prop where
  received : q.counters.messagesReceived.toNat = arrivals replies
  heads : q.counters.messagesReceived.toNat =
    q.counters.messagesProcessed.toNat + q.counters.messagesFiltered.toNat +
      q.counters.duplicates.toNat + q.counters.unknownMessages.toNat
  told : q.counters.messagesProcessed.toNat = (replies.flatMap Reply.told).length
  tallied : (((replies.flatMap Reply.told).map FeedEvent.message).foldl EventTally.count .zero).total =
    q.counters.messagesProcessed
  gaps : q.counters.sequenceErrors = q.tracker.gapEvents
  decodeErrors : q.counters.decodeErrors.toNat = replies.countP Reply.isRefusal
  packetsDropped : q.counters.packetsDropped.toNat = replies.countP Reply.isRefusal
  bookErrors : q.counters.bookErrors ≤ q.counters.messagesProcessed

theorem Accounts.balanced (h : Accounts p replies handled unknown q) (hzero : p.counters = .zero)
    (hgaps : p.tracker.gapEvents = 0) (hmessages : arrivals replies < UInt64.size)
    (hrefusals : replies.countP Reply.isRefusal < UInt64.size) : Balanced replies q := by
  obtain ⟨htold, harrived, ⟨_, _, _, hcounters⟩, hcounts⟩ := h
  rw [hzero] at hcounters
  have hlength : (replies.flatMap Reply.told).length = handled.countP (isDelivered ·.2) := by
    rw [← length_delivered, ← htold]
  have hheads := length_eq_countP handled
  rw [harrived] at hmessages
  have hfew : handled.length < UInt64.size := by omega
  have hfrom {n : Nat} (h : n < UInt64.size) : (0 + UInt64.ofNat n).toNat = n := by
    rw [UInt64.zero_add]
    exact UInt64.toNat_ofNat_of_lt' h
  have hways (way : Handling → Bool) : (0 + countWhere handled way).toNat = handled.countP (way ·.2) := by
    rw [UInt64.zero_add, toNat_countWhere hfew]
  have hreceived : q.counters.messagesReceived.toNat = handled.length + unknown := by
    rw [hcounters]
    exact hfrom hmessages
  have hprocessed : q.counters.messagesProcessed.toNat = handled.countP (isDelivered ·.2) := by
    rw [hcounters]
    exact hways isDelivered
  have hfiltered : q.counters.messagesFiltered.toNat = handled.countP (·.2 == .filtered) := by
    rw [hcounters]
    exact hways (· == .filtered)
  have hduplicates : q.counters.duplicates.toNat = handled.countP (·.2 == .duplicate) := by
    rw [hcounters]
    exact hways (· == .duplicate)
  have hunknown : q.counters.unknownMessages.toNat = unknown := by
    rw [hcounters]
    exact hfrom (by omega)
  have hbookErrors : q.counters.bookErrors.toNat = handled.countP (·.2 == .delivered true) := by
    rw [hcounters]
    exact hways (· == .delivered true)
  constructor
  case received => rw [hreceived, harrived]
  case heads => omega
  case told => rw [hprocessed, hlength]
  case tallied =>
    rw [← UInt64.toNat_inj, hprocessed, EventTally.total_foldl_count, ← hlength]
    exact hfrom (by omega)
  case gaps =>
    refine hcounts ?_
    rw [CountsGaps, hzero, hgaps]
    rfl
  case decodeErrors =>
    rw [hcounters]
    exact hfrom hrefusals
  case packetsDropped =>
    rw [hcounters]
    exact hfrom hrefusals
  case bookErrors =>
    rw [UInt64.le_iff_toNat_le, hprocessed, hbookErrors]
    exact countP_refused_le handled

/-- **Every message is accounted for exactly once.** Whatever is done with a fresh processor whose counters
stand at 0, unless more happens than a word can count: the messages that came are those of which the
listener was told, those of instruments that were not chosen, the duplicates and those of no known type;
the gaps counted are the tracker's; and every refused packet is counted. Where no message has the largest
number nothing stops the processor. -/
theorem every_message_accounted (config : FeedConfig) (books : Books) (subscriptions : Subscriptions)
    (calls : List Call) (hpackets : calls.countP Call.isPacket < UInt64.size) :
    (∀ replies q, (ofConfig config books subscriptions .zero).serve calls = .ok (replies, q) →
      arrivals replies < UInt64.size → Balanced replies q) ∧
    ((∀ message ∈ calls.flatMap Call.arrivals, message.kind.isAdministrative = false →
        message.header.sequence ≠ largest) →
      ∃ replies q, (ofConfig config books subscriptions .zero).serve calls = .ok (replies, q)) := by
  constructor
  · intro replies q hserve hmessages
    obtain ⟨handled, unknown, haccounts⟩ := serve_accounts hserve
    have hgaps : (ofConfig config books subscriptions .zero).tracker.gapEvents = 0 := by
      rw [ofConfig]
      cases config.sequence.initial <;> rfl
    have hrefusals := Nat.lt_of_le_of_lt (countP_isRefusal_le hserve) hpackets
    exact haccounts.balanced rfl hgaps hmessages hrefusals
  · intro hnumbers
    have hcounted : (ofConfig config books subscriptions .zero).Counted (passed []) :=
      counted_ofConfig config books subscriptions .zero
    exact hcounted.serve_ok hnumbers

/-- Packets with a message of no known type, a gap, an instrument that is not chosen, a duplicate, an
order that no book knows, and one that is too short. -/
def busyCalls : List Call :=
  let cancel (instrument : UInt32) (sequence : UInt64) : Message :=
    ⟨⟨0, 0, instrument, sequence, 0⟩, .tradeCancel 1⟩
  let delete : Message := ⟨⟨0, 0, 7, 4, 0⟩, .deleteOrder 40 .ask⟩
  [.choose (.unsubscribe 8),
    .packet (((PacketDraft.start 0 1 0).push (cancel 7 1)).pushRaw 99 7 2 0 []).finish 0,
    .packet (((PacketDraft.start 0 3 0).push (cancel 7 3)).push (cancel 8 2)).finish 0,
    .packet ((PacketDraft.start 0 3 0).push (cancel 7 3)).finish 0,
    .packet [] 0, .poll 0,
    .packet ((PacketDraft.start 0 4 0).push delete).finish 0]

theorem every_message_accounted_busyCalls :
    busyCalls.countP Call.isPacket = 5 ∧
    (∀ message ∈ busyCalls.flatMap Call.arrivals, message.kind.isAdministrative = false →
      message.header.sequence ≠ largest) ∧
    ∃ replies q, (ofConfig .standard (.blank 10) .all .zero).serve busyCalls = .ok (replies, q) ∧
      arrivals replies = 6 ∧ Balanced replies q ∧ q.counters.messagesProcessed.toNat = 3 ∧
      q.counters.duplicates = 1 ∧ q.counters.sequenceErrors = 1 ∧
      q.counters.packetsDropped.toNat = 1 ∧ q.counters.bookErrors = 1 := by
  have hpackets : busyCalls.countP Call.isPacket = 5 := rfl
  have hnumbers : ∀ message ∈ busyCalls.flatMap Call.arrivals, message.kind.isAdministrative = false →
      message.header.sequence ≠ largest := by decide
  have hanswers : ((ofConfig .standard (.blank 10) .all .zero).serve busyCalls).map
      (fun answer => (arrivals answer.1, (answer.1.flatMap Reply.told).length,
        answer.1.countP Reply.isRefusal, answer.2.counters.duplicates, answer.2.tracker.gapEvents,
        answer.2.counters.bookErrors)) = .ok (6, 3, 1, 1, 1, 1) := rfl
  obtain ⟨hbalanced, htotal⟩ := every_message_accounted .standard (.blank 10) .all busyCalls (by decide)
  obtain ⟨replies, q, hserve⟩ := htotal hnumbers
  rw [hserve] at hanswers
  simp only [Except.map, Except.ok.injEq, Prod.mk.injEq] at hanswers
  obtain ⟨harrivals, htold, hrefusals, hduplicates, hgaps, hbookErrors⟩ := hanswers
  have hfew : arrivals replies < UInt64.size := by
    rw [harrivals]
    decide
  have h := hbalanced replies q hserve hfew
  exact ⟨hpackets, hnumbers, replies, q, hserve, harrivals, h, h.told.trans htold, hduplicates,
    h.gaps.trans hgaps, h.packetsDropped.trans hrefusals, hbookErrors⟩

end Processor

end MarketFeed
