import Mathlib.Algebra.GroupWithZero.Nat
import MarketFeed.Proofs.ProcessorUse

/-! How long messages took. The latencies of a packet are added up in a word that stays at its largest
value, but then they are added to a counter that does not: it goes on from 0. Hence the counter shows the
sum of all latencies as long as a word holds that sum. After that it shows what the packets' sums leave
modulo the size of a word, and it falls with every packet that makes it pass its word. -/

namespace MarketFeed

/-- What a word that stays at its largest value shows of the sum of latencies. -/
def heldSum (latencies : List Nat) : Nat := min latencies.sum (UInt64.size - 1)

theorem heldSum_lt (latencies : List Nat) : heldSum latencies < UInt64.size :=
  Nat.lt_of_le_of_lt (Nat.min_le_right _ _) (by decide)

theorem heldSum_concat (latencies : List Nat) (latency : Nat) :
    heldSum (latencies ++ [latency]) = min (heldSum latencies + latency) (UInt64.size - 1) := by
  simp only [heldSum, List.sum_append, List.sum_singleton]
  omega

/-- As long as a word holds the sum of all latencies, no packet's sum is held back. -/
theorem sum_map_heldSum {batches : List (List Nat)} (hsmall : batches.flatten.sum < UInt64.size) :
    (batches.map heldSum).sum = batches.flatten.sum := by
  induction batches with
  | nil => rfl
  | cons latencies batches ih =>
      rw [List.flatten_cons, List.sum_append] at hsmall ⊢
      have hheld : heldSum latencies = latencies.sum := Nat.min_eq_left (by omega)
      rw [List.map_cons, List.sum_cons, hheld, ih (by omega)]

/-- How long a message took, if it is known when it was sent and that was not after it was received. -/
def Message.latency? (received : UInt64) (message : Message) : Option Nat :=
  let sent := message.header.sendTime
  if sent ≠ 0 ∧ sent ≤ received then some (received.toNat - sent.toNat) else none

/-- A packet has fewer messages than a word can count. -/
theorem Packet.length_messages_lt (packet : Bytes) :
    (decode packet).messages.length < UInt64.size := by
  by_cases hpacket : ∃ records, IsPacket packet records
  · obtain ⟨records, hrecords⟩ := hpacket
    obtain ⟨unknown, hdecode, hcount⟩ := decode_of_isPacket hrecords
    have hsmall : (packet.word16At 2).toNat < UInt16.size := UInt16.toNat_lt_size _
    rw [hdecode]
    exact Nat.lt_trans (Nat.lt_of_le_of_lt (hcount ▸ Nat.le_add_right _ _) hsmall) (by decide)
  · obtain ⟨e, hdecode, -⟩ := decode_of_forall_not (not_exists.1 hpacket)
    rw [hdecode]
    exact Nat.zero_lt_succ _

namespace LatencyTotals

/-- Whether the totals are those of these latencies, the sum held at the largest word. -/
structure Holds (totals : LatencyTotals) (latencies : List Nat) : Prop where
  sum : totals.sum.toNat = heldSum latencies
  samples : totals.samples = UInt64.ofNat latencies.length

theorem holds_zero : zero.Holds [] := ⟨rfl, rfl⟩

theorem Holds.record {totals : LatencyTotals} {latencies : List Nat} (h : totals.Holds latencies)
    (latency : UInt64) : (totals.record latency).Holds (latencies ++ [latency.toNat]) := by
  constructor
  case sum =>
    show (saturatingAdd totals.sum latency).toNat = _
    rw [toNat_saturatingAdd, h.sum, heldSum_concat]
  case samples =>
    show totals.samples + 1 = _
    rw [h.samples, List.length_append, UInt64.ofNat_add]
    rfl

/-- The totals with a batch of latencies added: their sum, held at the largest word, and their number. -/
def addBatch (totals : LatencyTotals) (latencies : List Nat) : LatencyTotals :=
  ⟨totals.sum + UInt64.ofNat (heldSum latencies), totals.samples + UInt64.ofNat latencies.length⟩

theorem addBatch_nil (totals : LatencyTotals) : totals.addBatch [] = totals := by
  simp [addBatch, heldSum]

end LatencyTotals

namespace Decoder

variable {decoder : Decoder} {latencies : List Nat}

/-- Whether a decoder times messages and has these latencies. -/
structure Timed (decoder : Decoder) (latencies : List Nat) : Prop where
  tracking : decoder.tracking = true
  holds : decoder.latency.Holds latencies

theorem timed_start : (start true).Timed [] := ⟨rfl, LatencyTotals.holds_zero⟩

theorem Timed.time (h : decoder.Timed latencies) (received : UInt64) (message : Message) :
    (decoder.time received message).Timed (latencies ++ (message.latency? received).toList) := by
  unfold Decoder.time Message.latency?
  simp only [h.tracking, true_and]
  split
  · rename_i htimed
    have hdifference := UInt64.toNat_sub_of_le received message.header.sendTime htimed.2
    rw [Option.toList_some, ← hdifference]
    exact ⟨rfl, h.holds.record _⟩
  · rw [Option.toList_none, List.append_nil]
    exact h

theorem Timed.foldl (h : decoder.Timed latencies) (received : UInt64) (messages : List Message) :
    (messages.foldl (fun decoder message => decoder.time received message) decoder).Timed
      (latencies ++ messages.filterMap (Message.latency? received)) := by
  induction messages generalizing decoder latencies with
  | nil =>
      rw [List.filterMap_nil, List.append_nil]
      exact h
  | cons message messages ih =>
      have hcons : (message :: messages).filterMap (Message.latency? received) =
          (message.latency? received).toList ++ messages.filterMap (Message.latency? received) := by
        rw [List.filterMap_cons]
        cases message.latency? received <;> rfl
      rw [List.foldl_cons, hcons, ← List.append_assoc]
      exact ih (h.time received message)

end Decoder

/-- A batch is added to the counters whether or not there is anything in it. -/
theorem Counters.latency_recordLatency {batch : LatencyTotals} {latencies : List Nat}
    (h : batch.Holds latencies) (hfew : latencies.length < UInt64.size) (counters : Counters) :
    (counters.recordLatency batch).latency = counters.latency.addBatch latencies := by
  unfold recordLatency
  split
  · rename_i hzero
    have hnone : latencies.length = 0 := by
      rw [h.samples, ← UInt64.toNat_inj, UInt64.toNat_ofNat_of_lt' hfew] at hzero
      exact hzero
    rw [List.length_eq_zero_iff.1 hnone, LatencyTotals.addBatch_nil]
  · rw [LatencyTotals.addBatch, ← h.sum, UInt64.ofNat_toNat, ← h.samples]

namespace Processor

variable {p q : Processor} {messages : List Message} {handled : List (Message × Handling)}
  {call : Call} {calls : List Call} {reply : Reply} {replies : List Reply}
  {batches : List (List Nat)}

/-- How long the messages that come with a call took, as far as that is known. -/
def Call.latencies : Call → List Nat
  | .packet bytes received => (Packet.decode bytes).messages.filterMap (Message.latency? received)
  | _ => []

/-- Messages touch neither the decoder nor the latency counted so far. -/
theorem consume_latency (hconsume : p.consume messages = .ok (q, handled)) :
    q.decoder = p.decoder ∧ q.counters.latency = p.counters.latency := by
  have hcount : IgnoresGaps ({ · with latency := p.counters.latency }) := fun _ => rfl
  have hsame : p.consume messages = (p.consume messages).map
      (·.map (·.adjust (fun _ => p.decoder) ({ · with latency := p.counters.latency })) id) :=
    @consume_adjust (fun _ => p.decoder) _ hcount p messages
  rw [hconsume] at hsame
  have hsame := Except.ok.inj hsame
  exact ⟨congrArg (·.1.decoder) hsame, congrArg (·.1.counters.latency) hsame⟩

/-- Whether a processor times messages, has none of their latency in its decoder, and has counted that of
each call. -/
structure CountsLatency (p : Processor) (batches : List (List Nat)) : Prop where
  decoder : p.decoder = .start true
  sum : p.counters.latency.sum = UInt64.ofNat (batches.map heldSum).sum
  samples : p.counters.latency.samples = UInt64.ofNat batches.flatten.length

namespace CountsLatency

theorem concat (h : p.CountsLatency batches) {latencies : List Nat} (hdecoder : q.decoder = .start true)
    (hlatency : q.counters.latency = p.counters.latency.addBatch latencies) :
    q.CountsLatency (batches ++ [latencies]) := by
  refine ⟨hdecoder, ?_, ?_⟩
  · rw [hlatency, LatencyTotals.addBatch, h.sum, List.map_append, List.sum_append, UInt64.ofNat_add]
    rfl
  · rw [hlatency, LatencyTotals.addBatch, h.samples, List.flatten_concat, List.length_append,
      UInt64.ofNat_add]

/-- A call that brings no message leaves the latency as it is. -/
theorem idle (h : p.CountsLatency batches) (hdecoder : q.decoder = p.decoder)
    (hlatency : q.counters.latency = p.counters.latency) : q.CountsLatency (batches ++ [[]]) := by
  refine h.concat (hdecoder.trans h.decoder) ?_
  rw [LatencyTotals.addBatch_nil, hlatency]

theorem respond (h : p.CountsLatency batches) (hrespond : p.respond call = .ok (reply, q)) :
    q.CountsLatency (batches ++ [call.latencies]) := by
  cases call with
  | packet bytes received =>
      obtain ⟨taken, handled, hconsume, rfl, rfl⟩ := respond_packet_ok hrespond
      obtain ⟨hdecoder, hlatency⟩ := consume_latency hconsume
      have hdecoder : taken.decoder = ((Decoder.start true).decode bytes received).1 := by
        rw [hdecoder, ← h.decoder]
        rfl
      cases hresult : (Packet.decode bytes).result with
      | ok summary =>
          have hfew : (Call.packet bytes received).latencies.length < UInt64.size :=
            Nat.lt_of_le_of_lt (List.length_filterMap_le _ _) (Packet.length_messages_lt bytes)
          have htimed : taken.decoder.Timed (Call.packet bytes received).latencies := by
            rw [hdecoder]
            exact Decoder.timed_start.foldl received (Packet.decode bytes).messages
          refine h.concat ?_ ?_
          · show (⟨taken.decoder.tracking, .zero⟩ : Decoder) = .start true
            rw [htimed.tracking]
            rfl
          · refine (Counters.latency_recordLatency htimed.holds hfew _).trans ?_
            show taken.counters.latency.addBatch _ = _
            rw [hlatency]
            rfl
      | error e =>
          have hmessages := Packet.messages_eq_nil hresult
          rw [Call.latencies, hmessages]
          refine h.idle ?_ hlatency
          show taken.decoder = p.decoder
          rw [hdecoder, h.decoder, Decoder.decode, hmessages]
          rfl
  | poll now =>
      obtain ⟨scheduler, gapRequests, hpoll⟩ := pollGapFill_snd p now
      cases hrespond
      rw [hpoll]
      exact h.idle rfl rfl
  | choose call =>
      cases hrespond
      exact h.idle rfl rfl

theorem serve (h : p.CountsLatency batches) (hserve : p.serve calls = .ok (replies, q)) :
    q.CountsLatency (batches ++ calls.map Call.latencies) := by
  induction calls generalizing p batches replies with
  | nil =>
      cases hserve
      rw [List.map_nil, List.append_nil]
      exact h
  | cons call calls ih =>
      obtain ⟨reply, between, later, hrespond, hlater, -⟩ := serve_cons_ok hserve
      rw [List.map_cons, List.append_cons]
      exact ih (h.respond hrespond) hlater

end CountsLatency

theorem countsLatency_ofConfig (config : FeedConfig) (books : Books) (subscriptions : Subscriptions) :
    (ofConfig { config with features.latencyTracking := true } books subscriptions
      .zero).CountsLatency [] :=
  ⟨rfl, rfl, rfl⟩

/-- A sum falls when a word cannot hold it any more. -/
theorem toNat_add_lt_iff (a b : UInt64) : a + b < a ↔ UInt64.size ≤ a.toNat + b.toNat := by
  have ha := a.toNat_lt_size
  have hb := b.toNat_lt_size
  have hsize : UInt64.size = 2 ^ 64 := rfl
  rw [UInt64.lt_iff_toNat_lt, UInt64.toNat_add]
  omega

/-- **The latency counted is the sum of the packets' sums, less what passed its word.** Whatever is done
with a fresh processor that times messages and whose counters stand at 0: it has counted the messages of
accepted packets that were sent at a known time and not after they were received, as far as a word counts
them, and their latencies are added up for each packet in a word that stays at its largest value, and for
all packets modulo the size of a word. Hence the counter shows the sum of all latencies, held at the
largest word, as long as a word holds that sum, and after that only by chance; and it falls with a packet
just when the packet makes it pass its word. -/
theorem latency_shown_iff (config : FeedConfig) (books : Books) (subscriptions : Subscriptions)
    (calls : List Call) (replies : List Reply) (q : Processor)
    (hserve : (ofConfig { config with features.latencyTracking := true } books subscriptions
      .zero).serve calls = .ok (replies, q)) :
    let batches := calls.map Call.latencies
    q.counters.latency.samples.toNat = batches.flatten.length % UInt64.size ∧
    q.counters.latency.sum.toNat = (batches.map heldSum).sum % UInt64.size ∧
    (q.counters.latency.sum.toNat = heldSum batches.flatten ↔
      batches.flatten.sum < UInt64.size ∨
        (batches.map heldSum).sum % UInt64.size = UInt64.size - 1) ∧
    ∀ call reply r, q.respond call = .ok (reply, r) →
      (r.counters.latency.sum < q.counters.latency.sum ↔
        UInt64.size ≤ q.counters.latency.sum.toNat + heldSum call.latencies) := by
  intro batches
  have h : q.CountsLatency batches := (countsLatency_ofConfig config books subscriptions).serve hserve
  have hsum : q.counters.latency.sum.toNat = (batches.map heldSum).sum % UInt64.size := by
    rw [h.sum]
    exact UInt64.toNat_ofNat
  refine ⟨?_, hsum, ?_, ?_⟩
  · rw [h.samples]
    exact UInt64.toNat_ofNat
  · rw [hsum]
    by_cases hsmall : batches.flatten.sum < UInt64.size
    · have hexact := sum_map_heldSum hsmall
      have hheld : heldSum batches.flatten = batches.flatten.sum := Nat.min_eq_left (by omega)
      rw [hexact, hheld, Nat.mod_eq_of_lt hsmall]
      exact iff_of_true rfl (Or.inl hsmall)
    · have hheld : heldSum batches.flatten = UInt64.size - 1 := Nat.min_eq_right (by omega)
      rw [hheld]
      exact (or_iff_right hsmall).symm
  · intro call reply r hrespond
    have hadded := (h.respond hrespond).sum
    rw [List.map_append, List.sum_append, UInt64.ofNat_add, ← h.sum] at hadded
    have hword : (UInt64.ofNat ([call.latencies].map heldSum).sum).toNat = heldSum call.latencies :=
      UInt64.toNat_ofNat_of_lt' (heldSum_lt call.latencies)
    rw [hadded, toNat_add_lt_iff, hword]

/-- A packet of messages sent at these times, received at some time. -/
def heartbeatsSent (times : List UInt64) (received : UInt64) : Call :=
  let draft : PacketDraft :=
    times.foldl (fun draft sent => draft.push ⟨⟨0, 0, 0, 0, sent⟩, .heartbeat⟩) (.start 0 1 0)
  .packet draft.finish received

/-- A packet with a message without a send time, one that came before it was sent and two that took very
long, one that is no packet, and one with a message that took 2. -/
def oddlyTimedCalls : List Call :=
  [heartbeatsSent [0, 18446744073709551615, 1, 2] 18446744073709551614, .packet [0] 9,
    heartbeatsSent [5] 7]

theorem latency_shown_iff_oddlyTimedCalls :
    oddlyTimedCalls.map Call.latencies = [[18446744073709551613, 18446744073709551612], [], [2]] ∧
    ∃ replies q, (ofConfig .standard (.blank 10) .all .zero).serve oddlyTimedCalls = .ok (replies, q) ∧
      q.counters.latency.samples.toNat = 3 ∧ q.counters.latency.sum.toNat = 1 := by
  have hlatencies : oddlyTimedCalls.map Call.latencies =
      [[18446744073709551613, 18446744073709551612], [], [2]] := by decide +kernel
  have hserves : ((ofConfig .standard (.blank 10) .all .zero).serve oddlyTimedCalls).toOption.isSome :=
    by decide +kernel
  cases hserve : (ofConfig .standard (.blank 10) .all .zero).serve oddlyTimedCalls with
  | error e =>
      rw [hserve] at hserves
      cases hserves
  | ok answer =>
      obtain ⟨hsamples, hsum, -⟩ :=
        latency_shown_iff .standard (.blank 10) .all oddlyTimedCalls answer.1 answer.2 hserve
      rw [hlatencies] at hsamples hsum
      exact ⟨hlatencies, answer.1, answer.2, rfl, hsamples, hsum⟩

/-- Six messages whose send times count from the start of the session, and whose receive time counts
from long before. -/
def sessionClock : Call := heartbeatsSent [1, 1, 1, 1, 1, 1] 1700000000000000000

/-- With the second packet of this kind, the sum passes its word, and what is shown falls. -/
theorem sessionClock_passes_word :
    let shown (calls : List Call) : Option LatencyTotals :=
      ((ofConfig .standard (.blank 10) .all .zero).serve calls).toOption.map (·.2.counters.latency)
    heldSum (sessionClock.latencies ++ sessionClock.latencies) = 18446744073709551615 ∧
      shown [sessionClock] = some ⟨10199999999999999994, 6⟩ ∧
      shown [sessionClock, sessionClock] = some ⟨1953255926290448372, 12⟩ := by
  refine ⟨?_, ?_, ?_⟩ <;> decide +kernel

end Processor

end MarketFeed
