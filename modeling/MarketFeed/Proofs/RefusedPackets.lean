import MarketFeed.Proofs.ProcessorUse

/-! Refused packets. A packet that is refused has handed over no message before, so that all that is left
of it are two counts; and since nothing looks at those, everything later is as if the packet had not
come. -/

namespace MarketFeed.Processor

variable {p : Processor} {packet : Bytes} {received : UInt64} {processed : Processed} {e : DecodeError}

theorem read_of_refused (hrefused : (Packet.decode packet).result = .error e) (p : Processor)
    (received : UInt64) : p.read packet received = p := by
  have hdecoder : (p.decoder.decode packet received).1 = p.decoder := by
    rw [Decoder.decode, Packet.messages_eq_nil hrefused]
    rfl
  rw [read, hdecoder]

theorem process_of_refused (hrefused : (Packet.decode packet).result = .error e) (p : Processor)
    (received : UInt64) : p.process packet received = .ok ⟨p.refuse, [], .error e⟩ := by
  rw [process_eq, read_of_refused hrefused, Packet.messages_eq_nil hrefused, hrefused]
  rfl

theorem result_of_process (hprocess : p.process packet received = .ok processed) :
    processed.result = (Packet.decode packet).result := by
  rw [process_eq] at hprocess
  obtain ⟨_, -, rfl⟩ := exists_of_map_ok hprocess
  rfl

/-- The counters with one more refused packet. -/
def countRefused (counters : Counters) : Counters :=
  { counters with
    decodeErrors := counters.decodeErrors + 1
    packetsDropped := counters.packetsDropped + 1 }

theorem recordLatency_countRefused (counters : Counters) (batch : LatencyTotals) :
    (countRefused counters).recordLatency batch = countRefused (counters.recordLatency batch) := by
  unfold Counters.recordLatency
  split <;> rfl

theorem conclude_refuse (p : Processor) (result : Except DecodeError Packet.Summary)
    (handled : List (Message × Handling)) :
    p.refuse.conclude result handled = (p.conclude result handled).refuse := by
  cases result with
  | error e => rfl
  | ok summary =>
      let counted := countPacket p.counters summary handled
      have hlatency := recordLatency_countRefused counted p.decoder.latency
      exact congrArg (fun counters => { p with decoder := p.decoder.takeLatency.2, counters }) hlatency

theorem unobserved_refuse : Unobserved refuse id id :=
  show Unobserved (·.adjust id countRefused) id id from
    unobserved_adjust (fun _ => rfl) (fun _ => rfl) (fun _ _ _ => rfl) conclude_refuse

theorem serve_refuse (p : Processor) (calls : List Call) :
    p.refuse.serve calls = (p.serve calls).map (·.map id refuse) := by
  rw [unobserved_refuse.serve, List.map_id_fun]

/-- **A refused packet leaves no trace.** The listener is told of nothing, and the processor is as
before but for the two counts of refused packets. Whatever comes later is answered as it would have been
without the packet, and leads to the same processor but for those counts. -/
theorem refused_leaves_no_trace (p : Processor) (packet : Bytes) (received : UInt64)
    (processed : Processed) (e : DecodeError)
    (hprocess : p.process packet received = .ok processed) (hrefused : processed.result = .error e) :
    processed.delivered = [] ∧
    processed.processor =
      { p with
        counters.decodeErrors := p.counters.decodeErrors + 1
        counters.packetsDropped := p.counters.packetsDropped + 1 } ∧
    ∀ calls, processed.processor.serve calls =
      (p.serve calls).map fun (replies, q) =>
        (replies,
          { q with
            counters.decodeErrors := q.counters.decodeErrors + 1
            counters.packetsDropped := q.counters.packetsDropped + 1 }) := by
  rw [result_of_process hprocess] at hrefused
  rw [process_of_refused hrefused] at hprocess
  cases hprocess
  exact ⟨rfl, rfl, serve_refuse p⟩

/-- A packet with a fresh start from 9 and a deletion that names no side. -/
def sidelessDeletion : Bytes :=
  (((PacketDraft.start 0 3 0).push ⟨⟨0, 0, 0, 3, 0⟩, .sequenceReset 9⟩).pushRaw 32 7 4 0
    (List.replicate 8 0 ++ [2])).finish

/-- A processor that expects 1 first and asks for what is missing. -/
def askingProcessor : Processor :=
  .ofConfig
    { FeedConfig.standard with
      sequence := ⟨some 1, 10⟩
      recovery := { RecoverySettings.standard with enabled := true, maxRange := 5 } }
    (.blank 10) .all .zero

/-- The first number after the packet leaves a gap, and what is missing is asked for. -/
def gapAfter : List Call :=
  [.packet ((PacketDraft.start 0 3 0).push ⟨⟨0, 0, 7, 3, 0⟩, .tradeCancel 1⟩).finish 0, .poll 0]

theorem refused_leaves_no_trace_sidelessDeletion :
    ∃ processed, askingProcessor.process sidelessDeletion 0 = .ok processed ∧
      processed.result = .error (.invalidSide 2) ∧ processed.delivered = [] ∧
      processed.processor.tracker.expected = some 1 ∧
      ∃ replies q, askingProcessor.serve gapAfter = .ok (replies, q) ∧
        processed.processor.serve gapAfter = .ok (replies, q.refuse) ∧
        replies.getLast? = some (.polled (some ⟨1, 2⟩)) := by
  have hrefused : (Packet.decode sidelessDeletion).result = .error (.invalidSide 2) := rfl
  have hprocess := process_of_refused hrefused askingProcessor 0
  obtain ⟨htold, hkept, hlater⟩ := refused_leaves_no_trace _ _ _ _ _ hprocess rfl
  have hanswers : (askingProcessor.serve gapAfter).map (·.1.getLast?) =
      .ok (some (.polled (some ⟨1, 2⟩))) := rfl
  obtain ⟨⟨replies, q⟩, hserve, hlast⟩ := exists_of_map_ok hanswers
  refine ⟨_, hprocess, rfl, htold, ?_, replies, q, hserve, ?_, hlast⟩
  · rw [hkept]
    rfl
  · rw [hlater, hserve]
    rfl

end MarketFeed.Processor
