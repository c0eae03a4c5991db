import MarketFeed.Proofs.ProcessorUse

/-! Features that can be left out. Books may be kept or not, messages may be timed or not, and missing
numbers may be asked for or not. For each of the three there is a processor that leaves it out: it does
what the processor with it does, but for what the feature itself keeps and counts. Hence turning the
feature on or off changes nothing else. -/

namespace MarketFeed

namespace Decoder

theorem time_untracked (latency : LatencyTotals) (received : UInt64) (message : Message) :
    (⟨false, latency⟩ : Decoder).time received message = ⟨false, latency⟩ := by
  rw [time, if_neg fun h => Bool.false_ne_true h.1]

theorem decode_untracked (latency : LatencyTotals) (packet : Bytes) (received : UInt64) :
    ((⟨false, latency⟩ : Decoder).decode packet received).1 = ⟨false, latency⟩ := by
  rw [decode]
  simp only
  induction (Packet.decode packet).messages with
  | nil => rfl
  | cons message messages ih => rw [List.foldl_cons, time_untracked, ih]

end Decoder

/-- What becomes of a message when there is no book to refuse it. -/
def Handling.unrefused : Handling → Handling
  | .delivered _ => .delivered false
  | .filtered => .filtered
  | .duplicate => .duplicate

namespace Processor

/-- The processor without books: it has none, it keeps none, and no refusals of theirs are counted. -/
def withoutBooks (p : Processor) : Processor :=
  { p with books := .blank 0, buildsBooks := false, counters.bookErrors := 0 }

theorem offer_withoutBooks (p : Processor) (message : Message) :
    p.withoutBooks.offer message = (p.offer message).map withoutBooks Handling.unrefused := by
  unfold offer
  by_cases hcontains : p.subscriptions.contains message.header.instrument
  · have hcontains' : p.withoutBooks.subscriptions.contains message.header.instrument := hcontains
    rw [if_neg (not_not_intro hcontains), if_neg (not_not_intro hcontains')]
    show (p.withoutBooks, Handling.delivered false) = _
    cases p.buildsBooks <;> rfl
  · have hcontains' : ¬p.withoutBooks.subscriptions.contains message.header.instrument := hcontains
    rw [if_pos hcontains, if_pos hcontains']
    rfl

theorem countWhere_map (handled : List (Message × Handling)) (see : Handling → Handling)
    (way : Handling → Bool) :
    countWhere (handled.map (·.map id see)) way = countWhere handled (way ∘ see) := by
  rw [countWhere, List.countP_map]
  rfl

theorem countWhere_never (handled : List (Message × Handling)) :
    countWhere handled (fun _ => false) = 0 := by
  rw [countWhere, List.countP_false]
  rfl

theorem countPacket_unrefused (counters : Counters) (summary : Packet.Summary)
    (handled : List (Message × Handling)) :
    countPacket { counters with bookErrors := 0 } summary
        (handled.map (·.map id Handling.unrefused)) =
      { countPacket counters summary handled with bookErrors := 0 } := by
  have hdelivered : isDelivered ∘ Handling.unrefused = isDelivered := by
    funext handling
    cases handling <;> rfl
  have hfiltered : (· == .filtered) ∘ Handling.unrefused = (· == .filtered) := by
    funext handling
    cases handling <;> rfl
  have hduplicate : (· == .duplicate) ∘ Handling.unrefused = (· == .duplicate) := by
    funext handling
    cases handling <;> rfl
  have hrefused : (· == .delivered true) ∘ Handling.unrefused = fun _ => false := by
    funext handling
    cases handling <;> rfl
  simp only [countPacket, countWhere_map, hdelivered, hfiltered, hduplicate, hrefused,
    countWhere_never, UInt64.add_zero]

theorem conclude_withoutBooks (p : Processor) (result : Except DecodeError Packet.Summary)
    (handled : List (Message × Handling)) :
    p.withoutBooks.conclude result (handled.map (·.map id Handling.unrefused)) =
      (p.conclude result handled).withoutBooks := by
  cases result with
  | error e => rfl
  | ok summary =>
      have hcounters : (countPacket p.withoutBooks.counters summary
          (handled.map (·.map id Handling.unrefused))).recordLatency p.decoder.latency =
          { (countPacket p.counters summary handled).recordLatency p.decoder.latency with
            bookErrors := 0 } := by
        rw [withoutBooks, countPacket_unrefused]
        unfold Counters.recordLatency
        split <;> rfl
      exact congrArg (fun counters =>
        { p.withoutBooks with decoder := p.decoder.takeLatency.2, counters }) hcounters

theorem unobserved_withoutBooks : Unobserved withoutBooks Handling.unrefused id where
  tracker _ := rfl
  setTracker _ _ := rfl
  countGap _ := rfl
  clear _ := rfl
  offer := offer_withoutBooks
  accepted := rfl
  duplicate := rfl
  delivery handling := by cases handling <;> rfl
  processed _ _ := rfl
  chosen := rfl
  read _ _ _ := rfl
  conclude := conclude_withoutBooks
  poll p now :=
    respond_poll (@pollGapFill_change p withoutBooks rfl rfl (fun _ => rfl) (fun _ => rfl) now)
  choose _ _ := rfl
  choice _ := rfl

/-- The processor that times no messages and has no latency. -/
def untracked (p : Processor) : Processor :=
  { p with decoder := ⟨false, .zero⟩, counters.latency := .zero }

theorem read_untracked (p : Processor) (packet : Bytes) (received : UInt64) :
    p.untracked.read packet received = (p.read packet received).untracked :=
  congrArg (fun decoder => { p.untracked with decoder })
    (Decoder.decode_untracked .zero packet received)

theorem conclude_untracked (p : Processor) (result : Except DecodeError Packet.Summary)
    (handled : List (Message × Handling)) :
    p.untracked.conclude result handled = (p.conclude result handled).untracked := by
  cases result with
  | error e => rfl
  | ok summary =>
      obtain ⟨latency, hlatency⟩ :=
        recordLatency_eq (countPacket p.counters summary handled) p.decoder.latency
      show _ = ({ p with
        decoder := p.decoder.takeLatency.2
        counters := (countPacket p.counters summary handled).recordLatency p.decoder.latency } :
          Processor).untracked
      rw [hlatency]
      rfl

theorem unobserved_untracked : Unobserved untracked id id :=
  show Unobserved (·.adjust (fun _ => ⟨false, .zero⟩) ({ · with latency := .zero })) id id from
    unobserved_adjust (fun _ => rfl) (fun _ => rfl) read_untracked conclude_untracked

/-- The processor that asks for nothing and has asked for nothing. -/
def withoutScheduler (p : Processor) : Processor :=
  { p with scheduler := none, counters.gapRequests := 0 }

/-- The reply without the request that was due. -/
def Reply.unasked : Reply → Reply
  | .polled _ => .polled none
  | reply => reply

theorem conclude_withoutScheduler (p : Processor) (result : Except DecodeError Packet.Summary)
    (handled : List (Message × Handling)) :
    p.withoutScheduler.conclude result handled = (p.conclude result handled).withoutScheduler := by
  cases result with
  | error e => rfl
  | ok summary =>
      have hcounters : (countPacket p.withoutScheduler.counters summary handled).recordLatency
          p.decoder.latency =
          { (countPacket p.counters summary handled).recordLatency p.decoder.latency with
            gapRequests := 0 } := by
        unfold Counters.recordLatency
        split <;> rfl
      exact congrArg (fun counters =>
        { p.withoutScheduler with decoder := p.decoder.takeLatency.2, counters }) hcounters

theorem unobserved_withoutScheduler : Unobserved withoutScheduler id Reply.unasked where
  tracker _ := rfl
  setTracker _ _ := rfl
  countGap _ := rfl
  clear _ := rfl
  offer p message := @offer_change p withoutScheduler rfl rfl rfl (fun _ => rfl) message
  accepted := rfl
  duplicate := rfl
  delivery _ := rfl
  processed _ _ := rfl
  chosen := rfl
  read _ _ _ := rfl
  conclude p result handled := by
    rw [Prod.map_id, List.map_id_fun]
    exact conclude_withoutScheduler p result handled
  poll p now := by
    obtain ⟨scheduler, gapRequests, hpoll⟩ := pollGapFill_snd p now
    show Except.ok (Reply.polled none, p.withoutScheduler) =
      Except.ok (Reply.polled none, (p.pollGapFill now).2.withoutScheduler)
    rw [hpoll]
    rfl
  choose _ _ := rfl
  choice _ := rfl

/-- **Optional features change nothing that is delivered.** Whatever is done with a processor, valid and
corrupt packets alike: keeping books changes only the books and the count of their refusals; timing
messages changes only the latency; and asking for missing numbers changes only the requests, and when
and how often there were any. All else, every answer and every message that the listener is told of
included, is the same. -/
theorem optional_features_change_no_delivery (config : FeedConfig) (books : Books)
    (subscriptions : Subscriptions) (counters : Counters) (calls : List Call) (on : Bool) :
    let run (config : FeedConfig) := (ofConfig config books subscriptions counters).serve calls
    (run { config with book.enabled := on }).map (·.map id withoutBooks) =
        (run config).map (·.map id withoutBooks) ∧
      (run { config with features.latencyTracking := on }).map (·.map id untracked) =
        (run config).map (·.map id untracked) ∧
      (run { config with recovery.enabled := on }).map (·.map (·.map Reply.unasked) withoutScheduler) =
        (run config).map (·.map (·.map Reply.unasked) withoutScheduler) := by
  intro run
  refine ⟨?_, ?_, ?_⟩
  · have hserve := unobserved_withoutBooks.serve
    simp only [List.map_id_fun] at hserve
    rw [← hserve, ← hserve]
    rfl
  · have hserve := unobserved_untracked.serve
    simp only [List.map_id_fun] at hserve
    rw [← hserve, ← hserve]
    rfl
  · rw [← unobserved_withoutScheduler.serve, ← unobserved_withoutScheduler.serve]
    rfl

end Processor

end MarketFeed
