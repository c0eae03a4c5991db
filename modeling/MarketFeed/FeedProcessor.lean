import MarketFeed.FeedConfig
import MarketFeed.FeedCounters
import MarketFeed.GapFill
import MarketFeed.Subscription
import MarketFeed.WireDecoder

/-!
Processing packets. An administrative message goes straight to the listener. Any other message goes
through the tracker, where duplicates end; then through the choice of instruments, where the
unwanted end; then into the books, whose refusal does not stop it; and then to the listener. A number
that the tracker cannot count stops everything.
-/

namespace MarketFeed

/-- All that processing depends on and changes. -/
structure Processor where
  decoder : Decoder
  tracker : SequenceTracker
  scheduler : Option GapFillScheduler
  buildsBooks : Bool
  books : Books
  subscriptions : Subscriptions
  counters : Counters

inductive Handling where
  /-- It went to the listener; the books may have refused it. -/
  | delivered (refused : Bool)
  | filtered
  | duplicate
  deriving DecidableEq

/-- Milliseconds in nanoseconds. -/
def nanoseconds (milliseconds : Nat) : Nat := milliseconds * 1000000

namespace Processor

/-- The processor that a configuration asks for, at the start of its stream. -/
def ofConfig (config : FeedConfig) (books : Books) (subscriptions : Subscriptions)
    (counters : Counters) : Processor :=
  let maxMissing := config.sequence.maxMissing.toNat
  { decoder := .start config.features.latencyTracking
    tracker := match config.sequence.initial with
      | some next => .startingAt next maxMissing
      | none => .unsynchronised maxMissing
    scheduler :=
      if config.recovery.enabled then
        some (.start (nanoseconds config.recovery.retryIntervalMs.toNat) config.recovery.maxRange)
      else none
    buildsBooks := config.book.enabled
    books, subscriptions, counters }

/-- Offers a message that is new to the instruments' books and to the listener. -/
def offer (p : Processor) (message : Message) : Processor × Handling :=
  if ¬ p.subscriptions.contains message.header.instrument then (p, .filtered)
  else if p.buildsBooks then
    let (books, refusal) := p.books.apply message
    ({ p with books }, .delivered refusal.isSome)
  else (p, .delivered false)

def accept (p : Processor) (message : Message) : Except CountError (Processor × Handling) :=
  match message.body with
  | .heartbeat => .ok (p, .delivered false)
  | .sequenceReset next =>
      .ok ({ p with tracker := p.tracker.reset next, scheduler := p.scheduler.map (·.clear) },
        .delivered false)
  | _ =>
      (p.tracker.receive message.header.sequence).map fun (outcome, tracker) =>
        let p := { p with tracker }
        match outcome with
        | .duplicate => (p, .duplicate)
        | .gap _ _ =>
            { p with counters.sequenceErrors := p.counters.sequenceErrors + 1 }.offer message
        | .inOrder | .recovered => p.offer message

/-- Takes in messages one after the other, and tells what became of each. -/
def consume (p : Processor) :
    List Message → Except CountError (Processor × List (Message × Handling))
  | [] => .ok (p, [])
  | message :: rest => do
      let (p, handling) ← p.accept message
      let (p, handled) ← p.consume rest
      pure (p, (message, handling) :: handled)

/-- The messages that went to the listener. -/
def delivered (handled : List (Message × Handling)) : List Message :=
  handled.filterMap fun (message, handling) =>
    match handling with
    | .delivered _ => some message
    | _ => none

def countWhere (handled : List (Message × Handling)) (way : Handling → Bool) : UInt64 :=
  UInt64.ofNat (handled.countP fun (_, handling) => way handling)

def isDelivered : Handling → Bool
  | .delivered _ => true
  | _ => false

def countPacket (counters : Counters) (summary : Packet.Summary)
    (handled : List (Message × Handling)) : Counters :=
  let unknown := UInt64.ofNat summary.unknown
  { counters with
    messagesReceived := counters.messagesReceived + (UInt64.ofNat summary.dispatched + unknown)
    messagesProcessed := counters.messagesProcessed + countWhere handled isDelivered
    messagesFiltered := counters.messagesFiltered + countWhere handled (· == .filtered)
    duplicates := counters.duplicates + countWhere handled (· == .duplicate)
    bookErrors := counters.bookErrors + countWhere handled (· == .delivered true)
    unknownMessages := counters.unknownMessages + unknown }

/-- Ends an accepted packet: counts it and moves its latency into the counters. -/
def settle (p : Processor) (summary : Packet.Summary) (handled : List (Message × Handling)) :
    Processor :=
  let (latency, decoder) := p.decoder.takeLatency
  { p with decoder, counters := (countPacket p.counters summary handled).recordLatency latency }

def refuse (p : Processor) : Processor :=
  { p with
    counters.decodeErrors := p.counters.decodeErrors + 1
    counters.packetsDropped := p.counters.packetsDropped + 1 }

/-- What processing a packet led to. -/
structure Processed where
  processor : Processor
  /-- The messages that went to the listener, in order. -/
  delivered : List Message
  result : Except DecodeError Packet.Summary

def process (p : Processor) (packet : Bytes) (received : UInt64) : Except CountError Processed := do
  let (decoder, decoded) := p.decoder.decode packet received
  let (p, handled) ← { p with decoder }.consume decoded.messages
  pure <| match decoded.result with
    | .ok summary => ⟨p.settle summary handled, delivered handled, .ok summary⟩
    | .error e => ⟨p.refuse, delivered handled, .error e⟩

/-- The request for missing numbers that is due, if there is one. -/
def pollGapFill (p : Processor) (now : Nat) : Option GapRequest × Processor :=
  match p.scheduler with
  | none => (none, p)
  | some scheduler =>
      let (request, scheduler) := scheduler.poll p.tracker now
      let p := { p with scheduler := some scheduler }
      match request with
      | none => (none, p)
      | some request =>
          (some request, { p with counters.gapRequests := p.counters.gapRequests + 1 })

end Processor

end MarketFeed
