import MarketFeed.LatencyTotals
import MarketFeed.WholeNumberText

/-!
What a feed has seen, in numbers. Every counter is a word and wraps; the report states the totals
and, when any message was timed, the mean latency to the nearest nanosecond.
-/

namespace MarketFeed

structure Counters where
  packetsReceived : UInt64
  packetsDropped : UInt64
  bytesReceived : UInt64
  messagesReceived : UInt64
  messagesProcessed : UInt64
  messagesFiltered : UInt64
  duplicates : UInt64
  sequenceErrors : UInt64
  decodeErrors : UInt64
  bookErrors : UInt64
  unknownMessages : UInt64
  gapRequests : UInt64
  retransmittedPackets : UInt64
  latency : LatencyTotals
  deriving DecidableEq

namespace Counters

def zero : Counters :=
  { packetsReceived := 0, packetsDropped := 0, bytesReceived := 0, messagesReceived := 0,
    messagesProcessed := 0, messagesFiltered := 0, duplicates := 0, sequenceErrors := 0,
    decodeErrors := 0, bookErrors := 0, unknownMessages := 0, gapRequests := 0,
    retransmittedPackets := 0, latency := .zero }

/-- Adds a batch of latency samples; a batch without samples adds nothing. -/
def recordLatency (counters : Counters) (batch : LatencyTotals) : Counters :=
  if batch.samples = 0 then counters
  else
    { counters with
      latency := ⟨counters.latency.sum + batch.sum, counters.latency.samples + batch.samples⟩ }

/-- The report's line about latency. -/
def latencyText (counters : Counters) : String :=
  match counters.latency.mean? with
  | some mean =>
      "Latency: " ++ toString (nearestWhole mean) ++ " ns mean over " ++
        toString counters.latency.samples ++ " samples"
  | none => "Latency: n/a"

/-- Counts with their names, set apart by commas. -/
def listText (counts : List (UInt64 × String)) : String :=
  String.intercalate ", " (counts.map fun (count, name) => toString count ++ " " ++ name)

def text (c : Counters) : String :=
  String.intercalate "\n"
    ["=== Feed Statistics ===",
     "Packets: " ++ listText [(c.packetsReceived, "received"), (c.packetsDropped, "dropped"),
       (c.bytesReceived, "bytes")],
     "Messages: " ++ listText [(c.messagesReceived, "received"), (c.messagesProcessed, "processed"),
       (c.messagesFiltered, "filtered"), (c.duplicates, "duplicates"),
       (c.unknownMessages, "unknown")],
     "Errors: " ++ listText [(c.sequenceErrors, "sequence"), (c.decodeErrors, "decode"),
       (c.bookErrors, "book")],
     "Recovery: " ++ listText [(c.gapRequests, "gap requests"),
       (c.retransmittedPackets, "retransmitted packets")],
     c.latencyText]

end Counters

end MarketFeed
