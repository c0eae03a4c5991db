import MarketFeed.WireMessage

/-!
What a feed tells its listener: the messages, one by one, and that the connection has gone. A tally
counts the messages by kind and keeps the reasons of disconnections.
-/

namespace MarketFeed

/-- One thing told to the listener. -/
inductive FeedEvent where
  | message (message : Message)
  | disconnected (reason : String)
  deriving DecidableEq

/-- How often each kind of message was told, and every reason of a disconnection, the first first. -/
structure EventTally where
  addOrders : UInt64
  modifyOrders : UInt64
  deleteOrders : UInt64
  trades : UInt64
  tradeCancels : UInt64
  securityDefinitions : UInt64
  statistics : UInt64
  heartbeats : UInt64
  sequenceResets : UInt64
  disconnections : List String
  deriving DecidableEq

namespace EventTally

def zero : EventTally :=
  { addOrders := 0, modifyOrders := 0, deleteOrders := 0, trades := 0, tradeCancels := 0,
    securityDefinitions := 0, statistics := 0, heartbeats := 0, sequenceResets := 0,
    disconnections := [] }

def countKind (tally : EventTally) : MessageKind → EventTally
  | .heartbeat => { tally with heartbeats := tally.heartbeats + 1 }
  | .sequenceReset => { tally with sequenceResets := tally.sequenceResets + 1 }
  | .securityDefinition => { tally with securityDefinitions := tally.securityDefinitions + 1 }
  | .addOrder => { tally with addOrders := tally.addOrders + 1 }
  | .modifyOrder => { tally with modifyOrders := tally.modifyOrders + 1 }
  | .deleteOrder => { tally with deleteOrders := tally.deleteOrders + 1 }
  | .trade => { tally with trades := tally.trades + 1 }
  | .tradeCancel => { tally with tradeCancels := tally.tradeCancels + 1 }
  | .statistics => { tally with statistics := tally.statistics + 1 }

def count (tally : EventTally) : FeedEvent → EventTally
  | .message message => tally.countKind message.kind
  | .disconnected reason => { tally with disconnections := tally.disconnections ++ [reason] }

def total (tally : EventTally) : UInt64 :=
  tally.addOrders + tally.modifyOrders + tally.deleteOrders + tally.trades + tally.tradeCancels +
    tally.securityDefinitions + tally.statistics + tally.heartbeats + tally.sequenceResets

end EventTally

end MarketFeed
