import MarketFeed.Book
import MarketFeed.BookKeeping
import MarketFeed.BookLevels
import MarketFeed.BoundedQueue
import MarketFeed.Bytes
import MarketFeed.ConfigReading
import MarketFeed.DisconnectSignal
import MarketFeed.FeedClient
import MarketFeed.FeedConfig
import MarketFeed.FeedCounters
import MarketFeed.FeedEvent
import MarketFeed.FeedProcessor
import MarketFeed.GapFill
import MarketFeed.LatencyTotals
import MarketFeed.NetAddress
import MarketFeed.NetEndpoint
import MarketFeed.NetHost
import MarketFeed.Price
import MarketFeed.Retransmission
import MarketFeed.RingBuffer
import MarketFeed.SequenceMissing
import MarketFeed.SequenceTracker
import MarketFeed.SessionSchedule
import MarketFeed.SessionState
import MarketFeed.SessionStep
import MarketFeed.SlotPool
import MarketFeed.StreamFramer
import MarketFeed.Subscription
import MarketFeed.Table
import MarketFeed.TextHiddenRanges
import MarketFeed.TextQuoted
import MarketFeed.TextUtf8
import MarketFeed.TomlDateTime
import MarketFeed.TomlDocument
import MarketFeed.TomlNumber
import MarketFeed.TomlSpacing
import MarketFeed.TomlString
import MarketFeed.TomlTable
import MarketFeed.TomlValue
import MarketFeed.TransportFault
import MarketFeed.WholeNumberText
import MarketFeed.WireDecoder
import MarketFeed.WireDecoding
import MarketFeed.WireEncoding
import MarketFeed.WireMessage
import MarketFeed.Words
import MarketFeed.Proofs.LevelLookup
import MarketFeed.Proofs.LevelTotals
import MarketFeed.Proofs.TableValues
import MarketFeed.Proofs.BookAggregation
import MarketFeed.Proofs.Results
import MarketFeed.Proofs.SequenceAccounting
import MarketFeed.Proofs.MissingRuns
import MarketFeed.Proofs.PacketGrammar
import MarketFeed.Proofs.MessageByMessage
import MarketFeed.Proofs.PacketRoundTrip
import MarketFeed.Proofs.CanonicalRecord
import MarketFeed.Proofs.StreamCutting
import MarketFeed.Proofs.ReplyCutting
import MarketFeed.Proofs.BookEffects
import MarketFeed.Proofs.BookIsolation
import MarketFeed.Proofs.TradeTotals
import MarketFeed.Proofs.BookReordering
import MarketFeed.Proofs.OrderLife
import MarketFeed.Proofs.MessageHandling
import MarketFeed.Proofs.OnceOnly
import MarketFeed.Proofs.GapRecovery
import MarketFeed.Proofs.ProcessorUse
import MarketFeed.Proofs.RefusedPackets
import MarketFeed.Proofs.MessageAccounts
import MarketFeed.Proofs.PacketBoundaries
import MarketFeed.Proofs.LastChoice
import MarketFeed.Proofs.UnchosenInstruments
import MarketFeed.Proofs.OptionalFeatures
import MarketFeed.Proofs.LatencySums
import MarketFeed.Proofs.RingQueue
import MarketFeed.Proofs.SlotLeases
import MarketFeed.Proofs.SlotSearch
import MarketFeed.Proofs.GapThrottling
import MarketFeed.Proofs.SessionMoves
import MarketFeed.Proofs.SessionOrder
import MarketFeed.Proofs.SilenceWatch
import MarketFeed.Proofs.SessionTraffic
import MarketFeed.Proofs.SessionNotice
import MarketFeed.Proofs.SessionAccounts
import MarketFeed.Proofs.SessionClosing
import MarketFeed.Proofs.ClientLife
import MarketFeed.Proofs.ClientMoves
import MarketFeed.Proofs.ShownState
import MarketFeed.Proofs.AskedServer
