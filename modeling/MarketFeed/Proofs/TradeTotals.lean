import Mathlib.Algebra.GroupWithZero.Nat
import MarketFeed.Proofs.BookIsolation

/-! What has been traded in an instrument. A book adds up the trades that name its instrument since the
books were begun or cleared, each of them once, whatever it executes and whatever comes in between. The
words for the sums hold them as long as 64 bits hold the quantity: no trade has a price that 64 bits do
not hold, so 128 bits are enough for what was paid. -/

namespace MarketFeed

/-- The trade in an instrument that a message reports. -/
def Message.tradeIn? (message : Message) (instrument : UInt32) : Option TradeReport :=
  match message.body with
  | .trade report => if message.header.instrument = instrument then some report else none
  | _ => none

namespace Trades

/-- How much changed hands. -/
def volume (trades : List TradeReport) : Nat := (trades.map (·.quantity.toNat)).sum

/-- How much was paid for it. -/
def turnover (trades : List TradeReport) : Nat :=
  (trades.map fun report => report.price.toNat * report.quantity.toNat).sum

theorem volume_append (trades more : List TradeReport) :
    volume (trades ++ more) = volume trades + volume more := by
  rw [volume, List.map_append, List.sum_append, volume, volume]

theorem turnover_append (trades more : List TradeReport) :
    turnover (trades ++ more) = turnover trades + turnover more := by
  rw [turnover, List.map_append, List.sum_append, turnover, turnover]

theorem volume_singleton (report : TradeReport) : volume [report] = report.quantity.toNat := rfl

theorem turnover_singleton (report : TradeReport) :
    turnover [report] = report.price.toNat * report.quantity.toNat := rfl

theorem volume_le_of_prefix {trades more : List TradeReport} (hbegins : trades <+: more) :
    volume trades ≤ volume more := by
  obtain ⟨rest, rfl⟩ := hbegins
  rw [volume_append]
  exact Nat.le_add_right _ _

/-- Nothing changes hands for more than the highest price there is. -/
theorem turnover_le (trades : List TradeReport) :
    turnover trades ≤ (UInt64.size - 1) * volume trades := by
  induction trades with
  | nil => exact Nat.le_refl _
  | cons report trades ih =>
      have hprice : report.price.toNat ≤ UInt64.size - 1 := Nat.le_pred_of_lt report.price.toNat_lt
      have hpaid := Nat.mul_le_mul_right report.quantity.toNat hprice
      have hvolume := volume_append [report] trades
      have hturnover := turnover_append [report] trades
      rw [volume_singleton, List.singleton_append] at hvolume
      rw [turnover_singleton, List.singleton_append] at hturnover
      rw [hvolume, hturnover, Nat.mul_add]
      exact Nat.add_le_add hpaid ih

/-- What was paid for a quantity that 64 bits hold is held by 128 bits. -/
theorem turnover_lt {trades : List TradeReport} (hvolume : volume trades < UInt64.size) :
    turnover trades < 2 ^ 128 := by
  have hvolume : volume trades ≤ UInt64.size - 1 := Nat.le_pred_of_lt hvolume
  calc turnover trades ≤ (UInt64.size - 1) * volume trades := turnover_le trades
    _ ≤ (UInt64.size - 1) * (UInt64.size - 1) := Nat.mul_le_mul_left _ hvolume
    _ < 2 ^ 128 := by decide

end Trades

namespace Book

/-- Whether the last of these trades is the last that a book knows of. -/
def IsLast (book : Book) (trades : List TradeReport) : Prop :=
  book.lastTradePrice = trades.getLast?.map (·.price) ∧
    book.lastTradeQuantity = (trades.getLast?.map (·.quantity)).getD 0

/-- Whether the totals of a book are those of these trades: what they come to, how many there are, and
the last of them. -/
structure Sums (book : Book) (trades : List TradeReport) : Prop where
  volume : book.totalVolume.toNat = Trades.volume trades
  turnover : book.turnover.toNat = Trades.turnover trades
  count : book.tradeCount.toNat = trades.length
  last : book.IsLast trades

/-- Whether no total of the book passes its word when a trade is recorded. -/
def HasRoomFor (book : Book) (report : TradeReport) : Prop :=
  book.totalVolume.toNat + report.quantity.toNat < UInt64.size ∧
    book.turnover.toNat + report.price.toNat * report.quantity.toNat < 2 ^ 128 ∧
    book.tradeCount.toNat + 1 < UInt64.size

/-- Whether the totals of a book are those of these trades as far as their words hold them. -/
structure Tallies (book : Book) (trades : List TradeReport) : Prop where
  volume : book.totalVolume = UInt64.ofNat (Trades.volume trades)
  turnover : book.turnover = BitVec.ofNat 128 (Trades.turnover trades)
  count : book.tradeCount = UInt64.ofNat trades.length
  last : book.IsLast trades

namespace Tallies

variable {book : Book} {trades : List TradeReport}

theorem blank (instrument : UInt32) : (Book.blank instrument).Tallies [] := ⟨rfl, rfl, rfl, rfl, rfl⟩

theorem recordTrade (h : book.Tallies trades) (report : TradeReport) :
    (book.recordTrade report.price report.quantity).Tallies (trades ++ [report]) := by
  have hlast : (trades ++ [report]).getLast? = some report := List.getLast?_concat
  refine ⟨?_, ?_, ?_, ?_, ?_⟩
  · rw [Trades.volume_append, UInt64.ofNat_add, ← h.volume, Trades.volume_singleton,
      UInt64.ofNat_uInt32ToNat]
    rfl
  · rw [Trades.turnover_append, BitVec.ofNat_add, ← h.turnover]
    rfl
  · rw [List.length_append, UInt64.ofNat_add, ← h.count]
    rfl
  · rw [hlast]
    rfl
  · rw [hlast]
    rfl

/-- Sums that their words hold are exact. -/
theorem sums (h : book.Tallies trades) (hcount : trades.length < UInt64.size)
    (hvolume : Trades.volume trades < UInt64.size) : book.Sums trades := by
  refine ⟨?_, ?_, ?_, h.last⟩
  · rw [h.volume, UInt64.toNat_ofNat_of_lt' hvolume]
  · rw [h.turnover, BitVec.toNat_ofNat, Nat.mod_eq_of_lt (Trades.turnover_lt hvolume)]
  · rw [h.count, UInt64.toNat_ofNat_of_lt' hcount]

theorem eq_nil_of_blank {instrument : UInt32} (h : (Book.blank instrument).Tallies trades) :
    trades = [] := by
  have hlast : none = trades.getLast?.map (·.price) := h.last.1
  exact List.getLast?_eq_none_iff.1 (Option.map_eq_none_iff.1 hlast.symm)

end Tallies

theorem tallies_bare {book : Book} {trades : List TradeReport} :
    book.bare.Tallies trades ↔ book.Tallies trades :=
  ⟨fun h => ⟨h.volume, h.turnover, h.count, h.last⟩,
    fun h => ⟨h.volume, h.turnover, h.count, h.last⟩⟩

/-- A book that sums up its trades has room for one more as long as 64 bits hold the quantity and the
number with it. -/
theorem Sums.hasRoomFor {book : Book} {trades : List TradeReport} (h : book.Sums trades)
    (report : TradeReport) (hcount : (trades ++ [report]).length < UInt64.size)
    (hvolume : Trades.volume (trades ++ [report]) < UInt64.size) : book.HasRoomFor report := by
  have hturnover := Trades.turnover_lt hvolume
  rw [Trades.turnover_append, Trades.turnover_singleton] at hturnover
  rw [Trades.volume_append, Trades.volume_singleton] at hvolume
  rw [List.length_append] at hcount
  rw [HasRoomFor, h.volume, h.turnover, h.count]
  exact ⟨hvolume, hturnover, hcount⟩

end Book

namespace Books

/-- The trades in an instrument after an event, given those before it. -/
def noteTrade (instrument : UInt32) (trades : List TradeReport) : Event → List TradeReport
  | .apply message => trades ++ (message.tradeIn? instrument).toList
  | .clear => []

/-- The trades that a run of events reports in an instrument since the books were begun or cleared. -/
def tradesIn (instrument : UInt32) (events : List Event) : List TradeReport :=
  events.foldl (noteTrade instrument) []

/-- The book of an instrument, a blank one if it has none. -/
def bookOf (books : Books) (instrument : UInt32) : Book :=
  (books.book? instrument).getD (.blank instrument)

variable {books : Books} {instrument : UInt32} {trades : List TradeReport}

/-- Whatever a message announces, a book tallies the trade that it reports, if it reports one. -/
theorem tallies_announce {book : Book} (h : book.Tallies trades) (message : Message)
    (hnamed : message.header.instrument = instrument) :
    (message.announce book).Tallies (trades ++ (message.tradeIn? instrument).toList) := by
  obtain ⟨header, body⟩ := message
  cases body with
  | trade report =>
      have htrade : Message.tradeIn? ⟨header, .trade report⟩ instrument = some report := if_pos hnamed
      rw [htrade]
      exact h.recordTrade report
  | securityDefinition terms =>
      rw [Message.tradeIn?, Option.toList_none, List.append_nil]
      exact ⟨h.volume, h.turnover, h.count, h.last⟩
  | statistics figures =>
      rw [Message.tradeIn?, Option.toList_none, List.append_nil]
      exact ⟨h.volume, h.turnover, h.count, h.last⟩
  | _ =>
      rw [Message.tradeIn?, Option.toList_none, List.append_nil]
      exact h

theorem bare_bookOf (books : Books) (instrument : UInt32) :
    (books.bookOf instrument).bare = (books.bare? instrument).getD (.blank instrument) := by
  rw [bare?, bookOf]
  cases books.book? instrument <;> rfl

theorem tallies_apply (htracked : books.Tracked) (h : (books.bookOf instrument).Tallies trades)
    (message : Message) : ((books.apply message).1.bookOf instrument).Tallies
      (trades ++ (message.tradeIn? instrument).toList) := by
  rw [← Book.tallies_bare, bare_bookOf] at h ⊢
  rw [bare?_apply htracked]
  split
  · rename_i htold
    exact tallies_announce h message htold.1
  · rename_i hkept
    have hnone : message.tradeIn? instrument = none := by
      obtain ⟨header, body⟩ := message
      cases body with
      | trade report => exact if_neg fun hnamed => hkept ⟨hnamed, trivial⟩
      | _ => rfl
    rw [hnone, Option.toList_none, List.append_nil]
    exact h

/-- Every book tallies the trades of a run in its instrument. -/
theorem tallies_run (htracked : books.Tracked) (h : (books.bookOf instrument).Tallies trades)
    (events : List Event) : ((books.run events).bookOf instrument).Tallies
      (events.foldl (noteTrade instrument) trades) := by
  induction events generalizing books trades with
  | nil => exact h
  | cons event events ih =>
      refine ih (htracked.after event) ?_
      cases event with
      | apply message => exact tallies_apply htracked h message
      | clear => exact .blank instrument

theorem tallies_tradesIn (maxDepth : Nat) (events : List Event) (instrument : UInt32) :
    (((blank maxDepth).run events).bookOf instrument).Tallies (tradesIn instrument events) :=
  tallies_run (Tracked.blank maxDepth) (.blank instrument) events

theorem tradesIn_append (earlier : List Event) (event : Event) (later : List Event) :
    tradesIn instrument (earlier ++ event :: later) =
      later.foldl (noteTrade instrument) (noteTrade instrument (tradesIn instrument earlier) event) := by
  rw [tradesIn, List.foldl_append, List.foldl_cons, tradesIn]

/-- Without a clearing no trade is forgotten. -/
theorem prefix_foldl_noteTrade {events : List Event} (hkept : Event.clear ∉ events)
    (trades : List TradeReport) : trades <+: events.foldl (noteTrade instrument) trades := by
  induction events generalizing trades with
  | nil => exact List.prefix_refl trades
  | cons event events ih =>
      rw [List.mem_cons, not_or] at hkept
      obtain ⟨hevent, hkept⟩ := hkept
      cases event with
      | apply message => exact (List.prefix_append _ _).trans (ih hkept _)
      | clear => exact absurd rfl hevent

/-- What a run of events has led to has room for the next of the trades that are summed up. -/
theorem hasRoomFor_of_prefix {maxDepth : Nat} {earlier : List Event} {report : TradeReport}
    (hbegins : tradesIn instrument earlier ++ [report] <+: trades)
    (hcount : trades.length < UInt64.size) (hvolume : Trades.volume trades < UInt64.size) :
    (((blank maxDepth).run earlier).bookOf instrument).HasRoomFor report := by
  have hearlier : tradesIn instrument earlier <+: trades := (List.prefix_append _ _).trans hbegins
  have hsums : (((blank maxDepth).run earlier).bookOf instrument).Sums
      (tradesIn instrument earlier) :=
    (tallies_tradesIn maxDepth earlier instrument).sums
      (Nat.lt_of_le_of_lt hearlier.length_le hcount)
      (Nat.lt_of_le_of_lt (Trades.volume_le_of_prefix hearlier) hvolume)
  exact hsums.hasRoomFor report (Nat.lt_of_le_of_lt hbegins.length_le hcount)
    (Nat.lt_of_le_of_lt (Trades.volume_le_of_prefix hbegins) hvolume)

theorem maxDepth_run (books : Books) (events : List Event) :
    (books.run events).maxDepth = books.maxDepth := by
  induction events generalizing books with
  | nil => rfl
  | cons event events ih =>
      refine (ih _).trans ?_
      cases event with
      | apply message => exact maxDepth_apply books message
      | clear => rfl

/-- **The totals of a book are the exact sums of its trades.** As long as 64 bits hold the number of the
trades in an instrument since the books were begun or cleared and the quantity of all of them, its book
sums up exactly these, whatever orders they name and whatever else happens; no trade among them
makes any total pass its word. What happens after a clearing does so as if nothing had been before. -/
theorem totals_exact (maxDepth : Nat) (events : List Event) (instrument : UInt32)
    (hcount : (tradesIn instrument events).length < UInt64.size)
    (hvolume : Trades.volume (tradesIn instrument events) < UInt64.size) :
    (tradesIn instrument events ≠ [] → (((blank maxDepth).run events).book? instrument).isSome) ∧
    (∀ book, ((blank maxDepth).run events).book? instrument = some book →
      book.Sums (tradesIn instrument events)) ∧
    (∀ earlier message later report, events = earlier ++ .apply message :: later →
      Event.clear ∉ later → message.tradeIn? instrument = some report →
      (((blank maxDepth).run earlier).bookOf instrument).HasRoomFor report) ∧
    ∀ later, (blank maxDepth).run (events ++ .clear :: later) = (blank maxDepth).run later := by
  have htallies := tallies_tradesIn maxDepth events instrument
  refine ⟨?_, ?_, ?_, ?_⟩
  · intro htraded
    rw [← Option.ne_none_iff_isSome]
    intro hnone
    rw [bookOf, hnone] at htallies
    exact htraded htallies.eq_nil_of_blank
  · intro book hbook
    rw [bookOf, hbook] at htallies
    exact htallies.sums hcount hvolume
  · rintro earlier message later report rfl hkept hreport
    refine hasRoomFor_of_prefix ?_ hcount hvolume
    rw [tradesIn_append, noteTrade, hreport]
    exact prefix_foldl_noteTrade hkept _
  · intro later
    have hcleared : after (events.foldl after (blank maxDepth)) .clear = blank maxDepth :=
      congrArg blank (maxDepth_run (blank maxDepth) events)
    rw [run, List.foldl_append, List.foldl_cons, hcleared]
    rfl

/-- Trades before and after a clearing. Of the later ones in instrument 7 one executes more than there
is of its order and one names no order that rests; another is called back; one is of instrument 8. -/
def busyTape : List Event :=
  let trade (instrument : UInt32) (report : TradeReport) : Event :=
    .apply ⟨⟨56, 50, instrument, 1, 0⟩, .trade report⟩
  [trade 7 ⟨0, 1, 3, 3, .bid⟩, .clear, .apply ⟨⟨48, 30, 7, 2, 0⟩, .addOrder ⟨1, 100, 5, .bid⟩⟩,
    trade 7 ⟨1, 2, 18446744073709551615, 9, .bid⟩, trade 7 ⟨99, 3, 100, 4, .ask⟩,
    .apply ⟨⟨32, 51, 7, 3, 0⟩, .tradeCancel 3⟩, trade 8 ⟨1, 4, 100, 2, .bid⟩]

theorem totals_exact_busyTape :
    tradesIn 7 busyTape = [⟨1, 2, 18446744073709551615, 9, .bid⟩, ⟨99, 3, 100, 4, .ask⟩] ∧
    (tradesIn 7 busyTape).length < UInt64.size ∧
    Trades.volume (tradesIn 7 busyTape) < UInt64.size ∧
    ∃ book, ((blank 10).run busyTape).book? 7 = some book ∧ book.Sums (tradesIn 7 busyTape) ∧
      book.totalVolume = 13 ∧ book.turnover = 166020696663385964935#128 ∧ book.tradeCount = 2 ∧
      book.lastTradePrice = some 100 ∧ book.bids = [] := by
  have hcount : (tradesIn 7 busyTape).length < UInt64.size := by decide
  have hvolume : Trades.volume (tradesIn 7 busyTape) < UInt64.size := by decide
  obtain ⟨-, hsums, -⟩ := totals_exact 10 busyTape 7 hcount hvolume
  exact ⟨rfl, hcount, hvolume, _, rfl, hsums _ rfl, rfl, rfl, rfl, rfl, rfl⟩

end Books

end MarketFeed
