import MarketFeed.Proofs.BookReordering
import MarketFeed.Proofs.MessageHandling
import MarketFeed.Proofs.SequenceAccounting

/-! Messages that come late. When there is room to look for all that is missing, a number that comes
for the first time is never given up and never taken for a duplicate. Hence a stretch of messages that
comes in another order is delivered whole, and where dependent messages keep their order the books end
as if nothing had been late. -/

namespace MarketFeed

namespace SequenceTracker.Accounts

variable {tracker : SequenceTracker} {base expected n : UInt64} {accepted : List UInt64}

/-- While every number since the start has room among the missing ones, a new number is accepted and
none is given up. -/
theorem receive_new (h : tracker.Accounts base expected accepted)
    (hexpected : tracker.expected = some expected) (hkept : tracker.untracked = 0)
    (hbase : base ≤ n) (hnew : n ∉ accepted) (hroom : n.toNat - base.toNat ≤ tracker.maxMissing)
    (hn : n.toNat ≠ UInt64.size - 1) :
    ∃ outcome after next, tracker.receive n = .ok (outcome, after) ∧ outcome ≠ .duplicate ∧
      after.expected = some next ∧ next.toNat ≤ max expected.toNat (n.toNat + 1) ∧
      after.untracked = 0 ∧ after.maxMissing = tracker.maxMissing ∧
      after.Accounts base next (n :: accepted) := by
  have hbehind : (n + 1).toNat ≤ max expected.toNat (n.toNat + 1) := by
    rw [toNat_add_one hn]
    exact Nat.le_max_right _ _
  unfold SequenceTracker.receive
  rw [hexpected]
  simp only
  by_cases heq : n = expected
  · subst heq
    rw [if_pos rfl]
    exact ⟨_, _, n + 1, rfl, nofun, rfl, hbehind, hkept, rfl, h.advance hn⟩
  rw [if_neg heq]
  by_cases hlt : expected < n
  · -- What is missing and what is passed over now are numbers from the start up to `n`.
    have hfits : n.toNat - expected.toNat - (tracker.maxMissing - tracker.missing.length) = 0 := by
      have hcounted := h.counted
      rw [hkept, UInt64.toNat_zero] at hcounted
      omega
    obtain ⟨untracked, hchecked, hpassed⟩ := h.passOver hlt
    rw [if_pos hlt, Missing.skip_of_below fun m hmem => (h.missing_range m hmem).2]
    simp only [hchecked, Except.map]
    rw [hfits, hkept] at hchecked
    cases hchecked
    exact ⟨_, _, n + 1, rfl, nofun, rfl, hbehind, rfl, rfl, (hpassed.advance hn).congr rfl rfl rfl⟩
  · have hbefore : n < expected := UInt64.lt_of_le_of_ne (UInt64.not_lt.1 hlt) heq
    have hmem : n.toNat ∈ tracker.missing := (h.mem_missing_iff hkept).2 ⟨hbase, hbefore, hnew⟩
    rw [if_neg hlt, if_pos hmem]
    exact ⟨_, _, expected, rfl, nofun, rfl, Nat.le_max_left _ _, hkept, rfl,
      (h.recover hmem).congr rfl rfl rfl⟩

/-- When so many numbers have been accepted as lie before the expected one, none is missing. -/
theorem complete (h : tracker.Accounts base expected accepted) (hkept : tracker.untracked = 0)
    (hexpected : expected.toNat ≤ base.toNat + accepted.length) :
    tracker.missing = [] ∧ expected = base + UInt64.ofNat accepted.length := by
  have hcounted := h.counted
  have hsize : expected.toNat < 2 ^ 64 := expected.toNat_lt
  rw [hkept, UInt64.toNat_zero] at hcounted
  refine ⟨List.eq_nil_of_length_eq_zero (by omega), UInt64.toNat_inj.1 ?_⟩
  rw [UInt64.toNat_add, UInt64.toNat_ofNat', Nat.mod_eq_of_lt (by omega), Nat.mod_eq_of_lt (by omega)]
  omega

end SequenceTracker.Accounts

/-- Whether messages have the numbers from `base` on, in order. -/
structure Message.Consecutive (base : UInt64) (messages : List Message) : Prop where
  numbered : ∀ message ∈ messages, message.kind.isAdministrative = false
  sequences : messages.map (·.header.sequence.toNat) = List.range' base.toNat messages.length
  notLargest : ∀ message ∈ messages, message.header.sequence.toNat ≠ UInt64.size - 1

/-- Whether the messages that arrive are the given ones, in an order that keeps the order of those that
depend on each other. -/
structure Message.Reorders (arrived messages : List Message) : Prop where
  perm : arrived.Perm messages
  keeps : arrived.Pairwise fun earlier later =>
    earlier.Dependent later → earlier.header.sequence < later.header.sequence

namespace Books

theorem applyAll_concat (books : Books) (messages : List Message) (message : Message) :
    books.applyAll (messages ++ [message]) =
      (((books.applyAll messages).1.apply message).1,
        (books.applyAll messages).2 +
          ((books.applyAll messages).1.apply message).2.isSome.toNat) := by
  induction messages generalizing books with
  | nil => simp [applyAll]
  | cons first messages ih =>
      simp only [List.cons_append, applyAll, ih, Prod.mk.injEq, true_and]
      omega

end Books

namespace Processor

variable {p q : Processor} {message : Message} {handling : Handling} {outcome : SequenceOutcome}
  {arrived rest : List Message} {handled : List (Message × Handling)} {base : UInt64} {books : Books}

/-! With books and without a choice of instruments, a message that is new goes into the books and to
the listener. -/

theorem offer_new (message : Message) (hbuilds : p.buildsBooks = true)
    (hsubscribed : ∀ instrument, p.subscriptions.contains instrument = true) :
    (p.offer message).2 = .delivered (p.books.apply message).2.isSome ∧
      (p.offer message).1.books = (p.books.apply message).1 := by
  rw [offer, if_neg (not_not_intro (hsubscribed _)), if_pos hbuilds]
  exact ⟨rfl, rfl⟩

theorem pass_new (message : Message) (hbuilds : p.buildsBooks = true)
    (hsubscribed : ∀ instrument, p.subscriptions.contains instrument = true)
    (hnew : outcome ≠ .duplicate) :
    (p.pass message outcome).2 = .delivered (p.books.apply message).2.isSome ∧
      (p.pass message outcome).1.books = (p.books.apply message).1 := by
  cases outcome with
  | duplicate => exact absurd rfl hnew
  | gap first last =>
      let counted := { p with counters.sequenceErrors := p.counters.sequenceErrors + 1 }
      have hcounted : counted.buildsBooks = true := hbuilds
      exact offer_new message hcounted hsubscribed
  | inOrder | recovered => exact offer_new message hbuilds hsubscribed

/-- How a processor stands in the middle of a stretch of messages that arrive in some order: it has
accepted all that have come, and looks for those that have been passed over. -/
structure Recovering (base : UInt64) (books : Books) (arrived : List Message) (p : Processor)
    (handled : List (Message × Handling)) (rest : List Message) : Prop where
  arrived_eq : handled.map (·.1) ++ rest = arrived
  buildsBooks : p.buildsBooks = true
  subscribed : ∀ instrument, p.subscriptions.contains instrument = true
  room : arrived.length ≤ p.tracker.maxMissing
  untracked : p.tracker.untracked = 0
  accounts : ∃ expected, p.tracker.expected = some expected ∧
    expected.toNat ≤ base.toNat + arrived.length ∧
    p.tracker.Accounts base expected (handled.reverse.map (·.1.header.sequence))
  books_eq : p.books = (books.applyAll (handled.map (·.1))).1
  delivered : ∀ entry ∈ handled, isDelivered entry.2
  refused : handled.countP (·.2 == .delivered true) = (books.applyAll (handled.map (·.1))).2

/-- Whether messages have all the numbers of a stretch from `base` on, in any order. -/
structure Due (base : UInt64) (arrived : List Message) : Prop where
  numbered : ∀ message ∈ arrived, message.kind.isAdministrative = false
  nodup : (arrived.map (·.header.sequence)).Nodup
  range : ∀ message ∈ arrived, base ≤ message.header.sequence ∧
    message.header.sequence.toNat < base.toNat + arrived.length
  notLargest : ∀ message ∈ arrived, message.header.sequence.toNat ≠ UInt64.size - 1

theorem Recovering.mem_arrived (h : Recovering base books arrived p handled (message :: rest)) :
    message ∈ arrived := by
  rw [← h.arrived_eq]
  exact List.mem_append_right _ List.mem_cons_self

theorem Recovering.sequence_notMem (h : Recovering base books arrived p handled (message :: rest))
    (hdue : Due base arrived) :
    message.header.sequence ∉ handled.reverse.map (·.1.header.sequence) := by
  have hnodup := hdue.nodup
  rw [← h.arrived_eq, List.map_append, List.map_cons, List.nodup_append] at hnodup
  intro hmem
  rw [List.map_reverse, List.mem_reverse] at hmem
  refine hnodup.2.2 _ ?_ _ List.mem_cons_self rfl
  rw [List.map_map]
  exact hmem

/-- The next message of a stretch is accepted. -/
theorem Recovering.accept (h : Recovering base books arrived p handled (message :: rest))
    (hdue : Due base arrived) :
    ∃ q handling, p.accept message = .ok (q, handling) ∧
      Recovering base books arrived q (handled ++ [(message, handling)]) rest := by
  have hmem := h.mem_arrived
  obtain ⟨hbase, htop⟩ := hdue.range message hmem
  have hroom := h.room
  obtain ⟨expected, hexpected, hle, haccounts⟩ := h.accounts
  obtain ⟨outcome, tracker, next, hreceive, hpasses, hnext, hnextle, huntracked, hlimit, hafter⟩ :=
    haccounts.receive_new hexpected h.untracked hbase (h.sequence_notMem hdue) (by omega)
      (hdue.notLargest message hmem)
  let answered : Processor := { p with tracker }
  obtain ⟨hkept, htracker, -⟩ := pass_kept answered message outcome
  have hbuilds : answered.buildsBooks = true := h.buildsBooks
  obtain ⟨hhandling, hbooks⟩ := pass_new message hbuilds h.subscribed hpasses
  refine ⟨(answered.pass message outcome).1, (answered.pass message outcome).2, ?_, ?_⟩
  · rw [accept_of_numbered (hdue.numbered message hmem), hreceive]
    rfl
  have hbooks_eq : answered.books = (books.applyAll (handled.map (·.1))).1 := h.books_eq
  constructor
  case arrived_eq => simpa using h.arrived_eq
  case buildsBooks => exact hkept.buildsBooks.trans h.buildsBooks
  case subscribed =>
    rw [hkept.subscriptions]
    exact h.subscribed
  case room =>
    rw [htracker]
    exact hlimit.symm ▸ h.room
  case untracked =>
    rw [htracker]
    exact huntracked
  case accounts =>
    rw [htracker, List.reverse_concat, List.map_cons]
    exact ⟨next, hnext, by omega, hafter⟩
  case books_eq =>
    rw [hbooks, hbooks_eq, List.map_append, List.map_singleton, Books.applyAll_concat]
  case delivered =>
    rw [List.forall_mem_append, List.forall_mem_singleton, hhandling]
    exact ⟨h.delivered, rfl⟩
  case refused =>
    rw [List.map_append, List.map_singleton, Books.applyAll_concat, List.countP_append, h.refused,
      hhandling, hbooks_eq, List.countP_singleton]
    cases (Books.apply _ message).2 <;> rfl

theorem invariant_recovering (hdue : Due base arrived) :
    Invariant (Recovering base books arrived) where
  aside _ _ _ h := ⟨h.arrived_eq, h.buildsBooks, h.subscribed, h.room, h.untracked, h.accounts,
    h.books_eq, h.delivered, h.refused⟩
  accept := by
    intro p q handled message handling rest h haccept
    obtain ⟨q', handling', haccept', h'⟩ := h.accept hdue
    rw [haccept] at haccept'
    cases haccept'
    exact h'

theorem Due.of_reorders {messages : List Message} (h : Message.Consecutive base messages)
    (hreorders : Message.Reorders arrived messages) : Due base arrived where
  numbered message hmem := h.numbered message (hreorders.perm.mem_iff.1 hmem)
  nodup := by
    rw [(hreorders.perm.map _).nodup_iff]
    refine List.Nodup.of_map UInt64.toNat ?_
    rw [List.map_map]
    exact h.sequences ▸ List.nodup_range'
  range message hmem := by
    have hrange : message.header.sequence.toNat ∈ messages.map (·.header.sequence.toNat) :=
      List.mem_map_of_mem (hreorders.perm.mem_iff.1 hmem)
    rw [h.sequences, List.mem_range'_1, ← hreorders.perm.length_eq] at hrange
    exact ⟨UInt64.le_iff_toNat_le.2 hrange.1, hrange.2⟩
  notLargest message hmem := h.notLargest message (hreorders.perm.mem_iff.1 hmem)

/-- A processor that starts at a stretch and gets all of it, in any order, has delivered every message
of it. -/
theorem run_recovering {config : FeedConfig} {subscriptions : Subscriptions} {inputs : List Input}
    (hinitial : config.sequence.initial = some base) (hbuilds : config.book.enabled = true)
    (hsubscribed : ∀ instrument, subscriptions.contains instrument = true)
    (hroom : arrived.length ≤ config.sequence.maxMissing.toNat) (hdue : Due base arrived)
    (harrivals : inputs.flatMap Input.arrivals = arrived) (books : Books) (counters : Counters) :
    ∃ history, (History.start (.ofConfig config books subscriptions counters)).run inputs =
        .ok history ∧
      history.Tallied counters ∧
      Recovering base books arrived history.processor history.handled [] := by
  have htracker : (ofConfig config books subscriptions counters).tracker =
      .startingAt base config.sequence.maxMissing.toNat := by
    rw [ofConfig, hinitial]
  let start := History.start (ofConfig config books subscriptions counters)
  have hstart : Recovering base books arrived start.processor start.handled
      (inputs.flatMap Input.arrivals) := by
    constructor
    case arrived_eq => exact harrivals
    case buildsBooks => exact hbuilds
    case subscribed => exact hsubscribed
    case room =>
      rw [show start.processor.tracker = _ from htracker]
      exact hroom
    case untracked =>
      rw [show start.processor.tracker = _ from htracker]
      rfl
    case accounts =>
      rw [show start.processor.tracker = _ from htracker]
      exact ⟨base, rfl, Nat.le_add_right _ _, SequenceTracker.Accounts.start rfl rfl⟩
    case books_eq => rfl
    case delivered => exact List.forall_mem_nil _
    case refused => rfl
  have hkeeps : Invariant (Recovering base books arrived) := invariant_recovering hdue
  have hgoes {p : Processor} {handled : List (Message × Handling)} {message : Message}
      {rest : List Message} (h : Recovering base books arrived p handled (message :: rest)) :
      ∃ result, p.accept message = .ok result := by
    obtain ⟨q, handling, haccept, -⟩ := h.accept hdue
    exact ⟨_, haccept⟩
  obtain ⟨history, hrun⟩ := hkeeps.run_ok hgoes hstart
  exact ⟨history, hrun, (History.Tallied.start _).run hrun, hkeeps.run hstart hrun⟩

theorem delivered_eq_map (hdelivered : ∀ entry ∈ handled, isDelivered entry.2) :
    delivered handled = handled.map (·.1) := by
  rw [delivered, ← List.filterMap_eq_map]
  apply List.filterMap_congr
  rintro ⟨message, handling⟩ hmem
  cases handling with
  | delivered refused => rfl
  | filtered | duplicate => cases hdelivered _ hmem

theorem countWhere_duplicate_eq_zero (hdelivered : ∀ entry ∈ handled, isDelivered entry.2) :
    countWhere handled (· == .duplicate) = 0 := by
  rw [countWhere, List.countP_eq_zero.2]
  · rfl
  rintro ⟨message, handling⟩ hmem
  cases handling with
  | delivered refused => exact Bool.false_ne_true
  | filtered | duplicate => cases hdelivered _ hmem

/-- **Late messages come to the same.** A processor of all instruments' messages that starts at a
stretch of messages, with room to look for as many numbers, and gets the stretch in any order that
keeps the order of dependent messages, in any packets, goes through: the listener is told of every
message once, none counts as a duplicate, nothing is missing in the end, and the books, the orders and
the count of refusals are those that the stretch leads to in order. -/
theorem run_recovers (config : FeedConfig) (maxDepth : Nat) (subscriptions : Subscriptions)
    (counters : Counters) {base : UInt64} {messages arrived : List Message}
    {inputs inOrder : List Input}
    (hinitial : config.sequence.initial = some base) (hbuilds : config.book.enabled = true)
    (hsubscribed : ∀ instrument, subscriptions.contains instrument = true)
    (hcount : messages.length < UInt32.size)
    (hroom : messages.length ≤ config.sequence.maxMissing.toNat)
    (hconsecutive : Message.Consecutive base messages)
    (hreorders : Message.Reorders arrived messages)
    (hinputs : inputs.flatMap Input.arrivals = arrived)
    (hinOrder : inOrder.flatMap Input.arrivals = messages) :
    let start := History.start (.ofConfig config (.blank maxDepth) subscriptions counters)
    ∃ history ordered, start.run inputs = .ok history ∧ start.run inOrder = .ok ordered ∧
      history.told = arrived ∧
      history.processor.counters.duplicates = counters.duplicates ∧
      history.processor.tracker.missing = [] ∧
      history.processor.tracker.expected = some (base + UInt64.ofNat messages.length) ∧
      history.processor.books = ordered.processor.books ∧
      history.processor.counters.bookErrors = ordered.processor.counters.bookErrors := by
  intro start
  have hlength := hreorders.perm.length_eq
  have hsorted : messages.Pairwise fun earlier later =>
      earlier.header.sequence < later.header.sequence := by
    have hascending : (messages.map (·.header.sequence.toNat)).Pairwise (· < ·) :=
      hconsecutive.sequences ▸ List.pairwise_lt_range'
    exact (List.pairwise_map.1 hascending).imp UInt64.lt_iff_toNat_lt.2
  have hsame : Message.Reorders messages messages := by
    refine ⟨List.Perm.refl _, hsorted.imp ?_⟩
    intro earlier later hlt _
    exact hlt
  obtain ⟨history, hrun, htallied, hrecovered⟩ := run_recovering hinitial hbuilds hsubscribed
    (hlength ▸ hroom) (.of_reorders hconsecutive hreorders) hinputs (.blank maxDepth) counters
  obtain ⟨ordered, hordered, htallied', hrecovered'⟩ := run_recovering hinitial hbuilds hsubscribed
    hroom (.of_reorders hconsecutive hsame) hinOrder (.blank maxDepth) counters
  have harrived : history.handled.map (·.1) = arrived := by simpa using hrecovered.arrived_eq
  have harrived' : ordered.handled.map (·.1) = messages := by simpa using hrecovered'.arrived_eq
  have hbooks : (Books.blank maxDepth).applyAll arrived = (Books.blank maxDepth).applyAll messages :=
    Books.applyAll_of_perm (.blank maxDepth hcount) hreorders.perm hsorted hreorders.keeps
  obtain ⟨expected, hexpected, hle, haccounts⟩ := hrecovered.accounts
  have hall : (history.handled.reverse.map (·.1.header.sequence)).length = messages.length := by
    rw [List.length_map, List.length_reverse, ← hlength, ← harrived, List.length_map]
  obtain ⟨hmissing, hnext⟩ := haccounts.complete hrecovered.untracked (by rwa [hall, ← hlength])
  refine ⟨history, ordered, hrun, hordered, ?_, ?_, hmissing, ?_, ?_, ?_⟩
  · rw [htallied.told, delivered_eq_map hrecovered.delivered, harrived]
  · rw [htallied.duplicates, countWhere_duplicate_eq_zero hrecovered.delivered, UInt64.add_zero]
  · rw [hexpected, hnext, hall]
  · rw [hrecovered.books_eq, hrecovered'.books_eq, harrived, harrived', hbooks]
  · have hrefused := hrecovered.refused
    have hrefused' := hrecovered'.refused
    rw [harrived, hbooks, ← harrived', ← hrefused'] at hrefused
    rw [htallied.bookErrors, htallied'.bookErrors, countWhere, countWhere]
    exact congrArg _ (congrArg _ hrefused)

/-- Two orders, and a trade of the first one. -/
def ordersAndTrade : List Message :=
  [⟨⟨48, 30, 7, 5, 0⟩, .addOrder ⟨1, 10000, 50, .bid⟩⟩,
    ⟨⟨48, 30, 7, 6, 0⟩, .addOrder ⟨2, 10000, 20, .bid⟩⟩,
    ⟨⟨56, 50, 7, 7, 0⟩, .trade ⟨1, 1, 10000, 30, .bid⟩⟩]

/-- The same with the second order first. -/
def lateOrder : List Message :=
  [⟨⟨48, 30, 7, 6, 0⟩, .addOrder ⟨2, 10000, 20, .bid⟩⟩,
    ⟨⟨48, 30, 7, 5, 0⟩, .addOrder ⟨1, 10000, 50, .bid⟩⟩,
    ⟨⟨56, 50, 7, 7, 0⟩, .trade ⟨1, 1, 10000, 30, .bid⟩⟩]

def packetOf (messages : List Message) : Input :=
  .packet (messages.foldl PacketDraft.push (.start 0 5 0)).finish 0

/-- The configuration of a processor that starts at 5 and looks for three numbers at a time. -/
def fromFive : FeedConfig := { FeedConfig.standard with sequence := ⟨some 5, 3⟩ }

theorem run_recovers_lateOrder :
    (Message.Consecutive 5 ordersAndTrade ∧ Message.Reorders lateOrder ordersAndTrade) ∧
      ∃ history ordered,
        (History.start (ofConfig fromFive (.blank 10) .all .zero)).run
            [packetOf (lateOrder.take 1), packetOf (lateOrder.drop 1)] = .ok history ∧
        (History.start (ofConfig fromFive (.blank 10) .all .zero)).run [packetOf ordersAndTrade] =
          .ok ordered ∧
        history.told = lateOrder ∧ history.processor.tracker.missing = [] ∧
        history.processor.books = ordered.processor.books ∧
        (history.processor.books.book? 7).map (fun book => (book.bids, book.totalVolume)) =
          some ([⟨10000, 40, 2⟩], 30) := by
  have hconsecutive : Message.Consecutive 5 ordersAndTrade := ⟨by decide, rfl, by decide⟩
  have hreorders : Message.Reorders lateOrder ordersAndTrade := ⟨by decide, by decide⟩
  have hlate : [packetOf (lateOrder.take 1), packetOf (lateOrder.drop 1)].flatMap Input.arrivals =
      lateOrder := by decide +kernel
  have hinOrder : [packetOf ordersAndTrade].flatMap Input.arrivals = ordersAndTrade := by
    decide +kernel
  obtain ⟨history, ordered, hrun, hordered, htold, -, hmissing, -, hbooks, -⟩ :=
    run_recovers fromFive 10 .all .zero rfl rfl (fun _ => rfl) (by decide) (by decide) hconsecutive
      hreorders hlate hinOrder
  have hshown : ((History.start (ofConfig fromFive (.blank 10) .all .zero)).run
      [packetOf ordersAndTrade]).map (fun ordered =>
        (ordered.processor.books.book? 7).map fun book => (book.bids, book.totalVolume)) =
      .ok (some ([⟨10000, 40, 2⟩], 30)) := by decide +kernel
  rw [hordered] at hshown
  refine ⟨⟨hconsecutive, hreorders⟩, history, ordered, hrun, hordered, htold, hmissing, hbooks, ?_⟩
  rw [hbooks]
  exact Except.ok.inj hshown

end Processor

end MarketFeed
