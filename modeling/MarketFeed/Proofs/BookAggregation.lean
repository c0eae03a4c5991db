import MarketFeed.Proofs.LevelTotals
import MarketFeed.Proofs.TableValues

/-! The books against the table of resting orders. Whatever messages are applied, in whatever order,
the levels of every book add up exactly the orders that rest in it. The invariant carries with it
that every order in the table has something left and a book to rest in. -/

namespace MarketFeed.Books

/-- What happens to the books. -/
inductive Event where
  | apply (message : Message)
  | clear

def after (books : Books) : Event → Books
  | .apply message => (books.apply message).1
  | .clear => books.clear

def run (books : Books) (events : List Event) : Books := events.foldl after books

/-- The orders that rest on a side of an instrument's book. -/
def resting (books : Books) (instrument : UInt32) (side : Side) : List TrackedOrder :=
  books.orders.values.filter fun order => order.instrument = instrument ∧ order.side = side

/-- The levels on a side of an instrument's book, none if there is no book. -/
def levelsOf (books : Books) (instrument : UInt32) (side : Side) : List PriceLevel :=
  ((books.book? instrument).getD (.blank instrument)).levels side

/-- Whether every order in the table stands under its own id, has something left and rests in a
book. -/
def Tracked (books : Books) : Prop :=
  ∀ id order, books.orders.find? id = some order →
    order.orderId.toNat = id ∧ order.remainingQuantity ≠ 0 ∧
      (books.book? order.instrument).isSome

/-- Whether the levels add up the orders. -/
structure Balanced (books : Books) : Prop where
  levels : ∀ instrument side,
    Levels.Aggregate side (books.resting instrument side) (books.levelsOf instrument side)
  tracked : books.Tracked

section views

variable {books : Books} {instrument other : UInt32} {side : Side} {order : TrackedOrder}
  {change : Book → Book}

@[simp] theorem resting_changeBook :
    (books.changeBook instrument change).resting other side = books.resting other side := rfl

theorem book?_changeBook : (books.changeBook instrument change).book? other =
    if instrument = other then some (change ((books.book? instrument).getD (.blank instrument)))
    else books.book? other := by
  rw [book?, changeBook, Table.find?_insert]
  by_cases heq : instrument = other
  · rw [if_pos (congrArg UInt32.toNat heq), if_pos heq]
  · rw [if_neg fun h => heq (UInt32.toNat_inj.1 h), if_neg heq]
    rfl

theorem levelsOf_changeBook : (books.changeBook instrument change).levelsOf other side =
    if instrument = other then
      (change ((books.book? instrument).getD (.blank instrument))).levels side
    else books.levelsOf other side := by
  rw [levelsOf, book?_changeBook]
  split <;> rfl

/-- Exchanging the levels on one side of one book leaves all others alone. -/
theorem levelsOf_changeLevels {change : List PriceLevel → List PriceLevel} {otherSide : Side} :
    (books.changeBook instrument fun book => book.changeLevels change side).levelsOf other otherSide =
      if instrument = other ∧ side = otherSide then change (books.levelsOf instrument side)
      else books.levelsOf other otherSide := by
  rw [levelsOf_changeBook]
  by_cases heq : instrument = other
  · subst heq
    rw [if_pos rfl]
    cases side <;> cases otherSide <;> simp [levelsOf, Book.changeLevels, Book.levels]
  · rw [if_neg heq, if_neg fun h => heq h.1]

/-- Where an order of the table rests, it does so next to those left without it. -/
theorem resting_untrack {id : UInt64} (hfind : books.order? id = some order) (other : UInt32)
    (side : Side) : (books.resting other side).Perm
      (if order.instrument = other ∧ order.side = side then
        order :: (books.untrack id).resting other side
      else (books.untrack id).resting other side) := by
  refine ((Table.values_erase hfind).filter _).trans ?_
  simp only [List.filter_cons, decide_eq_true_eq]
  exact List.Perm.refl _

theorem resting_track (books : Books) (order : TrackedOrder) (other : UInt32) (side : Side) :
    ((books.track order).resting other side).Perm
      (if order.instrument = other ∧ order.side = side then
        order :: (books.untrack order.orderId).resting other side
      else (books.untrack order.orderId).resting other side) := by
  refine (Table.values_insert.filter _).trans ?_
  simp only [List.filter_cons, decide_eq_true_eq]
  exact List.Perm.refl _

theorem untrack_of_order?_eq_none {id : UInt64} (hfind : books.order? id = none) :
    books.untrack id = books := by
  rw [untrack, Table.erase_of_find?_eq_none hfind]

theorem length_lt_of_resting {orders : List TrackedOrder} {bound : Nat}
    (hperm : (books.resting instrument side).Perm orders) (hsize : books.orders.size < bound) :
    orders.length < bound := by
  rw [← hperm.length_eq]
  rw [Table.size_eq_length_values] at hsize
  exact Nat.lt_of_le_of_lt (List.length_filter_le _ _) hsize

end views

namespace Tracked

variable {books : Books} {order : TrackedOrder}

theorem changeBook (h : books.Tracked) (instrument : UInt32) (change : Book → Book) :
    (books.changeBook instrument change).Tracked := by
  intro id order hfind
  obtain ⟨hid, hopen, hbook⟩ := h id order hfind
  refine ⟨hid, hopen, ?_⟩
  rw [book?_changeBook]
  split
  · rfl
  · exact hbook

theorem untrack (h : books.Tracked) (id : UInt64) : (books.untrack id).Tracked := by
  intro key order hfind
  rw [Books.untrack, Table.find?_erase] at hfind
  split at hfind
  · cases hfind
  · exact h key order hfind

theorem track (h : books.Tracked) (hopen : order.remainingQuantity ≠ 0)
    (hbook : (books.book? order.instrument).isSome) : (books.track order).Tracked := by
  intro key found hfind
  rw [Books.track, Table.find?_insert] at hfind
  split at hfind
  · rename_i hkey
    cases hfind
    exact ⟨hkey, hopen, hbook⟩
  · exact h key found hfind

theorem orderId_eq {id : UInt64} (h : books.Tracked) (hfind : books.order? id = some order) :
    order.orderId = id :=
  UInt64.toNat_inj.1 (h _ _ hfind).1

theorem allOpen (h : books.Tracked) (instrument : UInt32) (side : Side) :
    AllOpen (books.resting instrument side) := by
  intro order hmem
  obtain ⟨id, hfind⟩ := Table.mem_values_iff.1 (List.mem_filter.1 hmem).1
  exact (h id order hfind).2.1

end Tracked

/-! ### What is kept of the balance

An event changes the levels of one side of one book as it changes the orders that rest there. -/

namespace Balanced

variable {books : Books} {order : TrackedOrder} {id : UInt64}

theorem blank (maxDepth : Nat) : (Books.blank maxDepth).Balanced where
  levels _ side := by cases side <;> exact Levels.aggregate_nil
  tracked _ _ hfind := by cases hfind

/-- An event that concerns one side of one book keeps the balance if it does so there. -/
theorem exchange {changed : Books} {change : List PriceLevel → List PriceLevel} (h : books.Balanced)
    (instrument : UInt32) (side : Side) (htracked : changed.Tracked)
    (hlevels : ∀ other otherSide, changed.levelsOf other otherSide =
      if instrument = other ∧ side = otherSide then change (books.levelsOf instrument side)
      else books.levelsOf other otherSide)
    (hresting : ∀ other otherSide, ¬(instrument = other ∧ side = otherSide) →
      (books.resting other otherSide).Perm (changed.resting other otherSide))
    (hhere : Levels.Aggregate side (changed.resting instrument side)
      (change (books.levelsOf instrument side))) : changed.Balanced := by
  refine ⟨fun other otherSide => ?_, htracked⟩
  rw [hlevels]
  split
  · rename_i heq
    obtain ⟨rfl, rfl⟩ := heq
    exact hhere
  · rename_i hne
    exact (h.levels other otherSide).perm (hresting other otherSide hne)

/-- A book is told something that does not concern its levels. -/
theorem annotate (h : books.Balanced) {instrument : UInt32} {change : Book → Book}
    (hkeeps : ∀ book side, (change book).levels side = book.levels side) :
    (books.changeBook instrument change).Balanced := by
  refine ⟨fun other side => ?_, h.tracked.changeBook _ _⟩
  rw [resting_changeBook, levelsOf_changeBook]
  split
  · rename_i heq
    subst heq
    rw [hkeeps]
    exact h.levels instrument side
  · exact h.levels other side

/-- The levels a known order rests in add up that order and those left without it. -/
theorem aggregate_order (h : books.Balanced) (hfind : books.order? id = some order) :
    Levels.Aggregate order.side (order :: (books.untrack id).resting order.instrument order.side)
      (books.levelsOf order.instrument order.side) := by
  have hperm := resting_untrack hfind order.instrument order.side
  rw [if_pos ⟨rfl, rfl⟩] at hperm
  exact (h.levels order.instrument order.side).perm hperm

/-- A known order goes, and its quantity with it. -/
theorem leave (h : books.Balanced) (hfind : books.order? id = some order) :
    ((books.untrack id).changeBook order.instrument fun book =>
      book.removeLiquidity order.side order.price order.remainingQuantity.toUInt64 true).Balanced := by
  have htracked := h.tracked.untrack id
  refine h.exchange order.instrument order.side (htracked.changeBook _ _)
    (fun _ _ => levelsOf_changeLevels) (fun other side hne => ?_) ?_
  · have hperm := resting_untrack hfind other side
    rwa [if_neg hne] at hperm
  · exact (h.aggregate_order hfind).remove (htracked.allOpen order.instrument order.side)

/-- A new order comes to rest. -/
theorem enter (h : books.Balanced) (hfind : books.order? order.orderId = none)
    (hopen : order.remainingQuantity ≠ 0) (hsize : (books.track order).orders.size < UInt32.size) :
    ((books.changeBook order.instrument fun book =>
      book.addLiquidity order.side order.price order.remainingQuantity.toUInt64).track
        order).Balanced := by
  have htracked : ((books.changeBook order.instrument fun book =>
      book.addLiquidity order.side order.price order.remainingQuantity.toUInt64).track
        order).Tracked := by
    refine (h.tracked.changeBook _ _).track hopen ?_
    rw [book?_changeBook, if_pos rfl]
    rfl
  have hperm := resting_track books order
  rw [untrack_of_order?_eq_none hfind] at hperm
  refine h.exchange order.instrument order.side htracked (fun _ _ => levelsOf_changeLevels)
    (fun other side hne => ?_) ?_
  · have := hperm other side
    rw [if_neg hne] at this
    exact this.symm
  · have := hperm order.instrument order.side
    rw [if_pos ⟨rfl, rfl⟩] at this
    have hcount := length_lt_of_resting this hsize
    exact ((h.levels order.instrument order.side).add hcount).perm this.symm

/-- A known order gets other terms in the same place, and its levels follow. -/
theorem renew {renewed : TrackedOrder} {change : List PriceLevel → List PriceLevel}
    (h : books.Balanced) (hfind : books.order? id = some order)
    (hid : renewed.orderId = order.orderId) (hinstrument : renewed.instrument = order.instrument)
    (hside : renewed.side = order.side) (hopen : renewed.remainingQuantity ≠ 0)
    (hsize : (books.track renewed).orders.size < UInt32.size)
    (hchange : ∀ rest levels, Levels.Aggregate order.side (order :: rest) levels → AllOpen rest →
      (renewed :: rest).length < UInt32.size →
      Levels.Aggregate order.side (renewed :: rest) (change levels)) :
    ((books.changeBook order.instrument fun book => book.changeLevels change order.side).track
      renewed).Balanced := by
  have hsame : renewed.orderId = id := hid.trans (h.tracked.orderId_eq hfind)
  have htracked : ((books.changeBook order.instrument fun book =>
      book.changeLevels change order.side).track renewed).Tracked := by
    refine (h.tracked.changeBook _ _).track hopen ?_
    rw [book?_changeBook, if_pos hinstrument.symm]
    rfl
  have hperm := resting_track books renewed
  rw [hsame, hinstrument, hside] at hperm
  refine h.exchange order.instrument order.side htracked (fun _ _ => levelsOf_changeLevels)
    (fun other side hne => ?_) ?_
  · have hbefore := resting_untrack hfind other side
    have hafter := hperm other side
    rw [if_neg hne] at hbefore hafter
    exact hbefore.trans hafter.symm
  · have := hperm order.instrument order.side
    rw [if_pos ⟨rfl, rfl⟩] at this
    have hcount := length_lt_of_resting this hsize
    have hopen' := (h.tracked.untrack id).allOpen order.instrument order.side
    exact (hchange _ _ (h.aggregate_order hfind) hopen' hcount).perm this.symm

theorem add (h : books.Balanced) (header : MessageHeader) (terms : OrderTerms)
    (hsize : (books.add header terms).1.orders.size < UInt32.size) :
    (books.add header terms).1.Balanced := by
  unfold Books.add at hsize ⊢
  split
  · exact h
  · rename_i hnew
    split
    · exact h
    · rename_i hopen
      rw [if_neg hnew, if_neg hopen] at hsize
      refine h.enter ?_ hopen hsize
      simpa using hnew

theorem delete (h : books.Balanced) (id : UInt64) : (books.delete id).1.Balanced := by
  unfold Books.delete
  cases hfind : books.order? id with
  | none => exact h
  | some order => exact h.leave hfind

theorem modify (h : books.Balanced) (header : MessageHeader) (terms : OrderTerms)
    (hsize : (books.modify header terms).1.orders.size < UInt32.size) :
    (books.modify header terms).1.Balanced := by
  unfold Books.modify at hsize ⊢
  cases hfind : books.order? terms.orderId with
  | none => exact h
  | some order =>
      simp only [hfind] at hsize ⊢
      split
      · exact h
      rename_i hinstrument
      rw [if_neg hinstrument] at hsize
      split
      · exact h.leave hfind
      rename_i hopen
      rw [if_neg hopen] at hsize
      by_cases hprice : terms.price = order.price
      · have hmove : (fun book => moveOrder book order terms.price terms.quantity) = fun book =>
            book.changeLevels (Levels.adjust order.price order.remainingQuantity.toUInt64
              terms.quantity.toUInt64) order.side := by
          funext book
          rw [moveOrder, if_pos hprice]
          rfl
        rw [hmove]
        refine h.renew hfind rfl rfl rfl hopen hsize fun rest levels hlevels _ hcount => ?_
        rw [hprice]
        exact hlevels.adjust hcount hopen
      · have hmove : (fun book => moveOrder book order terms.price terms.quantity) = fun book =>
            book.changeLevels (fun levels => Levels.add order.side terms.price
              terms.quantity.toUInt64 (Levels.remove order.price
                order.remainingQuantity.toUInt64 true levels)) order.side := by
          funext book
          rw [moveOrder, if_neg hprice]
          cases hside : order.side <;> simp [Book.removeLiquidity, Book.addLiquidity, Book.changeLevels]
        rw [hmove]
        exact h.renew hfind rfl rfl rfl hopen hsize fun rest levels hlevels hothers hcount =>
          (hlevels.remove hothers).add hcount

theorem execute (h : books.Balanced) (instrument : UInt32) (report : TradeReport)
    (hsize : (books.execute instrument report).orders.size < UInt32.size) :
    (books.execute instrument report).Balanced := by
  unfold Books.execute at hsize ⊢
  split
  · exact h
  rename_i hid
  rw [if_neg hid] at hsize
  cases hfind : books.order? report.orderId with
  | none => exact h
  | some order =>
      simp only [hfind] at hsize ⊢
      split
      · exact h
      rename_i hinstrument
      rw [if_neg hinstrument] at hsize
      have hinstrument : order.instrument = instrument := Decidable.not_not.1 hinstrument
      subst hinstrument
      have hle : min report.quantity order.remainingQuantity ≤ order.remainingQuantity := by
        show (if _ then _ else _) ≤ _
        split
        · assumption
        · exact UInt32.le_refl _
      generalize min report.quantity order.remainingQuantity = executed at hle hsize ⊢
      have hleft := UInt32.toNat_sub_of_le _ _ hle
      rw [UInt32.le_iff_toNat_le] at hle
      by_cases hfilled : order.remainingQuantity - executed = 0
      · have hall : executed = order.remainingQuantity := by
          rw [hfilled] at hleft
          simp only [UInt32.toNat_zero] at hleft
          exact UInt32.toNat_inj.1 (by omega)
        rw [if_pos hfilled, hfilled, hall]
        exact h.leave hfind
      · have hless : executed < order.remainingQuantity := by
          have : (order.remainingQuantity - executed).toNat ≠ 0 := fun hzero =>
            hfilled (UInt32.toNat_inj.1 hzero)
          rw [UInt32.lt_iff_toNat_lt]
          omega
        rw [if_neg hfilled] at hsize ⊢
        rw [beq_eq_false_iff_ne.2 hfilled]
        exact h.renew hfind rfl rfl rfl hfilled hsize fun rest levels hlevels _ _ =>
          hlevels.reduce hless

theorem trade (h : books.Balanced) (instrument : UInt32) (report : TradeReport)
    (hsize : (books.trade instrument report).orders.size < UInt32.size) :
    (books.trade instrument report).Balanced := by
  refine execute (h.annotate fun book side => ?_) instrument report hsize
  cases side <;> rfl

/-- One message keeps the balance, if the table stays small enough to count its orders. -/
theorem apply (h : books.Balanced) (message : Message)
    (hsize : (books.apply message).1.orders.size < UInt32.size) :
    (books.apply message).1.Balanced := by
  obtain ⟨header, body⟩ := message
  cases body with
  | addOrder terms => exact h.add header terms hsize
  | modifyOrder terms => exact h.modify header terms hsize
  | deleteOrder orderId _ => exact h.delete orderId
  | trade report => exact h.trade header.instrument report hsize
  | securityDefinition terms =>
      have hkeeps (book : Book) (side : Side) : Book.levels { book with
          symbol := some terms.symbol.text, lotSize := some terms.lotSize } side =
            book.levels side := by cases side <;> rfl
      exact h.annotate hkeeps
  | statistics figures =>
      have hkeeps (book : Book) (side : Side) : Book.levels { book with
          statistics := some (header, figures) } side = book.levels side := by cases side <;> rfl
      exact h.annotate hkeeps
  | heartbeat => exact h
  | sequenceReset _ => exact h
  | tradeCancel _ => exact h

theorem after (h : books.Balanced) (event : Event)
    (hsize : (books.after event).orders.size < UInt32.size) : (books.after event).Balanced := by
  cases event with
  | apply message => exact h.apply message hsize
  | clear => exact blank books.maxDepth

/-- A run keeps the balance, if no stage of it has too many orders to be counted. -/
theorem run (h : books.Balanced) (events : List Event)
    (hlive : ∀ stage, stage <+: events → (books.run stage).orders.size < UInt32.size) :
    (books.run events).Balanced := by
  induction events generalizing books with
  | nil => exact h
  | cons event events ih =>
      refine ih (h.after event ?_) fun stage hstage => ?_
      · exact hlive [event] ⟨events, rfl⟩
      · exact hlive (event :: stage) (List.cons_prefix_cons.2 ⟨rfl, hstage⟩)

end Balanced

theorem size_apply_le (books : Books) (message : Message) :
    (books.apply message).1.orders.size ≤ books.orders.size + 1 := by
  have htrack (order : TrackedOrder) : (books.track order).orders.size ≤ books.orders.size + 1 :=
    Table.size_insert_le _ _ _
  have huntrack (id : UInt64) : (books.untrack id).orders.size ≤ books.orders.size + 1 :=
    Nat.le_succ_of_le (Table.size_erase_le _ _)
  have hsame : books.orders.size ≤ books.orders.size + 1 := Nat.le_succ _
  obtain ⟨header, body⟩ := message
  cases body with
  | addOrder terms =>
      simp only [apply, add]
      split
      · exact hsame
      · split
        · exact hsame
        · exact htrack _
  | modifyOrder terms =>
      simp only [apply, modify]
      split
      · exact hsame
      · split
        · exact hsame
        · split
          · exact huntrack _
          · exact htrack _
  | deleteOrder orderId _ =>
      simp only [apply, delete]
      split
      · exact hsame
      · exact huntrack _
  | trade report =>
      simp only [apply, trade, execute]
      split
      · exact hsame
      · split
        · exact hsame
        · split
          · exact hsame
          · split
            · exact huntrack _
            · exact htrack _
  | _ => exact hsame

/-- Every event adds one order at most. -/
theorem size_run_le (books : Books) (events : List Event) :
    (books.run events).orders.size ≤ books.orders.size + events.length := by
  induction events generalizing books with
  | nil => exact Nat.le_refl _
  | cons event events ih =>
      have hafter : (books.after event).orders.size ≤ books.orders.size + 1 := by
        cases event with
        | apply message => exact size_apply_le books message
        | clear => exact Nat.zero_le _
      have := ih (books.after event)
      rw [List.length_cons]
      exact Nat.le_trans this (by omega)

/-- Whether a book shows, on every side, what rests in it: the levels add up the orders, none of
them is empty, every order can be taken off its level exactly, so that no removal is cut short, and
the first level is at the best price. -/
def Shows (books : Books) (instrument : UInt32) (book : Book) : Prop :=
  ∀ side, Levels.Aggregate side (books.resting instrument side) (book.levels side) ∧
    (∀ level ∈ book.levels side, level.isEmpty = false) ∧
    (∀ order ∈ books.resting instrument side, Levels.Covers (book.levels side) order) ∧
    Levels.Best side (books.resting instrument side) (book.best? side)

/-- **The books show the orders.** After any run of messages and clearings in which fewer than
`UInt32.size` orders rest at once, every book shows what rests in it, and every order of the table
stands under its own id, has something left and rests in a book. -/
theorem books_show_orders (maxDepth : Nat) (events : List Event)
    (hlive : ∀ stage, stage <+: events →
      ((blank maxDepth).run stage).orders.size < UInt32.size) :
    (∀ instrument book, ((blank maxDepth).run events).book? instrument = some book →
      ((blank maxDepth).run events).Shows instrument book) ∧
    ((blank maxDepth).run events).Tracked := by
  have h := (Balanced.blank maxDepth).run events hlive
  refine ⟨fun instrument book hbook side => ?_, h.tracked⟩
  have hlevels := h.levels instrument side
  have hopen := h.tracked.allOpen instrument side
  rw [levelsOf, hbook] at hlevels
  exact ⟨hlevels, fun level hmem => hlevels.isEmpty_eq_false hopen hmem,
    fun order hmem => hlevels.covers hmem, hlevels.best⟩

/-- Two bids at one price, one of them executed in part and the other moved to a better price that
a third one has already. -/
def movedBid : List Event :=
  let header : MessageHeader := ⟨48, 30, 7, 1, 0⟩
  [.apply ⟨header, .addOrder ⟨1, 100, 5, .bid⟩⟩, .apply ⟨header, .addOrder ⟨2, 100, 3, .bid⟩⟩,
    .apply ⟨header, .addOrder ⟨3, 101, 4, .bid⟩⟩, .apply ⟨header, .trade ⟨1, 9, 100, 2, .bid⟩⟩,
    .apply ⟨header, .modifyOrder ⟨2, 101, 6, .ask⟩⟩]

theorem books_show_orders_movedBid :
    (∀ stage, stage <+: movedBid → ((blank 10).run stage).orders.size < UInt32.size) ∧
      ∃ book, ((blank 10).run movedBid).book? 7 = some book ∧
        ((blank 10).run movedBid).Shows 7 book ∧ book.bids = [⟨101, 10, 2⟩, ⟨100, 3, 1⟩] := by
  have hlive (stage : List Event) (hstage : stage <+: movedBid) :
      ((blank 10).run stage).orders.size < UInt32.size := by
    have hsize := size_run_le (blank 10) stage
    have hlength : stage.length ≤ 5 := hstage.length_le
    have hblank : (blank 10).orders.size = 0 := rfl
    have hbound : UInt32.size = 4294967296 := rfl
    omega
  exact ⟨hlive, _, rfl, (books_show_orders 10 movedBid hlive).1 7 _ rfl, rfl⟩

end MarketFeed.Books
