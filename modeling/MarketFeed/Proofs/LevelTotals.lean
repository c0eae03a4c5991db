import MarketFeed.BookKeeping
import MarketFeed.Proofs.LevelLookup

/-! The price levels of a side as totals over the orders that rest on it: one level for every price
with an order, with the quantity left and the number of the orders there. Each operation on the
levels is one on the orders: one more, one less, or one exchanged for another. -/

namespace MarketFeed

def ordersAt (price : UInt64) (orders : List TrackedOrder) : List TrackedOrder :=
  orders.filter (·.price = price)

/-- The quantity that orders have left, all together. -/
def quantityLeft : List TrackedOrder → Nat
  | [] => 0
  | order :: orders => order.remainingQuantity.toNat + quantityLeft orders

/-- Whether every order has something left. -/
def AllOpen (orders : List TrackedOrder) : Prop := ∀ order ∈ orders, order.remainingQuantity ≠ 0

@[simp] theorem ordersAt_cons (price : UInt64) (order : TrackedOrder) (orders : List TrackedOrder) :
    ordersAt price (order :: orders) =
      if order.price = price then order :: ordersAt price orders else ordersAt price orders := by
  by_cases hprice : order.price = price <;> simp [ordersAt, hprice]

@[simp] theorem quantityLeft_cons (order : TrackedOrder) (orders : List TrackedOrder) :
    quantityLeft (order :: orders) = order.remainingQuantity.toNat + quantityLeft orders := rfl

theorem length_ordersAt_le (price : UInt64) (orders : List TrackedOrder) :
    (ordersAt price orders).length ≤ orders.length := List.length_filter_le _ _

theorem AllOpen.ordersAt {orders : List TrackedOrder} (hopen : AllOpen orders) (price : UInt64) :
    AllOpen (ordersAt price orders) :=
  fun order hmem => hopen order (List.mem_filter.1 hmem).1

theorem quantityLeft_eq_zero_iff {orders : List TrackedOrder} (hopen : AllOpen orders) :
    quantityLeft orders = 0 ↔ orders = [] := by
  cases orders with
  | nil => simp [quantityLeft]
  | cons order orders =>
      have hleft : order.remainingQuantity.toNat ≠ 0 := fun h =>
        hopen order List.mem_cons_self (UInt32.toNat_inj.1 h)
      rw [quantityLeft_cons]
      simp
      omega

theorem quantityLeft_le (orders : List TrackedOrder) :
    quantityLeft orders ≤ orders.length * (UInt32.size - 1) := by
  induction orders with
  | nil => simp [quantityLeft]
  | cons order orders ih =>
      have := order.remainingQuantity.toNat_lt_size
      rw [quantityLeft_cons, List.length_cons, Nat.add_mul]
      omega

/-- Fewer than `UInt32.size` orders fit a 64-bit total. -/
theorem quantityLeft_lt {orders : List TrackedOrder} (hcount : orders.length < UInt32.size) :
    quantityLeft orders < UInt64.size := by
  have := quantityLeft_le orders
  simp only [UInt32.size, UInt64.size] at *
  omega

theorem quantityLeft_perm {orders others : List TrackedOrder} (hperm : orders.Perm others) :
    quantityLeft orders = quantityLeft others := by
  induction hperm with
  | nil => rfl
  | cons order _ ih => rw [quantityLeft_cons, quantityLeft_cons, ih]
  | swap order other orders =>
      simp only [quantityLeft_cons]
      omega
  | trans _ _ ih ih' => exact ih.trans ih'

namespace PriceLevel

variable {level : PriceLevel} {quantity : UInt64}

theorem isEmpty_eq_false_iff :
    level.isEmpty = false ↔ level.quantity.toNat ≠ 0 ∧ level.orderCount.toNat ≠ 0 := by
  rw [isEmpty, Bool.or_eq_false_iff, beq_eq_false_iff_ne, beq_eq_false_iff_ne, Ne, Ne,
    ← UInt64.toNat_inj, ← UInt32.toNat_inj]
  rfl

theorem toNat_quantity_reduce {orderGone : Bool} :
    (level.reduce quantity orderGone).quantity.toNat = level.quantity.toNat - quantity.toNat :=
  toNat_saturatingSub _ _

theorem toNat_orderCount_reduce :
    (level.reduce quantity true).orderCount.toNat = level.orderCount.toNat - 1 := by
  by_cases hzero : level.orderCount = 0
  · simp [reduce, hzero]
  · have hone : (1 : UInt32) ≤ level.orderCount := by
      rw [UInt32.le_iff_toNat_le]
      exact Nat.pos_of_ne_zero fun h => hzero (UInt32.toNat_inj.1 h)
    simp only [reduce, hzero, ne_eq, not_false_eq_true, and_self, if_true]
    exact UInt32.toNat_sub_of_le _ _ hone

theorem orderCount_reduce_false : (level.reduce quantity false).orderCount = level.orderCount := by
  simp [reduce]

end PriceLevel

namespace Levels

/-- The levels add up the orders: there is a level exactly where there is an order, and it holds
what the orders at its price have left and how many they are. -/
structure Aggregate (side : Side) (orders : List TrackedOrder) (levels : List PriceLevel) : Prop where
  ordered : Ordered side levels
  prices : ∀ price, (∃ level ∈ levels, level.price = price) ↔ ∃ order ∈ orders, order.price = price
  quantities : ∀ level ∈ levels, level.quantity.toNat = quantityLeft (ordersAt level.price orders)
  counts : ∀ level ∈ levels, level.orderCount.toNat = (ordersAt level.price orders).length

/-- The level, if there is one, adds up orders at one price. -/
def Totals (orders : List TrackedOrder) : Option PriceLevel → Prop
  | none => orders = []
  | some level =>
      orders ≠ [] ∧ level.quantity.toNat = quantityLeft orders ∧
        level.orderCount.toNat = orders.length

variable {side : Side} {price : UInt64} {order : TrackedOrder} {orders : List TrackedOrder}
  {level : PriceLevel} {levels : List PriceLevel}

theorem ordersAt_ne_nil_iff : ordersAt price orders ≠ [] ↔ ∃ order ∈ orders, order.price = price := by
  simp [ordersAt]

theorem exists_price_iff : (∃ level ∈ levels, level.price = price) ↔ at? price levels ≠ none := by
  simp [at?_eq_none_iff]

/-- Levels in order add up the orders when they do so price by price. -/
theorem aggregate_iff : Aggregate side orders levels ↔
    Ordered side levels ∧ ∀ price, Totals (ordersAt price orders) (at? price levels) := by
  constructor
  · intro h
    refine ⟨h.ordered, fun price => ?_⟩
    have hprice := h.prices price
    rw [exists_price_iff, ← ordersAt_ne_nil_iff] at hprice
    cases hat : at? price levels with
    | none =>
        rw [hat] at hprice
        show ordersAt price orders = []
        exact Decidable.byContradiction fun hne => hprice.2 hne rfl
    | some level =>
        obtain ⟨hmem, rfl⟩ := mem_of_at?_eq_some hat
        rw [hat] at hprice
        exact ⟨hprice.1 (by simp), h.quantities level hmem, h.counts level hmem⟩
  · rintro ⟨hordered, htotals⟩
    have hlevel : ∀ level ∈ levels, Totals (ordersAt level.price orders) (some level) := by
      intro level hmem
      rw [← at?_of_mem hordered hmem]
      exact htotals level.price
    refine ⟨hordered, fun price => ?_, fun level hmem => (hlevel level hmem).2.1,
      fun level hmem => (hlevel level hmem).2.2⟩
    rw [exists_price_iff, ← ordersAt_ne_nil_iff]
    have := htotals price
    cases hat : at? price levels with
    | none =>
        rw [hat] at this
        simp [show ordersAt price orders = [] from this]
    | some level =>
        rw [hat] at this
        simp [this.1]

theorem Aggregate.perm {others : List TrackedOrder} (h : Aggregate side orders levels)
    (hperm : orders.Perm others) : Aggregate side others levels := by
  refine ⟨h.ordered, fun price => ?_, fun level hmem => ?_, fun level hmem => ?_⟩
  · rw [h.prices]
    exact exists_congr fun order => and_congr_left' hperm.mem_iff
  · rw [h.quantities level hmem]
    exact quantityLeft_perm (hperm.filter _)
  · rw [h.counts level hmem]
    exact (hperm.filter _).length_eq

theorem aggregate_nil : Aggregate side [] [] :=
  aggregate_iff.2 ⟨List.Pairwise.nil, fun _ => rfl⟩

/-- A level that holds what open orders have left and their number is empty when there are none. -/
theorem totals_of_open (hopen : AllOpen orders)
    (hquantity : level.quantity.toNat = quantityLeft orders)
    (hcount : level.orderCount.toNat = orders.length) :
    Totals orders (if level.isEmpty then none else some level) := by
  cases hempty : level.isEmpty with
  | false =>
      rw [PriceLevel.isEmpty_eq_false_iff, hcount] at hempty
      exact ⟨mt List.length_eq_zero_iff.2 hempty.2, hquantity, hcount⟩
  | true =>
      show orders = []
      by_cases hnil : orders = []
      · exact hnil
      · have hfilled : level.isEmpty = false := by
          rw [PriceLevel.isEmpty_eq_false_iff, hquantity, hcount]
          exact ⟨mt (quantityLeft_eq_zero_iff hopen).1 hnil, mt List.length_eq_zero_iff.1 hnil⟩
        rw [hfilled] at hempty
        cases hempty

/-- The level at the price of one of the orders: what it holds is that order's share and that of
the others there. -/
theorem Aggregate.level_of_order (h : Aggregate side (order :: orders) levels) :
    ∃ level, at? order.price levels = some level ∧
      level.quantity.toNat =
        order.remainingQuantity.toNat + quantityLeft (ordersAt order.price orders) ∧
      level.orderCount.toNat = (ordersAt order.price orders).length + 1 := by
  have htotals := (aggregate_iff.1 h).2 order.price
  rw [ordersAt_cons, if_pos rfl] at htotals
  cases hat : at? order.price levels with
  | none =>
      rw [hat] at htotals
      cases htotals
  | some level =>
      rw [hat] at htotals
      exact ⟨level, rfl, htotals.2.1, htotals.2.2⟩

/-- Levels whose look-up has changed at the price of one order only, where it adds up the orders
there, add up the orders without it and with another one there in its place. -/
theorem aggregate_of_at? {changed : List PriceLevel} {before after : List TrackedOrder}
    (h : Aggregate side before levels) (hordered : Ordered side changed)
    (hsame : ∀ other, price ≠ other → at? other changed = at? other levels)
    (horders : ∀ other, price ≠ other → ordersAt other after = ordersAt other before)
    (htotals : Totals (ordersAt price after) (at? price changed)) :
    Aggregate side after changed := by
  refine aggregate_iff.2 ⟨hordered, fun other => ?_⟩
  by_cases hprice : price = other
  · rw [← hprice]
    exact htotals
  · rw [hsame other hprice, horders other hprice]
    exact (aggregate_iff.1 h).2 other

/-- One more order. -/
theorem Aggregate.add (h : Aggregate side orders levels)
    (hcount : (order :: orders).length < UInt32.size) :
    Aggregate side (order :: orders)
      (add side order.price order.remainingQuantity.toUInt64 levels) := by
  refine aggregate_of_at? h (ordered_add h.ordered)
    (fun other hne => by rw [at?_add h.ordered, if_neg hne])
    (fun other hne => by rw [ordersAt_cons, if_neg hne]) ?_
  rw [at?_add h.ordered, if_pos rfl, ordersAt_cons, if_pos rfl]
  have htotals := (aggregate_iff.1 h).2 order.price
  have hlength := length_ordersAt_le order.price orders
  have hfits : quantityLeft (order :: ordersAt order.price orders) < UInt64.size :=
    quantityLeft_lt (by simp only [List.length_cons] at hcount ⊢; omega)
  rw [quantityLeft_cons] at hfits
  cases hat : at? order.price levels with
  | none =>
      rw [hat] at htotals
      rw [show ordersAt order.price orders = [] from htotals]
      refine ⟨by simp, ?_, rfl⟩
      simp [raised, quantityLeft]
  | some level =>
      rw [hat] at htotals
      refine ⟨by simp, ?_, ?_⟩
      · rw [raised, quantityLeft_cons, UInt64.toNat_add, UInt32.toNat_toUInt64, htotals.2.1,
          Nat.mod_eq_of_lt (by rw [Nat.add_comm]; exact hfits), Nat.add_comm]
      · rw [raised, UInt32.toNat_add, htotals.2.2, List.length_cons]
        refine Nat.mod_eq_of_lt ?_
        simp only [List.length_cons, UInt32.size] at hcount ⊢
        simp
        omega

theorem ordered_remove {quantity : UInt64} {orderGone : Bool} (hordered : Ordered side levels) :
    Ordered side (remove price quantity orderGone levels) := by
  rw [remove_eq_changeAt]
  exact ordered_changeAt (keepsPrice_reduced? _ _) hordered

theorem at?_remove {other quantity : UInt64} {orderGone : Bool} (hordered : Ordered side levels) :
    at? other (remove price quantity orderGone levels) =
      if price = other then (at? price levels).bind (reduced? quantity orderGone)
      else at? other levels := by
  rw [remove_eq_changeAt]
  exact at?_changeAt (keepsPrice_reduced? _ _) hordered

/-- One order less. The level goes with its last order, since the others have something left. -/
theorem Aggregate.remove (h : Aggregate side (order :: orders) levels) (hopen : AllOpen orders) :
    Aggregate side orders
      (remove order.price order.remainingQuantity.toUInt64 true levels) := by
  refine aggregate_of_at? h (ordered_remove h.ordered)
    (fun other hne => by rw [at?_remove h.ordered, if_neg hne])
    (fun other hne => by rw [ordersAt_cons, if_neg hne]) ?_
  obtain ⟨level, hat, hquantity, hcount⟩ := h.level_of_order
  rw [at?_remove h.ordered, if_pos rfl, hat, Option.bind_some]
  refine totals_of_open (hopen.ordersAt _) ?_ ?_
  · rw [PriceLevel.toNat_quantity_reduce, hquantity, UInt32.toNat_toUInt64,
      Nat.add_sub_cancel_left]
  · rw [PriceLevel.toNat_orderCount_reduce, hcount, Nat.add_sub_cancel]

/-- An order that keeps something after some of its quantity has gone. -/
theorem Aggregate.reduce {executed : UInt32} (h : Aggregate side (order :: orders) levels)
    (hless : executed < order.remainingQuantity) :
    Aggregate side
      ({ order with remainingQuantity := order.remainingQuantity - executed } :: orders)
      (Levels.remove order.price executed.toUInt64 false levels) := by
  refine aggregate_of_at? h (ordered_remove h.ordered)
    (fun other hne => by rw [at?_remove h.ordered, if_neg hne])
    (fun other hne => by rw [ordersAt_cons, ordersAt_cons, if_neg hne, if_neg hne]) ?_
  obtain ⟨level, hat, hquantity, hcount⟩ := h.level_of_order
  rw [at?_remove h.ordered, if_pos rfl, hat, Option.bind_some, ordersAt_cons, if_pos rfl]
  have hlt : executed.toNat < order.remainingQuantity.toNat := UInt32.lt_iff_toNat_lt.1 hless
  have hleft : (order.remainingQuantity - executed).toNat =
      order.remainingQuantity.toNat - executed.toNat :=
    UInt32.toNat_sub_of_le _ _ (UInt32.le_iff_toNat_le.2 (Nat.le_of_lt hlt))
  have hquantity' : (level.reduce executed.toUInt64 false).quantity.toNat =
      order.remainingQuantity.toNat - executed.toNat +
        quantityLeft (ordersAt order.price orders) := by
    rw [PriceLevel.toNat_quantity_reduce, hquantity, UInt32.toNat_toUInt64]
    omega
  have hcount' : (level.reduce executed.toUInt64 false).orderCount.toNat =
      (ordersAt order.price orders).length + 1 := by
    rw [PriceLevel.orderCount_reduce_false, hcount]
  have hstays : (level.reduce executed.toUInt64 false).isEmpty = false := by
    rw [PriceLevel.isEmpty_eq_false_iff, hquantity', hcount']
    omega
  rw [reduced?, hstays]
  refine ⟨List.cons_ne_nil _ _, ?_, ?_⟩
  · rw [quantityLeft_cons, hquantity', hleft]
  · rw [hcount', List.length_cons]

/-- An order whose quantity changes at its price. -/
theorem Aggregate.adjust {quantity : UInt32} (h : Aggregate side (order :: orders) levels)
    (hcount : (order :: orders).length < UInt32.size) (hopen : quantity ≠ 0) :
    Aggregate side ({ order with remainingQuantity := quantity } :: orders)
      (adjust order.price order.remainingQuantity.toUInt64 quantity.toUInt64 levels) := by
  rw [adjust_eq_changeAt]
  have hkeeps := keepsPrice_adjusted? order.remainingQuantity.toUInt64 quantity.toUInt64
  refine aggregate_of_at? h (ordered_changeAt hkeeps h.ordered)
    (fun other hne => by rw [at?_changeAt hkeeps h.ordered, if_neg hne])
    (fun other hne => by rw [ordersAt_cons, ordersAt_cons, if_neg hne, if_neg hne]) ?_
  obtain ⟨level, hat, hquantity, hlevel⟩ := h.level_of_order
  rw [at?_changeAt hkeeps h.ordered, if_pos rfl, hat, Option.bind_some, ordersAt_cons, if_pos rfl]
  have hlength := length_ordersAt_le order.price orders
  have hfits : quantityLeft
      ({ order with remainingQuantity := quantity } :: ordersAt order.price orders) < UInt64.size :=
    quantityLeft_lt (by simp only [List.length_cons] at hcount ⊢; omega)
  have hadjusted : (saturatingAdd (saturatingSub level.quantity order.remainingQuantity.toUInt64)
      quantity.toUInt64).toNat = quantity.toNat + quantityLeft (ordersAt order.price orders) := by
    rw [quantityLeft_cons] at hfits
    rw [toNat_saturatingAdd, toNat_saturatingSub, hquantity, UInt32.toNat_toUInt64,
      UInt32.toNat_toUInt64]
    simp only at hfits
    omega
  have hpos : quantity.toNat ≠ 0 := fun hzero => hopen (UInt32.toNat_inj.1 hzero)
  have hstays : saturatingAdd (saturatingSub level.quantity order.remainingQuantity.toUInt64)
      quantity.toUInt64 ≠ 0 := fun hzero => by
    rw [hzero] at hadjusted
    simp at hadjusted
    omega
  rw [adjusted?, if_neg hstays]
  exact ⟨by simp, hadjusted, by rw [hlevel, List.length_cons]⟩

/-- A level that adds up open orders is not empty. -/
theorem Aggregate.isEmpty_eq_false (h : Aggregate side orders levels) (hopen : AllOpen orders)
    (hmem : level ∈ levels) : level.isEmpty = false := by
  have htotals := (aggregate_iff.1 h).2 level.price
  rw [at?_of_mem h.ordered hmem] at htotals
  obtain ⟨hne, hquantity, hcount⟩ := htotals
  rw [PriceLevel.isEmpty_eq_false_iff, hquantity, hcount]
  exact ⟨mt (quantityLeft_eq_zero_iff (hopen.ordersAt _)).1 hne, mt List.length_eq_zero_iff.1 hne⟩

/-- Whether a level has room for taking a quantity, and one order, away exactly. -/
def Covers (levels : List PriceLevel) (order : TrackedOrder) : Prop :=
  ∃ level ∈ levels, level.price = order.price ∧
    order.remainingQuantity.toNat ≤ level.quantity.toNat ∧ 1 ≤ level.orderCount.toNat

theorem Aggregate.covers (h : Aggregate side orders levels) (hmem : order ∈ orders) :
    Covers levels order := by
  obtain ⟨before, behind, rfl⟩ := List.append_of_mem hmem
  obtain ⟨level, hat, hquantity, hcount⟩ := (h.perm List.perm_middle).level_of_order
  obtain ⟨hlevel, hprice⟩ := mem_of_at?_eq_some hat
  exact ⟨level, hlevel, hprice, by omega, by omega⟩

/-- The level, if there is one, is at the best price of the orders. -/
def Best (side : Side) (orders : List TrackedOrder) : Option PriceLevel → Prop
  | none => orders = []
  | some level =>
      (∃ order ∈ orders, order.price = level.price) ∧
        ∀ order ∈ orders, order.price = level.price ∨ side.isBetter level.price order.price

theorem Aggregate.best (h : Aggregate side orders levels) : Best side orders levels.head? := by
  cases levels with
  | nil =>
      refine List.eq_nil_iff_forall_not_mem.2 fun order hmem => ?_
      obtain ⟨level, hlevel, -⟩ := (h.prices order.price).2 ⟨order, hmem, rfl⟩
      cases hlevel
  | cons first rest =>
      refine ⟨(h.prices first.price).1 ⟨first, List.mem_cons_self, rfl⟩, fun order hmem => ?_⟩
      obtain ⟨level, hlevel, hprice⟩ := (h.prices order.price).2 ⟨order, hmem, rfl⟩
      rcases List.mem_cons.1 hlevel with rfl | hlevel
      · exact Or.inl hprice.symm
      · rw [← hprice]
        exact Or.inr ((List.pairwise_cons.1 h.ordered).1 level hlevel)

end Levels

end MarketFeed
