import MarketFeed.BookLevels

/-! Price levels by price. The levels of a side stand in strict order, so there is one level at most at
a price; adding, taking away and adjusting keep the order and change the look-up at one price
only. -/

namespace MarketFeed

namespace Side

theorem isBetter_irrefl (side : Side) (price : UInt64) : side.isBetter price price = false := by
  cases side <;> simp [isBetter]

theorem isBetter_trans {side : Side} {a b c : UInt64} (hab : side.isBetter a b)
    (hbc : side.isBetter b c) : side.isBetter a c := by
  cases side <;> simp only [isBetter, decide_eq_true_eq, UInt64.lt_iff_toNat_lt] at * <;> omega

theorem isBetter_of_not {side : Side} {a b : UInt64} (hnot : ¬side.isBetter a b) (hne : a ≠ b) :
    side.isBetter b a := by
  have : a.toNat ≠ b.toNat := fun h => hne (UInt64.toNat_inj.1 h)
  cases side <;> simp only [isBetter, decide_eq_true_eq, UInt64.lt_iff_toNat_lt] at * <;> omega

theorem ne_of_isBetter {side : Side} {a b : UInt64} (hbetter : side.isBetter a b) : a ≠ b := by
  rintro rfl
  rw [isBetter_irrefl] at hbetter
  cases hbetter

end Side

namespace Levels

/-- Whether the levels are in strict order, the best price first. -/
def Ordered (side : Side) (levels : List PriceLevel) : Prop :=
  levels.Pairwise fun better worse => side.isBetter better.price worse.price

/-- The level at a price. -/
def at? (price : UInt64) (levels : List PriceLevel) : Option PriceLevel :=
  levels.find? (·.price = price)

variable {side : Side} {price other : UInt64} {level : PriceLevel} {levels : List PriceLevel}

theorem at?_cons : at? price (level :: levels) =
    if level.price = price then some level else at? price levels := by
  by_cases hprice : level.price = price <;> simp [at?, hprice]

theorem mem_of_at?_eq_some (hat : at? price levels = some level) :
    level ∈ levels ∧ level.price = price :=
  ⟨List.mem_of_find?_eq_some hat, by simpa using List.find?_some hat⟩

theorem at?_eq_none_iff : at? price levels = none ↔ ∀ level ∈ levels, level.price ≠ price := by
  simp [at?]

theorem at?_of_mem (hordered : Ordered side levels) (hmem : level ∈ levels) :
    at? level.price levels = some level := by
  induction levels with
  | nil => cases hmem
  | cons first rest ih =>
      obtain ⟨hfirst, hrest⟩ := List.pairwise_cons.1 hordered
      rw [at?_cons]
      rcases List.mem_cons.1 hmem with rfl | hmem
      · rw [if_pos rfl]
      · rw [if_neg (Side.ne_of_isBetter (hfirst level hmem)), ih hrest hmem]

/-- A price better than the first level is better than every level. -/
theorem better_of_better {first : PriceLevel} (hordered : Ordered side (first :: levels))
    (hbetter : side.isBetter price first.price) :
    ∀ worse ∈ first :: levels, side.isBetter price worse.price := by
  intro worse hworse
  rcases List.mem_cons.1 hworse with rfl | hworse
  · exact hbetter
  · exact Side.isBetter_trans hbetter ((List.pairwise_cons.1 hordered).1 worse hworse)

theorem at?_eq_none_of_better (hbetter : ∀ worse ∈ levels, side.isBetter price worse.price) :
    at? price levels = none :=
  at?_eq_none_iff.2 fun worse hmem => (Side.ne_of_isBetter (hbetter worse hmem)).symm

/-- The levels with the one at a price changed, or gone when there is nothing left of it. -/
def changeAt (price : UInt64) (change : PriceLevel → Option PriceLevel) :
    List PriceLevel → List PriceLevel
  | [] => []
  | level :: rest =>
      if level.price = price then (change level).toList ++ rest
      else level :: changeAt price change rest

/-- What is left of a level after a removal. -/
def reduced? (quantity : UInt64) (orderGone : Bool) (level : PriceLevel) : Option PriceLevel :=
  if (level.reduce quantity orderGone).isEmpty then none else some (level.reduce quantity orderGone)

/-- What is left of a level after an adjustment. -/
def adjusted? (old new : UInt64) (level : PriceLevel) : Option PriceLevel :=
  if saturatingAdd (saturatingSub level.quantity old) new = 0 then none
  else some { level with quantity := saturatingAdd (saturatingSub level.quantity old) new }

theorem remove_eq_changeAt (quantity : UInt64) (orderGone : Bool) :
    remove price quantity orderGone levels = changeAt price (reduced? quantity orderGone) levels := by
  induction levels with
  | nil => rfl
  | cons level rest ih =>
      rw [remove, changeAt, ih, reduced?]
      split
      · by_cases hempty : (level.reduce quantity orderGone).isEmpty <;> simp [hempty]
      · rfl

theorem adjust_eq_changeAt (old new : UInt64) :
    adjust price old new levels = changeAt price (adjusted? old new) levels := by
  induction levels with
  | nil => rfl
  | cons level rest ih =>
      rw [adjust, changeAt, ih, adjusted?]
      split
      · by_cases hgone : saturatingAdd (saturatingSub level.quantity old) new = 0 <;> simp [hgone]
      · rfl

/-- Whether a change leaves a level at its price. -/
def KeepsPrice (change : PriceLevel → Option PriceLevel) : Prop :=
  ∀ level changed, change level = some changed → changed.price = level.price

theorem keepsPrice_reduced? (quantity : UInt64) (orderGone : Bool) :
    KeepsPrice (reduced? quantity orderGone) := by
  intro level changed hchange
  unfold reduced? at hchange
  split at hchange
  · cases hchange
  · cases hchange
    rfl

theorem keepsPrice_adjusted? (old new : UInt64) : KeepsPrice (adjusted? old new) := by
  intro level changed hchange
  unfold adjusted? at hchange
  split at hchange
  · cases hchange
  · cases hchange
    rfl

section changeAt

variable {change : PriceLevel → Option PriceLevel}

theorem price_of_mem_changeAt (hkeeps : KeepsPrice change) (hmem : level ∈ changeAt price change levels) :
    ∃ before ∈ levels, before.price = level.price := by
  induction levels with
  | nil => cases hmem
  | cons first rest ih =>
      rw [changeAt] at hmem
      split at hmem
      · rcases List.mem_append.1 hmem with hmem | hmem
        · exact ⟨first, List.mem_cons_self, (hkeeps first level (Option.mem_toList.1 hmem)).symm⟩
        · exact ⟨level, List.mem_cons_of_mem _ hmem, rfl⟩
      · rcases List.mem_cons.1 hmem with rfl | hmem
        · exact ⟨level, List.mem_cons_self, rfl⟩
        · obtain ⟨before, hbefore, hprice⟩ := ih hmem
          exact ⟨before, List.mem_cons_of_mem _ hbefore, hprice⟩

theorem ordered_changeAt (hkeeps : KeepsPrice change) (hordered : Ordered side levels) :
    Ordered side (changeAt price change levels) := by
  induction levels with
  | nil => exact hordered
  | cons first rest ih =>
      obtain ⟨hfirst, hrest⟩ := List.pairwise_cons.1 hordered
      rw [changeAt]
      split
      · cases hchange : change first with
        | none => exact hrest
        | some changed =>
            refine List.pairwise_cons.2 ⟨fun worse hworse => ?_, hrest⟩
            rw [hkeeps first changed hchange]
            exact hfirst worse hworse
      · refine List.pairwise_cons.2 ⟨fun worse hworse => ?_, ih hrest⟩
        obtain ⟨before, hbefore, hprice⟩ := price_of_mem_changeAt hkeeps hworse
        rw [← hprice]
        exact hfirst before hbefore

theorem at?_changeAt (hkeeps : KeepsPrice change) (hordered : Ordered side levels) :
    at? other (changeAt price change levels) =
      if price = other then (at? price levels).bind change else at? other levels := by
  induction levels with
  | nil => simp [changeAt, at?]
  | cons first rest ih =>
      obtain ⟨hfirst, hrest⟩ := List.pairwise_cons.1 hordered
      rw [changeAt, at?_cons, at?_cons]
      by_cases hprice : first.price = price
      · subst hprice
        have hnone : at? first.price rest = none := at?_eq_none_of_better hfirst
        rw [if_pos rfl, if_pos rfl, Option.bind_some]
        cases hchange : change first with
        | none =>
            rw [Option.toList_none, List.nil_append]
            split
            · rename_i heq
              rw [← heq, hnone]
            · rfl
        | some changed =>
            rw [Option.toList_some, List.singleton_append, at?_cons, hkeeps first changed hchange]
            split <;> rfl
      · rw [if_neg hprice, if_neg hprice, at?_cons, ih hrest]
        by_cases hother : first.price = other
        · rw [if_pos hother, if_pos hother, if_neg fun heq => hprice (hother.trans heq.symm)]
        · rw [if_neg hother, if_neg hother]

end changeAt

/-- The level at a price after one more order. -/
def raised (price quantity : UInt64) : Option PriceLevel → PriceLevel
  | none => ⟨price, quantity, 1⟩
  | some level =>
      { level with quantity := level.quantity + quantity, orderCount := level.orderCount + 1 }

theorem price_of_mem_add {quantity : UInt64} (hmem : level ∈ add side price quantity levels) :
    level.price = price ∨ ∃ before ∈ levels, before.price = level.price := by
  induction levels with
  | nil =>
      rw [add, List.mem_singleton] at hmem
      exact Or.inl (by rw [hmem])
  | cons first rest ih =>
      rw [add] at hmem
      split at hmem
      · rcases List.mem_cons.1 hmem with rfl | hmem
        · exact Or.inr ⟨level, List.mem_cons_self, rfl⟩
        · refine (ih hmem).imp_right ?_
          rintro ⟨before, hbefore, hprice⟩
          exact ⟨before, List.mem_cons_of_mem _ hbefore, hprice⟩
      · split at hmem
        · rename_i hprice
          rcases List.mem_cons.1 hmem with rfl | hmem
          · exact Or.inl hprice
          · exact Or.inr ⟨level, List.mem_cons_of_mem _ hmem, rfl⟩
        · rcases List.mem_cons.1 hmem with rfl | hmem
          · exact Or.inl rfl
          · exact Or.inr ⟨level, hmem, rfl⟩

theorem ordered_add {quantity : UInt64} (hordered : Ordered side levels) :
    Ordered side (add side price quantity levels) := by
  induction levels with
  | nil => exact List.pairwise_singleton _ _
  | cons first rest ih =>
      obtain ⟨hfirst, hrest⟩ := List.pairwise_cons.1 hordered
      rw [add]
      split
      · rename_i hbetter
        refine List.pairwise_cons.2 ⟨fun worse hworse => ?_, ih hrest⟩
        rcases price_of_mem_add hworse with hprice | ⟨before, hbefore, hprice⟩
        · rw [hprice]
          exact hbetter
        · rw [← hprice]
          exact hfirst before hbefore
      · split
        · exact List.pairwise_cons.2 ⟨hfirst, hrest⟩
        · rename_i hnot hne
          exact List.pairwise_cons.2
            ⟨better_of_better hordered (Side.isBetter_of_not hnot hne), hordered⟩

theorem at?_add {quantity : UInt64} (hordered : Ordered side levels) :
    at? other (add side price quantity levels) =
      if price = other then some (raised price quantity (at? price levels))
      else at? other levels := by
  induction levels with
  | nil => rw [add, at?_cons]; rfl
  | cons first rest ih =>
      obtain ⟨hfirst, hrest⟩ := List.pairwise_cons.1 hordered
      rw [add]
      split
      · rename_i hbetter
        have hne : first.price ≠ price := Side.ne_of_isBetter hbetter
        rw [at?_cons, at?_cons, at?_cons, ih hrest, if_neg hne]
        by_cases hother : first.price = other
        · rw [if_pos hother, if_pos hother, if_neg fun heq => hne (hother.trans heq.symm)]
        · rw [if_neg hother, if_neg hother]
      · split
        · rename_i hprice
          subst hprice
          rw [at?_cons, at?_cons, at?_cons, if_pos rfl]
          split <;> rfl
        · rename_i hnot hne
          have hnone : at? price (first :: rest) = none :=
            at?_eq_none_of_better (better_of_better hordered (Side.isBetter_of_not hnot hne))
          rw [at?_cons, hnone]
          rfl

end Levels

end MarketFeed
