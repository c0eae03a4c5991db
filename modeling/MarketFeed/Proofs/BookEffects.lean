import MarketFeed.Proofs.BookAggregation

/-! What one message does to the books, part by part. Of the table of orders it changes the entry of
the one order it is about, and what becomes of that order depends on nothing but the order itself.
Of the books it changes one; apart from the levels that book learns what the message announces. -/

namespace MarketFeed

namespace Message

/-- The order a message is about. -/
def orderId? (message : Message) : Option UInt64 :=
  match message.body with
  | .addOrder terms | .modifyOrder terms => some terms.orderId
  | .deleteOrder orderId _ => some orderId
  | .trade report => if report.orderId = 0 then none else some report.orderId
  | .heartbeat | .sequenceReset _ | .securityDefinition _ | .tradeCancel _ | .statistics _ => none

/-- What a message makes of the order it is about, if that rests, and why it is refused if it is. -/
def settle (message : Message) (order? : Option TrackedOrder) :
    Option TrackedOrder × Option BookError :=
  match message.body, order? with
  | .addOrder terms, some order => (some order, some (.duplicateOrder terms.orderId))
  | .addOrder terms, none =>
      if terms.quantity = 0 then (none, some (.zeroQuantity terms.orderId))
      else
        (some { orderId := terms.orderId, instrument := message.header.instrument,
                side := terms.side, originalQuantity := terms.quantity,
                remainingQuantity := terms.quantity, price := terms.price,
                addTimestamp := message.header.sendTime }, none)
  | .modifyOrder terms, none => (none, some (.unknownOrder terms.orderId))
  | .modifyOrder terms, some order =>
      if order.instrument ≠ message.header.instrument then
        (some order,
          some (.instrumentMismatch terms.orderId order.instrument message.header.instrument))
      else if terms.quantity = 0 then (none, none)
      else (some { order with price := terms.price, remainingQuantity := terms.quantity }, none)
  | .deleteOrder orderId _, none => (none, some (.unknownOrder orderId))
  | .deleteOrder _ _, some _ => (none, none)
  | .trade report, some order =>
      if order.instrument ≠ message.header.instrument then (some order, none)
      else
        let remaining := order.remainingQuantity - min report.quantity order.remainingQuantity
        if remaining = 0 then (none, none)
        else (some { order with remainingQuantity := remaining }, none)
  | _, order? => (order?, none)

/-- Whether a message begins the book of its instrument, given why it was refused. -/
def Opens (message : Message) (refusal : Option BookError) : Prop :=
  match message.body with
  | .trade _ | .securityDefinition _ | .statistics _ => True
  | .addOrder _ => refusal = none
  | _ => False

instance (message : Message) (refusal : Option BookError) : Decidable (message.Opens refusal) := by
  unfold Opens
  split <;> infer_instance

/-- What a message announces to the book of its instrument. -/
def announce (message : Message) (book : Book) : Book :=
  match message.body with
  | .trade report => book.recordTrade report.price report.quantity
  | .securityDefinition terms =>
      { book with symbol := some terms.symbol.text, lotSize := some terms.lotSize }
  | .statistics figures => { book with statistics := some (message.header, figures) }
  | _ => book

end Message

/-- A book without its levels. -/
def Book.bare (book : Book) : Book := { book with bids := [], asks := [] }

namespace Books

section

variable {books : Books} {instrument : UInt32} {id gone : UInt64} {order : TrackedOrder}
  {change : Book → Book}

@[simp] theorem order?_changeBook : (books.changeBook instrument change).order? id =
    books.order? id := rfl

@[simp] theorem book?_track : (books.track order).book? instrument = books.book? instrument := rfl

@[simp] theorem book?_untrack : (books.untrack id).book? instrument = books.book? instrument := rfl

theorem order?_track : (books.track order).order? id =
    if order.orderId = id then some order else books.order? id := by
  rw [order?, track, Table.find?_insert]
  by_cases heq : order.orderId = id
  · rw [if_pos (congrArg UInt64.toNat heq), if_pos heq]
  · rw [if_neg fun h => heq (UInt64.toNat_inj.1 h), if_neg heq]
    rfl

theorem order?_untrack : (books.untrack gone).order? id =
    if gone = id then none else books.order? id := by
  rw [order?, untrack, Table.find?_erase]
  by_cases heq : gone = id
  · rw [if_pos (congrArg UInt64.toNat heq), if_pos heq]
  · rw [if_neg fun h => heq (UInt64.toNat_inj.1 h), if_neg heq]
    rfl

end

variable {books : Books}

theorem order?_add (header : MessageHeader) (terms : OrderTerms) (id : UInt64) :
    (books.add header terms).1.order? id =
      if terms.orderId = id then (Message.settle ⟨header, .addOrder terms⟩ (books.order? id)).1
      else books.order? id := by
  unfold add
  by_cases hid : terms.orderId = id
  · subst hid
    rw [if_pos rfl]
    cases hfind : books.order? terms.orderId with
    | some order => simp [Message.settle, hfind]
    | none =>
        by_cases hzero : terms.quantity = 0
        · simp [Message.settle, hzero, hfind]
        · simp [Message.settle, hzero, order?_track]
  · rw [if_neg hid]
    split
    · rfl
    · split
      · rfl
      · simp [order?_track, hid]

theorem order?_modify (h : books.Tracked) (header : MessageHeader) (terms : OrderTerms)
    (id : UInt64) : (books.modify header terms).1.order? id =
      if terms.orderId = id then (Message.settle ⟨header, .modifyOrder terms⟩ (books.order? id)).1
      else books.order? id := by
  unfold modify
  cases hfind : books.order? terms.orderId with
  | none =>
      by_cases hid : terms.orderId = id
      · subst hid
        simp [Message.settle, hfind]
      · simp [hid]
  | some order =>
      have horder : order.orderId = terms.orderId := h.orderId_eq hfind
      by_cases hid : terms.orderId = id
      · subst hid
        rw [if_pos rfl, hfind]
        simp only [Message.settle]
        by_cases hinstrument : order.instrument = header.instrument
        · by_cases hzero : terms.quantity = 0
          · simp [hinstrument, hzero, order?_untrack]
          · simp [hinstrument, hzero, order?_track, horder]
        · simp [hinstrument, hfind]
      · rw [if_neg hid]
        simp only
        split
        · rfl
        · split
          · simp [order?_untrack, hid]
          · simp [order?_track, horder, hid]

theorem order?_delete (header : MessageHeader) (gone : UInt64) (side : Side) (id : UInt64) :
    (books.delete gone).1.order? id =
      if gone = id then (Message.settle ⟨header, .deleteOrder gone side⟩ (books.order? id)).1
      else books.order? id := by
  unfold delete
  cases hfind : books.order? gone with
  | none =>
      by_cases hid : gone = id
      · subst hid
        simp [Message.settle, hfind]
      · simp [hid]
  | some order =>
      by_cases hid : gone = id
      · subst hid
        simp [Message.settle, hfind, order?_untrack]
      · simp [hid, order?_untrack]

theorem order?_trade (h : books.Tracked) (header : MessageHeader) (report : TradeReport)
    (id : UInt64) : (books.trade header.instrument report).order? id =
      if report.orderId ≠ 0 ∧ report.orderId = id then
        (Message.settle ⟨header, .trade report⟩ (books.order? id)).1
      else books.order? id := by
  unfold trade execute
  by_cases hnone : report.orderId = 0
  · simp [hnone]
  rw [if_neg hnone, order?_changeBook]
  cases hfind : books.order? report.orderId with
  | none =>
      by_cases hid : report.orderId = id
      · subst hid
        simp [Message.settle, hfind]
      · simp [hid]
  | some order =>
      have horder : order.orderId = report.orderId := h.orderId_eq hfind
      by_cases hid : report.orderId = id
      · subst hid
        rw [if_pos ⟨hnone, rfl⟩, hfind]
        simp only [Message.settle]
        by_cases hinstrument : order.instrument = header.instrument
        · simp only [hinstrument, ne_eq, not_true_eq_false, if_false, order?_changeBook]
          split
          · simp [order?_untrack]
          · simp [order?_track, horder]
        · simp [hinstrument, hfind]
      · rw [if_neg fun hboth => hid hboth.2]
        simp only
        split
        · rfl
        · rw [order?_changeBook]
          split
          · simp [order?_untrack, hid]
          · simp [order?_track, horder, hid]

/-- Of the table of orders a message changes the entry of the order it is about. -/
theorem order?_apply (h : books.Tracked) (message : Message) (id : UInt64) :
    (books.apply message).1.order? id =
      if message.orderId? = some id then (message.settle (books.order? id)).1
      else books.order? id := by
  obtain ⟨header, body⟩ := message
  cases body with
  | addOrder terms => simpa [apply, Message.orderId?] using order?_add header terms id
  | modifyOrder terms => simpa [apply, Message.orderId?] using order?_modify h header terms id
  | deleteOrder gone side => simpa [apply, Message.orderId?] using order?_delete header gone side id
  | trade report =>
      have htrade := order?_trade h header report id
      by_cases hnone : report.orderId = 0 <;>
        simpa [apply, Message.orderId?, hnone] using htrade
  | _ => rfl

/-- Why a message is refused depends on the order it is about alone. -/
theorem apply_snd (books : Books) (message : Message) :
    (books.apply message).2 = (message.settle (message.orderId?.bind books.order?)).2 := by
  obtain ⟨header, body⟩ := message
  cases body with
  | addOrder terms =>
      cases hfind : books.order? terms.orderId with
      | some order => simp [apply, add, Message.orderId?, Message.settle, hfind]
      | none =>
          by_cases hzero : terms.quantity = 0 <;>
            simp [apply, add, Message.orderId?, Message.settle, hfind, hzero]
  | modifyOrder terms =>
      cases hfind : books.order? terms.orderId with
      | none => simp [apply, modify, Message.orderId?, Message.settle, hfind]
      | some order =>
          by_cases hinstrument : order.instrument = header.instrument <;>
            by_cases hzero : terms.quantity = 0 <;>
              simp [apply, modify, Message.orderId?, Message.settle, hfind, hinstrument, hzero]
  | deleteOrder gone side =>
      cases hfind : books.order? gone <;>
        simp [apply, delete, Message.orderId?, Message.settle, hfind]
  | trade report =>
      have hnone (order? : Option TrackedOrder) :
          (Message.settle ⟨header, .trade report⟩ order?).2 = none := by
        cases order? with
        | none => rfl
        | some order =>
            simp only [Message.settle]
            split
            · rfl
            · split <;> rfl
      exact (hnone _).symm
  | _ => rfl

/-! ### What every message keeps

A message touches one order and one book, so a fact about all orders is kept by a run when one message
keeps it for the order it is about. -/

/-- Whether a message deletes an order that rests in the book of an instrument. -/
def Deletes (books : Books) (message : Message) (instrument : UInt32) : Prop :=
  ∃ id side order, message.body = .deleteOrder id side ∧ books.order? id = some order ∧
    order.instrument = instrument

/-- A message puts orders into the table and takes them out, and changes the book of the instrument
that it names or of the order that it deletes; what all these keep is kept by it. -/
theorem keeps_apply {P : Books → Prop} {message : Message}
    (hchange : ∀ changed instrument change,
      message.header.instrument = instrument ∨ books.Deletes message instrument →
      (∀ book, (change book).instrument = book.instrument) →
      P changed → P (changed.changeBook instrument change))
    (huntrack : ∀ changed id, P changed → P (changed.untrack id))
    (htrack : ∀ changed order, order.remainingQuantity ≠ 0 →
      (changed.book? order.instrument).isSome → P changed → P (changed.track order))
    (h : P books) : P (books.apply message).1 := by
  have hlevels (book : Book) (levels : List PriceLevel → List PriceLevel) (side : Side) :
      (book.changeLevels levels side).instrument = book.instrument := by cases side <;> rfl
  obtain ⟨header, body⟩ := message
  have hnamed {changed : Books} {change : Book → Book}
      (hkeeps : ∀ book, (change book).instrument = book.instrument) (hchanged : P changed) :
      P (changed.changeBook header.instrument change) :=
    hchange changed header.instrument change (Or.inl rfl) hkeeps hchanged
  cases body with
  | addOrder terms =>
      simp only [apply, add]
      split
      · exact h
      split
      · exact h
      rename_i hopen
      refine htrack _ _ hopen ?_ (hnamed (fun book => hlevels book _ _) h)
      rw [book?_changeBook, if_pos rfl]
      rfl
  | modifyOrder terms =>
      simp only [apply, modify]
      split
      · exact h
      split
      · exact h
      rename_i order _ hinstrument
      rw [Decidable.not_not.1 hinstrument]
      split
      · exact huntrack _ _ (hnamed (fun book => hlevels book _ _) h)
      · rename_i hopen
        refine htrack _ _ hopen ?_ (hnamed (fun book => ?_) h)
        · rw [book?_changeBook, if_pos rfl]
          rfl
        · unfold moveOrder
          split
          · exact hlevels book _ _
          · exact (hlevels _ _ _).trans (hlevels book _ _)
  | deleteOrder id side =>
      simp only [apply, delete]
      split
      · exact h
      · rename_i order hfind
        exact hchange _ _ _ (Or.inr ⟨id, side, order, rfl, hfind, rfl⟩)
          (fun book => hlevels book _ _) (huntrack _ _ h)
  | trade report =>
      simp only [apply, trade, execute]
      have hrecorded : P (books.changeBook header.instrument fun book =>
          book.recordTrade report.price report.quantity) := hnamed (fun _ => rfl) h
      split
      · exact hrecorded
      split
      · exact hrecorded
      split
      · exact hrecorded
      rename_i hinstrument
      refine hnamed (fun book => hlevels book _ _) ?_
      split
      · exact huntrack _ _ hrecorded
      · rename_i hleft
        refine htrack _ _ hleft ?_ hrecorded
        rw [book?_changeBook, if_pos (Decidable.not_not.1 hinstrument).symm]
        rfl
  | securityDefinition terms =>
      simp only [apply]
      exact hnamed (fun _ => rfl) h
  | statistics figures =>
      simp only [apply]
      exact hnamed (fun _ => rfl) h
  | heartbeat => exact h
  | sequenceReset _ => exact h
  | tradeCancel _ => exact h

theorem Tracked.apply (h : books.Tracked) (message : Message) : (books.apply message).1.Tracked :=
  keeps_apply (P := Tracked) (fun _ _ _ _ _ hchanged => hchanged.changeBook _ _)
    (fun _ _ hchanged => hchanged.untrack _)
    (fun _ _ hopen hbook hchanged => hchanged.track hopen hbook) h

theorem maxDepth_apply (books : Books) (message : Message) :
    (books.apply message).1.maxDepth = books.maxDepth :=
  keeps_apply (P := fun changed => changed.maxDepth = books.maxDepth)
    (fun _ _ _ _ _ hsame => hsame) (fun _ _ hsame => hsame) (fun _ _ _ _ hsame => hsame) rfl

/-- The books that a message has nothing to do with stay as they are. -/
theorem book?_apply_of_ne {message : Message} {instrument : UInt32}
    (hnamed : message.header.instrument ≠ instrument) (hdeletes : ¬books.Deletes message instrument) :
    (books.apply message).1.book? instrument = books.book? instrument := by
  refine keeps_apply (P := fun changed => changed.book? instrument = books.book? instrument) ?_
    (fun _ _ hsame => hsame) (fun _ _ _ _ hsame => hsame) rfl
  intro changed other change hreached _ hsame
  rw [book?_changeBook, if_neg ?_]
  · exact hsame
  · rintro rfl
    exact hreached.elim hnamed hdeletes

/-- Whether every book stands under its own instrument. -/
def Filed (books : Books) : Prop :=
  ∀ key book, books.books.find? key = some book → book.instrument.toNat = key

theorem Filed.apply (h : books.Filed) (message : Message) : (books.apply message).1.Filed := by
  refine keeps_apply (P := Filed) ?_ (fun _ _ hchanged => hchanged)
    (fun _ _ _ _ hchanged => hchanged) h
  intro changed instrument change _ hkeeps hchanged key book hfind
  rw [changeBook, Table.find?_insert] at hfind
  split at hfind
  · rename_i hkey
    cases hfind
    rw [hkeeps, ← hkey]
    cases hbook : changed.book? instrument with
    | none => rfl
    | some book => rw [hkey, Option.getD_some, hchanged _ _ hbook, hkey]
  · exact hchanged key book hfind

/-- The book of an instrument without its levels. -/
def bare? (books : Books) (instrument : UInt32) : Option Book :=
  (books.book? instrument).map Book.bare

@[simp] theorem bare?_track (order : TrackedOrder) (instrument : UInt32) :
    (books.track order).bare? instrument = books.bare? instrument := rfl

@[simp] theorem bare?_untrack (id : UInt64) (instrument : UInt32) :
    (books.untrack id).bare? instrument = books.bare? instrument := rfl

theorem bare_changeLevels (book : Book) (levels : List PriceLevel → List PriceLevel) (side : Side) :
    (book.changeLevels levels side).bare = book.bare := by
  cases side <;> rfl

theorem bare?_changeBook {change told : Book → Book}
    (htold : ∀ book, (change book).bare = told book.bare) (books : Books)
    (instrument other : UInt32) : (books.changeBook instrument change).bare? other =
      if instrument = other then some (told ((books.bare? other).getD (.blank other)))
      else books.bare? other := by
  rw [bare?, bare?, book?_changeBook]
  by_cases heq : instrument = other
  · subst heq
    rw [if_pos rfl, if_pos rfl, Option.map_some, htold]
    cases books.book? instrument <;> rfl
  · rw [if_neg heq, if_neg heq]

/-- A book that is there already and changes its levels only looks the same without them. -/
theorem bare?_changeBook_of_isSome {change : Book → Book} {instrument : UInt32}
    (hbook : (books.book? instrument).isSome) (hbare : ∀ book, (change book).bare = book.bare)
    (other : UInt32) : (books.changeBook instrument change).bare? other = books.bare? other := by
  have hsame : ∀ book, (change book).bare = id book.bare := hbare
  rw [bare?_changeBook hsame]
  split
  · rename_i heq
    subst heq
    obtain ⟨book, hfind⟩ := Option.isSome_iff_exists.1 hbook
    rw [bare?, hfind]
    rfl
  · rfl

/-- Without their levels the books change as the message announces. -/
theorem bare?_apply (h : books.Tracked) (message : Message) (instrument : UInt32) :
    (books.apply message).1.bare? instrument =
      if message.header.instrument = instrument ∧ message.Opens (books.apply message).2 then
        some (message.announce ((books.bare? instrument).getD (.blank instrument)))
      else books.bare? instrument := by
  have hbook {id : UInt64} {order : TrackedOrder} (hfind : books.order? id = some order) :
      (books.book? order.instrument).isSome := (h _ _ hfind).2.2
  obtain ⟨header, body⟩ := message
  cases body with
  | addOrder terms =>
      simp only [apply, add, Message.Opens, Message.announce]
      split
      · simp
      split
      · simp
      · have hrest (book : Book) :
            (book.addLiquidity terms.side terms.price terms.quantity.toUInt64).bare = id book.bare :=
          bare_changeLevels book _ _
        simpa using bare?_changeBook hrest books header.instrument instrument
  | modifyOrder terms =>
      simp only [apply, modify, Message.Opens, and_false, if_false]
      split
      · rfl
      rename_i order hfind
      split
      · rfl
      split
      · exact bare?_changeBook_of_isSome (hbook hfind) (fun book => bare_changeLevels book _ _) _
      · rw [bare?_track]
        refine bare?_changeBook_of_isSome (hbook hfind) (fun book => ?_) _
        unfold moveOrder
        split
        · exact bare_changeLevels book _ _
        · exact (bare_changeLevels _ _ _).trans (bare_changeLevels book _ _)
  | deleteOrder id side =>
      simp only [apply, delete, Message.Opens, and_false, if_false]
      split
      · rfl
      · rename_i order hfind
        have hrests : ((books.untrack id).book? order.instrument).isSome := hbook hfind
        exact bare?_changeBook_of_isSome hrests (fun book => bare_changeLevels book _ _) _
  | trade report =>
      simp only [apply, trade, Message.Opens, and_true]
      have hrecord (book : Book) : (book.recordTrade report.price report.quantity).bare =
          Message.announce ⟨header, .trade report⟩ book.bare := rfl
      rw [← bare?_changeBook hrecord]
      simp only [execute]
      split
      · rfl
      split
      · rfl
      split
      · rfl
      · refine (bare?_changeBook_of_isSome ?_ (fun book => bare_changeLevels book _ _) _).trans ?_
        · split <;> simp [book?_changeBook]
        · split <;> rfl
  | securityDefinition terms =>
      have htold (book : Book) : Book.bare { book with
          symbol := some terms.symbol.text, lotSize := some terms.lotSize } =
            Message.announce ⟨header, .securityDefinition terms⟩ book.bare := rfl
      simpa [apply, Message.Opens] using bare?_changeBook htold books header.instrument instrument
  | statistics figures =>
      have htold (book : Book) : Book.bare { book with statistics := some (header, figures) } =
          Message.announce ⟨header, .statistics figures⟩ book.bare := rfl
      simpa [apply, Message.Opens] using bare?_changeBook htold books header.instrument instrument
  | heartbeat => simp [apply, Message.Opens]
  | sequenceReset _ => simp [apply, Message.Opens]
  | tradeCancel _ => simp [apply, Message.Opens]

end Books

end MarketFeed
