import MarketFeed.Proofs.BookEffects

/-! Books of other instruments. Order ids are shared by all instruments, and a message may name an
order that rests elsewhere. New terms and trades look at the instrument that the order rests in, and
leave the order alone if it is another one; the end of an order does not. -/

namespace MarketFeed.Books

variable {books : Books} {instrument : UInt32}

theorem Tracked.blank (maxDepth : Nat) : (Books.blank maxDepth).Tracked := by
  intro id order hfind
  cases hfind

theorem Tracked.after (h : books.Tracked) (event : Event) : (books.after event).Tracked := by
  cases event with
  | apply message => exact h.apply message
  | clear => exact Tracked.blank books.maxDepth

theorem Tracked.run (h : books.Tracked) (events : List Event) : (books.run events).Tracked := by
  induction events generalizing books with
  | nil => exact h
  | cons event events ih => exact ih (h.after event)

/-- Whether the book and the orders of an instrument are the same in both. -/
def Agree (instrument : UInt32) (books changed : Books) : Prop :=
  changed.book? instrument = books.book? instrument ∧
    ∀ id order, order.instrument = instrument →
      (changed.order? id = some order ↔ books.order? id = some order)

/-- A message makes no order of another instrument out of what rests, and lets go of one only by
deleting it. -/
theorem settle_of_ne {message : Message} {order? : Option TrackedOrder} {order : TrackedOrder}
    (hnamed : message.header.instrument ≠ order.instrument)
    (hdelete : ∀ id side, message.body = .deleteOrder id side → order? ≠ some order) :
    (message.settle order?).1 = some order ↔ order? = some order := by
  have hother (found : TrackedOrder) (hfound : found.instrument = message.header.instrument) :
      found ≠ order := by
    rintro rfl
    exact hnamed hfound.symm
  obtain ⟨header, body⟩ := message
  cases body with
  | addOrder terms =>
      cases order? with
      | some found => rfl
      | none =>
          simp only [Message.settle]
          split
          · rfl
          · simpa using hother _ rfl
  | modifyOrder | trade =>
      cases order? with
      | none => rfl
      | some found =>
          simp only [Message.settle]
          split
          · rfl
          · rename_i hinstrument
            have hinstrument : found.instrument = header.instrument :=
              Decidable.not_not.1 hinstrument
            split
            · simpa using hother found hinstrument
            · simp only [Option.some.injEq]
              exact iff_of_false (hother _ hinstrument) (hother found hinstrument)
  | deleteOrder id side =>
      have hgone := hdelete id side rfl
      cases order? with
      | none => rfl
      | some found => exact iff_of_false (Option.some_ne_none order).symm hgone
  | _ => rfl

theorem agree_apply (h : books.Tracked) {message : Message}
    (hnamed : message.header.instrument ≠ instrument) (hdeletes : ¬books.Deletes message instrument) :
    Agree instrument books (books.apply message).1 := by
  refine ⟨book?_apply_of_ne hnamed hdeletes, ?_⟩
  rintro id order rfl
  rw [order?_apply h]
  split
  · rename_i hid
    refine settle_of_ne hnamed fun gone side hbody hfind =>
      hdeletes ⟨gone, side, order, hbody, ?_, rfl⟩
    have hgone : message.orderId? = some gone := by rw [Message.orderId?, hbody]
    cases hid.symm.trans hgone
    exact hfind
  · rfl

/-- A deleted order is gone, wherever it rested. -/
theorem not_agree_of_deletes {message : Message} (hdeletes : books.Deletes message instrument) :
    ¬Agree instrument books (books.apply message).1 := by
  obtain ⟨id, side, order, hbody, hfind, hinstrument⟩ := hdeletes
  rintro ⟨-, horders⟩
  obtain ⟨header, body⟩ := message
  cases hbody
  have hkept := (horders id order hinstrument).2 hfind
  rw [apply, order?_delete header id side, if_pos rfl, hfind] at hkept
  cases hkept

/-- **A message leaves the books of other instruments alone unless it deletes an order there.**
Whatever has happened to the books, a message changes the book or the orders of an instrument that it
does not name exactly when it deletes an order that rests in that book. -/
theorem apply_agrees_iff (maxDepth : Nat) (events : List Event) (message : Message)
    (instrument : UInt32) (hnamed : message.header.instrument ≠ instrument) :
    Agree instrument ((blank maxDepth).run events)
        (((blank maxDepth).run events).apply message).1 ↔
      ¬((blank maxDepth).run events).Deletes message instrument :=
  ⟨fun hagree hdeletes => not_agree_of_deletes hdeletes hagree,
    agree_apply ((Tracked.blank maxDepth).run events) hnamed⟩

/-- An order of instrument 7. -/
def restingElsewhere : List Event :=
  [.apply ⟨⟨48, 30, 7, 1, 0⟩, .addOrder ⟨1, 100, 5, .bid⟩⟩]

theorem apply_agrees_iff_restingElsewhere :
    let books := (blank 10).run restingElsewhere
    let trade : Message := ⟨⟨56, 50, 8, 2, 0⟩, .trade ⟨1, 9, 100, 5, .bid⟩⟩
    trade.header.instrument ≠ 7 ∧ Agree 7 books (books.apply trade).1 := by
  intro books trade
  have hnamed : trade.header.instrument ≠ 7 := by decide
  refine ⟨hnamed, (apply_agrees_iff 10 restingElsewhere trade 7 hnamed).2 ?_⟩
  rintro ⟨id, side, order, hbody, -⟩
  cases hbody

/-- The end of an order of instrument 7, in a message that names instrument 8. -/
theorem delete_reaches_restingElsewhere :
    let books := (blank 10).run restingElsewhere
    let deletion : Message := ⟨⟨40, 32, 8, 2, 0⟩, .deleteOrder 1 .bid⟩
    deletion.header.instrument ≠ 7 ∧ (books.order? 1).map (·.instrument) = some 7 ∧
      (books.apply deletion).1.order? 1 = none ∧
      (books.book? 7).map (·.bids) = some [⟨100, 5, 1⟩] ∧
      ((books.apply deletion).1.book? 7).map (·.bids) = some [] ∧
      ¬Agree 7 books (books.apply deletion).1 := by
  intro books deletion
  have hfind : books.order? 1 = some ⟨1, 7, .bid, 5, 5, 100, 0⟩ := rfl
  refine ⟨by decide, rfl, rfl, rfl, rfl, ?_⟩
  exact not_agree_of_deletes ⟨1, .bid, _, rfl, hfind, rfl⟩

end MarketFeed.Books
