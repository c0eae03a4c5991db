import Mathlib.Algebra.GroupWithZero.Nat
import MarketFeed.Proofs.BookIsolation

/-! The life of an order, told from the messages so far and the answers to them alone. An order lives
from its addition until it is deleted, left without quantity, or executed in full; what the books
answer follows from which orders live, and an order is tracked as long as it lives. -/

namespace MarketFeed

/-- A message to the books, and why they refused it if they did. -/
structure AnsweredMessage where
  message : Message
  refusal : Option BookError

/-- A turn in the life of an order. -/
inductive OrderTurn where
  | added (instrument quantity : UInt32)
  | resized (quantity : UInt32)
  | deleted
  | traded (instrument quantity : UInt32)
  deriving DecidableEq

/-- What an answered message means for the order with an id. A message that was refused means nothing,
nor does a trade that names no order. -/
def AnsweredMessage.turn? (answered : AnsweredMessage) (id : UInt64) : Option OrderTurn :=
  if answered.message.orderId? = some id ∧ answered.refusal = none then
    match answered.message.body with
    | .addOrder terms => some (.added answered.message.header.instrument terms.quantity)
    | .modifyOrder terms => some (.resized terms.quantity)
    | .deleteOrder .. => some .deleted
    | .trade report => some (.traded answered.message.header.instrument report.quantity)
    | _ => none
  else none

/-- The last element in which something is found: what is found there, and the elements behind it. -/
def lastOf? {α β : Type} (find? : α → Option β) : List α → Option (β × List α)
  | [] => none
  | a :: rest => (lastOf? find? rest).or ((find? a).map (·, rest))

theorem lastOf?_concat {α β : Type} (find? : α → Option β) (elements : List α) (a : α) :
    lastOf? find? (elements ++ [a]) =
      ((find? a).map (·, [])).or
        ((lastOf? find? elements).map fun (found, behind) => (found, behind ++ [a])) := by
  induction elements with
  | nil => simp [lastOf?]
  | cons first rest ih =>
      rw [List.cons_append, lastOf?, ih, lastOf?]
      cases find? a with
      | some found => rfl
      | none => cases lastOf? find? rest <;> cases find? first <;> rfl

namespace OrderTurn

/-- The instrument for which an order was added. -/
def adds? : OrderTurn → Option UInt32
  | .added instrument _ => some instrument
  | _ => none

/-- The quantity that an order was given. -/
def sets? : OrderTurn → Option UInt32
  | .added _ quantity | .resized quantity => some quantity
  | _ => none

/-- What a turn executes of an order that rests on an instrument. -/
def executes (instrument : UInt32) : OrderTurn → Nat
  | .traded named quantity => if named = instrument then quantity.toNat else 0
  | _ => 0

/-- The instrument on which an order lives, if it does: it was added there and since then neither
deleted nor left without quantity, and the trades there since its quantity was set last do not reach
that quantity. -/
def liveOn? (turns : List OrderTurn) : Option UInt32 :=
  match lastOf? adds? turns, lastOf? sets? turns with
  | some (instrument, later), some (quantity, since) =>
      if .deleted ∉ later ∧ .resized 0 ∉ later ∧ (since.map (executes instrument)).sum < quantity.toNat
      then some instrument
      else none
  | _, _ => none

/-- Whether the turns of a life have led to this: to no order, or to one with so much left. -/
def Yields (turns : List OrderTurn) : Option TrackedOrder → Prop
  | none => liveOn? turns = none
  | some order => ∃ later quantity since, lastOf? adds? turns = some (order.instrument, later) ∧
      lastOf? sets? turns = some (quantity, since) ∧ .deleted ∉ later ∧ .resized 0 ∉ later ∧
      order.remainingQuantity.toNat + (since.map (executes order.instrument)).sum = quantity.toNat

variable {turns : List OrderTurn} {order : TrackedOrder} {order? : Option TrackedOrder}

theorem Yields.liveOn?_eq (h : Yields turns order?)
    (hopen : ∀ order, order? = some order → order.remainingQuantity ≠ 0) :
    liveOn? turns = order?.map (·.instrument) := by
  cases order? with
  | none => exact h
  | some order =>
      obtain ⟨later, quantity, since, hadded, hset, hdeleted, hresized, hleft⟩ := h
      have hremaining : order.remainingQuantity.toNat ≠ 0 := fun hzero =>
        hopen order rfl (UInt32.toNat_inj.1 hzero)
      have hless : (since.map (executes order.instrument)).sum < quantity.toNat := by omega
      simp only [liveOn?, hadded, hset, Option.map_some]
      rw [if_pos ⟨hdeleted, hresized, hless⟩]

theorem yields_added (turns : List OrderTurn) (order : TrackedOrder) :
    Yields (turns ++ [.added order.instrument order.remainingQuantity]) (some order) := by
  refine ⟨[], order.remainingQuantity, [], ?_, ?_, List.not_mem_nil, List.not_mem_nil, rfl⟩
  · rw [lastOf?_concat]
    rfl
  · rw [lastOf?_concat]
    rfl

theorem Yields.resized (h : Yields turns (some order)) (price : UInt64) {quantity : UInt32}
    (hquantity : quantity ≠ 0) :
    Yields (turns ++ [.resized quantity])
      (some { order with price, remainingQuantity := quantity }) := by
  obtain ⟨later, _, _, hadded, -, hdeleted, hresized, -⟩ := h
  refine ⟨later ++ [.resized quantity], quantity, [], ?_, ?_, ?_, ?_, rfl⟩
  · rw [lastOf?_concat, hadded]
    rfl
  · rw [lastOf?_concat]
    rfl
  · simpa using hdeleted
  · simpa using ⟨hresized, hquantity.symm⟩

theorem Yields.emptied (h : Yields turns (some order)) : Yields (turns ++ [.resized 0]) none := by
  obtain ⟨later, _, _, hadded, -⟩ := h
  simp [Yields, liveOn?, lastOf?_concat, hadded, adds?, sets?]

theorem Yields.deleted (h : Yields turns (some order)) : Yields (turns ++ [.deleted]) none := by
  obtain ⟨later, _, _, hadded, hset, -⟩ := h
  simp [Yields, liveOn?, lastOf?_concat, hadded, hset, adds?, sets?]

/-- A trade makes nothing of an order that is gone. -/
theorem Yields.traded_none (h : Yields turns none) (instrument quantity : UInt32) :
    Yields (turns ++ [.traded instrument quantity]) none := by
  have hgone : liveOn? turns = none := h
  show liveOn? _ = none
  unfold liveOn? at hgone ⊢
  rw [lastOf?_concat, lastOf?_concat]
  cases hadded : lastOf? adds? turns with
  | none => rfl
  | some added =>
      cases hset : lastOf? sets? turns with
      | none => rfl
      | some set =>
          simp only [hadded, hset] at hgone
          simp only [adds?, sets?, Option.map_none, Option.none_or, Option.map_some, List.map_append,
            List.sum_append]
          refine if_neg fun ⟨hdeleted, hresized, hless⟩ => ?_
          refine absurd hgone ?_
          rw [if_pos ⟨fun hmem => hdeleted (List.mem_append_left _ hmem),
            fun hmem => hresized (List.mem_append_left _ hmem), by omega⟩]
          exact Option.some_ne_none _

theorem Yields.traded_of_ne (h : Yields turns (some order)) {instrument : UInt32}
    (hinstrument : order.instrument ≠ instrument) (quantity : UInt32) :
    Yields (turns ++ [.traded instrument quantity]) (some order) := by
  obtain ⟨later, set, since, hadded, hset, hdeleted, hresized, hleft⟩ := h
  refine ⟨later ++ [.traded instrument quantity], set, since ++ [.traded instrument quantity],
    ?_, ?_, ?_, ?_, ?_⟩
  · rw [lastOf?_concat, hadded]
    rfl
  · rw [lastOf?_concat, hset]
    rfl
  · simpa using hdeleted
  · simpa using hresized
  · simpa [executes, hinstrument.symm] using hleft

/-- A trade on its own instrument takes its quantity off an order. -/
theorem Yields.traded (h : Yields turns (some order)) (quantity : UInt32)
    (hless : quantity < order.remainingQuantity) :
    Yields (turns ++ [.traded order.instrument quantity])
      (some { order with remainingQuantity := order.remainingQuantity - quantity }) := by
  obtain ⟨later, set, since, hadded, hset, hdeleted, hresized, hleft⟩ := h
  have hsub := UInt32.toNat_sub_of_le _ _ (UInt32.le_of_lt hless)
  rw [UInt32.lt_iff_toNat_lt] at hless
  refine ⟨later ++ [.traded order.instrument quantity], set,
    since ++ [.traded order.instrument quantity], ?_, ?_, ?_, ?_, ?_⟩
  · rw [lastOf?_concat, hadded]
    rfl
  · rw [lastOf?_concat, hset]
    rfl
  · simpa using hdeleted
  · simpa using hresized
  · simp only [List.map_append, List.sum_append, List.map_singleton, List.sum_singleton, executes,
      if_true]
    omega

/-- A trade on its own instrument that takes all there is ends an order. -/
theorem Yields.filled (h : Yields turns (some order)) (quantity : UInt32)
    (hall : order.remainingQuantity ≤ quantity) :
    Yields (turns ++ [.traded order.instrument quantity]) none := by
  obtain ⟨later, set, since, hadded, hset, hdeleted, hresized, hleft⟩ := h
  rw [UInt32.le_iff_toNat_le] at hall
  show liveOn? _ = none
  unfold liveOn?
  rw [lastOf?_concat, lastOf?_concat, hadded, hset]
  simp only [adds?, sets?, Option.map_none, Option.none_or, Option.map_some, List.map_append,
    List.sum_append, List.map_singleton, List.sum_singleton, executes, if_true]
  refine if_neg fun ⟨_, _, hless⟩ => ?_
  omega

end OrderTurn

/-! ### The books and their past -/

namespace Books

/-- Books and what they have been told, with their answers. -/
structure Journal where
  books : Books
  past : List AnsweredMessage

namespace Journal

/-- Books that have been told nothing. -/
def blank (maxDepth : Nat) : Journal := ⟨.blank maxDepth, []⟩

/-- The journal after one more message. -/
def after (journal : Journal) (message : Message) : Journal :=
  { books := (journal.books.apply message).1
    past := journal.past ++ [⟨message, (journal.books.apply message).2⟩] }

/-- The journal after some messages. -/
def run (journal : Journal) (messages : List Message) : Journal := messages.foldl after journal

/-- The life of an order so far. -/
def turns (journal : Journal) (id : UInt64) : List OrderTurn := journal.past.filterMap (·.turn? id)

/-- The instrument on which an order lives, if it does. -/
def liveOn? (journal : Journal) (id : UInt64) : Option UInt32 := OrderTurn.liveOn? (journal.turns id)

end Journal

end Books

namespace OrderTurn

/-- What is left of an order after a trade that does not reach its quantity. -/
theorem sub_min_of_lt {quantity remaining : UInt32} (hless : quantity < remaining) :
    remaining - min quantity remaining = remaining - quantity :=
  congrArg (remaining - ·) (if_pos (UInt32.le_of_lt hless))

theorem sub_min_of_le {quantity remaining : UInt32} (hall : remaining ≤ quantity) :
    remaining - min quantity remaining = 0 := by
  have hmin : min quantity remaining = remaining := by
    show (if quantity ≤ remaining then quantity else remaining) = remaining
    split
    · rename_i hle
      exact UInt32.le_antisymm hle hall
    · rfl
  rw [hmin, UInt32.sub_self]

/-- A message makes of an order what its turn makes of it. -/
theorem Yields.settle {turns : List OrderTurn} {order? : Option TrackedOrder} {message : Message}
    {id : UInt64} (h : Yields turns order?) (hid : message.orderId? = some id) :
    Yields (turns ++ (AnsweredMessage.turn? ⟨message, (message.settle order?).2⟩ id).toList)
      (message.settle order?).1 := by
  obtain ⟨header, body⟩ := message
  cases body with
  | addOrder terms =>
      cases order? with
      | some order => simpa [AnsweredMessage.turn?, Message.settle] using h
      | none =>
          by_cases hzero : terms.quantity = 0
          · simpa [AnsweredMessage.turn?, Message.settle, hzero] using h
          · simpa [AnsweredMessage.turn?, Message.settle, hzero, hid] using
              yields_added turns ⟨terms.orderId, header.instrument, terms.side, terms.quantity,
                terms.quantity, terms.price, header.sendTime⟩
  | modifyOrder terms =>
      cases order? with
      | none => simpa [AnsweredMessage.turn?, Message.settle] using h
      | some order =>
          by_cases hinstrument : order.instrument = header.instrument
          · by_cases hzero : terms.quantity = 0
            · simpa [AnsweredMessage.turn?, Message.settle, hid, hinstrument, hzero] using h.emptied
            · simpa [AnsweredMessage.turn?, Message.settle, hid, hinstrument, hzero] using
                h.resized terms.price hzero
          · simpa [AnsweredMessage.turn?, Message.settle, hinstrument] using h
  | deleteOrder gone side =>
      cases order? with
      | none => simpa [AnsweredMessage.turn?, Message.settle] using h
      | some order => simpa [AnsweredMessage.turn?, Message.settle, hid] using h.deleted
  | trade report =>
      cases order? with
      | none =>
          simpa [AnsweredMessage.turn?, Message.settle, hid] using
            h.traded_none header.instrument report.quantity
      | some order =>
          by_cases hinstrument : order.instrument = header.instrument
          · by_cases hless : report.quantity < order.remainingQuantity
            · have hleft : order.remainingQuantity - report.quantity ≠ 0 := by
                have hsub := UInt32.toNat_sub_of_le _ _ (UInt32.le_of_lt hless)
                rw [UInt32.lt_iff_toNat_lt] at hless
                intro hzero
                rw [hzero, UInt32.toNat_zero] at hsub
                omega
              simpa [AnsweredMessage.turn?, Message.settle, hid, hinstrument, sub_min_of_lt hless,
                hleft] using h.traded report.quantity hless
            · have hall := UInt32.not_lt.1 hless
              simpa [AnsweredMessage.turn?, Message.settle, hid, hinstrument, sub_min_of_le hall] using
                h.filled report.quantity hall
          · simpa [AnsweredMessage.turn?, Message.settle, hid, hinstrument] using
              h.traded_of_ne hinstrument report.quantity
  | heartbeat | sequenceReset _ | securityDefinition _ | tradeCancel _ | statistics _ => cases hid

end OrderTurn

namespace Books

/-- A message that is refused leaves everything as it was. -/
theorem apply_of_refused {books : Books} {message : Message} {error : BookError}
    (hrefused : (books.apply message).2 = some error) : (books.apply message).1 = books := by
  revert hrefused
  obtain ⟨header, body⟩ := message
  cases body with
  | addOrder terms =>
      simp only [apply, add]
      split
      · exact fun _ => rfl
      split
      · exact fun _ => rfl
      · simp
  | modifyOrder terms =>
      simp only [apply, modify]
      split
      · exact fun _ => rfl
      split
      · exact fun _ => rfl
      split
      · simp
      · simp
  | deleteOrder gone side =>
      simp only [apply, delete]
      split
      · exact fun _ => rfl
      · simp
  | heartbeat | sequenceReset _ | securityDefinition _ | trade _ | tradeCancel _ | statistics _ =>
      simp [apply]

/-- The ids of the orders in the table, each of them once. -/
theorem Tracked.exists_ids {books : Books} (h : books.Tracked) :
    ∃ ids : List UInt64, ids.Nodup ∧ (∀ id, id ∈ ids ↔ (books.order? id).isSome) ∧
      books.orders.size = ids.length := by
  have hown (entry : Nat × TrackedOrder) (hmem : entry ∈ books.orders.entries) :
      entry.2.orderId.toNat = entry.1 :=
    (h entry.1 entry.2 ((Table.lookup_eq_some_iff books.orders.ascending).2 hmem)).1
  refine ⟨books.orders.entries.map (·.2.orderId), ?_, fun id => ?_, ?_⟩
  · refine List.pairwise_map.2 (books.orders.ascending.imp_of_mem fun hfirst hsecond hless heq => ?_)
    rw [← hown _ hfirst, ← hown _ hsecond, heq] at hless
    exact Nat.lt_irrefl _ hless
  · rw [List.mem_map, Option.isSome_iff_exists]
    constructor
    · rintro ⟨entry, hmem, rfl⟩
      exact ⟨entry.2, (Table.lookup_eq_some_iff books.orders.ascending).2 (hown entry hmem ▸ hmem)⟩
    · rintro ⟨order, hfind⟩
      exact ⟨_, (Table.lookup_eq_some_iff books.orders.ascending).1 hfind, h.orderId_eq hfind⟩
  · rw [Table.size, List.length_map]

namespace Journal

variable {journal : Journal}

/-- Whether the books hold what their past has led to. -/
structure Faithful (journal : Journal) : Prop where
  tracked : journal.books.Tracked
  yields : ∀ id, OrderTurn.Yields (journal.turns id) (journal.books.order? id)

theorem Faithful.blank (maxDepth : Nat) : (Journal.blank maxDepth).Faithful :=
  ⟨Tracked.blank maxDepth, fun _ => rfl⟩

theorem Faithful.after (h : journal.Faithful) (message : Message) : (journal.after message).Faithful := by
  refine ⟨h.tracked.apply message, fun id => ?_⟩
  have hrefusal := journal.books.apply_snd message
  have hturns : (journal.after message).turns id = journal.turns id ++
      (AnsweredMessage.turn? ⟨message, (journal.books.apply message).2⟩ id).toList := by
    rw [turns, Journal.after, List.filterMap_append, turns]
    cases hturn : AnsweredMessage.turn? ⟨message, (journal.books.apply message).2⟩ id <;>
      simp [hturn]
  show OrderTurn.Yields _ ((journal.books.apply message).1.order? id)
  rw [hturns, order?_apply h.tracked]
  by_cases hid : message.orderId? = some id
  · rw [if_pos hid, hrefusal, hid]
    exact (h.yields id).settle hid
  · rw [if_neg hid, AnsweredMessage.turn?, if_neg fun hturn => hid hturn.1]
    simpa using h.yields id

theorem Faithful.run (h : journal.Faithful) (messages : List Message) :
    (journal.run messages).Faithful := by
  induction messages generalizing journal with
  | nil => exact h
  | cons message messages ih => exact ih (h.after message)

/-- An order lives exactly as long as it is tracked. -/
theorem Faithful.liveOn?_eq (h : journal.Faithful) (id : UInt64) :
    journal.liveOn? id = (journal.books.order? id).map (·.instrument) :=
  (h.yields id).liveOn?_eq fun order hfind => (h.tracked id.toNat order hfind).2.1

end Journal

/-- **The answers of the books follow the lives of the orders.** After any messages, an addition is
refused when the order lives and when it has no quantity, new terms are refused when the order does not
live and when they name another instrument than it was added for, a deletion is refused when the order
does not live, and nothing else is refused; as many orders are kept as live; and what is refused changes
nothing at all. -/
theorem answers_follow_lives (maxDepth : Nat) (messages : List Message) :
    let journal := (Journal.blank maxDepth).run messages
    let books := journal.books
    (∀ header terms, (books.apply ⟨header, .addOrder terms⟩).2 =
      if (journal.liveOn? terms.orderId).isSome then some (.duplicateOrder terms.orderId)
      else if terms.quantity = 0 then some (.zeroQuantity terms.orderId) else none) ∧
    (∀ header terms, (books.apply ⟨header, .modifyOrder terms⟩).2 =
      match journal.liveOn? terms.orderId with
      | none => some (.unknownOrder terms.orderId)
      | some instrument =>
          if instrument = header.instrument then none
          else some (.instrumentMismatch terms.orderId instrument header.instrument)) ∧
    (∀ header id side, (books.apply ⟨header, .deleteOrder id side⟩).2 =
      if (journal.liveOn? id).isSome then none else some (.unknownOrder id)) ∧
    (∀ message, message.kind ∉ [.addOrder, .modifyOrder, .deleteOrder] →
      (books.apply message).2 = none) ∧
    (∃ ids : List UInt64, ids.Nodup ∧ (∀ id, id ∈ ids ↔ (journal.liveOn? id).isSome) ∧
      books.orders.size = ids.length) ∧
    ∀ message error, (books.apply message).2 = some error → (books.apply message).1 = books := by
  intro journal books
  have h : journal.Faithful := (Journal.Faithful.blank maxDepth).run messages
  have hlive (id : UInt64) : journal.liveOn? id = (books.order? id).map (·.instrument) :=
    h.liveOn?_eq id
  refine ⟨fun header terms => ?_, fun header terms => ?_, fun header id side => ?_, ?_, ?_, ?_⟩
  · rw [apply_snd, hlive]
    simp only [Message.orderId?, Option.bind_some]
    cases books.order? terms.orderId with
    | some order => rfl
    | none =>
        simp only [Message.settle, Option.map_none, Option.isSome_none, Bool.false_eq_true, if_false]
        split <;> rfl
  · rw [apply_snd, hlive]
    simp only [Message.orderId?, Option.bind_some]
    cases books.order? terms.orderId with
    | none => rfl
    | some order =>
        simp only [Message.settle, Option.map_some]
        by_cases hinstrument : order.instrument = header.instrument
        · rw [if_neg (not_not_intro hinstrument), if_pos hinstrument]
          split <;> rfl
        · rw [if_pos hinstrument, if_neg hinstrument]
  · rw [apply_snd, hlive]
    simp only [Message.orderId?, Option.bind_some]
    cases books.order? id <;> rfl
  · rintro ⟨header, body⟩ hkind
    cases body with
    | addOrder | modifyOrder | deleteOrder =>
        exact absurd (by simp [Message.kind, MessageBody.kind]) hkind
    | _ => rfl
  · obtain ⟨ids, hnodup, hmem, hsize⟩ := h.tracked.exists_ids
    refine ⟨ids, hnodup, fun id => ?_, hsize⟩
    rw [hmem, hlive, Option.isSome_map]
  · exact fun message error => apply_of_refused

/-- An order is added, executed in part, given more quantity, executed beyond it, and added again
elsewhere. -/
example :
    let told (instrument : UInt32) (body : MessageBody) : Message := ⟨⟨0, 0, instrument, 0, 0⟩, body⟩
    let life : List Message :=
      [told 7 (.addOrder ⟨1, 100, 5, .bid⟩), told 7 (.trade ⟨1, 9, 100, 4, .bid⟩),
       told 7 (.modifyOrder ⟨1, 100, 3, .bid⟩), told 7 (.trade ⟨1, 9, 100, 2, .bid⟩),
       told 8 (.trade ⟨1, 9, 100, 9, .bid⟩), told 7 (.trade ⟨1, 9, 100, 2, .bid⟩),
       told 8 (.addOrder ⟨1, 100, 5, .ask⟩)]
    (List.range 8).map (fun count => ((Journal.blank 10).run (life.take count)).liveOn? 1) =
      [none, some 7, some 7, some 7, some 7, some 7, none, some 8] := by
  decide +kernel

end Books

end MarketFeed
