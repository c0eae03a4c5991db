import Mathlib.Data.List.Perm.Basic
import MarketFeed.Proofs.BookEffects

/-! Messages in another order. Two messages that are about different orders, and that do not announce
the same kind of thing about one instrument, do the same to the books whichever comes first: the
orders and the announcements do not meet, and the levels are what the orders add up to. Hence messages
may come in any order in which those that do meet keep theirs. -/

namespace MarketFeed

/-- Whether it can matter which of two messages comes first: they are about one order, or announce the
same kind of thing about one instrument. -/
def Message.Dependent (message other : Message) : Prop :=
  (∃ id, message.orderId? = some id ∧ other.orderId? = some id) ∨
    (message.header.instrument = other.header.instrument ∧ message.kind = other.kind ∧
      message.kind ∈ [.trade, .securityDefinition, .statistics])

instance (message other : Message) : Decidable (message.Dependent other) :=
  decidable_of_iff
    ((message.orderId?.isSome ∧ message.orderId? = other.orderId?) ∨
      (message.header.instrument = other.header.instrument ∧ message.kind = other.kind ∧
        message.kind ∈ [.trade, .securityDefinition, .statistics])) <| by
    refine or_congr_left ⟨fun ⟨hsome, heq⟩ => ?_, fun ⟨id, hid, hother⟩ => ?_⟩
    · obtain ⟨id, hid⟩ := Option.isSome_iff_exists.1 hsome
      exact ⟨id, hid, heq.symm.trans hid⟩
    · exact ⟨Option.isSome_of_mem hid, hid.trans hother.symm⟩

theorem Message.Dependent.symm {message other : Message} (h : message.Dependent other) :
    other.Dependent message := by
  rcases h with ⟨id, hid, hother⟩ | ⟨hinstrument, hkind, hmem⟩
  · exact Or.inl ⟨id, hother, hid⟩
  · exact Or.inr ⟨hinstrument.symm, hkind.symm, hkind ▸ hmem⟩

theorem Message.announce_of_notMem {message : Message}
    (hnone : message.kind ∉ [.trade, .securityDefinition, .statistics]) (book : Book) :
    message.announce book = book := by
  obtain ⟨header, body⟩ := message
  cases body with
  | trade | securityDefinition | statistics =>
      exact (hnone (by simp [Message.kind, MessageBody.kind])).elim
  | _ => rfl

/-- Announcements of different kinds are about different parts of a book. -/
theorem Message.announce_comm {message other : Message} (hindependent : ¬message.Dependent other)
    (hinstrument : message.header.instrument = other.header.instrument) (book : Book) :
    message.announce (other.announce book) = other.announce (message.announce book) := by
  by_cases hmessage : message.kind ∈ [.trade, .securityDefinition, .statistics]
  · by_cases hother : other.kind ∈ [.trade, .securityDefinition, .statistics]
    · have hkinds : message.kind ≠ other.kind := by
        intro hkind
        exact hindependent (Or.inr ⟨hinstrument, hkind, hmessage⟩)
      obtain ⟨header, body⟩ := message
      obtain ⟨header', body'⟩ := other
      cases body <;> cases body' <;> first | exact (hkinds rfl).elim | rfl
    · rw [announce_of_notMem hother, announce_of_notMem hother]
  · rw [announce_of_notMem hmessage, announce_of_notMem hmessage]

namespace Levels

/-- The orders leave no choice about the levels that add them up. -/
theorem Aggregate.unique {side : Side} {orders : List TrackedOrder} {levels others : List PriceLevel}
    (h : Aggregate side orders levels) (h' : Aggregate side orders others) : levels = others := by
  have hsubset {first second : List PriceLevel} (hfirst : Aggregate side orders first)
      (hsecond : Aggregate side orders second) : ∀ level ∈ first, level ∈ second := by
    intro level hmem
    obtain ⟨twin, htwin, hprice⟩ :=
      (hsecond.prices level.price).2 ((hfirst.prices level.price).1 ⟨level, hmem, rfl⟩)
    have hquantity : twin.quantity = level.quantity := UInt64.toNat_inj.1 (by
      rw [hsecond.quantities twin htwin, hfirst.quantities level hmem, hprice])
    have hcount : twin.orderCount = level.orderCount := UInt32.toNat_inj.1 (by
      rw [hsecond.counts twin htwin, hfirst.counts level hmem, hprice])
    have hsame : twin = level := by
      cases twin
      cases level
      simp_all
    exact hsame ▸ htwin
  have hnodup {some : List PriceLevel} (hsome : Aggregate side orders some) : some.Nodup :=
    hsome.ordered.imp fun hbetter heq => Side.ne_of_isBetter hbetter (congrArg _ heq)
  have hperm : levels.Perm others :=
    (List.perm_ext_iff_of_nodup (hnodup h) (hnodup h')).2 fun level =>
      ⟨hsubset h h' level, hsubset h' h level⟩
  refine hperm.eq_of_pairwise (fun better worse _ _ hbetter hworse => ?_) h.ordered h'.ordered
  have := Side.isBetter_trans hbetter hworse
  rw [Side.isBetter_irrefl] at this
  cases this

end Levels

namespace Books

variable {books other : Books} {message next : Message} {count : Nat}

/-- Books in order that have room for so many more orders. -/
structure Ready (books : Books) (count : Nat) : Prop where
  balanced : books.Balanced
  filed : books.Filed
  room : books.orders.size + count < UInt32.size

theorem Ready.mono {less : Nat} (h : books.Ready count) (hle : less ≤ count) : books.Ready less := by
  have := h.room
  exact ⟨h.balanced, h.filed, by omega⟩

theorem Ready.apply (h : books.Ready (count + 1)) (message : Message) :
    (books.apply message).1.Ready count := by
  have hroom := h.room
  have hsize := size_apply_le books message
  exact ⟨h.balanced.apply message (by omega), h.filed.apply message, by omega⟩

theorem Ready.blank (maxDepth : Nat) (hcount : count < UInt32.size) :
    (Books.blank maxDepth).Ready count := by
  refine ⟨Balanced.blank maxDepth, ?_, ?_⟩
  · intro key book hfind
    cases hfind
  · show 0 + count < UInt32.size
    omega

/-- Books in order are the same when they have the same orders and the same books but for the
levels. -/
theorem Ready.eq_of_parts (h : books.Ready 0) (h' : other.Ready 0)
    (hdepth : books.maxDepth = other.maxDepth) (horders : ∀ id, books.order? id = other.order? id)
    (hbare : ∀ instrument, books.bare? instrument = other.bare? instrument) : books = other := by
  have htable : books.orders = other.orders :=
    Table.ext_of_own_keys (fun id order hfind => (h.balanced.tracked id order hfind).1)
      (fun id order hfind => (h'.balanced.tracked id order hfind).1) fun order => horders order.orderId
  have hlevels (instrument : UInt32) (side : Side) :
      books.levelsOf instrument side = other.levelsOf instrument side := by
    have hresting : books.resting instrument side = other.resting instrument side := by
      rw [resting, resting, htable]
    exact (h.balanced.levels instrument side).unique (hresting ▸ h'.balanced.levels instrument side)
  have hbook (instrument : UInt32) : books.book? instrument = other.book? instrument := by
    have hbare := hbare instrument
    have hbids := hlevels instrument .bid
    have hasks := hlevels instrument .ask
    rw [bare?, bare?] at hbare
    rw [levelsOf, levelsOf] at hbids hasks
    cases hfirst : books.book? instrument with
    | none =>
        rw [hfirst, Option.map_none] at hbare
        exact (Option.map_eq_none_iff.1 hbare.symm).symm
    | some first =>
        rw [hfirst, Option.map_some] at hbare
        obtain ⟨second, hsecond, hsame⟩ := Option.map_eq_some_iff.1 hbare.symm
        rw [hfirst, hsecond] at hbids hasks
        rw [hsecond]
        cases first
        cases second
        simp_all [Book.bare, Book.levels]
  have hbooks : books.books = other.books :=
    Table.ext_of_own_keys h.filed h'.filed fun book => hbook book.instrument
  cases books
  cases other
  simp_all

theorem order?_apply_of_ne (h : books.Tracked) {id : UInt64} (hne : message.orderId? ≠ some id) :
    (books.apply message).1.order? id = books.order? id := by
  rw [order?_apply h, if_neg hne]

/-- A message is accepted or refused for the same reason if an independent one comes first. -/
theorem refusal_apply (h : books.Tracked) (hindependent : ¬message.Dependent next) :
    ((books.apply message).1.apply next).2 = (books.apply next).2 := by
  rw [apply_snd, apply_snd]
  cases hid : next.orderId? with
  | none => rfl
  | some id =>
      rw [Option.bind_some, Option.bind_some, order?_apply_of_ne h]
      exact fun heq => hindependent (Or.inl ⟨id, heq, hid⟩)

/-- The second message finds its order as it was before the first, and leaves that of the first. -/
theorem order?_apply_apply (h : books.Tracked) (hindependent : ¬message.Dependent next)
    (id : UInt64) : ((books.apply message).1.apply next).1.order? id =
      if next.orderId? = some id then (next.settle (books.order? id)).1
      else if message.orderId? = some id then (message.settle (books.order? id)).1
      else books.order? id := by
  rw [order?_apply (h.apply message), order?_apply h]
  by_cases hnext : next.orderId? = some id
  · have hmessage : message.orderId? ≠ some id :=
      fun heq => hindependent (Or.inl ⟨id, heq, hnext⟩)
    rw [if_pos hnext, if_pos hnext, if_neg hmessage]
  · rw [if_neg hnext, if_neg hnext]

/-- Independent messages commute. -/
theorem apply_comm (h : books.Ready 2) (hindependent : ¬message.Dependent next) :
    ((books.apply message).1.apply next).1 = ((books.apply next).1.apply message).1 := by
  have htracked := h.balanced.tracked
  have hindependent' : ¬next.Dependent message := fun hdependent => hindependent hdependent.symm
  refine Ready.eq_of_parts ((h.apply message).apply next) ((h.apply next).apply message) ?_
    (fun id => ?_) (fun instrument => ?_)
  · simp only [maxDepth_apply]
  · rw [order?_apply_apply htracked hindependent, order?_apply_apply htracked hindependent']
    by_cases hnext : next.orderId? = some id
    · have hmessage : message.orderId? ≠ some id :=
        fun heq => hindependent (Or.inl ⟨id, heq, hnext⟩)
      rw [if_pos hnext, if_neg hmessage, if_pos hnext]
    · rw [if_neg hnext, if_neg hnext]
  · rw [bare?_apply (htracked.apply message), bare?_apply (htracked.apply next),
      refusal_apply htracked hindependent, refusal_apply htracked hindependent',
      bare?_apply htracked, bare?_apply htracked]
    by_cases hnext : next.header.instrument = instrument ∧ next.Opens (books.apply next).2
    · by_cases hmessage :
          message.header.instrument = instrument ∧ message.Opens (books.apply message).2
      · rw [if_pos hnext, if_pos hmessage, if_pos hmessage, if_pos hnext, Option.getD_some,
          Option.getD_some,
          Message.announce_comm hindependent (hmessage.1.trans hnext.1.symm)]
      · rw [if_pos hnext, if_neg hmessage, if_neg hmessage, if_pos hnext]
    · rw [if_neg hnext, if_neg hnext]

/-! ### Many messages

The message that comes first in order is brought to the front, past messages that do not depend on it. -/

/-- The books after messages, and how many of them were refused. -/
def applyAll (books : Books) : List Message → Books × Nat
  | [] => (books, 0)
  | message :: messages =>
      let (after, refusal) := books.apply message
      let (final, refused) := after.applyAll messages
      (final, refused + refusal.isSome.toNat)

/-- A message independent of those before it may come first. -/
theorem applyAll_middle {before behind : List Message}
    (h : books.Ready (before ++ message :: behind).length)
    (hindependent : ∀ earlier ∈ before, ¬earlier.Dependent message) :
    books.applyAll (before ++ message :: behind) = books.applyAll (message :: (before ++ behind)) := by
  induction before generalizing books with
  | nil => rfl
  | cons first before ih =>
      have hfirst := hindependent first List.mem_cons_self
      have hready : books.Ready 2 := by
        refine h.mono ?_
        simp only [List.length_append, List.length_cons]
        omega
      have hmoved := ih (h.apply first) fun earlier hmem =>
        hindependent earlier (List.mem_cons_of_mem _ hmem)
      have hfirst' : ¬message.Dependent first := fun hdependent => hfirst hdependent.symm
      rw [List.cons_append, applyAll]
      simp only [hmoved]
      simp only [List.cons_append, applyAll, apply_comm hready hfirst,
        refusal_apply hready.balanced.tracked hfirst, refusal_apply hready.balanced.tracked hfirst']
      rw [Prod.mk.injEq]
      exact ⟨rfl, Nat.add_right_comm _ _ _⟩

/-- Messages come to the same in every order that keeps the order of dependent ones. -/
theorem applyAll_of_perm {messages arrived : List Message} (h : books.Ready messages.length)
    (hperm : arrived.Perm messages)
    (hsorted : messages.Pairwise fun earlier later => earlier.header.sequence < later.header.sequence)
    (hkeeps : arrived.Pairwise fun earlier later =>
      earlier.Dependent later → earlier.header.sequence < later.header.sequence) :
    books.applyAll arrived = books.applyAll messages := by
  induction messages generalizing books arrived with
  | nil => rw [hperm.eq_nil]
  | cons message messages ih =>
      obtain ⟨hfirst, hsorted⟩ := List.pairwise_cons.1 hsorted
      obtain ⟨before, behind, rfl⟩ := List.append_of_mem (hperm.mem_iff.2 List.mem_cons_self)
      have hrest : (before ++ behind).Perm messages :=
        List.Perm.cons_inv (List.perm_middle.symm.trans hperm)
      obtain ⟨-, -, hbetween⟩ := List.pairwise_append.1 hkeeps
      -- What has come before the earliest message has a later number, and so does not depend on it.
      have hindependent : ∀ earlier ∈ before, ¬earlier.Dependent message := by
        intro earlier hmem hdependent
        have hlt := hbetween earlier hmem message List.mem_cons_self hdependent
        have hgt := hfirst earlier (hrest.mem_iff.1 (List.mem_append_left _ hmem))
        exact UInt64.lt_irrefl _ (UInt64.lt_trans hlt hgt)
      have hkeeps' := hkeeps.sublist ((List.sublist_cons_self message behind).append_left before)
      rw [applyAll_middle (hperm.length_eq ▸ h) hindependent, applyAll, applyAll]
      simp only [ih (h.apply message) hrest hsorted hkeeps']

end Books

end MarketFeed
