import MarketFeed.FeedProcessor
import MarketFeed.Proofs.PacketGrammar
import MarketFeed.Proofs.Results

/-! What becomes of the messages that a processor is given. The messages of a packet are taken in one
after the other and then the packet is concluded, which touches neither the tracker nor the books;
hence what every message keeps holds however the messages are cut into packets, and the listener and
the counters are told what became of them. -/

namespace MarketFeed

/-- A packet that is refused hands over no message. -/
theorem Packet.messages_eq_nil {packet : Bytes} {e : DecodeError}
    (hrefused : (decode packet).result = .error e) : (decode packet).messages = [] := by
  by_cases hpacket : ∃ records, IsPacket packet records
  · obtain ⟨records, hrecords⟩ := hpacket
    obtain ⟨unknown, hdecode, -⟩ := decode_of_isPacket hrecords
    rw [hdecode] at hrefused
    cases hrefused
  · obtain ⟨e, hdecode, -⟩ := decode_of_forall_not (not_exists.1 hpacket)
    rw [hdecode]

namespace Processor

variable {p q : Processor} {message : Message} {handling : Handling} {outcome : SequenceOutcome}
  {messages rest : List Message} {handled more : List (Message × Handling)}

/-- What becomes of a message that has a number, by what the number means. -/
def pass (p : Processor) (message : Message) : SequenceOutcome → Processor × Handling
  | .duplicate => (p, .duplicate)
  | .gap _ _ => { p with counters.sequenceErrors := p.counters.sequenceErrors + 1 }.offer message
  | .inOrder | .recovered => p.offer message

theorem accept_of_numbered (hnumbered : message.kind.isAdministrative = false) :
    p.accept message = (p.tracker.receive message.header.sequence).map fun (outcome, tracker) =>
      { p with tracker }.pass message outcome := by
  obtain ⟨header, body⟩ := message
  cases body <;> first | rfl | cases hnumbered

/-- All that a message can do. -/
theorem accept_cases (haccept : p.accept message = .ok (q, handling)) :
    (message.body = .heartbeat ∧ q = p ∧ handling = .delivered false) ∨
    (∃ next, message.body = .sequenceReset next ∧ handling = .delivered false ∧
      q = { p with tracker := p.tracker.reset next, scheduler := p.scheduler.map (·.clear) }) ∨
    (message.kind.isAdministrative = false ∧ ∃ outcome tracker,
      p.tracker.receive message.header.sequence = .ok (outcome, tracker) ∧
        { p with tracker }.pass message outcome = (q, handling)) := by
  by_cases hnumbered : message.kind.isAdministrative = false
  · rw [accept_of_numbered hnumbered] at haccept
    obtain ⟨⟨outcome, tracker⟩, hreceive, hpass⟩ := exists_of_map_ok haccept
    exact Or.inr (Or.inr ⟨hnumbered, outcome, tracker, hreceive, hpass⟩)
  · obtain ⟨header, body⟩ := message
    cases body with
    | heartbeat =>
        cases haccept
        exact Or.inl ⟨rfl, rfl, rfl⟩
    | sequenceReset next =>
        cases haccept
        exact Or.inr (Or.inl ⟨next, rfl, rfl, rfl⟩)
    | _ => exact absurd rfl hnumbered

/-- What no message changes. -/
structure Kept (p q : Processor) : Prop where
  subscriptions : q.subscriptions = p.subscriptions
  buildsBooks : q.buildsBooks = p.buildsBooks
  duplicates : q.counters.duplicates = p.counters.duplicates
  bookErrors : q.counters.bookErrors = p.counters.bookErrors

theorem Kept.trans {r : Processor} (h : p.Kept q) (h' : q.Kept r) : p.Kept r :=
  ⟨h'.subscriptions.trans h.subscriptions, h'.buildsBooks.trans h.buildsBooks,
    h'.duplicates.trans h.duplicates, h'.bookErrors.trans h.bookErrors⟩

theorem offer_kept (p : Processor) (message : Message) :
    p.Kept (p.offer message).1 ∧ (p.offer message).1.tracker = p.tracker ∧
      (p.offer message).2 ≠ .duplicate := by
  unfold offer
  split
  · exact ⟨⟨rfl, rfl, rfl, rfl⟩, rfl, nofun⟩
  · split
    · exact ⟨⟨rfl, rfl, rfl, rfl⟩, rfl, nofun⟩
    · exact ⟨⟨rfl, rfl, rfl, rfl⟩, rfl, nofun⟩

theorem pass_kept (p : Processor) (message : Message) (outcome : SequenceOutcome) :
    p.Kept (p.pass message outcome).1 ∧ (p.pass message outcome).1.tracker = p.tracker ∧
      ((p.pass message outcome).2 = .duplicate ↔ outcome = .duplicate) := by
  cases outcome with
  | duplicate => exact ⟨⟨rfl, rfl, rfl, rfl⟩, rfl, by simp [pass]⟩
  | gap first last =>
      let counted := { p with counters.sequenceErrors := p.counters.sequenceErrors + 1 }
      have hcounted : p.Kept counted := ⟨rfl, rfl, rfl, rfl⟩
      obtain ⟨hkept, htracker, hnew⟩ := offer_kept counted message
      exact ⟨hcounted.trans hkept, htracker, by simpa [pass] using hnew⟩
  | inOrder | recovered =>
      obtain ⟨hkept, htracker, hnew⟩ := offer_kept p message
      exact ⟨hkept, htracker, by simpa [pass] using hnew⟩

theorem accept_kept (haccept : p.accept message = .ok (q, handling)) : p.Kept q := by
  rcases accept_cases haccept with ⟨-, rfl, -⟩ | ⟨next, -, -, rfl⟩ | ⟨-, outcome, tracker, -, hpass⟩
  · exact ⟨rfl, rfl, rfl, rfl⟩
  · exact ⟨rfl, rfl, rfl, rfl⟩
  · have hanswered : p.Kept { p with tracker } := ⟨rfl, rfl, rfl, rfl⟩
    have hkept := hanswered.trans (pass_kept { p with tracker } message outcome).1
    rwa [hpass] at hkept

theorem consume_cons (p : Processor) (message : Message) (messages : List Message) :
    p.consume (message :: messages) = (p.accept message).bind fun (between, handling) =>
      (between.consume messages).map fun (final, later) => (final, (message, handling) :: later) := by
  rw [consume]
  apply Except.bind_congr
  rintro ⟨between, handling⟩ -
  exact bind_pure_comp (fun (final, later) => (final, (message, handling) :: later))
    (between.consume messages)

theorem consume_cons_ok (hconsume : p.consume (message :: messages) = .ok (q, handled)) :
    ∃ between handling later, p.accept message = .ok (between, handling) ∧
      between.consume messages = .ok (q, later) ∧ handled = (message, handling) :: later := by
  obtain ⟨⟨between, handling⟩, haccept, hconsume⟩ := exists_of_bind_ok hconsume
  obtain ⟨⟨final, later⟩, hlater, hresult⟩ := exists_of_bind_ok hconsume
  cases hresult
  exact ⟨between, handling, later, haccept, hlater, rfl⟩

theorem consume_kept (hconsume : p.consume messages = .ok (q, handled)) : p.Kept q := by
  induction messages generalizing p handled with
  | nil =>
      cases hconsume
      exact ⟨rfl, rfl, rfl, rfl⟩
  | cons message messages ih =>
      obtain ⟨between, handling, later, haccept, hlater, -⟩ := consume_cons_ok hconsume
      exact (accept_kept haccept).trans (ih hlater)

/-- The processor once its decoder has read a packet. -/
def read (p : Processor) (packet : Bytes) (received : UInt64) : Processor :=
  { p with decoder := (p.decoder.decode packet received).1 }

/-- What becomes of the messages of a packet. -/
def handlings (p : Processor) (packet : Bytes) (received : UInt64) :
    Except CountError (List (Message × Handling)) :=
  ((p.read packet received).consume (Packet.decode packet).messages).map (·.2)

/-- Ends a packet whose messages have been taken in. -/
def conclude (p : Processor) (result : Except DecodeError Packet.Summary)
    (handled : List (Message × Handling)) : Processor :=
  match result with
  | .ok summary => p.settle summary handled
  | .error _ => p.refuse

theorem process_eq (p : Processor) (packet : Bytes) (received : UInt64) :
    p.process packet received =
      ((p.read packet received).consume (Packet.decode packet).messages).map fun (q, handled) =>
        ⟨conclude q (Packet.decode packet).result handled, delivered handled,
          (Packet.decode packet).result⟩ := by
  rw [process, read]
  simp only [bind, Except.bind, Except.map, Decoder.decode_snd]
  cases consume _ (Packet.decode packet).messages with
  | error e => rfl
  | ok result =>
      simp only [pure, Except.pure]
      cases (Packet.decode packet).result <;> rfl

theorem conclude_eq (p : Processor) (result : Except DecodeError Packet.Summary)
    (handled : List (Message × Handling)) :
    ∃ decoder counters, p.conclude result handled = { p with decoder, counters } := by
  cases result with
  | ok summary => exact ⟨_, _, rfl⟩
  | error e => exact ⟨p.decoder, _, rfl⟩

theorem recordLatency_eq (counters : Counters) (batch : LatencyTotals) :
    ∃ latency, counters.recordLatency batch = { counters with latency } := by
  unfold Counters.recordLatency
  split
  · exact ⟨counters.latency, rfl⟩
  · exact ⟨_, rfl⟩

/-- However a packet ends, every duplicate and every refusal among its messages is counted. -/
theorem conclude_counts {packet : Bytes}
    (hconsume : p.consume (Packet.decode packet).messages = .ok (q, handled)) :
    (q.conclude (Packet.decode packet).result handled).counters.duplicates =
        q.counters.duplicates + countWhere handled (· == .duplicate) ∧
      (q.conclude (Packet.decode packet).result handled).counters.bookErrors =
        q.counters.bookErrors + countWhere handled (· == .delivered true) := by
  cases hresult : (Packet.decode packet).result with
  | ok summary =>
      obtain ⟨latency, hlatency⟩ :=
        recordLatency_eq (countPacket q.counters summary handled) q.decoder.latency
      show (Counters.recordLatency _ _).duplicates = _ ∧ (Counters.recordLatency _ _).bookErrors = _
      rw [hlatency]
      exact ⟨rfl, rfl⟩
  | error e =>
      rw [Packet.messages_eq_nil hresult] at hconsume
      cases hconsume
      exact ⟨(UInt64.add_zero _).symm, (UInt64.add_zero _).symm⟩

theorem pollGapFill_snd (p : Processor) (now : Nat) :
    ∃ scheduler gapRequests, (p.pollGapFill now).2 =
      { p with scheduler, counters.gapRequests := gapRequests } := by
  unfold pollGapFill
  split
  · exact ⟨p.scheduler, p.counters.gapRequests, rfl⟩
  · simp only
    split
    · exact ⟨_, p.counters.gapRequests, rfl⟩
    · exact ⟨_, _, rfl⟩

/-! ### Histories -/

/-- What a processor is used for: to process a packet received at some time, or to see at some time
whether missing numbers have to be asked for. -/
inductive Input where
  | packet (bytes : Bytes) (received : UInt64)
  | poll (now : Nat)

/-- The messages that come with an input. -/
def Input.arrivals : Input → List Message
  | .packet bytes _ => (Packet.decode bytes).messages
  | .poll _ => []

/-- A processor with what became of each message so far, and what the listener has been told. -/
structure History where
  processor : Processor
  handled : List (Message × Handling)
  told : List Message

namespace History

variable {history final : History} {input : Input} {inputs : List Input}

def start (p : Processor) : History := ⟨p, [], []⟩

def after (history : History) : Input → Except CountError History
  | .packet bytes received => do
      let handled ← history.processor.handlings bytes received
      let processed ← history.processor.process bytes received
      pure ⟨processed.processor, history.handled ++ handled, history.told ++ processed.delivered⟩
  | .poll now => pure { history with processor := (history.processor.pollGapFill now).2 }

def run (history : History) : List Input → Except CountError History
  | [] => pure history
  | input :: inputs => do (← history.after input).run inputs

theorem after_packet (history : History) (bytes : Bytes) (received : UInt64) :
    history.after (.packet bytes received) =
      ((history.processor.read bytes received).consume (Packet.decode bytes).messages).map
        fun (p, handled) => ⟨conclude p (Packet.decode bytes).result handled,
          history.handled ++ handled, history.told ++ delivered handled⟩ := by
  rw [after, process_eq, handlings]
  cases consume _ (Packet.decode bytes).messages <;> rfl

theorem after_packet_ok {bytes : Bytes} {received : UInt64}
    (hafter : history.after (.packet bytes received) = .ok final) :
    ∃ q handled,
      (history.processor.read bytes received).consume (Packet.decode bytes).messages =
          .ok (q, handled) ∧
        final = ⟨q.conclude (Packet.decode bytes).result handled, history.handled ++ handled,
          history.told ++ delivered handled⟩ := by
  rw [after_packet] at hafter
  obtain ⟨⟨q, handled⟩, hconsume, rfl⟩ := exists_of_map_ok hafter
  exact ⟨q, handled, hconsume, rfl⟩

end History

/-- A fact about a processor, what became of the messages so far and the messages still to come that
every message keeps, and that is not about when and in which packets messages come. -/
structure Invariant (P : Processor → List (Message × Handling) → List Message → Prop) : Prop where
  accept : ∀ {p q : Processor} {handled message handling rest}, P p handled (message :: rest) →
    p.accept message = .ok (q, handling) → P q (handled ++ [(message, handling)]) rest
  aside : ∀ {p : Processor} {handled rest} decoder scheduler counters, P p handled rest →
    P { p with decoder, scheduler, counters } handled rest

namespace Invariant

variable {P : Processor → List (Message × Handling) → List Message → Prop} {history final : History}
  {input : Input} {inputs : List Input}

theorem consume (hkeeps : Invariant P) (h : P p handled (messages ++ rest))
    (hconsume : p.consume messages = .ok (q, more)) : P q (handled ++ more) rest := by
  induction messages generalizing p handled more with
  | nil =>
      cases hconsume
      rw [List.append_nil]
      exact h
  | cons message messages ih =>
      obtain ⟨between, handling, later, haccept, hlater, rfl⟩ := consume_cons_ok hconsume
      rw [List.append_cons]
      exact ih (hkeeps.accept h haccept) hlater

theorem read (hkeeps : Invariant P) (h : P p handled rest) (packet : Bytes) (received : UInt64) :
    P (p.read packet received) handled rest :=
  hkeeps.aside (p.decoder.decode packet received).1 p.scheduler p.counters h

theorem after (hkeeps : Invariant P)
    (h : P history.processor history.handled (input.arrivals ++ rest))
    (hafter : history.after input = .ok final) : P final.processor final.handled rest := by
  cases input with
  | packet bytes received =>
      obtain ⟨q, handled, hconsume, rfl⟩ := History.after_packet_ok hafter
      have hq := hkeeps.consume (hkeeps.read h bytes received) hconsume
      obtain ⟨decoder, counters, hconclude⟩ :=
        q.conclude_eq (Packet.decode bytes).result handled
      rw [hconclude]
      exact hkeeps.aside decoder q.scheduler counters hq
  | poll now =>
      cases hafter
      obtain ⟨scheduler, gapRequests, hpoll⟩ := pollGapFill_snd history.processor now
      rw [hpoll]
      exact hkeeps.aside history.processor.decoder scheduler
        { history.processor.counters with gapRequests } h

theorem run (hkeeps : Invariant P)
    (h : P history.processor history.handled (inputs.flatMap Input.arrivals))
    (hrun : history.run inputs = .ok final) : P final.processor final.handled [] := by
  induction inputs generalizing history with
  | nil =>
      cases hrun
      exact h
  | cons input inputs ih =>
      obtain ⟨next, hafter, hlater⟩ := exists_of_bind_ok hrun
      exact ih (hkeeps.after h hafter) hlater

/-! Where every message is taken in, whole histories go through. -/

theorem consume_ok (hkeeps : Invariant P)
    (hgoes : ∀ {p : Processor} {handled message rest}, P p handled (message :: rest) →
      ∃ result, p.accept message = .ok result)
    (h : P p handled (messages ++ rest)) : ∃ result, p.consume messages = .ok result := by
  induction messages generalizing p handled with
  | nil => exact ⟨_, rfl⟩
  | cons message messages ih =>
      obtain ⟨⟨between, handling⟩, haccept⟩ := hgoes h
      obtain ⟨result, hlater⟩ := ih (hkeeps.accept h haccept)
      refine ⟨(result.1, (message, handling) :: result.2), ?_⟩
      rw [consume_cons, haccept]
      show (between.consume messages).map _ = _
      rw [hlater]
      rfl

theorem run_ok (hkeeps : Invariant P)
    (hgoes : ∀ {p : Processor} {handled message rest}, P p handled (message :: rest) →
      ∃ result, p.accept message = .ok result)
    (h : P history.processor history.handled (inputs.flatMap Input.arrivals)) :
    ∃ final, history.run inputs = .ok final := by
  induction inputs generalizing history with
  | nil => exact ⟨history, rfl⟩
  | cons input inputs ih =>
      have hafter : ∃ next, history.after input = .ok next := by
        cases input with
        | packet bytes received =>
            obtain ⟨result, hresult⟩ := hkeeps.consume_ok hgoes (hkeeps.read h bytes received)
            rw [History.after_packet]
            exact ⟨_, congrArg _ hresult⟩
        | poll now => exact ⟨_, rfl⟩
      obtain ⟨next, hnext⟩ := hafter
      obtain ⟨final, hfinal⟩ := ih (hkeeps.after h hnext)
      refine ⟨final, ?_⟩
      rw [History.run, hnext]
      exact hfinal

end Invariant

theorem countWhere_append (first second : List (Message × Handling)) (way : Handling → Bool) :
    countWhere (first ++ second) way = countWhere first way + countWhere second way := by
  rw [countWhere, List.countP_append, UInt64.ofNat_add]
  rfl

theorem delivered_append (first second : List (Message × Handling)) :
    delivered (first ++ second) = delivered first ++ delivered second := List.filterMap_append

/-- Whether the listener and the counters, which stood at `counters` first, have been told what became
of the messages. -/
structure History.Tallied (counters : Counters) (history : History) : Prop where
  told : history.told = delivered history.handled
  duplicates : history.processor.counters.duplicates =
    counters.duplicates + countWhere history.handled (· == .duplicate)
  bookErrors : history.processor.counters.bookErrors =
    counters.bookErrors + countWhere history.handled (· == .delivered true)

namespace History.Tallied

variable {counters : Counters} {history final : History} {input : Input} {inputs : List Input}

theorem after (h : history.Tallied counters) (hafter : history.after input = .ok final) :
    final.Tallied counters := by
  cases input with
  | packet bytes received =>
      obtain ⟨q, handled, hconsume, rfl⟩ := History.after_packet_ok hafter
      have hkept := consume_kept hconsume
      have hread : history.processor.Kept (history.processor.read bytes received) :=
        ⟨rfl, rfl, rfl, rfl⟩
      obtain ⟨-, -, hduplicates, hbookErrors⟩ := hread.trans hkept
      obtain ⟨hcounted, hcounted'⟩ := conclude_counts hconsume
      constructor
      case told => rw [h.told, delivered_append]
      case duplicates =>
        rw [hcounted, hduplicates, h.duplicates, countWhere_append, UInt64.add_assoc]
      case bookErrors =>
        rw [hcounted', hbookErrors, h.bookErrors, countWhere_append, UInt64.add_assoc]
  | poll now =>
      cases hafter
      obtain ⟨scheduler, gapRequests, hpoll⟩ := pollGapFill_snd history.processor now
      rw [hpoll]
      exact ⟨h.told, h.duplicates, h.bookErrors⟩

theorem run (h : history.Tallied counters) (hrun : history.run inputs = .ok final) :
    final.Tallied counters := by
  induction inputs generalizing history with
  | nil =>
      cases hrun
      exact h
  | cons input inputs ih =>
      obtain ⟨next, hafter, hlater⟩ := exists_of_bind_ok hrun
      exact ih (h.after hafter) hlater

theorem start (p : Processor) : (History.start p).Tallied p.counters :=
  ⟨rfl, (UInt64.add_zero _).symm, (UInt64.add_zero _).symm⟩

end History.Tallied

end Processor

end MarketFeed
