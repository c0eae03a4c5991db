import MarketFeed.Proofs.MessageHandling

/-! A processor in use. It is given packets, it is asked for the request that is due, and the choice of
instruments changes; every call is answered. No message looks at the decoder or at the counters: it
only adds to the gaps counted. Hence a change of those that does not look at the gaps may as well be
made after messages as before them; and a change that no call looks at may be made after a run. -/

namespace MarketFeed.Processor

variable {p q : Processor} {message : Message} {messages : List Message}
  {handled : List (Message × Handling)}

/-- What is done with a processor: it is given a packet received at some time, it is asked at some time
for the request that is due, or the choice of instruments changes. -/
inductive Call where
  | packet (bytes : Bytes) (received : UInt64)
  | poll (now : Nat)
  | choose (call : Subscriptions.Call)

/-- What a call is answered, and the messages that the listener is told of meanwhile. -/
inductive Reply where
  | processed (result : Except DecodeError Packet.Summary) (told : List Message)
  | polled (request : Option GapRequest)
  | chosen

def Reply.told : Reply → List Message
  | .processed _ told => told
  | .polled _ => []
  | .chosen => []

def respond (p : Processor) : Call → Except CountError (Reply × Processor)
  | .packet bytes received =>
      (p.process bytes received).map fun processed =>
        (.processed processed.result processed.delivered, processed.processor)
  | .poll now => .ok (.polled (p.pollGapFill now).1, (p.pollGapFill now).2)
  | .choose call => .ok (.chosen, { p with subscriptions := p.subscriptions.apply call })

def serve (p : Processor) : List Call → Except CountError (List Reply × Processor)
  | [] => .ok ([], p)
  | call :: calls => do
      let (reply, p) ← p.respond call
      let (replies, p) ← p.serve calls
      pure (reply :: replies, p)

theorem serve_cons (p : Processor) (call : Call) (calls : List Call) :
    p.serve (call :: calls) = (p.respond call).bind fun (reply, between) =>
      (between.serve calls).map fun (replies, final) => (reply :: replies, final) := by
  rw [serve]
  apply Except.bind_congr
  rintro ⟨reply, between⟩ -
  exact bind_pure_comp (fun (replies, final) => (reply :: replies, final)) (between.serve calls)

theorem serve_cons_ok {call : Call} {calls : List Call} {replies : List Reply}
    (hserve : p.serve (call :: calls) = .ok (replies, q)) :
    ∃ reply between later, p.respond call = .ok (reply, between) ∧
      between.serve calls = .ok (later, q) ∧ replies = reply :: later := by
  obtain ⟨⟨reply, between⟩, hrespond, hserve⟩ := exists_of_bind_ok hserve
  obtain ⟨⟨later, final⟩, hlater, hresult⟩ := exists_of_bind_ok hserve
  cases hresult
  exact ⟨reply, between, later, hrespond, hlater, rfl⟩

theorem respond_packet (p : Processor) (bytes : Bytes) (received : UInt64) :
    p.respond (.packet bytes received) =
      ((p.read bytes received).consume (Packet.decode bytes).messages).map fun (q, handled) =>
        (.processed (Packet.decode bytes).result (delivered handled),
          q.conclude (Packet.decode bytes).result handled) := by
  rw [respond, process_eq, Except.map_map]

theorem respond_packet_ok {bytes : Bytes} {received : UInt64} {reply : Reply}
    (hrespond : p.respond (.packet bytes received) = .ok (reply, q)) :
    ∃ taken handled,
      (p.read bytes received).consume (Packet.decode bytes).messages = .ok (taken, handled) ∧
        reply = .processed (Packet.decode bytes).result (delivered handled) ∧
        q = taken.conclude (Packet.decode bytes).result handled := by
  rw [respond_packet] at hrespond
  obtain ⟨⟨taken, handled⟩, hconsume, hanswer⟩ := exists_of_map_ok hrespond
  cases hanswer
  exact ⟨taken, handled, hconsume, rfl, rfl⟩

theorem consume_append (p : Processor) (first second : List Message) :
    p.consume (first ++ second) = (p.consume first).bind fun (between, handled) =>
      (between.consume second).map fun (final, later) => (final, handled ++ later) := by
  induction first generalizing p with
  | nil => exact (congrFun Except.map_id (p.consume second)).symm
  | cons message first ih =>
      rw [List.cons_append, consume_cons, consume_cons, Except.bind_assoc]
      apply Except.bind_congr
      rintro ⟨between, handling⟩ -
      show (between.consume (first ++ second)).map _ = ((between.consume first).map _).bind _
      rw [ih, Except.map_bind, Except.bind_map]
      apply Except.bind_congr
      rintro ⟨final, handled⟩ -
      exact Except.map_map _ _ _

/-! ### Changes that nothing looks at -/

/-- The processor with its decoder and its counters changed. -/
def adjust (p : Processor) (turn : Decoder → Decoder) (count : Counters → Counters) : Processor :=
  { p with decoder := turn p.decoder, counters := count p.counters }

/-- Whether a change of the counters leaves it open when a gap is counted. -/
def IgnoresGaps (count : Counters → Counters) : Prop :=
  ∀ counters : Counters, count { counters with sequenceErrors := counters.sequenceErrors + 1 } =
    { count counters with sequenceErrors := (count counters).sequenceErrors + 1 }

/-- Whether a change of the processor may as well be made after a message as before it. What becomes of
the message may then be seen differently. -/
structure Commutes (change : Processor → Processor) (see : Handling → Handling) : Prop where
  tracker : ∀ p, (change p).tracker = p.tracker
  setTracker : ∀ (p : Processor) tracker, { change p with tracker } = change { p with tracker }
  countGap : ∀ p : Processor,
    { change p with counters.sequenceErrors := (change p).counters.sequenceErrors + 1 } =
      change { p with counters.sequenceErrors := p.counters.sequenceErrors + 1 }
  clear : ∀ p : Processor, { change p with scheduler := (change p).scheduler.map (·.clear) } =
    change { p with scheduler := p.scheduler.map (·.clear) }
  offer : ∀ p message, (change p).offer message = (p.offer message).map change see
  accepted : see (.delivered false) = .delivered false
  duplicate : see .duplicate = .duplicate

namespace Commutes

variable {change : Processor → Processor} {see : Handling → Handling}

theorem pass (h : Commutes change see) (p : Processor) (message : Message)
    (outcome : SequenceOutcome) :
    (change p).pass message outcome = (p.pass message outcome).map change see := by
  cases outcome with
  | duplicate => exact congrArg (Prod.mk (change p)) h.duplicate.symm
  | gap first last =>
      rw [Processor.pass, h.countGap]
      exact h.offer _ message
  | inOrder | recovered => exact h.offer p message

theorem accept (h : Commutes change see) (p : Processor) (message : Message) :
    (change p).accept message = (p.accept message).map (·.map change see) := by
  by_cases hnumbered : message.kind.isAdministrative = false
  · rw [accept_of_numbered hnumbered, accept_of_numbered hnumbered, h.tracker]
    cases p.tracker.receive message.header.sequence with
    | error e => rfl
    | ok answer =>
        obtain ⟨outcome, tracker⟩ := answer
        show Except.ok (({ change p with tracker } : Processor).pass message outcome) = _
        rw [h.setTracker, h.pass]
        rfl
  · obtain ⟨header, body⟩ := message
    cases body with
    | heartbeat => exact congrArg (fun seen => Except.ok (change p, seen)) h.accepted.symm
    | sequenceReset next =>
        let cleared : Processor := { p with scheduler := p.scheduler.map (·.clear) }
        let cleared' : Processor := { change p with scheduler := (change p).scheduler.map (·.clear) }
        have hclear : cleared' = change cleared := h.clear p
        show Except.ok ({ cleared' with tracker := (change p).tracker.reset next }, _) =
          Except.ok (change { cleared with tracker := p.tracker.reset next }, see (.delivered false))
        rw [hclear, h.tracker, h.setTracker, h.accepted]
    | _ => exact absurd rfl hnumbered

theorem consume (h : Commutes change see) (p : Processor) (messages : List Message) :
    (change p).consume messages =
      (p.consume messages).map (·.map change (·.map (·.map id see))) := by
  induction messages generalizing p with
  | nil => rfl
  | cons message messages ih =>
      rw [consume_cons, consume_cons, h.accept, Except.bind_map, Except.map_bind]
      apply Except.bind_congr
      rintro ⟨between, handling⟩ -
      show ((change between).consume messages).map _ = ((between.consume messages).map _).map _
      rw [ih, Except.map_map, Except.map_map]
      rfl

end Commutes

/-- What a request depends on is the tracker and the scheduler. -/
theorem pollGapFill_change {change : Processor → Processor}
    (htracker : (change p).tracker = p.tracker) (hscheduler : (change p).scheduler = p.scheduler)
    (hset : ∀ scheduler, { change p with scheduler } = change { p with scheduler })
    (hcount : ∀ q : Processor,
      { change q with counters.gapRequests := (change q).counters.gapRequests + 1 } =
        change { q with counters.gapRequests := q.counters.gapRequests + 1 }) (now : Nat) :
    (change p).pollGapFill now = (p.pollGapFill now).map id change := by
  unfold pollGapFill
  rw [hscheduler]
  cases p.scheduler with
  | none => rfl
  | some scheduler =>
      rcases hpoll : scheduler.poll p.tracker now with ⟨request, later⟩
      have hpoll' : scheduler.poll (change p).tracker now = (request, later) := by rw [htracker, hpoll]
      let waiting : Processor := { p with scheduler := some later }
      let waiting' : Processor := { change p with scheduler := some later }
      have hwaiting : waiting' = change waiting := hset (some later)
      simp only [hpoll, hpoll']
      cases request with
      | none => exact congrArg (Prod.mk none) hwaiting
      | some request =>
          show (some request, { waiting' with
            counters.gapRequests := waiting'.counters.gapRequests + 1 }) = (some request, change _)
          rw [hwaiting, hcount]

/-- What becomes of a new message depends on the choice of instruments and on the books. -/
theorem offer_change {change : Processor → Processor}
    (hchosen : (change p).subscriptions = p.subscriptions)
    (hbuilds : (change p).buildsBooks = p.buildsBooks) (hbooks : (change p).books = p.books)
    (hset : ∀ books, { change p with books } = change { p with books }) (message : Message) :
    (change p).offer message = (p.offer message).map change id := by
  by_cases hcontains : p.subscriptions.contains message.header.instrument
  · have hcontains' : (change p).subscriptions.contains message.header.instrument := by
      rwa [hchosen]
    rw [offer, offer, if_neg (not_not_intro hcontains), if_neg (not_not_intro hcontains')]
    by_cases hkept : p.buildsBooks
    · have hkept' : (change p).buildsBooks := by rwa [hbuilds]
      rw [if_pos hkept, if_pos hkept']
      simp only [hbooks]
      exact congrArg (fun q => (q, Handling.delivered (p.books.apply message).2.isSome)) (hset _)
    · have hkept' : ¬(change p).buildsBooks := by rwa [hbuilds]
      rw [if_neg hkept, if_neg hkept']
      rfl
  · have hcontains' : ¬(change p).subscriptions.contains message.header.instrument := by
      rwa [hchosen]
    rw [offer, offer, if_pos hcontains, if_pos hcontains']
    rfl

section adjust

variable {turn : Decoder → Decoder} {count : Counters → Counters}

theorem commutes_adjust (hcount : IgnoresGaps count) : Commutes (·.adjust turn count) id where
  tracker _ := rfl
  setTracker _ _ := rfl
  countGap p :=
    congrArg (fun counters => { p with decoder := turn p.decoder, counters }) (hcount p.counters).symm
  clear _ := rfl
  offer p message := @offer_change p (·.adjust turn count) rfl rfl rfl (fun _ => rfl) message
  accepted := rfl
  duplicate := rfl

/-- What becomes of messages does not depend on the decoder and the counters, and a change of those that
ignores gaps may be made before or after. -/
theorem consume_adjust (hcount : IgnoresGaps count) (p : Processor) (messages : List Message) :
    (p.adjust turn count).consume messages =
      (p.consume messages).map (·.map (·.adjust turn count) id) := by
  rw [(commutes_adjust hcount).consume]
  simp only [Prod.map_id, List.map_id_fun]

end adjust

theorem delivered_congr {handling handling' : Handling}
    (hdelivery : isDelivered handling = isDelivered handling') (message : Message) :
    delivered [(message, handling)] = delivered [(message, handling')] := by
  cases handling <;> cases handling' <;> first | rfl | cases hdelivery

/-- Whether a change of the processor may as well be made after a call as before it. The answer may then be
viewed differently. -/
structure Unobserved (change : Processor → Processor) (see : Handling → Handling)
    (view : Reply → Reply) : Prop extends Commutes change see where
  delivery : ∀ handling, isDelivered (see handling) = isDelivered handling
  processed : ∀ result told, view (.processed result told) = .processed result told
  chosen : view .chosen = .chosen
  read : ∀ (p : Processor) packet received,
    (change p).read packet received = change (p.read packet received)
  conclude : ∀ (p : Processor) result handled,
    (change p).conclude result (handled.map (·.map id see)) = change (p.conclude result handled)
  poll : ∀ (p : Processor) now,
    (change p).respond (.poll now) = (p.respond (.poll now)).map (·.map view change)
  choose : ∀ (p : Processor) subscriptions,
    { change p with subscriptions } = change { p with subscriptions }
  choice : ∀ p, (change p).subscriptions = p.subscriptions

theorem respond_poll {change : Processor → Processor} {now : Nat}
    (hpoll : (change p).pollGapFill now = (p.pollGapFill now).map id change) :
    (change p).respond (.poll now) = (p.respond (.poll now)).map (·.map id change) := by
  rw [respond, hpoll]
  rfl

/-- A change of the decoder and the counters is one, if it ignores gaps and requests and if packets are
read and concluded alike before and after it. -/
theorem unobserved_adjust {turn : Decoder → Decoder} {count : Counters → Counters}
    (hgaps : IgnoresGaps count)
    (hrequests : ∀ counters,
      { count counters with gapRequests := (count counters).gapRequests + 1 } =
        count { counters with gapRequests := counters.gapRequests + 1 })
    (hread : ∀ (p : Processor) packet received,
      (p.adjust turn count).read packet received = (p.read packet received).adjust turn count)
    (hconclude : ∀ (p : Processor) result handled,
      (p.adjust turn count).conclude result handled =
        (p.conclude result handled).adjust turn count) :
    Unobserved (·.adjust turn count) id id where
  toCommutes := commutes_adjust hgaps
  delivery _ := rfl
  processed _ _ := rfl
  chosen := rfl
  read := hread
  conclude p result handled := by
    rw [Prod.map_id, List.map_id_fun]
    exact hconclude p result handled
  poll p now := by
    have hcounted (q : Processor) := congrArg
      (fun counters => { q.adjust turn count with counters }) (hrequests q.counters)
    exact @respond_poll p (·.adjust turn count) now
      (pollGapFill_change rfl rfl (fun _ => rfl) hcounted now)
  choose _ _ := rfl
  choice _ := rfl

namespace Unobserved

variable {change : Processor → Processor} {see : Handling → Handling} {view : Reply → Reply}

theorem delivered_map (h : Unobserved change see view) (handled : List (Message × Handling)) :
    delivered (handled.map (·.map id see)) = delivered handled := by
  induction handled with
  | nil => rfl
  | cons first handled ih =>
      obtain ⟨message, handling⟩ := first
      have hfirst := delivered_congr (h.delivery handling) message
      show delivered ([(message, see handling)] ++ handled.map (·.map id see)) =
        delivered ([(message, handling)] ++ handled)
      rw [delivered_append, delivered_append, hfirst, ih]

theorem respond (h : Unobserved change see view) (p : Processor) (call : Call) :
    (change p).respond call = (p.respond call).map (·.map view change) := by
  cases call with
  | packet bytes received =>
      rw [respond_packet, respond_packet, h.read, h.consume, Except.map_map, Except.map_map]
      congr 1
      funext ⟨q, handled⟩
      show (Reply.processed _ (delivered (handled.map _)), (change q).conclude _ _) =
        (view (.processed _ (delivered handled)), change (q.conclude _ handled))
      rw [h.delivered_map, h.conclude, h.processed]
  | poll now => exact h.poll p now
  | choose call =>
      show Except.ok (Reply.chosen, ({ change p with
        subscriptions := (change p).subscriptions.apply call } : Processor)) =
        Except.ok (view .chosen, change { p with subscriptions := p.subscriptions.apply call })
      rw [h.choice, h.choose, h.chosen]

/-- Then it may as well be made after a whole run as before it. -/
theorem serve (h : Unobserved change see view) (p : Processor) (calls : List Call) :
    (change p).serve calls = (p.serve calls).map (·.map (·.map view) change) := by
  induction calls generalizing p with
  | nil => rfl
  | cons call calls ih =>
      rw [serve_cons, serve_cons, h.respond, Except.bind_map, Except.map_bind]
      apply Except.bind_congr
      rintro ⟨reply, between⟩ -
      show ((change between).serve calls).map _ = ((between.serve calls).map _).map _
      rw [ih, Except.map_map, Except.map_map]
      rfl

end Unobserved

/-- The counters once messages have been handled and others were found to be of no known type. -/
def countMessages (counters : Counters) (unknown : Nat) (handled : List (Message × Handling)) :
    Counters :=
  { counters with
    messagesReceived := counters.messagesReceived + UInt64.ofNat (handled.length + unknown)
    messagesProcessed := counters.messagesProcessed + countWhere handled isDelivered
    messagesFiltered := counters.messagesFiltered + countWhere handled (· == .filtered)
    duplicates := counters.duplicates + countWhere handled (· == .duplicate)
    bookErrors := counters.bookErrors + countWhere handled (· == .delivered true)
    unknownMessages := counters.unknownMessages + UInt64.ofNat unknown }

theorem countMessages_nil (counters : Counters) : countMessages counters 0 [] = counters := by
  have hzero (count : UInt64) : count + UInt64.ofNat 0 = count := UInt64.add_zero count
  simp only [countMessages, countWhere, List.countP_nil, List.length_nil, Nat.add_zero, hzero]

theorem countMessages_append (counters : Counters) (unknown further : Nat)
    (first second : List (Message × Handling)) :
    countMessages (countMessages counters unknown first) further second =
      countMessages counters (unknown + further) (first ++ second) := by
  have hlength : (first ++ second).length + (unknown + further) =
      (first.length + unknown) + (second.length + further) := by
    rw [List.length_append]
    omega
  simp only [countMessages, hlength, countWhere_append, UInt64.ofNat_add _ (second.length + further),
    UInt64.ofNat_add unknown, UInt64.add_assoc]

theorem length_of_consume (hconsume : p.consume messages = .ok (q, handled)) :
    handled.length = messages.length := by
  induction messages generalizing p handled with
  | nil =>
      cases hconsume
      rfl
  | cons message messages ih =>
      obtain ⟨between, handling, later, -, hlater, rfl⟩ := consume_cons_ok hconsume
      rw [List.length_cons, List.length_cons, ih hlater]

/-- An accepted packet counts the messages that it handed over and those of no known type. -/
theorem conclude_accepted {summary : Packet.Summary}
    (hdispatched : summary.dispatched = handled.length) (p : Processor) :
    ∃ latency, p.conclude (.ok summary) handled =
      { p with
        decoder.latency := .zero
        counters := { countMessages p.counters summary.unknown handled with latency } } := by
  have hcount : countPacket p.counters summary handled =
      countMessages p.counters summary.unknown handled := by
    rw [countPacket, countMessages, hdispatched, UInt64.ofNat_add]
  obtain ⟨latency, hlatency⟩ :=
    recordLatency_eq (countMessages p.counters summary.unknown handled) p.decoder.latency
  refine ⟨latency, ?_⟩
  rw [← hlatency, ← hcount]
  rfl

end MarketFeed.Processor
