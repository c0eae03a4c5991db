import Mathlib.Data.List.Forall2
import MarketFeed.Proofs.PacketBoundaries

/-! Instruments that are not chosen. A message about one of them moves the tracker and goes no further,
and the tracker looks at its number only. Hence whatever else it says, two runs whose packets differ in
such messages ask for the same numbers, tell the listener of the same messages and count the same. -/

namespace MarketFeed

/-- Whether two messages are the same, or have the same number and are both about instruments that are
not chosen. -/
inductive Message.Alike (subscriptions : Subscriptions) : Message → Message → Prop where
  | same (message : Message) : Alike subscriptions message message
  | unchosen {message other : Message}
      (numbered : message.kind.isAdministrative = false)
      (numbered' : other.kind.isAdministrative = false)
      (sequence : message.header.sequence = other.header.sequence)
      (unchosen : subscriptions.contains message.header.instrument = false)
      (unchosen' : subscriptions.contains other.header.instrument = false) :
      Alike subscriptions message other

instance (subscriptions : Subscriptions) : DecidableRel (Message.Alike subscriptions) :=
  fun message other =>
    decidable_of_iff
      (message = other ∨
        message.kind.isAdministrative = false ∧ other.kind.isAdministrative = false ∧
          message.header.sequence = other.header.sequence ∧
          subscriptions.contains message.header.instrument = false ∧
          subscriptions.contains other.header.instrument = false)
      ⟨by rintro (rfl | ⟨h, h', hsequence, hnot, hnot'⟩)
          · exact .same message
          · exact .unchosen h h' hsequence hnot hnot',
        by rintro (_ | ⟨h, h', hsequence, hnot, hnot'⟩)
           · exact .inl rfl
           · exact .inr ⟨h, h', hsequence, hnot, hnot'⟩⟩

namespace Processor

variable {p p' q : Processor} {message other : Message} {messages others : List Message}
  {handling : Handling} {handled more : List (Message × Handling)} {subscriptions : Subscriptions}
  {call call' : Call} {calls calls' : List Call}

theorem offer_unchosen (hunchosen : p.subscriptions.contains message.header.instrument = false) :
    p.offer message = (p, .filtered) := by
  have hnot : ¬p.subscriptions.contains message.header.instrument := by
    rw [hunchosen]
    exact Bool.false_ne_true
  rw [offer, if_pos hnot]

/-- Messages about instruments that are not chosen all pass in the same way. -/
theorem pass_unchosen (p : Processor) (outcome : SequenceOutcome) :
    ∃ q handling, isDelivered handling = false ∧ ∀ message : Message,
      p.subscriptions.contains message.header.instrument = false →
        p.pass message outcome = (q, handling) := by
  cases outcome with
  | duplicate => exact ⟨p, .duplicate, rfl, fun _ _ => rfl⟩
  | gap first last => exact ⟨_, .filtered, rfl, fun _ hunchosen => offer_unchosen hunchosen⟩
  | inOrder | recovered => exact ⟨p, .filtered, rfl, fun _ hunchosen => offer_unchosen hunchosen⟩

/-- Those with the same number are answered alike, and the listener is told of none of them. -/
theorem accept_unchosen (p : Processor) (n : UInt64) :
    ∃ answer, (∀ q handling, answer = .ok (q, handling) → isDelivered handling = false) ∧
      ∀ message : Message, message.kind.isAdministrative = false → message.header.sequence = n →
        p.subscriptions.contains message.header.instrument = false → p.accept message = answer := by
  cases hreceive : p.tracker.receive n with
  | error e =>
      refine ⟨.error e, ?_, fun message hnumbered hn hunchosen => ?_⟩
      · intro q handling h
        cases h
      · rw [accept_of_numbered hnumbered, hn, hreceive]
        rfl
  | ok received =>
      obtain ⟨outcome, tracker⟩ := received
      obtain ⟨q, handling, hnot, hpass⟩ := pass_unchosen { p with tracker } outcome
      refine ⟨.ok (q, handling), fun _ _ h => ?_, fun message hnumbered hn hunchosen => ?_⟩
      · cases h
        exact hnot
      · rw [accept_of_numbered hnumbered, hn, hreceive]
        exact congrArg Except.ok (hpass message hunchosen)

theorem accept_alike (h : message.Alike p.subscriptions other) :
    p.accept message = p.accept other ∧
      ∀ q handling, p.accept message = .ok (q, handling) →
        delivered [(message, handling)] = delivered [(other, handling)] := by
  cases h with
  | same => exact ⟨rfl, fun _ _ _ => rfl⟩
  | unchosen hnumbered hnumbered' hsequence hunchosen hunchosen' =>
      obtain ⟨answer, hnot, haccept⟩ := accept_unchosen p other.header.sequence
      have hmessage := haccept message hnumbered hsequence hunchosen
      have hother := haccept other hnumbered' rfl hunchosen'
      refine ⟨hmessage.trans hother.symm, fun q handling hanswer => ?_⟩
      have hnot : isDelivered handling = isDelivered .filtered :=
        hnot q handling (hmessage.symm.trans hanswer)
      rw [delivered_congr hnot message, delivered_congr hnot other]
      rfl

/-- What taking in messages led to: the processor, what the listener was told, and what became of each. -/
def effect (answer : Processor × List (Message × Handling)) :
    Processor × List Message × List Handling :=
  (answer.1, delivered answer.2, answer.2.map (·.2))

theorem effect_consume_cons (p : Processor) (message : Message) (messages : List Message) :
    (p.consume (message :: messages)).map effect =
      (p.accept message).bind fun (between, handling) =>
        ((between.consume messages).map effect).map fun (q, told, later) =>
          (q, delivered [(message, handling)] ++ told, handling :: later) := by
  rw [consume_cons, Except.map_bind]
  apply Except.bind_congr
  rintro ⟨between, handling⟩ -
  show ((between.consume messages).map _).map effect = ((between.consume messages).map effect).map _
  rw [Except.map_map, Except.map_map]
  congr 1
  funext ⟨q, later⟩
  have htold := delivered_append [(message, handling)] later
  exact congrArg (fun told => (q, told, handling :: later.map (·.2))) htold

theorem consume_alike (hchosen : p.subscriptions = subscriptions)
    (halike : List.Forall₂ (Message.Alike subscriptions) messages others) :
    (p.consume messages).map effect = (p.consume others).map effect := by
  induction halike generalizing p with
  | nil => rfl
  | cons hhead _ ih =>
      rw [← hchosen] at hhead
      obtain ⟨haccept, htold⟩ := accept_alike hhead
      rw [effect_consume_cons, effect_consume_cons, ← haccept]
      apply Except.bind_congr
      rintro ⟨between, handling⟩ hanswer
      have hkept := (accept_kept hanswer).subscriptions.trans hchosen
      show ((between.consume _).map effect).map _ = ((between.consume _).map effect).map _
      rw [ih hkept, htold between handling hanswer]

theorem length_congr (hways : handled.map (·.2) = more.map (·.2)) : handled.length = more.length := by
  rw [← List.length_map (·.2), hways, List.length_map]

theorem countMessages_congr (hways : handled.map (·.2) = more.map (·.2)) (counters : Counters)
    (unknown : Nat) :
    countMessages counters unknown handled = countMessages counters unknown more := by
  have hcount (way : Handling → Bool) : countWhere handled way = countWhere more way := by
    have hcountP := congrArg (List.countP way) hways
    rw [List.countP_map, List.countP_map] at hcountP
    exact congrArg UInt64.ofNat hcountP
  simp only [countMessages, length_congr hways, hcount]

/-- Whether a processor is given accepted packets whose messages are alike one by one, with the same number
of others of no known type, or is asked at the same time. Nothing is said of when the packets are received
and of what their headers say. -/
inductive Call.Alike (subscriptions : Subscriptions) : Call → Call → Prop where
  | packet {bytes bytes' : Bytes} {received received' : UInt64} (unknown : Nat)
      (accepted : (Packet.decode bytes).result.map (·.unknown) = .ok unknown)
      (accepted' : (Packet.decode bytes').result.map (·.unknown) = .ok unknown)
      (messages : List.Forall₂ (Message.Alike subscriptions) (Packet.decode bytes).messages
        (Packet.decode bytes').messages) :
      Alike subscriptions (.packet bytes received) (.packet bytes' received')
  | poll (now : Nat) : Alike subscriptions (.poll now) (.poll now)

/-- What a run led to but for the packet headers in the replies and the latency. -/
def shown (answer : List Reply × Processor) : List Reply × Processor :=
  answer.map (·.map Reply.headless) untimed

theorem pollGapFill_untimed (p : Processor) (now : Nat) :
    p.untimed.pollGapFill now = (p.pollGapFill now).map id untimed :=
  @pollGapFill_change p untimed rfl rfl (fun _ => rfl) (fun _ => rfl) now

theorem respond_alike (hchosen : p.subscriptions = subscriptions) (hsame : p.untimed = p'.untimed)
    (halike : call.Alike subscriptions call') :
    (p.respond call).map (·.map Reply.headless untimed) =
      (p'.respond call').map (·.map Reply.headless untimed) := by
  cases halike with
  | packet unknown haccepted haccepted' hmessages =>
      obtain ⟨summary, hsummary, rfl⟩ := exists_of_map_ok haccepted
      obtain ⟨summary', hsummary', hunknown⟩ := exists_of_map_ok haccepted'
      rw [respond_accepted hsummary, respond_accepted hsummary', ← hsame, hunknown]
      have hchosen : p.untimed.subscriptions = subscriptions := hchosen
      refine map_eq_map_of_finer (fun taken taken' heffect => ?_) (consume_alike hchosen hmessages)
      obtain ⟨q, handled⟩ := taken
      obtain ⟨q', handled'⟩ := taken'
      simp only [effect, Prod.mk.injEq] at heffect
      obtain ⟨rfl, htold, hways⟩ := heffect
      simp only [htold, length_congr hways, countMessages_congr hways]
  | poll now =>
      have hpoll := pollGapFill_untimed p now
      rw [hsame, pollGapFill_untimed p' now] at hpoll
      obtain ⟨hrequest, hafter⟩ := Prod.mk.inj hpoll
      exact congrArg Except.ok (congrArg₂ (fun request q => (Reply.polled request, q)) hrequest hafter).symm

theorem respond_subscriptions {reply : Reply} (halike : call.Alike subscriptions call')
    (hrespond : p.respond call = .ok (reply, q)) : q.subscriptions = p.subscriptions := by
  cases halike with
  | @packet bytes _ _ _ _ _ _ _ =>
      obtain ⟨taken, handled, hconsume, -, rfl⟩ := respond_packet_ok hrespond
      obtain ⟨decoder, counters, hconclude⟩ := taken.conclude_eq (Packet.decode bytes).result handled
      rw [hconclude]
      exact (consume_kept hconsume).subscriptions
  | poll now =>
      obtain ⟨scheduler, gapRequests, hpoll⟩ := pollGapFill_snd p now
      cases hrespond
      rw [hpoll]

theorem map_shown_cons (answer : Except CountError (List Reply × Processor)) (reply : Reply) :
    (answer.map fun (replies, q) => (reply :: replies, q)).map shown =
      (answer.map shown).map fun (replies, q) => (reply.headless :: replies, q) := by
  rw [Except.map_map, Except.map_map]
  rfl

theorem serve_alike (hchosen : p.subscriptions = subscriptions) (hsame : p.untimed = p'.untimed)
    (halike : List.Forall₂ (Call.Alike subscriptions) calls calls') :
    (p.serve calls).map shown = (p'.serve calls').map shown := by
  induction halike generalizing p p' with
  | nil => exact congrArg (fun q => Except.ok ([], q)) hsame
  | @cons call call' calls calls' hhead _ ih =>
      have hreply := respond_alike hchosen hsame hhead
      rw [serve_cons, serve_cons]
      cases hrespond : p.respond call with
      | error e =>
          rw [hrespond] at hreply
          rw [eq_error_of_map_error hreply.symm]
          rfl
      | ok answer =>
          rw [hrespond] at hreply
          obtain ⟨⟨reply', between'⟩, hrespond', hanswer⟩ := exists_of_map_ok hreply.symm
          obtain ⟨reply, between⟩ := answer
          obtain ⟨hheadless, hbetween⟩ := Prod.mk.inj hanswer
          have hchosen := (respond_subscriptions hhead hrespond).trans hchosen
          rw [hrespond']
          show ((between.serve calls).map _).map shown = ((between'.serve calls').map _).map shown
          rw [map_shown_cons, map_shown_cons, ih hchosen hbetween.symm, hheadless]

/-- **Instruments that are not chosen only move the tracker.** Whatever a processor is given and asked,
if two runs differ only in messages with the same numbers about instruments that are not chosen, then
every call is answered alike, the listener is told of the same messages each time, and the processors
end the same but for the latency; or a number that cannot be counted stops both. -/
theorem unchosen_instruments_only_move_tracker (p : Processor) (calls calls' : List Call)
    (halike : List.Forall₂ (Call.Alike p.subscriptions) calls calls') :
    (p.serve calls).map shown = (p.serve calls').map shown :=
  serve_alike rfl rfl halike

/-- Instrument 7 deletes an order that only instrument 8 could have; what comes before it and after it
under the numbers 1 and 2 may be about other instruments. -/
def behindGap (first second : Message) : List Call :=
  let delete : Message := ⟨⟨0, 0, 7, 4, 0⟩, .deleteOrder 40 .ask⟩
  [.packet (((PacketDraft.start 0 1 0).push first).push delete).finish 0, .poll 0,
    .packet ((PacketDraft.start 0 2 0).push second).finish 0, .poll 1]

theorem unchosen_instruments_only_move_tracker_behindGap :
    let config : FeedConfig :=
      { FeedConfig.standard with
        sequence := ⟨some 1, 10⟩
        recovery := { RecoverySettings.standard with enabled := true, maxRange := 5 } }
    let p := ofConfig config (.blank 10) (.only [7]) .zero
    let added := behindGap ⟨⟨0, 0, 8, 1, 3⟩, .addOrder ⟨40, 100, 5, .ask⟩⟩
      ⟨⟨0, 0, 8, 2, 0⟩, .tradeCancel 1⟩
    let cancelled := behindGap ⟨⟨0, 0, 9, 1, 0⟩, .tradeCancel 6⟩ ⟨⟨0, 0, 8, 2, 4⟩, .deleteOrder 40 .ask⟩
    List.Forall₂ (Call.Alike p.subscriptions) added cancelled ∧
    ∃ replies replies' q q', p.serve added = .ok (replies, q) ∧
      p.serve cancelled = .ok (replies', q') ∧
      replies.map Reply.headless = replies'.map Reply.headless ∧ q.untimed = q'.untimed ∧
      q.tracker.missing = [3] ∧ q.counters.messagesFiltered = 2 ∧ q.counters.bookErrors = 1 ∧
      q.counters.gapRequests = 2 := by
  intro config p added cancelled
  have halike : List.Forall₂ (Call.Alike p.subscriptions) added cancelled := by
    refine .cons (.packet 0 ?_ ?_ ?_) (.cons (.poll 0) (.cons (.packet 0 ?_ ?_ ?_)
      (.cons (.poll 1) .nil)))
    all_goals decide +kernel
  have hanswers : (p.serve added).map (fun (_, q) => (q.tracker.missing,
      q.counters.messagesFiltered, q.counters.bookErrors, q.counters.gapRequests)) =
      .ok ([3], 2, 1, 2) := by decide +kernel
  have hsame := unchosen_instruments_only_move_tracker p added cancelled halike
  obtain ⟨⟨replies, q⟩, hserve, hanswers⟩ := exists_of_map_ok hanswers
  rw [hserve] at hsame
  obtain ⟨⟨replies', q'⟩, hserve', hshown⟩ := exists_of_map_ok hsame.symm
  obtain ⟨hreplies, hq⟩ := Prod.mk.inj hshown
  simp only [Prod.mk.injEq] at hanswers
  exact ⟨halike, replies, replies', q, q', hserve, hserve', hreplies.symm, hq.symm, hanswers⟩

end Processor

end MarketFeed
