import MarketFeed.Proofs.MessageHandling
import MarketFeed.Proofs.SequenceAccounting

/-! Numbers that come again. Until the largest number has got past the tracker, no number gets past it
twice without a fresh start in between. After the largest number the tracker expects 0, and takes what
comes again for something new. -/

namespace MarketFeed.Processor

open SequenceTracker (Ledger)

def largest : UInt64 := UInt64.ofNat (UInt64.size - 1)

/-- The numbers past the tracker once it has seen one more message. -/
def notePassed (passed : List UInt64) : Message × Handling → List UInt64
  | (message, handling) =>
    match message.body with
    | .heartbeat => passed
    | .sequenceReset _ => []
    | _ => if handling = .duplicate then passed else message.header.sequence :: passed

/-- The numbers that have got past the tracker since it started over last, the last one first. -/
def passed (handled : List (Message × Handling)) : List UInt64 := handled.foldl notePassed []

variable {p q : Processor} {message : Message} {handling : Handling} {rest : List Message}
  {handled : List (Message × Handling)}

theorem passed_concat (handled : List (Message × Handling)) (entry : Message × Handling) :
    passed (handled ++ [entry]) = notePassed (passed handled) entry := by
  rw [passed, List.foldl_concat]
  rfl

theorem notePassed_of_numbered {numbers : List UInt64}
    (hnumbered : message.kind.isAdministrative = false) :
    notePassed numbers (message, handling) =
      if handling = .duplicate then numbers else message.header.sequence :: numbers := by
  obtain ⟨header, body⟩ := message
  cases body <;> first | rfl | cases hnumbered

theorem toNat_ne_of_ne_largest {n : UInt64} (hn : n ≠ largest) : n.toNat ≠ UInt64.size - 1 :=
  fun heq => hn (UInt64.toNat_inj.1 heq)

theorem not_lt_largest {n : UInt64} : ¬largest < n := by
  have hsize := n.toNat_lt_size
  have hlargest : largest.toNat = UInt64.size - 1 := rfl
  rw [UInt64.lt_iff_toNat_lt]
  omega

/-- Whether the tracker accounts for the numbers that have got past it. -/
def Counted (p : Processor) (numbers : List UInt64) : Prop :=
  ∃ maxMissing base, Ledger.Sound maxMissing ⟨p.tracker, base, numbers⟩

theorem counted_ofConfig (config : FeedConfig) (books : Books) (subscriptions : Subscriptions)
    (counters : Counters) : (ofConfig config books subscriptions counters).Counted [] := by
  unfold Counted ofConfig
  cases config.sequence.initial with
  | some next => exact ⟨_, some next, Ledger.sound_startingAt next⟩
  | none => exact ⟨_, none, Ledger.sound_unsynchronised⟩

namespace Counted

variable {numbers : List UInt64}

theorem congr (h : p.Counted numbers) (htracker : q.tracker = p.tracker) : q.Counted numbers := by
  obtain ⟨maxMissing, base, hsound⟩ := h
  exact ⟨maxMissing, base, htracker ▸ hsound⟩

/-- Either no number has passed yet, or there is a first one from which they all count. -/
theorem unstarted_or_accounts (h : p.Counted numbers) :
    (p.tracker.expected = none ∧ p.tracker.missing = [] ∧ numbers = []) ∨
    ∃ base expected, p.tracker.expected = some expected ∧
      p.tracker.Accounts base expected numbers := by
  obtain ⟨maxMissing, base, hsound⟩ := h
  cases base with
  | none =>
      obtain ⟨hexpected, hmissing, -, hnumbers⟩ := hsound.unstarted rfl
      exact Or.inl ⟨hexpected, hmissing, hnumbers⟩
  | some base =>
      obtain ⟨expected, hexpected, haccounts⟩ := hsound.started base rfl
      exact Or.inr ⟨base, expected, hexpected, haccounts⟩

theorem nodup (h : p.Counted numbers) : numbers.Nodup := by
  rcases h.unstarted_or_accounts with ⟨-, -, rfl⟩ | ⟨base, expected, -, haccounts⟩
  · exact List.nodup_nil
  · exact haccounts.accepted_nodup

/-- The largest number is behind every number that is accounted for. -/
theorem largest_notMem (h : p.Counted numbers) : largest ∉ numbers := by
  intro hmem
  rcases h.unstarted_or_accounts with ⟨-, -, rfl⟩ | ⟨base, expected, -, haccounts⟩
  · cases hmem
  · exact not_lt_largest (haccounts.accepted_range largest hmem).2

theorem reset (p : Processor) (next : UInt64) (scheduler : Option GapFillScheduler) :
    { p with tracker := p.tracker.reset next, scheduler }.Counted [] :=
  ⟨_, some next, rfl, nofun, fun base hbase => by
    cases hbase
    exact ⟨next, rfl, SequenceTracker.Accounts.start rfl rfl⟩⟩

/-- Any number but the largest has an answer, and is accounted for. -/
theorem receive (h : p.Counted numbers) {n : UInt64} (hn : n ≠ largest) :
    ∃ outcome tracker, p.tracker.receive n = .ok (outcome, tracker) ∧
      { p with tracker }.Counted
        (if outcome = SequenceOutcome.duplicate then numbers else n :: numbers) := by
  obtain ⟨maxMissing, base, hsound⟩ := h
  have hinput : ∀ m, SequenceTracker.Input.receive n = .receive m → m.toNat ≠ UInt64.size - 1 := by
    intro m heq
    cases heq
    exact toNat_ne_of_ne_largest hn
  obtain ⟨next, hnext, hsound'⟩ := hsound.after hinput
  obtain ⟨⟨outcome, tracker⟩, hreceive, hresult⟩ := exists_of_bind_ok hnext
  cases hresult
  exact ⟨outcome, tracker, hreceive, maxMissing, _, hsound'⟩

end Counted

/-- One message leaves the numbers past the tracker as they are, or is where the tracker starts over,
or is one more of them: a new one, if they are accounted for. -/
theorem accept_notePassed (haccept : p.accept message = .ok (q, handling)) (numbers : List UInt64) :
    (notePassed numbers (message, handling) = numbers ∧ q.tracker = p.tracker) ∨
    (notePassed numbers (message, handling) = [] ∧ q.Counted []) ∨
    (message.kind.isAdministrative = false ∧
      notePassed numbers (message, handling) = message.header.sequence :: numbers ∧
      (p.Counted numbers → message.header.sequence ∉ numbers ∧
        (message.header.sequence = largest ∨ q.Counted (message.header.sequence :: numbers)))) := by
  rcases accept_cases haccept with ⟨hbody, rfl, -⟩ | ⟨next, hbody, -, rfl⟩ |
    ⟨hnumbered, outcome, tracker, hreceive, hpass⟩
  · exact Or.inl ⟨by rw [notePassed, hbody], rfl⟩
  · exact Or.inr (Or.inl ⟨by rw [notePassed, hbody], Counted.reset p next _⟩)
  · obtain ⟨-, htracker, hduplicate⟩ := pass_kept { p with tracker } message outcome
    rw [hpass] at htracker hduplicate
    rw [notePassed_of_numbered hnumbered]
    by_cases hnew : handling = .duplicate
    · rw [if_pos hnew]
      rw [hduplicate.1 hnew] at hreceive
      exact Or.inl ⟨rfl, htracker.trans (SequenceTracker.receive_duplicate hreceive)⟩
    · rw [if_neg hnew]
      refine Or.inr (Or.inr ⟨hnumbered, rfl, fun hcounted => ?_⟩)
      by_cases hlargest : message.header.sequence = largest
      · exact ⟨hlargest ▸ hcounted.largest_notMem, Or.inl hlargest⟩
      · obtain ⟨outcome', tracker', hreceive', hcounted'⟩ := hcounted.receive hlargest
        rw [hreceive] at hreceive'
        cases hreceive'
        rw [if_neg fun heq => hnew (hduplicate.2 heq)] at hcounted'
        exact ⟨(List.nodup_cons.1 hcounted'.nodup).1, Or.inr (hcounted'.congr htracker)⟩

/-- Whether the numbers past the tracker were all different at every time before which the largest one
had not been among them. -/
def PassesOnce (handled : List (Message × Handling)) : Prop :=
  ∀ taken, taken <+: handled → largest ∉ (passed taken).tail → (passed taken).Nodup

theorem PassesOnce.concat (h : PassesOnce handled) {entry : Message × Handling}
    (hentry : largest ∉ (notePassed (passed handled) entry).tail →
      (notePassed (passed handled) entry).Nodup) : PassesOnce (handled ++ [entry]) := by
  intro taken htaken
  rcases List.prefix_concat_iff.1 htaken with rfl | htaken
  · rw [passed_concat]
    exact hentry
  · exact h taken htaken

/-- Until the largest number has got past the tracker, this accounts for the numbers that have. -/
theorem invariant_passesOnce : Invariant fun p handled _ =>
    PassesOnce handled ∧ (largest ∈ passed handled ∨ p.Counted (passed handled)) where
  aside := by
    rintro p handled rest decoder scheduler counters ⟨honce, hcounted⟩
    exact ⟨honce, hcounted.imp_right fun hcounted => hcounted.congr rfl⟩
  accept := by
    rintro p q handled message handling rest ⟨honce, hcounted⟩ haccept
    rw [passed_concat]
    rcases accept_notePassed haccept (passed handled) with
      ⟨hnote, htracker⟩ | ⟨hnote, hcounted'⟩ | ⟨-, hnote, hnew⟩
    · refine ⟨honce.concat ?_, ?_⟩
      · rw [hnote]
        exact honce handled (List.prefix_refl handled)
      · rw [hnote]
        exact hcounted.imp_right fun hcounted => hcounted.congr htracker
    · refine ⟨honce.concat ?_, ?_⟩
      · rw [hnote]
        exact fun _ => List.nodup_nil
      · rw [hnote]
        exact Or.inr hcounted'
    · -- With the largest number past the tracker, nothing is said about those behind it.
      have hcases := hcounted.imp_right fun hcounted => And.intro hcounted.nodup (hnew hcounted)
      refine ⟨honce.concat ?_, ?_⟩
      · rw [hnote, List.tail_cons]
        intro hnone
        obtain ⟨hnodup, hnotMem, -⟩ := hcases.resolve_left hnone
        exact List.nodup_cons.2 ⟨hnotMem, hnodup⟩
      · rw [hnote]
        rcases hcases with hmem | ⟨-, -, hlargest | hcounted⟩
        · exact Or.inl (List.mem_cons_of_mem _ hmem)
        · exact Or.inl (hlargest ▸ List.mem_cons_self)
        · exact Or.inr hcounted

/-- Where no message has the largest number, every message is taken in. -/
theorem invariant_counted : Invariant fun p handled rest => p.Counted (passed handled) ∧
    ∀ message ∈ rest, message.kind.isAdministrative = false → message.header.sequence ≠ largest where
  aside := by
    rintro p handled rest decoder scheduler counters ⟨hcounted, hrest⟩
    exact ⟨hcounted.congr rfl, hrest⟩
  accept := by
    rintro p q handled message handling rest ⟨hcounted, hrest⟩ haccept
    refine ⟨?_, fun later hmem => hrest later (List.mem_cons_of_mem _ hmem)⟩
    rw [passed_concat]
    rcases accept_notePassed haccept (passed handled) with
      ⟨hnote, htracker⟩ | ⟨hnote, hcounted'⟩ | ⟨hnumbered, hnote, hnew⟩
    · rw [hnote]
      exact hcounted.congr htracker
    · rw [hnote]
      exact hcounted'
    · rw [hnote]
      exact (hnew hcounted).2.resolve_left (hrest message List.mem_cons_self hnumbered)

theorem Counted.accept_ok {numbers : List UInt64} (h : p.Counted numbers)
    (hnumber : message.kind.isAdministrative = false → message.header.sequence ≠ largest) :
    ∃ result, p.accept message = .ok result := by
  by_cases hnumbered : message.kind.isAdministrative = false
  · obtain ⟨outcome, tracker, hreceive, -⟩ := h.receive (hnumber hnumbered)
    rw [accept_of_numbered hnumbered, hreceive]
    exact ⟨_, rfl⟩
  · obtain ⟨header, body⟩ := message
    cases body with
    | heartbeat | sequenceReset next => exact ⟨_, rfl⟩
    | _ => exact absurd rfl hnumbered

theorem eq_of_accept_duplicate (haccept : p.accept message = .ok (q, .duplicate)) : q = p := by
  rcases accept_cases haccept with ⟨-, rfl, -⟩ | ⟨next, -, hhandling, -⟩ |
    ⟨-, outcome, tracker, hreceive, hpass⟩
  · rfl
  · cases hhandling
  · obtain ⟨-, -, hduplicate⟩ := pass_kept { p with tracker } message outcome
    rw [hpass] at hduplicate
    obtain rfl := hduplicate.1 rfl
    cases SequenceTracker.receive_duplicate hreceive
    cases hpass
    rfl

/-- The largest number is expected, or is behind what is expected. -/
theorem accept_largest (haccept : p.accept message = .ok (q, handling))
    (hlargest : message.header.sequence = largest) : handling ≠ .duplicate := by
  rintro rfl
  rcases accept_cases haccept with ⟨-, -, hhandling⟩ | ⟨next, -, hhandling, -⟩ |
    ⟨-, outcome, tracker, hreceive, hpass⟩
  · cases hhandling
  · cases hhandling
  · obtain ⟨-, -, hduplicate⟩ := pass_kept { p with tracker } message outcome
    rw [hpass] at hduplicate
    rw [hduplicate.1 rfl, hlargest] at hreceive
    obtain ⟨expected, -, hlt, -, -⟩ := SequenceTracker.receive_duplicate_cases hreceive
    exact not_lt_largest hlt

/-- **Every number gets past the tracker once, until the largest one has.** Between two fresh starts no
two messages with one number get past the tracker, so that every further one is a duplicate; the
listener is told of no duplicate, the counter counts each, and nothing else comes of it. Where no
message has the largest number nothing stops the processor. That number itself is never a duplicate. -/
theorem run_passes_once (config : FeedConfig) (books : Books) (subscriptions : Subscriptions)
    (counters : Counters) (inputs : List Input) :
    let start := History.start (.ofConfig config books subscriptions counters)
    (∀ history, start.run inputs = .ok history →
      (∀ taken, taken <+: history.handled → largest ∉ (passed taken).tail → (passed taken).Nodup) ∧
      (∀ taken message handling, taken ++ [(message, handling)] <+: history.handled →
        message.kind.isAdministrative = false → message.header.sequence ∈ passed taken →
        largest ∉ passed taken → handling = .duplicate) ∧
      history.told = delivered history.handled ∧
      history.processor.counters.duplicates =
        counters.duplicates + countWhere history.handled (· == .duplicate)) ∧
    ((∀ message ∈ inputs.flatMap Input.arrivals, message.kind.isAdministrative = false →
      message.header.sequence ≠ largest) → ∃ history, start.run inputs = .ok history) ∧
    ∀ (p q : Processor) message,
      (p.accept message = .ok (q, .duplicate) → q = p) ∧
      (message.header.sequence = largest → p.accept message ≠ .ok (q, .duplicate)) := by
  intro start
  have hcounted := counted_ofConfig config books subscriptions counters
  refine ⟨fun history hrun => ?_, fun hnumbers => ?_, fun p q message => ?_⟩
  · have honce : PassesOnce history.handled := by
      refine (invariant_passesOnce.run ⟨fun taken htaken _ => ?_, Or.inr hcounted⟩ hrun).1
      rw [List.prefix_nil.1 htaken]
      exact List.nodup_nil
    have htallied := (History.Tallied.start (.ofConfig config books subscriptions counters)).run hrun
    refine ⟨honce, fun taken message handling htaken hnumbered hmem hnone => ?_, htallied.told,
      htallied.duplicates⟩
    -- Otherwise the numbers past the tracker would repeat once this message is among them.
    by_contra hnew
    have hpassed : passed (taken ++ [(message, handling)]) =
        message.header.sequence :: passed taken := by
      rw [passed_concat, notePassed_of_numbered hnumbered, if_neg hnew]
    have hnodup := honce _ htaken
    rw [hpassed, List.tail_cons] at hnodup
    exact (List.nodup_cons.1 (hnodup hnone)).1 hmem
  · exact invariant_counted.run_ok
      (fun ⟨hcounted, hnumbers⟩ => hcounted.accept_ok (hnumbers _ List.mem_cons_self))
      ⟨hcounted, hnumbers⟩
  · exact ⟨eq_of_accept_duplicate, fun hlargest haccept => accept_largest haccept hlargest rfl⟩

/-- A packet with one trade of the instrument 7. -/
def tradePacket (sequence : UInt64) : Bytes :=
  ((PacketDraft.start 0 sequence 0).push
    ⟨⟨0, 0, 7, sequence, 0⟩, .trade ⟨0, 1, 10000, 5, .bid⟩⟩).finish

/-- A processor that takes the first number seen as its start and looks for ten at a time. -/
def freshProcessor : Processor :=
  .ofConfig { FeedConfig.standard with sequence := ⟨none, 10⟩ } (.blank 10) .all .zero

/-- The second trade comes before the first and again after it. -/
def repeatedTrade : List Input :=
  [.packet (tradePacket 3) 0, .packet (tradePacket 5) 0, .packet (tradePacket 4) 0,
    .packet (tradePacket 5) 0]

theorem run_passes_once_repeatedTrade :
    (∀ message ∈ repeatedTrade.flatMap Input.arrivals, message.kind.isAdministrative = false →
      message.header.sequence ≠ largest) ∧
    ∃ history, (History.start freshProcessor).run repeatedTrade = .ok history ∧
      passed history.handled = [4, 5, 3] ∧ (passed history.handled).Nodup ∧
      history.handled.map (·.2) =
        [.delivered false, .delivered false, .delivered false, .duplicate] ∧
      history.processor.counters.duplicates = 1 := by
  have hnumbers : ∀ message ∈ repeatedTrade.flatMap Input.arrivals,
      message.kind.isAdministrative = false → message.header.sequence ≠ largest := by decide
  obtain ⟨hhistory, htotal, -⟩ := run_passes_once
    { FeedConfig.standard with sequence := ⟨none, 10⟩ } (.blank 10) .all .zero repeatedTrade
  obtain ⟨history, hrun⟩ := htotal hnumbers
  obtain ⟨honce, -, -, hduplicates⟩ := hhistory history hrun
  have hfound : ((History.start freshProcessor).run repeatedTrade).map
      (fun history => (passed history.handled, history.handled.map (·.2),
        countWhere history.handled (· == .duplicate))) =
        .ok ([4, 5, 3], [.delivered false, .delivered false, .delivered false, .duplicate], 1) := rfl
  have hsame : (History.start freshProcessor).run repeatedTrade = .ok history := hrun
  rw [hsame] at hfound
  simp only [Except.map, Except.ok.injEq, Prod.mk.injEq] at hfound
  obtain ⟨hpassed, hways, hcounted⟩ := hfound
  refine ⟨hnumbers, history, hrun, hpassed, honce _ (List.prefix_refl _) ?_, hways, ?_⟩
  · rw [hpassed]
    decide
  · rw [hduplicates, hcounted]
    rfl

/-- A trade with the largest number, twice, is traded twice. -/
theorem largest_passes_again :
    ∃ history,
      (History.start freshProcessor).run
        [.packet (tradePacket largest) 0, .packet (tradePacket largest) 0] = .ok history ∧
      passed history.handled = [largest, largest] ∧
      history.told.map (·.header.sequence) = [largest, largest] ∧
      history.processor.counters.duplicates = 0 ∧
      (history.processor.books.book? 7).map (·.totalVolume) = some 10 :=
  ⟨_, rfl, rfl, rfl, rfl, rfl⟩

end MarketFeed.Processor
