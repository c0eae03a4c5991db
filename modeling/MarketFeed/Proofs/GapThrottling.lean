import MarketFeed.Proofs.MessageAccounts
import MarketFeed.Proofs.MissingRuns

/-! When missing numbers are asked for. What was asked for lies behind the stream: it was missing, so it
is below the expected number, and no number below all missing ones is ever missing again. Hence a start
that has been left for a later one does not come back, and it is enough that the scheduler remembers its
last request. -/

namespace MarketFeed

namespace SequenceTracker

variable {tracker after : SequenceTracker} {base expected bound n : UInt64} {accepted : List UInt64}
  {outcome : SequenceOutcome}

/-- Whether a stream has got as far as `bound` and looks for nothing below it. -/
structure Past (tracker : SequenceTracker) (bound : UInt64) : Prop where
  expected : ∃ expected, tracker.expected = some expected ∧ bound ≤ expected
  missing : ∀ n ∈ tracker.missing, bound.toNat ≤ n

theorem Accounts.past (h : tracker.Accounts base expected accepted)
    (hexpected : tracker.expected = some expected) {limit : UInt64} {request : GapRequest}
    (hrun : tracker.EarliestRun limit request) : tracker.Past request.first := by
  have hfirst := isMissing_iff.1 (hrun.missing request.first (UInt64.le_refl _) hrun.nonempty)
  have hbelow := (h.missing_range _ hfirst).2
  refine ⟨⟨expected, hexpected, UInt64.le_iff_toNat_le.2 (Nat.le_of_lt hbelow)⟩, fun n hn => ?_⟩
  have hword : (UInt64.ofNat n).toNat = n :=
    UInt64.toNat_ofNat_of_lt' ((h.missing_range n hn).2.trans expected.toNat_lt_size)
  have hearliest := hrun.earliest (UInt64.ofNat n) (isMissing_iff.2 (hword.symm ▸ hn))
  rwa [UInt64.le_iff_toNat_le, hword] at hearliest

/-- No number but the largest brings a stream back. -/
theorem Past.receive (h : tracker.Past bound) (haccounts : tracker.Accounts base expected accepted)
    (hexpected : tracker.expected = some expected) (hn : n.toNat ≠ UInt64.size - 1)
    (hreceive : tracker.receive n = .ok (outcome, after)) : after.Past bound := by
  obtain ⟨⟨expected', hexpected', hbound⟩, hmissing⟩ := h
  cases hexpected.symm.trans hexpected'
  have hnext := toNat_add_one hn
  rw [UInt64.le_iff_toNat_le] at hbound
  rcases receive_cases hreceive with ⟨heq, -, rfl⟩ | ⟨expected', untracked, hsome, hlt, -, -, rfl⟩ |
    ⟨expected', -, -, ⟨-, -, rfl⟩ | ⟨-, -, rfl⟩⟩
  · refine ⟨⟨n + 1, rfl, ?_⟩, hmissing⟩
    rw [UInt64.le_iff_toNat_le, hnext, heq expected hexpected]
    omega
  · cases hexpected.symm.trans hsome
    rw [UInt64.lt_iff_toNat_lt] at hlt
    refine ⟨⟨n + 1, rfl, ?_⟩, fun m hm => ?_⟩
    · rw [UInt64.le_iff_toNat_le, hnext]
      omega
    · -- What is missing now was missing before or is passed over from the expected number on.
      rw [Missing.skip_of_below fun m hm => (haccounts.missing_range m hm).2] at hm
      rcases List.mem_append.1 hm with hm | hm
      · exact hmissing m hm
      · exact hbound.trans (List.mem_range'_1.1 hm).1
  · refine ⟨⟨expected, hexpected, UInt64.le_iff_toNat_le.2 hbound⟩, fun m hm => ?_⟩
    exact hmissing m (List.mem_of_mem_erase hm)
  · exact ⟨⟨expected, hexpected, UInt64.le_iff_toNat_le.2 hbound⟩, hmissing⟩

end SequenceTracker

theorem GapFillScheduler.poll_cases (scheduler : GapFillScheduler) (tracker : SequenceTracker)
    (now : Nat) :
    scheduler.poll tracker now = (none, scheduler) ∨
    ∃ request, tracker.firstMissingRange? scheduler.maxRange = some (request.first, request.last) ∧
      scheduler.holdsBack request.first now = false ∧
      scheduler.poll tracker now =
        (some request, { scheduler with lastRequest := some (request, now) }) := by
  unfold poll
  cases tracker.firstMissingRange? scheduler.maxRange with
  | none => exact Or.inl rfl
  | some range =>
      simp only
      split
      · exact Or.inl rfl
      · rename_i hfree
        exact Or.inr ⟨⟨range.1, range.2⟩, rfl, eq_false_of_ne_true hfree, rfl⟩

namespace Processor

open SequenceTracker (Past EarliestRun)

variable {p q : Processor} {message : Message} {messages : List Message} {handling : Handling}
  {handled : List (Message × Handling)} {call : Call} {calls : List Call} {request : GapRequest}
  {now retryInterval : Nat} {maxRange : UInt64}

/-- A request for missing numbers, when it was made, and where the stream stood then. -/
structure Inquiry where
  request : GapRequest
  time : Nat
  tracker : SequenceTracker

/-- A message is taken in, or missing numbers are asked for. -/
inductive Occurrence where
  | came (message : Message)
  | asked (inquiry : Inquiry)

def Occurrence.startsOver : Occurrence → Bool
  | .came message => message.kind == .sequenceReset
  | .asked _ => false

def Occurrence.number? : Occurrence → Option UInt64
  | .came message => if message.kind.isAdministrative then none else some message.header.sequence
  | .asked _ => none

def Occurrence.inquiry? : Occurrence → Option Inquiry
  | .came _ => none
  | .asked inquiry => some inquiry

/-- What has happened since the stream started over last. -/
def season (log : List Occurrence) : List Occurrence :=
  log.foldl (fun season occurrence => if occurrence.startsOver then [] else season ++ [occurrence]) []

/-- The numbers of the messages that came. -/
def numbers (log : List Occurrence) : List UInt64 := log.filterMap Occurrence.number?

def inquiries (log : List Occurrence) : List Inquiry := log.filterMap Occurrence.inquiry?

/-- What happens in a call. -/
def occurrences (p : Processor) : Call → List Occurrence
  | .packet bytes _ => (Packet.decode bytes).messages.map .came
  | .poll now =>
      ((p.pollGapFill now).1.map fun request => Occurrence.asked ⟨request, now, p.tracker⟩).toList
  | .choose _ => []

/-- A processor and all that has happened. -/
structure Chronicle where
  processor : Processor
  log : List Occurrence

namespace Chronicle

def after (chronicle : Chronicle) (call : Call) : Except CountError Chronicle :=
  (chronicle.processor.respond call).map fun (_, p) =>
    ⟨p, chronicle.log ++ chronicle.processor.occurrences call⟩

def run (chronicle : Chronicle) : List Call → Except CountError Chronicle
  | [] => .ok chronicle
  | call :: calls => do (← chronicle.after call).run calls

/-- Whatever a processor can be used for, can be written down. -/
theorem run_ok {replies : List Reply} (hserve : p.serve calls = .ok (replies, q))
    (log : List Occurrence) : ∃ later, run ⟨p, log⟩ calls = .ok ⟨q, later⟩ := by
  induction calls generalizing p replies log with
  | nil =>
      cases hserve
      exact ⟨log, rfl⟩
  | cons call calls ih =>
      obtain ⟨reply, between, more, hrespond, hmore, -⟩ := serve_cons_ok hserve
      obtain ⟨later, hlater⟩ := ih hmore (log ++ p.occurrences call)
      refine ⟨later, ?_⟩
      rw [run, after, hrespond]
      exact hlater

end Chronicle

theorem season_concat (log : List Occurrence) (occurrence : Occurrence) :
    season (log ++ [occurrence]) =
      if occurrence.startsOver then [] else season log ++ [occurrence] := by
  rw [season, List.foldl_concat]
  rfl

/-! ### Requests one after the other -/

/-- Whether requests go forward, repeat a start only after the pause, and are each for the earliest
missing numbers. -/
structure Throttled (retryInterval : Nat) (maxRange : UInt64) (inquiries : List Inquiry) : Prop where
  ordered : inquiries.Pairwise fun earlier later => earlier.request.first ≤ later.request.first
  spaced : inquiries.Pairwise fun earlier later =>
    earlier.request.first = later.request.first → retryInterval ≤ later.time - earlier.time
  earliest : ∀ inquiry ∈ inquiries, inquiry.tracker.EarliestRun maxRange inquiry.request

theorem Throttled.nil : Throttled retryInterval maxRange [] :=
  ⟨.nil, .nil, nofun⟩

/-- It is enough to look at the last request: one with the start of the new one lies after all others
with that start. -/
theorem Throttled.concat {inquiries : List Inquiry} {inquiry : Inquiry}
    (h : Throttled retryInterval maxRange inquiries)
    (hrun : inquiry.tracker.EarliestRun maxRange inquiry.request)
    (hpast : ∀ earlier ∈ inquiries, earlier.request.first ≤ inquiry.request.first)
    (hspaced : ∀ last, inquiries.getLast? = some last → last.request.first = inquiry.request.first →
      retryInterval ≤ inquiry.time - last.time) :
    Throttled retryInterval maxRange (inquiries ++ [inquiry]) := by
  constructor
  case ordered =>
    refine List.pairwise_append.2 ⟨h.ordered, List.pairwise_singleton _ _, ?_⟩
    intro earlier hmem later hlater
    rw [List.mem_singleton.1 hlater]
    exact hpast earlier hmem
  case spaced =>
    refine List.pairwise_append.2 ⟨h.spaced, List.pairwise_singleton _ _, ?_⟩
    intro earlier hmem later hlater hsame
    rw [List.mem_singleton.1 hlater] at hsame ⊢
    obtain ⟨last, hlast⟩ := Option.isSome_iff_exists.1
      (List.getLast?_isSome.2 (List.ne_nil_of_mem hmem))
    have hpause := hspaced last hlast
    obtain ⟨before, rfl⟩ := List.getLast?_eq_some_iff.1 hlast
    have hlatest := hpast last (List.mem_concat_self)
    rcases List.mem_append.1 hmem with hbefore | hmem
    · have hordered := (List.pairwise_append.1 h.ordered).2.2 earlier hbefore last List.mem_cons_self
      have hspaced := (List.pairwise_append.1 h.spaced).2.2 earlier hbefore last List.mem_cons_self
      have heq : last.request.first = inquiry.request.first :=
        UInt64.le_antisymm hlatest (hsame ▸ hordered)
      have hsince := hpause heq
      have hbetween := hspaced (hsame.trans heq.symm)
      omega
    · rw [List.mem_singleton.1 hmem] at hsame ⊢
      exact hpause hsame
  case earliest =>
    intro other hmem
    rcases List.mem_append.1 hmem with hmem | hmem
    · exact h.earliest other hmem
    · rwa [List.mem_singleton.1 hmem]

/-- All that a look at what is missing can do. -/
theorem pollGapFill_cases (p : Processor) (now : Nat) :
    p.pollGapFill now = (none, p) ∨
    ∃ request scheduler q, p.pollGapFill now = (some request, q) ∧ p.scheduler = some scheduler ∧
      p.tracker.firstMissingRange? scheduler.maxRange = some (request.first, request.last) ∧
      scheduler.holdsBack request.first now = false ∧ q.tracker = p.tracker ∧
      q.scheduler = some { scheduler with lastRequest := some (request, now) } := by
  unfold pollGapFill
  cases hscheduler : p.scheduler with
  | none => exact Or.inl rfl
  | some scheduler =>
      rcases scheduler.poll_cases p.tracker now with hpoll | ⟨request, hrange, hfree, hpoll⟩
      · simp only [hpoll, ← hscheduler, true_or]
      · simp only [hpoll]
        exact Or.inr ⟨request, scheduler, _, rfl, rfl, hrange, hfree, rfl, rfl⟩

theorem offer_scheduler (p : Processor) (message : Message) :
    (p.offer message).1.scheduler = p.scheduler := by
  unfold offer
  split
  · rfl
  · split <;> rfl

theorem pass_scheduler (p : Processor) (message : Message) (outcome : SequenceOutcome) :
    (p.pass message outcome).1.scheduler = p.scheduler := by
  cases outcome with
  | duplicate => rfl
  | gap first last => exact offer_scheduler _ message
  | inOrder | recovered => exact offer_scheduler p message

/-- Whether a scheduler knows of the last request, and the stream is past everything asked for. -/
structure Remembers (p : Processor) (scheduler : GapFillScheduler) (inquiries : List Inquiry) :
    Prop where
  counted : ∃ accepted, p.Counted accepted
  lastRequest : scheduler.lastRequest =
    inquiries.getLast?.map fun inquiry => (inquiry.request, inquiry.time)
  past : ∀ inquiry ∈ inquiries, p.tracker.Past inquiry.request.first

/-- Whether requests have been throttled in every season up to the largest number, and will be. -/
structure Paced (retryInterval : Nat) (maxRange : UInt64) (p : Processor) (log : List Occurrence) :
    Prop where
  throttled : ∀ taken, taken <+: log → largest ∉ numbers (season taken) →
    Throttled retryInterval maxRange (inquiries (season taken))
  current : ∃ scheduler, p.scheduler = some scheduler ∧ scheduler.retryInterval = retryInterval ∧
    scheduler.maxRange = maxRange ∧
    (largest ∈ numbers (season log) ∨ p.Remembers scheduler (inquiries (season log)))

namespace Paced

variable {log : List Occurrence} {occurrence : Occurrence}

theorem congr (h : p.Paced retryInterval maxRange log) (htracker : q.tracker = p.tracker)
    (hscheduler : q.scheduler = p.scheduler) : q.Paced retryInterval maxRange log := by
  obtain ⟨hthrottled, scheduler, hsome, hinterval, hrange, hcurrent⟩ := h
  refine ⟨hthrottled, scheduler, hscheduler.trans hsome, hinterval, hrange, hcurrent.imp_right ?_⟩
  rintro ⟨⟨accepted, hcounted⟩, hlast, hpast⟩
  exact ⟨⟨accepted, hcounted.congr htracker⟩, hlast, htracker ▸ hpast⟩

/-- What was throttled stays so; only the season that is going on may have become longer. -/
theorem throttled_concat (h : p.Paced retryInterval maxRange log)
    (hseason : largest ∉ numbers (season (log ++ [occurrence])) →
      Throttled retryInterval maxRange (inquiries (season (log ++ [occurrence])))) :
    ∀ taken, taken <+: log ++ [occurrence] → largest ∉ numbers (season taken) →
      Throttled retryInterval maxRange (inquiries (season taken)) := by
  intro taken htaken
  rcases List.prefix_concat_iff.1 htaken with rfl | htaken
  · exact hseason
  · exact h.throttled taken htaken

theorem startOver (h : p.Paced retryInterval maxRange log) (next : UInt64)
    (hreset : message.kind = .sequenceReset) :
    Paced retryInterval maxRange
      { p with tracker := p.tracker.reset next, scheduler := p.scheduler.map (·.clear) }
      (log ++ [.came message]) := by
  have hover : (Occurrence.came message).startsOver = true := beq_iff_eq.2 hreset
  obtain ⟨scheduler, hscheduler, hinterval, hrange, -⟩ := h.current
  refine ⟨h.throttled_concat fun _ => ?_, scheduler.clear, ?_, hinterval, hrange, Or.inr ?_⟩
  · rw [season_concat, if_pos hover]
    exact .nil
  · rw [hscheduler]
    rfl
  · rw [season_concat, if_pos hover]
    exact ⟨⟨[], Counted.reset p next _⟩, rfl, nofun⟩

/-- A message that goes on with the season adds its number, and the stream stays past what was asked
for unless that is the largest. -/
theorem goOn (h : p.Paced retryInterval maxRange log) (hreset : message.kind ≠ .sequenceReset)
    (hscheduler : q.scheduler = p.scheduler)
    (hstays : ∀ scheduler inquiries, p.Remembers scheduler inquiries →
      (Occurrence.came message).number? ≠ some largest → q.Remembers scheduler inquiries) :
    q.Paced retryInterval maxRange (log ++ [.came message]) := by
  have hover : (Occurrence.came message).startsOver = false := beq_eq_false_iff_ne.2 hreset
  have hseason : season (log ++ [.came message]) = season log ++ [.came message] := by
    rw [season_concat, if_neg (ne_true_of_eq_false hover)]
  have hsame : inquiries (season (log ++ [.came message])) = inquiries (season log) := by
    rw [hseason, inquiries, List.filterMap_append]
    exact List.append_nil _
  have hnumbers : ∀ n, n ∈ numbers (season (log ++ [.came message])) ↔
      n ∈ numbers (season log) ∨ (Occurrence.came message).number? = some n := by
    intro n
    rw [hseason, numbers, List.filterMap_append, List.mem_append]
    exact or_congr_right (by simp)
  obtain ⟨scheduler, hsome, hinterval, hrange, hcurrent⟩ := h.current
  refine ⟨h.throttled_concat fun hnone => ?_, scheduler, hscheduler.trans hsome, hinterval, hrange, ?_⟩
  · rw [hsame]
    exact h.throttled log (List.prefix_refl _) fun hmem => hnone ((hnumbers _).2 (Or.inl hmem))
  · rw [hsame]
    by_cases hlargest : largest ∈ numbers (season (log ++ [.came message]))
    · exact Or.inl hlargest
    · rw [hnumbers, not_or] at hlargest
      exact Or.inr (hstays scheduler _ (hcurrent.resolve_left hlargest.1) hlargest.2)

theorem came (h : p.Paced retryInterval maxRange log) (haccept : p.accept message = .ok (q, handling)) :
    q.Paced retryInterval maxRange (log ++ [.came message]) := by
  rcases accept_cases haccept with ⟨hbody, rfl, -⟩ | ⟨next, hbody, -, rfl⟩ |
    ⟨hnumbered, outcome, tracker, hreceive, hpass⟩
  · have hkind : message.kind = .heartbeat := congrArg MessageBody.kind hbody
    exact h.goOn (by simp [hkind]) rfl fun _ _ hremembers _ => hremembers
  · exact h.startOver next (congrArg MessageBody.kind hbody)
  · have hkind : message.kind ≠ .sequenceReset := by
      rintro hkind
      rw [hkind] at hnumbered
      cases hnumbered
    obtain ⟨-, htracker, -⟩ := pass_kept { p with tracker } message outcome
    have hscheduler := pass_scheduler { p with tracker } message outcome
    rw [hpass] at htracker hscheduler
    refine h.goOn hkind hscheduler fun scheduler asked hremembers hnumber => ?_
    have hn : message.header.sequence ≠ largest := by
      rintro heq
      exact hnumber (by rw [Occurrence.number?, hnumbered, if_neg Bool.false_ne_true, heq])
    obtain ⟨⟨accepted, hcounted⟩, hlast, hpast⟩ := hremembers
    obtain ⟨outcome', tracker', hreceive', hcounted'⟩ := hcounted.receive hn
    cases hreceive.symm.trans hreceive'
    refine ⟨⟨_, hcounted'.congr htracker⟩, hlast, fun inquiry hmem => ?_⟩
    obtain ⟨expected, hexpected, -⟩ := (hpast inquiry hmem).expected
    rcases hcounted.unstarted_or_accounts with ⟨hnone, -⟩ | ⟨base, expected, hexpected, haccounts⟩
    · cases hnone.symm.trans hexpected
    · rw [htracker]
      exact (hpast inquiry hmem).receive haccounts hexpected (toNat_ne_of_ne_largest hn) hreceive

/-- A request is for something that every earlier one is past, and the scheduler has held it back for
long enough if it has the start of the last one. -/
theorem asked (h : p.Paced retryInterval maxRange log)
    (hpoll : p.pollGapFill now = (some request, q)) :
    q.Paced retryInterval maxRange (log ++ [.asked ⟨request, now, p.tracker⟩]) := by
  obtain ⟨request', scheduler, q', hpoll', hscheduler, hrange, hfree, htracker, hscheduler'⟩ :=
    (p.pollGapFill_cases now).resolve_left (by rw [hpoll]; nofun)
  cases hpoll.symm.trans hpoll'
  obtain ⟨scheduler', hsome, hinterval, hlimit, hcurrent⟩ := h.current
  cases hscheduler.symm.trans hsome
  let inquiry : Inquiry := ⟨request, now, p.tracker⟩
  have hseason : season (log ++ [.asked inquiry]) = season log ++ [.asked inquiry] := by
    rw [season_concat, Occurrence.startsOver, if_neg Bool.false_ne_true]
  have hnumbers : numbers (season (log ++ [.asked inquiry])) = numbers (season log) := by
    rw [hseason, numbers, List.filterMap_append]
    exact List.append_nil _
  have hinquiries : inquiries (season (log ++ [.asked inquiry])) =
      inquiries (season log) ++ [inquiry] := by
    rw [hseason, inquiries, List.filterMap_append]
    rfl
  by_cases hlargest : largest ∈ numbers (season log)
  · refine ⟨h.throttled_concat fun hnone => absurd hlargest (hnumbers ▸ hnone), _, hscheduler',
      hinterval, hlimit, Or.inl (hnumbers.symm ▸ hlargest)⟩
  obtain ⟨⟨accepted, hcounted⟩, hlast, hpast⟩ := hcurrent.resolve_left hlargest
  rcases hcounted.unstarted_or_accounts with ⟨-, hnothing, -⟩ | ⟨base, expected, hexpected, haccounts⟩
  · rw [SequenceTracker.firstMissingRange?, hnothing] at hrange
    cases hrange
  have hrun := SequenceTracker.earliestRun haccounts.wellFormed hrange
  have hfirst := SequenceTracker.isMissing_iff.1
    (hrun.missing request.first (UInt64.le_refl _) hrun.nonempty)
  have hahead : ∀ earlier ∈ inquiries (season log), earlier.request.first ≤ request.first :=
    fun earlier hmem => UInt64.le_iff_toNat_le.2 ((hpast earlier hmem).missing _ hfirst)
  refine ⟨h.throttled_concat fun _ => ?_, _, hscheduler', hinterval, hlimit, Or.inr ?_⟩
  · rw [hinquiries]
    refine (h.throttled log (List.prefix_refl _) hlargest).concat (hlimit ▸ hrun) hahead ?_
    intro last hlatest hsame
    rw [hlatest] at hlast
    simp only [GapFillScheduler.holdsBack, hlast, Option.map_some, decide_eq_false_iff_not,
      not_and, not_lt, hinterval] at hfree
    exact hfree hsame
  · rw [hinquiries]
    refine ⟨⟨accepted, hcounted.congr htracker⟩, ?_, fun earlier hmem => ?_⟩
    · rw [List.getLast?_concat]
      rfl
    · rw [htracker]
      rcases List.mem_append.1 hmem with hmem | hmem
      · exact hpast earlier hmem
      · rw [List.mem_singleton.1 hmem]
        exact haccounts.past hexpected hrun

theorem consume (h : p.Paced retryInterval maxRange log)
    (hconsume : p.consume messages = .ok (q, handled)) :
    q.Paced retryInterval maxRange (log ++ messages.map .came) := by
  induction messages generalizing p handled log with
  | nil =>
      cases hconsume
      rw [List.map_nil, List.append_nil]
      exact h
  | cons message messages ih =>
      obtain ⟨between, handling, later, haccept, hlater, -⟩ := consume_cons_ok hconsume
      rw [List.map_cons, List.append_cons]
      exact ih (h.came haccept) hlater

theorem after {chronicle final : Chronicle}
    (h : chronicle.processor.Paced retryInterval maxRange chronicle.log)
    (hafter : chronicle.after call = .ok final) :
    final.processor.Paced retryInterval maxRange final.log := by
  obtain ⟨⟨reply, q⟩, hrespond, rfl⟩ := exists_of_map_ok hafter
  cases call with
  | packet bytes received =>
      obtain ⟨taken, handled, hconsume, rfl, rfl⟩ := respond_packet_ok hrespond
      have hread : (chronicle.processor.read bytes received).Paced retryInterval maxRange
          chronicle.log := h.congr rfl rfl
      obtain ⟨decoder, counters, hconclude⟩ := taken.conclude_eq (Packet.decode bytes).result handled
      rw [hconclude]
      exact (hread.consume hconsume).congr rfl rfl
  | poll now =>
      cases hrespond
      rcases chronicle.processor.pollGapFill_cases now with hpoll | ⟨request, _, q, hpoll, -⟩
      · simp only [occurrences, hpoll, Option.map_none, Option.toList_none, List.append_nil]
        exact h
      · simp only [occurrences, hpoll, Option.map_some, Option.toList_some]
        exact h.asked hpoll
  | choose call =>
      cases hrespond
      rw [occurrences, List.append_nil]
      exact h.congr rfl rfl

theorem run {chronicle final : Chronicle}
    (h : chronicle.processor.Paced retryInterval maxRange chronicle.log)
    (hrun : chronicle.run calls = .ok final) :
    final.processor.Paced retryInterval maxRange final.log := by
  induction calls generalizing chronicle with
  | nil =>
      cases hrun
      exact h
  | cons call calls ih =>
      obtain ⟨next, hafter, hlater⟩ := exists_of_bind_ok hrun
      exact ih (h.after hafter) hlater

theorem start (config : FeedConfig) (hrecovers : config.recovery.enabled = true) (books : Books)
    (subscriptions : Subscriptions) (counters : Counters) :
    (ofConfig config books subscriptions counters).Paced
      (nanoseconds config.recovery.retryIntervalMs.toNat) config.recovery.maxRange [] := by
  have hscheduler : (ofConfig config books subscriptions counters).scheduler =
      some (.start (nanoseconds config.recovery.retryIntervalMs.toNat) config.recovery.maxRange) :=
    if_pos hrecovers
  refine ⟨fun taken htaken _ => ?_, _, hscheduler, rfl, rfl, Or.inr ⟨⟨[], ?_⟩, rfl, nofun⟩⟩
  · rw [List.prefix_nil.1 htaken]
    exact .nil
  · exact counted_ofConfig config books subscriptions counters

end Paced

/-- **Missing numbers are asked for from the front on, and not too often.** Whatever is done with a fresh
processor that recovers, in every season, up to the largest number: the starts of the requests never go
back, a start comes again only after the pause, and every request is for the earliest missing numbers of
its time, and for no more than the limit. Where no message has the largest number nothing stops the
processor. -/
theorem requests_throttled (config : FeedConfig) (hrecovers : config.recovery.enabled = true)
    (books : Books) (subscriptions : Subscriptions) (counters : Counters) (calls : List Call) :
    let start : Chronicle := ⟨ofConfig config books subscriptions counters, []⟩
    (∀ chronicle, start.run calls = .ok chronicle →
      ∀ taken, taken <+: chronicle.log → largest ∉ numbers (season taken) →
        Throttled (nanoseconds config.recovery.retryIntervalMs.toNat) config.recovery.maxRange
          (inquiries (season taken))) ∧
    ((∀ message ∈ calls.flatMap Call.arrivals, message.kind.isAdministrative = false →
      message.header.sequence ≠ largest) → ∃ chronicle, start.run calls = .ok chronicle) := by
  intro start
  constructor
  · intro chronicle hrun
    exact ((Paced.start config hrecovers books subscriptions counters).run hrun).throttled
  · intro hnumbers
    have hcounted : (ofConfig config books subscriptions counters).Counted (passed []) :=
      counted_ofConfig config books subscriptions counters
    obtain ⟨replies, q, hserve⟩ := hcounted.serve_ok hnumbers
    obtain ⟨later, hrun⟩ := Chronicle.run_ok hserve []
    exact ⟨_, hrun⟩

/-- One millisecond between requests with the same start, and two numbers at a time. -/
def pausingConfig : FeedConfig :=
  { FeedConfig.standard with
    sequence := ⟨some 1, 10⟩
    recovery :=
      { RecoverySettings.standard with enabled := true, retryIntervalMs := 1, maxRange := 2 } }

/-- Three numbers are passed over, the first of them comes late, and requests are due three times out
of four. -/
def lateFirst : List Call :=
  [.packet (tradePacket 4) 0, .poll 0, .poll 500000, .poll 1000000, .packet (tradePacket 1) 0,
    .poll 1000001]

theorem requests_throttled_lateFirst :
    pausingConfig.recovery.enabled = true ∧
    (∀ message ∈ lateFirst.flatMap Call.arrivals, message.kind.isAdministrative = false →
      message.header.sequence ≠ largest) ∧
    ∃ chronicle, Chronicle.run ⟨ofConfig pausingConfig (.blank 10) .all .zero, []⟩ lateFirst =
        .ok chronicle ∧
      largest ∉ numbers (season chronicle.log) ∧
      (inquiries (season chronicle.log)).map (fun inquiry => (inquiry.request, inquiry.time)) =
        [(⟨1, 2⟩, 0), (⟨1, 2⟩, 1000000), (⟨2, 3⟩, 1000001)] ∧
      Throttled 1000000 2 (inquiries (season chronicle.log)) := by
  have hnumbers : ∀ message ∈ lateFirst.flatMap Call.arrivals,
      message.kind.isAdministrative = false → message.header.sequence ≠ largest := by decide
  obtain ⟨hthrottled, htotal⟩ :=
    requests_throttled pausingConfig rfl (.blank 10) .all .zero lateFirst
  obtain ⟨chronicle, hrun⟩ := htotal hnumbers
  have hfound : (Chronicle.run ⟨ofConfig pausingConfig (.blank 10) .all .zero, []⟩ lateFirst).map
      (fun chronicle => (numbers (season chronicle.log),
        (inquiries (season chronicle.log)).map fun inquiry => (inquiry.request, inquiry.time))) =
      .ok ([4, 1], [(⟨1, 2⟩, 0), (⟨1, 2⟩, 1000000), (⟨2, 3⟩, 1000001)]) := rfl
  have hsame : Chronicle.run ⟨ofConfig pausingConfig (.blank 10) .all .zero, []⟩ lateFirst =
      .ok chronicle := hrun
  rw [hsame] at hfound
  simp only [Except.map, Except.ok.injEq, Prod.mk.injEq] at hfound
  obtain ⟨hseason, hasked⟩ := hfound
  have hnone : largest ∉ numbers (season chronicle.log) := by
    rw [hseason]
    decide
  exact ⟨rfl, hnumbers, chronicle, hrun, hnone, hasked,
    hthrottled chronicle hrun chronicle.log (List.prefix_refl _) hnone⟩

end Processor

end MarketFeed
