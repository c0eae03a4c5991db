import MarketFeed.Proofs.SessionOrder

/-! The watch for silence. Settings allow so many milliseconds of silence, the product of an interval and a
number of beats. A session can only be started if their whole seconds fit into a word; its monitor
compares nanoseconds in words, and what does not fit is cut off. So a limit that fits is kept to the
nanosecond, and a longer one may turn into any shorter one. -/

namespace MarketFeed

/-- The silence that the settings allow, in nanoseconds. -/
def HeartbeatSettings.allowedSilence (settings : HeartbeatSettings) : Nat :=
  nanoseconds (settings.intervalMs.toNat * max settings.missedBeforeDisconnect.toNat 1)

/-- Nanoseconds that make a second. -/
def nanosecondsPerSecond : Nat := 1000000000

namespace HeartbeatSettings

variable {settings : HeartbeatSettings}

theorem allowedSilence_div (settings : HeartbeatSettings) :
    settings.allowedSilence / nanosecondsPerSecond =
      settings.intervalMs.toNat * max settings.missedBeforeDisconnect.toNat 1 / 1000 := by
  rw [allowedSilence, nanoseconds, nanosecondsPerSecond]
  omega

theorem watchedSilence_eq_ok (hwatched : settings.intervalMs ≠ 0)
    (hseconds : settings.allowedSilence / nanosecondsPerSecond < UInt64.size) :
    settings.watchedSilence = .ok (UInt64.ofNat settings.allowedSilence) := by
  rw [allowedSilence_div] at hseconds
  rw [watchedSilence, if_neg hwatched, silenceLimit, timeoutMs]
  simp only [if_pos hseconds]
  rfl

theorem watchedSilence_eq_error (hwatched : settings.intervalMs ≠ 0)
    (hseconds : UInt64.size ≤ settings.allowedSilence / nanosecondsPerSecond) :
    settings.watchedSilence = .error .overflow := by
  rw [allowedSilence_div] at hseconds
  rw [watchedSilence, if_neg hwatched, silenceLimit, timeoutMs]
  simp only [if_neg (Nat.not_lt_of_le hseconds)]
  rfl

theorem allowedSilence_mono {longer : HeartbeatSettings} (hinterval : settings.intervalMs ≤ longer.intervalMs)
    (hmissed : longer.missedBeforeDisconnect = settings.missedBeforeDisconnect) :
    settings.allowedSilence ≤ longer.allowedSilence := by
  rw [allowedSilence, allowedSilence, hmissed]
  exact Nat.mul_le_mul_right _ (Nat.mul_le_mul_right _ (UInt64.le_iff_toNat_le.1 hinterval))

/-- What is left of the silence when it is cut to a word is even. -/
theorem allowedSilence_mod_lt (settings : HeartbeatSettings) :
    settings.allowedSilence % UInt64.size < UInt64.size - 1 := by
  have hsize : UInt64.size = 18446744073709551616 := rfl
  rw [allowedSilence, nanoseconds, hsize]
  omega

end HeartbeatSettings

theorem HeartbeatPlan.isOverdue_iff (plan : HeartbeatPlan) (lastActivity now : UInt64) :
    plan.isOverdue lastActivity now = true ↔
      plan.silenceLimit.toNat < now.toNat - lastActivity.toNat := by
  rw [isOverdue, decide_eq_true_iff, UInt64.lt_iff_toNat_lt, toNat_saturatingSub]

namespace Session

variable {session next : Session} {events : List SessionEvent}

/-- Whether a monitor that wakes at some time finds the connection lost, whatever it would send. -/
def FindsLost (session : Session) (now : UInt64) : Prop :=
  ∀ beat, session.monitorStep beat now =
    some ({ session with monitor := .announcing "heartbeat timeout" }, [])

theorem findsLost_iff (hmonitor : session.monitor = .sleeping) (now : UInt64) :
    session.FindsLost now ↔
      session.heartbeat.silenceLimit.toNat < now.toNat - session.lastActivity.toNat := by
  have hstep (beat : Beat) : session.monitorStep beat now = some (session.wakeMonitor beat now) := by
    rw [monitorStep, hmonitor]
  rw [← HeartbeatPlan.isOverdue_iff]
  constructor
  · intro hlost
    refine Decidable.byContradiction fun hsilent => ?_
    have hrest : session.wakeMonitor .notDue now = ({ session with monitor := .checking }, []) := by
      unfold wakeMonitor
      rw [if_neg hsilent]
      cases session.heartbeat.sends <;> rfl
    have hfound := hlost .notDue
    rw [hstep, hrest] at hfound
    cases congrArg (fun outcome => outcome.map (·.1.monitor)) hfound
  · intro hoverdue beat
    rw [hstep]
    unfold wakeMonitor
    rw [if_pos hoverdue]

/-- No step changes what is watched for. -/
theorem heartbeat_step {action : SessionAction} (hstep : session.step action = some (next, events)) :
    next.heartbeat = session.heartbeat := by
  have hhandle (session : Session) (lane : Lane) (packet : Bytes) (time : UInt64) :
      (session.handle lane packet time).1.heartbeat = session.heartbeat := by
    rcases session.handle_cases lane packet time with ⟨processor, messages, hhandle⟩ |
      ⟨done, -, hhandle⟩
    · rw [hhandle]
    · rw [hhandle]
  cases action with
  | work action =>
      cases action with
      | receive arrival now =>
          cases receiverStep_move hstep with
          | listen hasBuffer => cases arrival <;> cases hasBuffer <;> rfl
          | _ => rfl
      | monitor beat now => cases monitorStep_move hstep <;> rfl
      | fillGap reply =>
          cases gapFillerStep_move hstep with
          | ask => cases reply <;> rfl
          | _ => rfl
      | process now =>
          rcases processingStep_cases hstep with ⟨taken, -, hhandled⟩ | ⟨-, hproceed⟩
          · have hnext : next = (session.handleInHand now taken).1 := (congrArg Prod.fst hhandled).symm
            cases taken <;> exact hnext ▸ hhandle _ _ _ _
          · cases proceed_move hproceed <;> rfl
  | close reason => cases closingStep_move hstep <;> rfl
  | choose call =>
      cases hstep
      rfl

theorem heartbeat_run (session : Session) (actions : List SessionAction) :
    (session.run actions).1.heartbeat = session.heartbeat :=
  run_keeps (P := fun next _ => next.heartbeat = session.heartbeat)
    (fun h hstep => (heartbeat_step hstep).trans h) [] rfl actions

/-- The monitor of a new session goes to sleep, and there has been activity just now. -/
theorem monitor_falls_asleep {config : FeedConfig} (hwatched : config.heartbeat.intervalMs ≠ 0)
    {link : Link} {listener : Listener} {source : Option GapSource} {books : Books}
    {subscriptions : Subscriptions} {counters : Counters} {begun : UInt64}
    (hstart : start config link listener source books subscriptions counters begun = .ok session) :
    let asleep := (session.run [.work (.monitor .notDue begun)]).1
    asleep.monitor = .sleeping ∧ asleep.lastActivity = begun := by
  have hmonitor : session.monitor = .checking ∧ session.stop = false ∧ session.lastActivity = begun := by
    obtain ⟨limit, -, rfl⟩ := exists_of_map_ok hstart
    exact ⟨if_neg hwatched, rfl, rfl⟩
  obtain ⟨hchecking, hstop, hactivity⟩ := hmonitor
  have hstep : session.monitorStep .notDue begun = some ({ session with monitor := .sleeping }, []) := by
    rw [monitorStep, hchecking, hstop]
    rfl
  show ((session.monitorStep .notDue begun).getD (session, [])).1.monitor = _ ∧
    ((session.monitorStep .notDue begun).getD (session, [])).1.lastActivity = _
  rw [hstep]
  exact ⟨rfl, hactivity⟩

end Session

/-- Whether a configuration can be started, and a connection counts as lost exactly when it has been
silent for more than `limit` nanoseconds, at every look of the monitor in every run. -/
def FeedConfig.WatchesUpTo (config : FeedConfig) (limit : Nat) : Prop :=
  ∀ link listener source books subscriptions counters begun, ∃ session,
    Session.start config link listener source books subscriptions counters begun = .ok session ∧
    ∀ actions now, let reached := (session.run actions).1
      reached.monitor = .sleeping →
        (reached.FindsLost now ↔ limit < now.toNat - reached.lastActivity.toNat)

namespace FeedConfig

variable {config : FeedConfig}

theorem watchesUpTo_mod (hwatched : config.heartbeat.intervalMs ≠ 0)
    (hseconds : config.heartbeat.allowedSilence / nanosecondsPerSecond < UInt64.size) :
    config.WatchesUpTo (config.heartbeat.allowedSilence % UInt64.size) := by
  intro link listener source books subscriptions counters begun
  have hlimit := HeartbeatSettings.watchedSilence_eq_ok hwatched hseconds
  refine ⟨_, congrArg (Except.map _) hlimit, ?_⟩
  intro actions now reached hmonitor
  rw [Session.findsLost_iff hmonitor, Session.heartbeat_run]
  show (UInt64.ofNat config.heartbeat.allowedSilence).toNat < _ ↔ _
  rw [UInt64.toNat_ofNat']

theorem start_of_overflow (hwatched : config.heartbeat.intervalMs ≠ 0)
    (hseconds : UInt64.size ≤ config.heartbeat.allowedSilence / nanosecondsPerSecond)
    (link : Link) (listener : Listener) (source : Option GapSource) (books : Books)
    (subscriptions : Subscriptions) (counters : Counters) (begun : UInt64) :
    Session.start config link listener source books subscriptions counters begun = .error .overflow :=
  congrArg (Except.map _) (HeartbeatSettings.watchedSilence_eq_error hwatched hseconds)

theorem watchesUpTo_allowedSilence (hwatched : config.heartbeat.intervalMs ≠ 0)
    (hfits : config.heartbeat.allowedSilence < UInt64.size) :
    config.WatchesUpTo config.heartbeat.allowedSilence := by
  have hcut := watchesUpTo_mod hwatched (Nat.lt_of_le_of_lt (Nat.div_le_self _ _) hfits)
  rwa [Nat.mod_eq_of_lt hfits] at hcut

/-- Only one limit is watched for, as far as words can tell. -/
theorem WatchesUpTo.unique {limit other : Nat} (hwatched : config.heartbeat.intervalMs ≠ 0)
    (h : config.WatchesUpTo limit) (h' : config.WatchesUpTo other)
    (hsmall : limit < UInt64.size - 1) : other < UInt64.size - 1 := by
  obtain ⟨session, hstart, hlost⟩ := h .datagrams ⟨none⟩ none (.blank 1) .all .zero 0
  obtain ⟨again, hstart', hlost'⟩ := h' .datagrams ⟨none⟩ none (.blank 1) .all .zero 0
  cases hstart.symm.trans hstart'
  obtain ⟨hmonitor, hactivity⟩ := Session.monitor_falls_asleep hwatched hstart
  have hiff := (hlost _ (UInt64.ofNat (UInt64.size - 1)) hmonitor).symm.trans (hlost' _ _ hmonitor)
  rw [hactivity] at hiff
  exact hiff.1 hsmall

/-- **The watch for silence is exact as long as the limit fits into a word.** Take a configuration that
watches for silence. Where the whole seconds that it allows fit into a word, every session can be
started, and the connection counts as lost when it has been silent for longer than what is left of the
limit in a word; otherwise none can be started. So the limit is kept exactly if it fits into a word of
nanoseconds and not otherwise, and up to there a longer interval never ends a session earlier. -/
theorem watches_exactly_iff (config : FeedConfig) (hwatched : config.heartbeat.intervalMs ≠ 0) :
    (config.heartbeat.allowedSilence / nanosecondsPerSecond < UInt64.size →
      config.WatchesUpTo (config.heartbeat.allowedSilence % UInt64.size)) ∧
    (UInt64.size ≤ config.heartbeat.allowedSilence / nanosecondsPerSecond →
      ∀ link listener source books subscriptions counters begun,
        Session.start config link listener source books subscriptions counters begun =
          .error .overflow) ∧
    (config.WatchesUpTo config.heartbeat.allowedSilence ↔
      config.heartbeat.allowedSilence < UInt64.size) ∧
    ∀ interval, config.heartbeat.intervalMs ≤ interval →
      let longer := { config with heartbeat.intervalMs := interval }
      longer.heartbeat.allowedSilence < UInt64.size →
        ∃ limit limit', limit ≤ limit' ∧ config.WatchesUpTo limit ∧ longer.WatchesUpTo limit' := by
  refine ⟨watchesUpTo_mod hwatched, start_of_overflow hwatched, ⟨?_, watchesUpTo_allowedSilence hwatched⟩, ?_⟩
  · intro hexact
    by_cases hseconds : config.heartbeat.allowedSilence / nanosecondsPerSecond < UInt64.size
    · have hcut := watchesUpTo_mod hwatched hseconds
      have hsmall := hcut.unique hwatched hexact config.heartbeat.allowedSilence_mod_lt
      omega
    · obtain ⟨session, hstart, -⟩ := hexact .datagrams ⟨none⟩ none (.blank 1) .all .zero 0
      rw [start_of_overflow hwatched (Nat.le_of_not_lt hseconds)] at hstart
      cases hstart
  · intro interval hinterval longer hfits
    have hlonger : longer.heartbeat.intervalMs ≠ 0 := by
      intro hzero
      have hzero : interval = 0 := hzero
      exact hwatched (UInt64.le_zero_iff.1 (hzero ▸ hinterval))
    have hle : config.heartbeat.allowedSilence ≤ longer.heartbeat.allowedSilence :=
      HeartbeatSettings.allowedSilence_mono hinterval rfl
    exact ⟨_, _, hle, watchesUpTo_allowedSilence hwatched (Nat.lt_of_le_of_lt hle hfits),
      watchesUpTo_allowedSilence hlonger hfits⟩

/-- Settings like the standard ones, but for the heartbeats. -/
def listeningFor (intervalMs : UInt64) (missed : UInt32) : FeedConfig :=
  { FeedConfig.standard with heartbeat := ⟨intervalMs, missed, true⟩ }

theorem watches_exactly_iff_longestInterval :
    (listeningFor 18446744073709 0).heartbeat.intervalMs ≠ 0 ∧
    (listeningFor 18446744073709 0).WatchesUpTo 18446744073709000000 := by
  have hwatched : (listeningFor 18446744073709 0).heartbeat.intervalMs ≠ 0 := by decide
  obtain ⟨-, -, hexact, -⟩ := watches_exactly_iff (listeningFor 18446744073709 0) hwatched
  exact ⟨hwatched, hexact.2 (by decide)⟩

/-- With an interval of 18446744073710 ms a connection is lost after 2 ms, with one that is 1 ms shorter it
is not, and with still longer ones no session can be started. -/
theorem longer_interval_lost_earlier :
    let looks : List SessionAction := [.work (.monitor .notDue 0), .work (.monitor .notDue 2000000)]
    let outcome (config : FeedConfig) :=
      (Session.start config .datagrams ⟨none⟩ none (.blank 10) .all .zero 0).map fun session =>
        (session.run looks).1.monitor
    (listeningFor 18446744073710 1).fault? = none ∧
    2000000 < (listeningFor 18446744073710 1).heartbeat.allowedSilence ∧
    outcome (listeningFor 18446744073710 1) = .ok (.announcing "heartbeat timeout") ∧
    outcome (listeningFor 18446744073709 1) = .ok .checking ∧
    (listeningFor 9223372036854775807 4294967295).fault? = none ∧
    outcome (listeningFor 9223372036854775807 4294967295) = .error .overflow :=
  ⟨rfl, by decide, rfl, rfl, rfl, rfl⟩

end FeedConfig

end MarketFeed
