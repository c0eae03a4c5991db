import MarketFeed.Proofs.ClientMoves

/-! The state that a client shows, and what it takes. Both calls go by the state that the client was
brought to, and that is still `ready` when a session has lost its connection, while the client shows
itself as disconnected. Up to a disconnect the two states then tell different things; at all other times
they are the same, and a client takes what it shows that it takes. -/

namespace MarketFeed.FeedClient

variable {client : FeedClient} {config : FeedConfig} {operation : ClientOperation} {state : ClientState}

/-- Whether the client has a session whose connection is gone. -/
def hasLostSession (client : FeedClient) : Bool := client.session.any (·.signal.raised)

/-- A client goes by the state that it shows when that state decides what it takes and is named when
something is refused. -/
structure GoesByShownState (client : FeedClient) : Prop where
  configure : ∀ config, config.fault? = none →
    ((client.configure config).2 = none ↔
      client.shownState ∈ [.uninitialized, .initialized, .disconnected])
  connect : ∀ host now,
    ((∃ state, (client.connect host now).2 = some (.invalidState .connect state)) ↔
      client.shownState ∉ [.initialized, .disconnected])
  configure_names : ∀ config operation state,
    (client.configure config).2 = some (.invalidState operation state) → state = client.shownState
  connect_names : ∀ host now operation state,
    (client.connect host now).2 = some (.invalidState operation state) → state = client.shownState

theorem configure_accepts_iff (hworks : config.fault? = none) (client : FeedClient) :
    (client.configure config).2 = none ↔
      client.state ∈ [.uninitialized, .initialized, .disconnected] := by
  rw [FeedClient.configure, hworks]
  cases client.state <;> simp

theorem state_of_configure (h : (client.configure config).2 = some (.invalidState operation state)) :
    state = client.state := by
  unfold FeedClient.configure at h
  cases hstate : client.state with
  | uninitialized | initialized | disconnected =>
      rw [hstate] at h
      cases hfault : config.fault? <;> simp [hfault] at h
  | connected | ready | shutDown =>
      rw [hstate] at h
      cases h
      rfl

/-- Once it comes to opening a connection the state is no reason to refuse. -/
theorem openSession_ne_invalidState (client : FeedClient) (config : FeedConfig) (host : Host)
    (now : UInt64) (operation : ClientOperation) (state : ClientState) :
    (client.openSession config host now).2 ≠ some (.invalidState operation state) := by
  intro h
  cases hlistener : client.listener with
  | none =>
      rw [openSession, hlistener] at h
      cases h
  | some listener =>
      rcases openSession_cases hlistener config host now with ⟨fault, hfault⟩ |
        ⟨link, address, hopened⟩
      · rw [hfault] at h
        cases h
      · rw [hopened, enter] at h
        split at h <;> cases h

theorem state_of_connect {host : Host} {now : UInt64}
    (h : (client.connect host now).2 = some (.invalidState operation state)) :
    state = client.state := by
  rcases client.connect_cases host now with hrefused | ⟨config, -, -, -, hopens⟩
  · rw [hrefused] at h
    cases h
    rfl
  · rw [hopens] at h
    exact (openSession_ne_invalidState _ _ _ _ _ _ h).elim

theorem Firm.connect_refuses_iff (h : client.Firm) (host : Host) (now : UInt64) :
    (∃ state, (client.connect host now).2 = some (.invalidState .connect state)) ↔
      client.state ∉ [.initialized, .disconnected] := by
  constructor
  · rintro ⟨state, hrefused⟩ hmem
    have hstate : client.state = .initialized ∨ client.state = .disconnected := by simpa using hmem
    have hconfigured : client.config.isSome :=
      h.configured (by rcases hstate with hstate | hstate <;> simp [hstate])
    obtain ⟨config, hconfig⟩ := Option.isSome_iff_exists.1 hconfigured
    have hopens : client.connect host now = client.openSession config host now := by
      rcases hstate with hstate | hstate <;> simp only [FeedClient.connect, hstate, hconfig]
    rw [hopens] at hrefused
    exact openSession_ne_invalidState _ _ _ _ _ _ hrefused
  · intro hmem
    unfold FeedClient.connect
    split
    · rename_i hstate _
      exact absurd (by rw [hstate]; decide) hmem
    · rename_i hstate _
      exact absurd (by rw [hstate]; decide) hmem
    · exact ⟨client.state, rfl⟩

theorem Firm.shownState_of_lost (h : client.Firm) (hlost : client.hasLostSession = true) :
    client.state = .ready ∧ client.shownState = .disconnected := by
  cases hsession : client.session with
  | none =>
      rw [hasLostSession, hsession] at hlost
      exact absurd hlost Bool.false_ne_true
  | some session =>
      have hready : client.state = .ready := h.ready.1 (Option.isSome_of_mem hsession)
      have hgone : client.isDisconnected = true := by
        rw [hasLostSession, hsession] at hlost
        rw [isDisconnected, hsession]
        exact hlost
      exact ⟨hready, if_pos ⟨hready, hgone⟩⟩

theorem Firm.shownState_eq (h : client.Firm) (hkept : client.hasLostSession = false) :
    client.shownState = client.state := by
  rw [shownState, if_neg]
  rintro ⟨hready, hgone⟩
  obtain ⟨session, hsession⟩ := Option.isSome_iff_exists.1 (h.ready.2 hready)
  rw [isDisconnected, hsession] at hgone
  rw [hasLostSession, hsession, Option.any_some] at hkept
  exact Bool.false_ne_true (hkept.symm.trans hgone)

theorem Firm.goesByShownState (h : client.Firm) (hkept : client.hasLostSession = false) :
    client.GoesByShownState := by
  have heq := h.shownState_eq hkept
  exact
    { configure := fun config hworks => heq ▸ configure_accepts_iff hworks client
      connect := fun host now => heq ▸ h.connect_refuses_iff host now
      configure_names := fun _ _ _ hnamed => heq ▸ state_of_configure hnamed
      connect_names := fun _ _ _ _ hnamed => heq ▸ state_of_connect hnamed }

/-- A client with a lost session shows itself as disconnected, but is refused as one that is ready. -/
theorem Firm.refusals_of_lost (h : client.Firm) (hlost : client.hasLostSession = true) :
    (∀ config, client.configure config = (client, some (.invalidState .configure .ready))) ∧
      ∀ host now, client.connect host now = (client, some (.invalidState .connect .ready)) := by
  obtain ⟨hready, -⟩ := h.shownState_of_lost hlost
  constructor
  · intro config
    rw [FeedClient.configure, hready]
  · intro host now
    rw [FeedClient.connect, hready]

theorem Firm.not_goesByShownState (h : client.Firm) (hlost : client.hasLostSession = true) :
    ¬client.GoesByShownState := by
  intro hgoes
  obtain ⟨hready, hshown⟩ := h.shownState_of_lost hlost
  obtain ⟨-, hconnect⟩ := h.refusals_of_lost hlost
  have hrefused := (hgoes.connect .isolated 0).1 ⟨.ready, by rw [hconnect]⟩
  rw [hshown] at hrefused
  exact hrefused (by decide)

/-- A disconnect brings the two states together again. -/
theorem hasLostSession_disconnect (client : FeedClient) (closing : List SessionAction) :
    (client.answer (.disconnect closing)).1.hasLostSession = false := by
  cases hsession : client.session with
  | none => rw [answer, disconnectBy, hsession, hasLostSession, hsession, Option.any_none]
  | some session =>
      rw [answer, disconnectBy, hsession, hasLostSession, session_endSession, Option.any_none]

/-- **A client goes by the state that it shows unless its session has lost its connection.** Whatever has
been done to it and has happened to it, with such a session it shows itself as disconnected, but refuses
every configuration and every connection as a client that is ready, and goes by what it shows again once
it has been disconnected. -/
theorem run_goesByShownState_iff (listener : Listener) (source : Option GapSource)
    (calls : List ClientCall) :
    let client := (start listener source).run calls
    (client.GoesByShownState ↔ client.hasLostSession = false) ∧
      (client.hasLostSession = true → client.shownState = .disconnected ∧
        (∀ config, client.configure config = (client, some (.invalidState .configure .ready))) ∧
        (∀ host now, client.connect host now = (client, some (.invalidState .connect .ready))) ∧
        ∀ closing, (client.answer (.disconnect closing)).1.GoesByShownState) := by
  intro client
  have hfirm : client.Firm := (Firm.start listener source).run calls
  refine ⟨⟨fun hgoes => ?_, hfirm.goesByShownState⟩, fun hlost => ?_⟩
  · rw [← Bool.not_eq_true]
    exact fun hlost => hfirm.not_goesByShownState hlost hgoes
  · obtain ⟨-, hshown⟩ := hfirm.shownState_of_lost hlost
    obtain ⟨hconfigure, hconnect⟩ := hfirm.refusals_of_lost hlost
    refine ⟨hshown, hconfigure, hconnect, fun closing => ?_⟩
    have hanswered : (client.answer (.disconnect closing)).1.Firm :=
      hfirm.move (client.answer_move (.disconnect closing))
    exact hanswered.goesByShownState (client.hasLostSession_disconnect closing)

/-- A client connects, and nothing comes in until its monitor gives up. -/
def silentLife : List ClientCall :=
  [.configure .standard, .connect .isolated 0] ++
    List.replicate 4 (.work (.monitor .notDue 4000000000))

/-- After a silence the client shows itself as disconnected. It refuses a configuration that can work, and
a connection, and names a state that it does not show. -/
theorem silentLife_refused_as_ready :
    let client := (start ⟨none⟩ none).run silentLife
    client.shownState = .disconnected ∧ FeedConfig.standard.fault? = none ∧
      (client.configure .standard).2 = some (.invalidState .configure .ready) ∧
      (client.connect .isolated 0).2 = some (.invalidState .connect .ready) ∧
      ¬client.GoesByShownState := by
  intro client
  have hshown : client.shownState = .disconnected := by decide +kernel
  have hworks : FeedConfig.standard.fault? = none := by decide +kernel
  have hconfigure : (client.configure .standard).2 = some (.invalidState .configure .ready) := by
    decide +kernel
  have hconnect : (client.connect .isolated 0).2 = some (.invalidState .connect .ready) := by
    decide +kernel
  refine ⟨hshown, hworks, hconfigure, hconnect, fun hgoes => ?_⟩
  have hnamed : ClientState.ready = client.shownState := hgoes.connect_names _ _ _ _ hconnect
  rw [hshown] at hnamed
  cases hnamed

end MarketFeed.FeedClient
