import MarketFeed.Proofs.GapThrottling
import MarketFeed.Proofs.SessionOrder
import MarketFeed.Proofs.SessionTraffic

/-! The accounts of a session. At its end nothing is on its way any more, so that every packet that came
in, for the first time or again, was dropped or has been processed and accepted. -/

namespace MarketFeed.Session

variable {session final : Session} {actions : List SessionAction} {events : List SessionEvent}

theorem Untouched.inFlight (h : session.Untouched) : session.inFlight = 0 := by
  have hwaiting (lane : Lane) := waiting_eq_nil h.inHand h.packets h.recovered lane
  have hnone : session.packetsInHand = 0 := by
    rcases h.gapFiller with hchecking | hfinished
    · rw [packetsInHand, hchecking]
    · rw [packetsInHand, hfinished]
  rw [Session.inFlight, h.receiver, hnone, hwaiting, hwaiting]
  rfl

/-- At the end of the processing worker nothing is on its way. -/
theorem Orderly.inFlight (h : session.Orderly) (hfinished : session.processing = .finished) :
    session.inFlight = 0 := by
  obtain ⟨hreceiver, hgapFiller, hinHand⟩ := h.ended hfinished
  have hpackets := h.drainedPackets (hfinished ▸ rfl)
  obtain ⟨hrecovered, -⟩ := h.drainedAll (hfinished ▸ rfl)
  have hwaiting (lane : Lane) := waiting_eq_nil hinHand hpackets hrecovered lane
  have hnone : session.packetsInHand = 0 := by rw [packetsInHand, hgapFiller]
  rw [Session.inFlight, hreceiver, hnone, hwaiting, hwaiting]
  rfl

/-- A number of packets that fits a word. -/
theorem toNat_ofNat_of_le {count limit : Nat} (hle : count ≤ limit) (hlimit : limit < UInt64.size) :
    (UInt64.ofNat count).toNat = count :=
  UInt64.toNat_ofNat_of_lt' (Nat.lt_of_le_of_lt hle hlimit)

/-- **No packet is lost unnoticed.** Once a session has been closed, the packets that came in and those that
came again are as many as were dropped and were processed and accepted. The counters are words and
wrap; they are exact as long as fewer packets come than a word can count. -/
theorem packets_accounted {config : FeedConfig} {link : Link} {listener : Listener}
    {source : Option GapSource} {books : Books} {subscriptions : Subscriptions} {now : UInt64}
    (hstart : start config link listener source books subscriptions .zero now = .ok session)
    (hrun : session.run actions = (final, events))
    (hclosed : final.closing = .closed) (hkept : final.processing ≠ .lost) :
    let counters := final.processor.counters
    counters.packetsReceived + counters.retransmittedPackets =
        counters.packetsDropped + UInt64.ofNat (acceptedCount events) ∧
      (packetsBrought actions < UInt64.size →
        counters.packetsReceived.toNat + counters.retransmittedPackets.toNat =
          counters.packetsDropped.toNat + acceptedCount events) := by
  obtain ⟨huntouched, hzero⟩ := start_ok hstart
  have hchronicle : Traffic session (packetsBrought actions) events final := by
    have htraffic := traffic_run session actions
    rw [hrun] at htraffic
    exact htraffic
  have horderly : final.Orderly := by
    have hwhole := (Orderly.ofUntouched huntouched).run actions
    rw [hrun] at hwhole
    exact hwhole
  have hfinished := (horderly.closed hclosed).resolve_right hkept
  obtain ⟨received, retransmitted, dropped, hcounters, hlimit, hbalance⟩ := hchronicle.counts hkept
  rw [huntouched.inFlight, horderly.inFlight hfinished] at hbalance
  rw [hzero] at hcounters
  have hreceived : final.processor.counters.packetsReceived = UInt64.ofNat received :=
    hcounters.received.trans (UInt64.zero_add _)
  have hretransmitted : final.processor.counters.retransmittedPackets = UInt64.ofNat retransmitted :=
    hcounters.retransmitted.trans (UInt64.zero_add _)
  have hdropped : final.processor.counters.packetsDropped = UInt64.ofNat dropped :=
    hcounters.dropped.trans (UInt64.zero_add _)
  have hbalance : received + retransmitted = dropped + acceptedCount events := hbalance
  intro counters
  refine ⟨?_, fun hfew => ?_⟩
  · rw [hreceived, hretransmitted, hdropped, ← UInt64.ofNat_add, hbalance, UInt64.ofNat_add]
  · rw [hreceived, hretransmitted, hdropped, toNat_ofNat_of_le (by omega) hfew,
      toNat_ofNat_of_le (by omega) hfew, toNat_ofNat_of_le (by omega) hfew, hbalance]

/-- One trade is asked for behind the other and comes with something that is no packet; one more packet
comes in when the session is being stopped. -/
def droppedAtStop : List SessionAction :=
  inTurn
    [(5, .work (.receive (.packet (Processor.tradePacket 2)) 1)), (6, .work (.process 1)),
     (6, .work (.fillGap (.ok [Processor.tradePacket 1, []]))),
     (3, .work (.receive (.packet (Processor.tradePacket 3)) 2)), (2, .close "shutdown"),
     (3, .work (.receive .nothing 3)), (1, .work (.monitor .notDue 3)), (3, .close "shutdown"),
     (2, .work (.fillGap (.ok []))), (2, .close "shutdown"), (18, .work (.process 3)),
     (1, .close "shutdown")]

theorem packets_accounted_droppedAtStop :
    ∃ (session final : Session) (events : List SessionEvent),
      start Processor.pausingConfig .datagrams ⟨none⟩ (some .installed) (.blank 4) .all .zero 0 =
        .ok session ∧
      session.run droppedAtStop = (final, events) ∧
      final.closing = .closed ∧ final.processing ≠ .lost ∧
      packetsBrought droppedAtStop < UInt64.size ∧
      final.processor.counters.packetsReceived.toNat = 2 ∧
      final.processor.counters.retransmittedPackets.toNat = 2 ∧
      acceptedCount events = 2 ∧ final.processor.counters.packetsDropped.toNat = 2 := by
  let session := fresh Processor.pausingConfig .datagrams ⟨none⟩ (some .installed) (.blank 4) .all
    .zero 0 3000000000
  have hstart : start Processor.pausingConfig .datagrams ⟨none⟩ (some .installed) (.blank 4) .all
      .zero 0 = .ok session := rfl
  have hrun : session.run droppedAtStop =
      ((session.run droppedAtStop).1, (session.run droppedAtStop).2) := (Prod.eta _).symm
  have hclosed : (session.run droppedAtStop).1.closing = .closed := by decide +kernel
  have hkept : (session.run droppedAtStop).1.processing ≠ .lost := by decide +kernel
  have hfew : packetsBrought droppedAtStop < UInt64.size := by decide +kernel
  have hreceived : (session.run droppedAtStop).1.processor.counters.packetsReceived.toNat = 2 := by
    decide +kernel
  have hretransmitted :
      (session.run droppedAtStop).1.processor.counters.retransmittedPackets.toNat = 2 := by
    decide +kernel
  have haccepted : acceptedCount (session.run droppedAtStop).2 = 2 := by decide +kernel
  have hexact := (packets_accounted hstart hrun hclosed hkept).2 hfew
  rw [hreceived, hretransmitted, haccepted] at hexact
  exact ⟨session, _, _, hstart, hrun, hclosed, hkept, hfew, hreceived, hretransmitted, haccepted,
    by omega⟩

end MarketFeed.Session
