import MarketFeed.SessionStep

/-!
Runs of a session in which one party at a time goes on: what comes in is received, then processed, then
what is missing is asked for, and so on until nothing is left to do. All of them are made of steps, so
whatever holds after every step holds after them.
-/

namespace MarketFeed

/-- The steps of the receiver from one look at the stop flag to the next when this comes in. -/
def Arrival.steps : Arrival → Nat
  | .packet _ => 5
  | .nothing => 3
  | .fault _ => 7

namespace Session

/-- A run and another one behind it. -/
def andThen (first : Outcome) (next : Session → Outcome) : Outcome :=
  let (session, later) := next first.1
  (session, first.2 ++ later)

def repeated (session : Session) (count : Nat) (action : SessionAction) : Outcome :=
  session.run (List.replicate count action)

def working (session : Session) (count : Nat) (action : WorkerAction) : Outcome :=
  session.repeated count (.work action)

/-- Something comes in, and the receiver sees to it. -/
def arrive (session : Session) (arrival : Arrival) (now : UInt64) : Outcome :=
  session.working arrival.steps (.receive arrival now)

/-- The processing worker goes once round its loop. -/
def processWaiting (session : Session) (now : Nat) : Outcome :=
  session.working (2 * (session.packets.size + session.recovered.size) + 4) (.process now)

/-- The gap filler sees to the oldest request, which is answered by some packets or turned down. -/
def fillOldest (session : Session) (answer : Option (List Bytes)) : Outcome :=
  match session.requests.items with
  | [] => (session, [])
  | request :: _ =>
      let reply : GapReply := answer.elim (.error (.rejected request)) .ok
      session.working (((answer.getD []).length) + 4) (.fillGap reply)

/-- Processes what is waiting and asks for what is missing, and does so again after each answer that
brought packets. The answers to come are given; behind them every request is turned down. Gives the
answers that are left. -/
def settle (now : Nat) : List (Option (List Bytes)) → Session →
    Outcome × List (Option (List Bytes))
  | [], session => (andThen (session.processWaiting now) (·.fillOldest none), [])
  | answer :: rest, session =>
      let processed := session.processWaiting now
      if processed.1.requests.items.isEmpty then (processed, answer :: rest)
      else
        let filled := andThen processed (·.fillOldest answer)
        if (answer.getD []).isEmpty then (filled, rest)
        else
          let (settled, left) := settle now rest filled.1
          ((settled.1, filled.2 ++ settled.2), left)

/-- The monitor finds that a heartbeat is due. -/
def beat (session : Session) (now : UInt64) : Outcome :=
  session.working 2 (.monitor .due now)

/-- The monitor finds that the connection has been silent for as long as can be. -/
def fallSilent (session : Session) : Outcome :=
  session.working 4 (.monitor .notDue (UInt64.ofNat (UInt64.size - 1)))

/-- The receiver ends; nothing more comes in. -/
def endReceiver (session : Session) : Outcome :=
  session.working 4 (.receive .nothing session.lastActivity)

def endMonitor (session : Session) : Outcome :=
  session.working 2 (.monitor .notDue session.lastActivity)

/-- The packets that the gap filler still has to put on its queue. -/
def packetsInHand (session : Session) : Nat :=
  match session.gapFiller with
  | .storing packets => packets.length
  | _ => 0

/-- The gap filler ends; a request under way is turned down. -/
def endGapFiller (session : Session) : Outcome :=
  session.working (session.packetsInHand + 5) (.fillGap (.error (.rejected ⟨0, 0⟩)))

/-- The processing worker ends. The steps are more than enough for what is waiting. -/
def endProcessing (session : Session) (now : Nat) : Outcome :=
  session.working (4 * (session.packets.size + session.recovered.size) + 11) (.process now)

/-- All workers of a stopped session end. -/
def windDown (session : Session) (now : Nat) : Outcome :=
  andThen (andThen (andThen session.endReceiver endMonitor) endGapFiller) (·.endProcessing now)

/-- Whether the monitor is still there, and finds within so many nanoseconds that the connection has
been silent for as long as can be. -/
def givesUpWithin (session : Session) (span : Nat) : Bool :=
  session.monitor != .finished && session.heartbeat.silenceLimit.toNat < span

/-- Nothing comes in for so many nanoseconds. Unless the session gives up meanwhile it stays as it is;
heartbeats that are sent meanwhile are not shown. -/
def staySilent (session : Session) (span now : Nat) : Outcome :=
  if session.givesUpWithin span then andThen session.fallSilent (·.windDown now) else (session, [])

/-! ### From what comes in to what follows -/

/-- Sees to what comes in, one thing after the other, and to all that follows. A fault is the last. -/
def takeIn (now : Nat) : List Arrival → List (Option (List Bytes)) → Session →
    Outcome × List (Option (List Bytes))
  | [], answers, session => ((session, []), answers)
  | arrival :: rest, answers, session =>
      let arrived := session.arrive arrival (UInt64.ofNat now)
      match arrival with
      | .fault _ => (andThen arrived (·.windDown now), answers)
      | _ =>
          let (settled, answers) := settle now answers arrived.1
          let (done, answers) := takeIn now rest answers settled.1
          ((done.1, arrived.2 ++ (settled.2 ++ done.2)), answers)

/-- Sees to a chunk that comes in over the connection. -/
def hear (session : Session) (chunk : Bytes) (answers : List (Option (List Bytes))) (now : Nat) :
    Outcome × List (Option (List Bytes)) :=
  takeIn now (session.link.arrivals chunk) answers { session with link := session.link.after chunk }

/-- Closes the session: stops it, waits for the workers one after the other, and tells the last one,
the processing worker, when no more packets can come. -/
def close (session : Session) (reason : String) (now : Nat) : Outcome :=
  let goOn (count : Nat) (session : Session) : Outcome := session.repeated count (.close reason)
  let stopped := andThen (andThen (goOn 2 session) endReceiver) endMonitor
  let filled := andThen (andThen stopped (goOn 3)) endGapFiller
  andThen (andThen (andThen filled (goOn 2)) (·.endProcessing now)) (goOn 1)

end Session

end MarketFeed
