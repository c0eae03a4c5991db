import MarketFeed.Subscription

/-! What calls make of a choice of instruments. The choice is kept as the few that are left out or as the
few that are in, and every call changes whichever it is; a call about all instruments forgets the few. For
one instrument only the last call about it counts, and what was there before any call. -/

namespace MarketFeed.Subscriptions

def run (subscriptions : Subscriptions) (calls : List Call) : Subscriptions :=
  calls.foldl apply subscriptions

namespace Call

/-- Whether a call is about an instrument: it names it, or it is about all of them. -/
def isAbout (id : UInt32) : Call → Bool
  | .subscribe other | .unsubscribe other => other == id
  | .subscribeAll | .subscribeNone => true

/-- Whether what a call is about is chosen after it. -/
def chooses : Call → Bool
  | .subscribe _ | .subscribeAll => true
  | .unsubscribe _ | .subscribeNone => false

/-- The last of the calls that are about an instrument. -/
def lastAbout? (id : UInt32) (calls : List Call) : Option Call := (calls.filter (isAbout id)).getLast?

theorem lastAbout?_cons (id : UInt32) (call : Call) (calls : List Call) :
    lastAbout? id (call :: calls) =
      (lastAbout? id calls).or (if call.isAbout id then some call else Option.none) := by
  unfold lastAbout?
  rw [List.filter_cons]
  split
  · rw [List.getLast?_cons]
    cases (calls.filter (isAbout id)).getLast? <;> rfl
  · rw [Option.or_none]

theorem isAbout_of_lastAbout? {id : UInt32} {calls : List Call} {call : Call}
    (hlast : lastAbout? id calls = some call) : call.isAbout id = true := by
  have hmem : call ∈ calls.filter (isAbout id) := List.mem_of_getLast? hlast
  exact (List.mem_filter.1 hmem).2

/-- A call about an instrument chooses it just when it adds it or adds all. -/
theorem chooses_eq_decide {id : UInt32} {call : Call} (habout : call.isAbout id = true) :
    call.chooses = decide (call = .subscribe id ∨ call = .subscribeAll) := by
  cases call <;> simp_all [isAbout, chooses]

end Call

open Call

theorem contains_subscribe (subscriptions : Subscriptions) (named id : UInt32) :
    (subscriptions.subscribe named).contains id = (named == id || subscriptions.contains id) := by
  cases subscriptions with
  | allBut excluded =>
      by_cases heq : named = id
      · simp [subscribe, contains, heq]
      · simp [subscribe, contains, heq, Ne.symm heq]
  | only included =>
      by_cases heq : named = id
      · simp [subscribe, contains, heq]
      · simp [subscribe, contains, heq, Ne.symm heq]

theorem contains_unsubscribe (subscriptions : Subscriptions) (named id : UInt32) :
    (subscriptions.unsubscribe named).contains id = (named != id && subscriptions.contains id) := by
  cases subscriptions with
  | allBut excluded =>
      by_cases heq : named = id
      · simp [unsubscribe, contains, heq]
      · simp [unsubscribe, contains, heq, Ne.symm heq]
  | only included =>
      by_cases heq : named = id
      · simp [unsubscribe, contains, heq]
      · simp [unsubscribe, contains, heq, Ne.symm heq]

/-- One call settles the instruments that it is about and no others. -/
theorem contains_apply (subscriptions : Subscriptions) (call : Call) (id : UInt32) :
    (subscriptions.apply call).contains id =
      if call.isAbout id then call.chooses else subscriptions.contains id := by
  cases call with
  | subscribe named =>
      show (subscriptions.subscribe named).contains id = if named == id then true else _
      rw [contains_subscribe]
      cases named == id <;> rfl
  | unsubscribe named =>
      show (subscriptions.unsubscribe named).contains id = if named == id then false else _
      rw [contains_unsubscribe, bne]
      cases named == id <;> rfl
  | subscribeAll => rfl
  | subscribeNone => rfl

theorem contains_run (start : Subscriptions) (calls : List Call) (id : UInt32) :
    (start.run calls).contains id = ((lastAbout? id calls).map chooses).getD (start.contains id) := by
  induction calls generalizing start with
  | nil => rfl
  | cons call calls ih =>
      show ((start.apply call).run calls).contains id = _
      rw [ih, contains_apply, lastAbout?_cons]
      cases lastAbout? id calls with
      | some last => rfl
      | none =>
          rw [Option.none_or]
          split <;> rfl

/-- **The last call about an instrument decides whether it is chosen.** Whatever was chosen at first, and
however calls about it, about others and about all follow each other: it is chosen if the last call about
it adds it or adds all, it is not if that call takes it out or takes all out, and it is as it was at first
if there is none. The calls that are not about it might as well not have been made. At first all are
chosen, or none, or, unless said otherwise, all. -/
theorem last_call_decides (start : Subscriptions) (calls : List Call) (id : UInt32) :
    ((start.run calls).contains id =
      match lastAbout? id calls with
      | some call => decide (call = .subscribe id ∨ call = .subscribeAll)
      | .none => start.contains id) ∧
    (start.run calls).contains id = (start.run (calls.filter (isAbout id))).contains id ∧
    all.contains id = true ∧ none.contains id = false ∧
      (default : Subscriptions).contains id = true := by
  have hlast : lastAbout? id (calls.filter (isAbout id)) = lastAbout? id calls := by
    unfold lastAbout?
    rw [List.filter_filter]
    simp only [Bool.and_self]
  refine ⟨?_, ?_, rfl, rfl, rfl⟩
  · rw [contains_run]
    cases hdecides : lastAbout? id calls with
    | none => rfl
    | some call => exact chooses_eq_decide (isAbout_of_lastAbout? hdecides)
  · rw [contains_run, contains_run, hlast]

/-- An instrument that was left out is not left out any more after all were taken out and added again. -/
example : (all.run [.unsubscribe 7, .subscribeNone, .subscribe 8, .subscribeAll]).contains 7 = true :=
  rfl

end MarketFeed.Subscriptions
