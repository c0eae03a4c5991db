import Mathlib.Data.List.Nodup
import Mathlib.Data.List.Perm.Subperm
import Mathlib.Data.List.TakeDrop
import Mathlib.Data.List.TakeWhile
import MarketFeed.Proofs.Results
import MarketFeed.SequenceTracker

/-! Every number of a stream is accounted for. Between the number a tracker started from and the one
it expects, each number has been accepted, or is missing, or was given up; the three counts add up,
so that the count of those given up fits its word as long as the stream does. -/

namespace MarketFeed

namespace Missing

theorem fill_nil (count next room : Nat) :
    fill count next room [] = (List.range' next (min count room), count - room) := by
  induction count generalizing next room with
  | zero => simp [fill]
  | succ count ih =>
      cases room with
      | zero => simp [fill]
      | succ room =>
          rw [fill, if_neg (by simp), ih, Nat.add_min_add_right, Nat.add_sub_add_right,
            List.range'_succ]

/-- Numbers from beyond all missing ones on are added behind them while there is room. -/
theorem skip_of_below {missing : List Nat} {next : Nat} (hbelow : ∀ n ∈ missing, n < next)
    (limit count : Nat) :
    skip missing limit next count =
      (missing ++ List.range' next (min count (limit - missing.length)),
        count - (limit - missing.length)) := by
  have htake : missing.takeWhile (· < next) = missing :=
    List.takeWhile_eq_self_iff.2 fun n hmem => by simpa using hbelow n hmem
  have hdrop : missing.dropWhile (· < next) = [] :=
    List.dropWhile_eq_nil_iff.2 fun n hmem => by simpa using hbelow n hmem
  rw [skip, List.span_eq_takeWhile_dropWhile, htake, hdrop]
  simp only [fill_nil]

end Missing

namespace SequenceTracker

/-- The numbers from `base` up to the one expected are accounted for: accepted once, missing, or
given up. -/
structure Accounts (tracker : SequenceTracker) (base expected : UInt64) (accepted : List UInt64) :
    Prop where
  accepted_nodup : accepted.Nodup
  accepted_range : ∀ n ∈ accepted, base ≤ n ∧ n < expected
  missing_ascending : tracker.missing.Pairwise (· < ·)
  missing_range : ∀ n ∈ tracker.missing, base.toNat ≤ n ∧ n < expected.toNat
  disjoint : ∀ n ∈ accepted, n.toNat ∉ tracker.missing
  capped : tracker.missing.length ≤ tracker.maxMissing
  counted : base.toNat + tracker.missing.length + tracker.untracked.toNat + accepted.length =
    expected.toNat

variable {tracker : SequenceTracker} {base expected n : UInt64} {accepted : List UInt64}

/-- While nothing has been given up, the missing numbers are those not accepted. -/
theorem Accounts.mem_missing_iff (h : tracker.Accounts base expected accepted)
    (hkept : tracker.untracked = 0) :
    n.toNat ∈ tracker.missing ↔ base ≤ n ∧ n < expected ∧ n ∉ accepted := by
  constructor
  · intro hmem
    obtain ⟨hbase, hexpected⟩ := h.missing_range _ hmem
    exact ⟨UInt64.le_iff_toNat_le.2 hbase, UInt64.lt_iff_toNat_lt.2 hexpected,
      fun haccepted => h.disjoint n haccepted hmem⟩
  · rintro ⟨hbase, hexpected, hnot⟩
    -- The missing and the accepted numbers are as many as the whole range, hence all of it.
    let all := tracker.missing ++ accepted.map (·.toNat)
    let range := List.range' base.toNat (expected.toNat - base.toNat)
    have hnodup : all.Nodup := by
      refine List.nodup_append.2 ⟨h.missing_ascending.imp Nat.ne_of_lt,
        h.accepted_nodup.map fun _ _ => UInt64.toNat_inj.1, ?_⟩
      rintro m hmem _ hmem' rfl
      obtain ⟨k, hk, rfl⟩ := List.mem_map.1 hmem'
      exact h.disjoint k hk hmem
    have hsubset : all ⊆ range := by
      intro m hmem
      rw [List.mem_range'_1]
      rcases List.mem_append.1 hmem with hmem | hmem
      · have := h.missing_range m hmem
        omega
      · obtain ⟨k, hk, rfl⟩ := List.mem_map.1 hmem
        have := h.accepted_range k hk
        rw [UInt64.le_iff_toNat_le, UInt64.lt_iff_toNat_lt] at this
        omega
    have hlength : range.length ≤ all.length := by
      have hcounted := h.counted
      rw [hkept, UInt64.toNat_zero] at hcounted
      simp only [range, all, List.length_range', List.length_append, List.length_map]
      omega
    have hperm : all.Perm range := (List.subperm_of_subset hnodup hsubset).perm_of_length_le hlength
    have hmem : n.toNat ∈ all := by
      rw [UInt64.le_iff_toNat_le] at hbase
      rw [UInt64.lt_iff_toNat_lt] at hexpected
      rw [hperm.mem_iff, List.mem_range'_1]
      omega
    refine (List.mem_append.1 hmem).resolve_right fun haccepted => ?_
    obtain ⟨k, hk, heq⟩ := List.mem_map.1 haccepted
    exact hnot (UInt64.toNat_inj.1 heq ▸ hk)

/-- A word that is not the largest has its successor behind it. -/
theorem toNat_add_one (hn : n.toNat ≠ UInt64.size - 1) : (n + 1).toNat = n.toNat + 1 := by
  have hlt := n.toNat_lt_size
  have hsize : UInt64.size = 18446744073709551616 := rfl
  rw [UInt64.toNat_add]
  simp only [UInt64.reduceToNat]
  omega

namespace Accounts

/-- The account is one of the missing numbers, their limit and the count of those given up. -/
theorem congr {other : SequenceTracker} (h : tracker.Accounts base expected accepted)
    (hmissing : other.missing = tracker.missing) (huntracked : other.untracked = tracker.untracked)
    (hlimit : other.maxMissing = tracker.maxMissing) : other.Accounts base expected accepted := by
  obtain ⟨hnodup, hrange, hascending, hmissing', hdisjoint, hcapped, hcounted⟩ := h
  rw [← hmissing] at hascending hmissing' hdisjoint hcapped hcounted
  rw [← hlimit] at hcapped
  rw [← huntracked] at hcounted
  exact ⟨hnodup, hrange, hascending, hmissing', hdisjoint, hcapped, hcounted⟩

theorem base_le (h : tracker.Accounts base expected accepted) : base.toNat ≤ expected.toNat := by
  have := h.counted
  omega

/-- The expected number, or the first of all, is accepted. -/
theorem advance (h : tracker.Accounts base n accepted) (hn : n.toNat ≠ UInt64.size - 1) :
    (tracker.advance n).Accounts base (n + 1) (n :: accepted) where
  accepted_nodup := by
    refine List.nodup_cons.2 ⟨fun hmem => ?_, h.accepted_nodup⟩
    exact UInt64.lt_irrefl n (h.accepted_range n hmem).2
  accepted_range m hmem := by
    have hbase := h.base_le
    rw [UInt64.le_iff_toNat_le, UInt64.lt_iff_toNat_lt, toNat_add_one hn]
    rcases List.mem_cons.1 hmem with rfl | hmem
    · omega
    · have := h.accepted_range m hmem
      rw [UInt64.le_iff_toNat_le, UInt64.lt_iff_toNat_lt] at this
      omega
  missing_ascending := h.missing_ascending
  missing_range m hmem := by
    have := h.missing_range m hmem
    rw [toNat_add_one hn]
    omega
  disjoint m hmem := by
    rcases List.mem_cons.1 hmem with rfl | hmem
    · intro hmissing
      exact Nat.lt_irrefl _ (h.missing_range _ hmissing).2
    · exact h.disjoint m hmem
  capped := h.capped
  counted := by
    have := h.counted
    rw [toNat_add_one hn, List.length_cons]
    show _ + tracker.missing.length + tracker.untracked.toNat + _ = _
    omega

/-- The numbers passed over, those that there is room for and the count of the others, make up the
way to a number further on. -/
theorem passOver (h : tracker.Accounts base expected accepted) (hlt : expected < n) :
    let count := n.toNat - expected.toNat
    let room := tracker.maxMissing - tracker.missing.length
    ∃ untracked,
      addChecked tracker.untracked (UInt64.ofNat (count - room)) = .ok untracked ∧
        { tracker with
          missing := tracker.missing ++ List.range' expected.toNat (min count room)
          untracked }.Accounts base n accepted := by
  intro count room
  have hlt : expected.toNat < n.toNat := UInt64.lt_iff_toNat_lt.1 hlt
  have hn := n.toNat_lt_size
  have hcounted := h.counted
  have hcapped := h.capped
  have hleft : (UInt64.ofNat (count - room)).toNat = count - room :=
    UInt64.toNat_ofNat_of_lt' (by omega)
  have hsum : tracker.untracked.toNat + (UInt64.ofNat (count - room)).toNat < UInt64.size := by
    omega
  refine ⟨tracker.untracked + UInt64.ofNat (count - room), by rw [addChecked, if_pos hsum], ?_⟩
  constructor
  case accepted_nodup => exact h.accepted_nodup
  case accepted_range =>
    intro m hmem
    have := h.accepted_range m hmem
    rw [UInt64.lt_iff_toNat_lt] at this ⊢
    exact ⟨this.1, by omega⟩
  case missing_ascending =>
    apply List.pairwise_append.2
    refine ⟨h.missing_ascending, List.pairwise_lt_range', ?_⟩
    intro m hmem k hk
    have := (h.missing_range m hmem).2
    have := (List.mem_range'_1.1 hk).1
    omega
  case missing_range =>
    intro m hmem
    rcases List.mem_append.1 hmem with hmem | hmem
    · have := h.missing_range m hmem
      omega
    · have := List.mem_range'_1.1 hmem
      have := h.base_le
      omega
  case disjoint =>
    intro m hmem hmissing
    rcases List.mem_append.1 hmissing with hmissing | hmissing
    · exact h.disjoint m hmem hmissing
    · have := (h.accepted_range m hmem).2
      have := (List.mem_range'_1.1 hmissing).1
      rw [UInt64.lt_iff_toNat_lt] at *
      omega
  case capped =>
    simp only [List.length_append, List.length_range']
    omega
  case counted =>
    rw [UInt64.toNat_add, Nat.mod_eq_of_lt hsum, hleft]
    simp only [List.length_append, List.length_range']
    omega

/-- A missing number is accepted. -/
theorem recover (h : tracker.Accounts base expected accepted) (hmem : n.toNat ∈ tracker.missing) :
    { tracker with missing := tracker.missing.erase n.toNat }.Accounts base expected
      (n :: accepted) := by
  have hnodup : tracker.missing.Nodup := h.missing_ascending.imp Nat.ne_of_lt
  have hlength := List.length_erase_of_mem hmem
  have hpos := List.length_pos_of_mem hmem
  have hcounted := h.counted
  have hcapped := h.capped
  constructor
  case accepted_nodup =>
    exact List.nodup_cons.2 ⟨fun haccepted => h.disjoint n haccepted hmem, h.accepted_nodup⟩
  case accepted_range =>
    intro m hm
    rcases List.mem_cons.1 hm with rfl | hm
    · have := h.missing_range _ hmem
      exact ⟨UInt64.le_iff_toNat_le.2 this.1, UInt64.lt_iff_toNat_lt.2 this.2⟩
    · exact h.accepted_range m hm
  case missing_ascending => exact h.missing_ascending.sublist List.erase_sublist
  case missing_range =>
    intro m hm
    exact h.missing_range m (List.mem_of_mem_erase hm)
  case disjoint =>
    intro m hm hmissing
    rcases List.mem_cons.1 hm with rfl | hm
    · exact hnodup.not_mem_erase hmissing
    · exact h.disjoint m hm (List.mem_of_mem_erase hmissing)
  case capped =>
    simp only
    omega
  case counted =>
    simp only [List.length_cons]
    omega

/-- A tracker whose numbers are accounted for takes any number but the largest. -/
theorem receive (h : tracker.Accounts base expected accepted)
    (hexpected : tracker.expected = some expected) (hn : n.toNat ≠ UInt64.size - 1) :
    ∃ outcome after next, tracker.receive n = .ok (outcome, after) ∧
      after.expected = some next ∧ after.maxMissing = tracker.maxMissing ∧
      after.Accounts base next (if outcome = .duplicate then accepted else n :: accepted) := by
  unfold SequenceTracker.receive
  rw [hexpected]
  simp only
  by_cases heq : n = expected
  · subst heq
    rw [if_pos rfl]
    exact ⟨_, _, n + 1, rfl, rfl, rfl, h.advance hn⟩
  rw [if_neg heq]
  by_cases hlt : expected < n
  · obtain ⟨untracked, hchecked, hpassed⟩ := h.passOver hlt
    rw [if_pos hlt, Missing.skip_of_below fun m hmem => (h.missing_range m hmem).2]
    simp only [hchecked, Except.map]
    exact ⟨_, _, n + 1, rfl, rfl, rfl, (hpassed.advance hn).congr rfl rfl rfl⟩
  rw [if_neg hlt]
  by_cases hmem : n.toNat ∈ tracker.missing
  · rw [if_pos hmem]
    exact ⟨_, _, expected, rfl, rfl, rfl, (h.recover hmem).congr rfl rfl rfl⟩
  · rw [if_neg hmem]
    exact ⟨_, _, expected, rfl, hexpected, rfl, h⟩

/-- Nothing has to be accounted for where a stream starts. -/
theorem start (hmissing : tracker.missing = []) (huntracked : tracker.untracked = 0) :
    tracker.Accounts base base [] where
  accepted_nodup := List.nodup_nil
  accepted_range _ hmem := by cases hmem
  missing_ascending := by rw [hmissing]; exact List.Pairwise.nil
  missing_range _ hmem := by rw [hmissing] at hmem; cases hmem
  disjoint _ hmem := by cases hmem
  capped := by rw [hmissing]; exact Nat.zero_le _
  counted := by rw [hmissing, huntracked]; rfl

end Accounts

/-- All that a received number can do. -/
theorem receive_cases {after : SequenceTracker} {outcome : SequenceOutcome}
    (hreceive : tracker.receive n = .ok (outcome, after)) :
    ((∀ expected, tracker.expected = some expected → n = expected) ∧ outcome = .inOrder ∧
      after = tracker.advance n) ∨
    (∃ expected untracked, tracker.expected = some expected ∧ expected < n ∧
      outcome = .gap expected (n - 1) ∧
      let passed := Missing.skip tracker.missing tracker.maxMissing expected.toNat
        (n.toNat - expected.toNat)
      addChecked tracker.untracked (UInt64.ofNat passed.2) = .ok untracked ∧
        after = { tracker.advance n with
          missing := passed.1, untracked, gapEvents := tracker.gapEvents + 1 }) ∨
    (∃ expected, tracker.expected = some expected ∧ n < expected ∧
      ((n.toNat ∈ tracker.missing ∧ outcome = .recovered ∧
        after = { tracker with missing := tracker.missing.erase n.toNat }) ∨
      (n.toNat ∉ tracker.missing ∧ outcome = .duplicate ∧ after = tracker))) := by
  unfold receive at hreceive
  cases hexpected : tracker.expected with
  | none =>
      rw [hexpected] at hreceive
      cases hreceive
      exact Or.inl ⟨nofun, rfl, rfl⟩
  | some expected =>
      rw [hexpected] at hreceive
      simp only at hreceive
      split at hreceive
      · rename_i heq
        cases hreceive
        exact Or.inl ⟨fun _ hsome => heq.trans (Option.some.inj hsome), rfl, rfl⟩
      rename_i hne
      split at hreceive
      · rename_i hlt
        obtain ⟨untracked, hchecked, hanswer⟩ := exists_of_map_ok hreceive
        obtain ⟨houtcome, hafter⟩ := Prod.mk.inj hanswer
        exact Or.inr (Or.inl ⟨expected, untracked, rfl, hlt, houtcome.symm, hchecked, hafter.symm⟩)
      rename_i hle
      have hbefore : n < expected := UInt64.lt_of_le_of_ne (UInt64.not_lt.1 hle) hne
      refine Or.inr (Or.inr ⟨expected, rfl, hbefore, ?_⟩)
      split at hreceive
      · rename_i hmem
        cases hreceive
        exact Or.inl ⟨hmem, rfl, rfl⟩
      · rename_i hmem
        cases hreceive
        exact Or.inr ⟨hmem, rfl, rfl⟩

/-- A duplicate lies before the expected number and is not missing, and nothing comes of it. -/
theorem receive_duplicate_cases {after : SequenceTracker}
    (hreceive : tracker.receive n = .ok (.duplicate, after)) :
    ∃ expected, tracker.expected = some expected ∧ n < expected ∧ n.toNat ∉ tracker.missing ∧
      after = tracker := by
  rcases receive_cases hreceive with ⟨-, houtcome, -⟩ | ⟨_, _, -, -, houtcome, -⟩ |
    ⟨expected, hexpected, hbefore, ⟨-, houtcome, -⟩ | ⟨hmem, -, hsame⟩⟩
  · cases houtcome
  · cases houtcome
  · cases houtcome
  · exact ⟨expected, hexpected, hbefore, hmem, hsame⟩

theorem receive_duplicate {after : SequenceTracker}
    (hreceive : tracker.receive n = .ok (.duplicate, after)) : after = tracker := by
  obtain ⟨expected, -, -, -, hsame⟩ := receive_duplicate_cases hreceive
  exact hsame

/-! ### Runs

A ledger keeps what the tracker itself forgets: where it started and what it accepted. -/

/-- What a tracker is told: a number that has come, or the number to start over from. -/
inductive Input where
  | receive (n : UInt64)
  | reset (next : UInt64)

/-- A tracker with its history since it last started over: the number it started from, if there is
one yet, and the numbers it has not answered as duplicates, the last one first. -/
structure Ledger where
  tracker : SequenceTracker
  base : Option UInt64
  accepted : List UInt64

namespace Ledger

/-- The ledger of a tracker that starts from the first number it sees. -/
def unsynchronised (maxMissing : Nat) : Ledger := ⟨.unsynchronised maxMissing, none, []⟩

/-- The ledger of a tracker that expects `next` first. -/
def startingAt (next : UInt64) (maxMissing : Nat) : Ledger :=
  ⟨.startingAt next maxMissing, some next, []⟩

def after (ledger : Ledger) : Input → Except CountError Ledger
  | .receive n => do
      let (outcome, tracker) ← ledger.tracker.receive n
      let accepted := if outcome = .duplicate then ledger.accepted else n :: ledger.accepted
      pure { tracker, base := some (ledger.base.getD n), accepted }
  | .reset next => pure { tracker := ledger.tracker.reset next, base := some next, accepted := [] }

def run (ledger : Ledger) : List Input → Except CountError Ledger
  | [] => pure ledger
  | input :: inputs => do (← ledger.after input).run inputs

structure Sound (maxMissing : Nat) (ledger : Ledger) : Prop where
  limit : ledger.tracker.maxMissing = maxMissing
  unstarted : ledger.base = none →
    ledger.tracker.expected = none ∧ ledger.tracker.missing = [] ∧ ledger.tracker.untracked = 0 ∧
      ledger.accepted = []
  started : ∀ base, ledger.base = some base → ∃ expected,
    ledger.tracker.expected = some expected ∧ ledger.tracker.Accounts base expected ledger.accepted

variable {maxMissing : Nat} {ledger : Ledger}

theorem sound_unsynchronised : (unsynchronised maxMissing).Sound maxMissing :=
  ⟨rfl, fun _ => ⟨rfl, rfl, rfl, rfl⟩, nofun⟩

theorem sound_startingAt (next : UInt64) : (startingAt next maxMissing).Sound maxMissing := by
  refine ⟨rfl, nofun, fun base hbase => ?_⟩
  cases hbase
  exact ⟨next, rfl, Accounts.start rfl rfl⟩

theorem after_receive {tracker : SequenceTracker} {outcome : SequenceOutcome}
    (hreceive : ledger.tracker.receive n = .ok (outcome, tracker)) :
    ledger.after (.receive n) = .ok ⟨tracker, some (ledger.base.getD n),
      if outcome = .duplicate then ledger.accepted else n :: ledger.accepted⟩ := by
  rw [after, hreceive]
  rfl

theorem Sound.after (h : ledger.Sound maxMissing) {input : Input}
    (hinput : ∀ n, input = .receive n → n.toNat ≠ UInt64.size - 1) :
    ∃ next, ledger.after input = .ok next ∧ next.Sound maxMissing := by
  cases input with
  | reset next =>
      refine ⟨_, rfl, h.limit, nofun, fun base hbase => ?_⟩
      cases hbase
      exact ⟨next, rfl, Accounts.start rfl rfl⟩
  | receive n =>
      have hn := hinput n rfl
      cases hbase : ledger.base with
      | none =>
          obtain ⟨hexpected, hmissing, huntracked, haccepted⟩ := h.unstarted hbase
          have hreceive : ledger.tracker.receive n = .ok (.inOrder, ledger.tracker.advance n) := by
            unfold SequenceTracker.receive
            rw [hexpected]
          refine ⟨⟨ledger.tracker.advance n, some n, [n]⟩, ?_, h.limit, nofun,
            fun base hsome => ?_⟩
          · rw [after_receive hreceive, hbase, haccepted]
            rfl
          · cases hsome
            exact ⟨n + 1, rfl, (Accounts.start hmissing huntracked).advance hn⟩
      | some base =>
          obtain ⟨expected, hexpected, haccounts⟩ := h.started base hbase
          obtain ⟨outcome, tracker, next, hreceive, hnext, hlimit, hafter⟩ :=
            haccounts.receive hexpected hn
          refine ⟨⟨tracker, some base, if outcome = .duplicate then ledger.accepted else
            n :: ledger.accepted⟩, ?_, hlimit.trans h.limit, nofun,
            fun base' hsome => ?_⟩
          · rw [after_receive hreceive, hbase]
            rfl
          · cases hsome
            exact ⟨next, hnext, hafter⟩

theorem Sound.run (h : ledger.Sound maxMissing) (inputs : List Input)
    (hinputs : ∀ n, .receive n ∈ inputs → n.toNat ≠ UInt64.size - 1) :
    ∃ final, ledger.run inputs = .ok final ∧ final.Sound maxMissing := by
  induction inputs generalizing ledger with
  | nil => exact ⟨ledger, rfl, h⟩
  | cons input inputs ih =>
      obtain ⟨next, hnext, hsound⟩ := h.after fun n heq => hinputs n (heq ▸ List.mem_cons_self)
      obtain ⟨final, hfinal, hsound'⟩ := ih hsound fun n hmem => hinputs n (List.mem_cons_of_mem _ hmem)
      refine ⟨final, ?_, hsound'⟩
      rw [Ledger.run, hnext]
      exact hfinal

end Ledger

/-- **Every number is accounted for.** However numbers but the largest and fresh starts follow each
other, the tracker goes on, and once it has a start every number from there up to the expected one
has been accepted once, or is missing, or was given up; nothing missing has been accepted, no more is
missing than may be, and the counts add up. While none was given up the missing numbers are exactly
those not accepted. A duplicate changes nothing. -/
theorem run_accounts (maxMissing : Nat) (start : Ledger)
    (hstart : start = .unsynchronised maxMissing ∨ ∃ next, start = .startingAt next maxMissing)
    (inputs : List Input) (hinputs : ∀ n, .receive n ∈ inputs → n.toNat ≠ UInt64.size - 1) :
    ∃ final, start.run inputs = .ok final ∧ final.tracker.maxMissing = maxMissing ∧
      (∀ base, final.base = some base → ∃ expected, final.tracker.expected = some expected ∧
        final.tracker.Accounts base expected final.accepted ∧
        (final.tracker.untracked = 0 → ∀ n : UInt64,
          n.toNat ∈ final.tracker.missing ↔ base ≤ n ∧ n < expected ∧ n ∉ final.accepted)) ∧
      ∀ n after, final.tracker.receive n = .ok (.duplicate, after) → after = final.tracker := by
  have hsound : start.Sound maxMissing := by
    rcases hstart with rfl | ⟨next, rfl⟩
    · exact Ledger.sound_unsynchronised
    · exact Ledger.sound_startingAt next
  obtain ⟨final, hfinal, hsound⟩ := hsound.run inputs hinputs
  refine ⟨final, hfinal, hsound.limit, fun base hbase => ?_, fun n after => receive_duplicate⟩
  obtain ⟨expected, hexpected, haccounts⟩ := hsound.started base hbase
  exact ⟨expected, hexpected, haccounts, fun hkept n => haccounts.mem_missing_iff hkept⟩

/-- A gap cut short by the limit, a late number, its repetition, and a gap that finds room for one
number only. -/
def cappedFeed : List Input := [.receive 9, .receive 6, .receive 6, .receive 12]

theorem run_accounts_cappedFeed :
    (∀ n, .receive n ∈ cappedFeed → n.toNat ≠ UInt64.size - 1) ∧
      ∃ final, (Ledger.startingAt 5 2).run cappedFeed = .ok final ∧
        final.tracker.Accounts 5 13 [12, 6, 9] ∧ final.tracker.missing = [5, 10] ∧
        final.tracker.untracked = 3 := by
  have hinputs (n : UInt64) (hmem : .receive n ∈ cappedFeed) : n.toNat ≠ UInt64.size - 1 := by
    simp only [cappedFeed, List.mem_cons, Input.receive.injEq, List.not_mem_nil, or_false] at hmem
    rcases hmem with rfl | rfl | rfl | rfl <;> decide
  obtain ⟨final, hrun, -, haccounts, -⟩ :=
    run_accounts 2 (.startingAt 5 2) (Or.inr ⟨5, rfl⟩) cappedFeed hinputs
  have hfinal : (Ledger.startingAt 5 2).run cappedFeed =
      .ok ⟨⟨some 13, some 12, [5, 10], 2, 3, 2⟩, some 5, [12, 6, 9]⟩ := rfl
  rw [hrun] at hfinal
  cases hfinal
  obtain ⟨expected, hexpected, haccount, -⟩ := haccounts 5 rfl
  cases hexpected
  exact ⟨hinputs, _, hrun, haccount, rfl, rfl⟩

end SequenceTracker

end MarketFeed
