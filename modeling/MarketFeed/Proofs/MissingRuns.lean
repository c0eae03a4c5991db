import MarketFeed.GapFill
import MarketFeed.Proofs.SequenceAccounting

/-! The earliest run of missing numbers. However numbers come, those that are missing are in order, and
the largest word is not among them, since only numbers before one that has come are passed over. Hence
the run found first starts at the smallest of them and goes on as far as it may, and the number behind it
is a word still: looking for the run, no sum and no difference passes its word. -/

namespace MarketFeed

namespace Missing

/-- Whether these can be the missing numbers of a stream: they ascend, and none is the largest word. -/
structure WellFormed (missing : List Nat) : Prop where
  ascending : missing.Pairwise (· < ·)
  below : ∀ n ∈ missing, n + 1 < UInt64.size

variable {missing later rest : List Nat} {limit next count first last : Nat}

/-- Numbers are filled in among later ones in order, and only those that were to be filled in. -/
theorem fill_spec (count room : Nat) (hascending : later.Pairwise (· < ·))
    (hlater : ∀ n ∈ later, next ≤ n) :
    (fill count next room later).1.Pairwise (· < ·) ∧
      ∀ n ∈ (fill count next room later).1, next ≤ n ∧ (n ∈ later ∨ n < next + count) := by
  fun_induction fill count next room later with
  | case1 next room later => exact ⟨hascending, fun n hn => ⟨hlater n hn, Or.inl hn⟩⟩
  | case2 count next later => exact ⟨hascending, fun n hn => ⟨hlater n hn, Or.inl hn⟩⟩
  | case3 count next room later hhead filled left hfill ih =>
      obtain ⟨behind, rfl⟩ := List.head?_eq_some_iff.1 hhead
      obtain ⟨hbehind, htail⟩ := List.pairwise_cons.1 hascending
      rw [hfill] at ih
      obtain ⟨hfilled, hmem⟩ := ih htail fun n hn => hbehind n hn
      refine ⟨List.pairwise_cons.2 ⟨fun n hn => (hmem n hn).1, hfilled⟩, fun n hn => ?_⟩
      rcases List.mem_cons.1 hn with rfl | hn
      · exact ⟨Nat.le_refl _, Or.inl List.mem_cons_self⟩
      · obtain ⟨hle, hfrom⟩ := hmem n hn
        refine ⟨by omega, hfrom.imp (List.mem_cons_of_mem _) fun hlt => by omega⟩
  | case4 count next room later hhead filled left hfill ih =>
      have hbehind : ∀ n ∈ later, next + 1 ≤ n := by
        intro n hn
        refine Nat.lt_of_le_of_ne (hlater n hn) ?_
        rintro rfl
        obtain ⟨first, behind, rfl⟩ := List.exists_cons_of_ne_nil (List.ne_nil_of_mem hn)
        rcases List.mem_cons.1 hn with rfl | hn
        · exact hhead rfl
        · have hfirst := hlater first List.mem_cons_self
          have hlt := (List.pairwise_cons.1 hascending).1 next hn
          omega
      rw [hfill] at ih
      obtain ⟨hfilled, hmem⟩ := ih hascending hbehind
      refine ⟨List.pairwise_cons.2 ⟨fun n hn => (hmem n hn).1, hfilled⟩, fun n hn => ?_⟩
      rcases List.mem_cons.1 hn with rfl | hn
      · exact ⟨Nat.le_refl _, Or.inr (by omega)⟩
      · obtain ⟨hle, hfrom⟩ := hmem n hn
        exact ⟨by omega, hfrom.imp_right fun hlt => by omega⟩

theorem le_of_mem_dropWhile (hascending : missing.Pairwise (· < ·)) :
    ∀ n ∈ missing.dropWhile (· < next), next ≤ n := by
  induction missing with
  | nil => nofun
  | cons first rest ih =>
      obtain ⟨hbehind, hrest⟩ := List.pairwise_cons.1 hascending
      rw [List.dropWhile_cons]
      split
      · exact ih hrest
      · rename_i hfirst
        rw [decide_eq_true_iff] at hfirst
        intro n hn
        rcases List.mem_cons.1 hn with rfl | hn
        · omega
        · have := hbehind n hn
          omega

namespace WellFormed

theorem nil : WellFormed [] := ⟨List.Pairwise.nil, nofun⟩

theorem erase (h : WellFormed missing) (n : Nat) : WellFormed (missing.erase n) :=
  ⟨h.ascending.sublist List.erase_sublist, fun m hm => h.below m (List.mem_of_mem_erase hm)⟩

theorem tail (h : WellFormed (first :: rest)) : WellFormed rest :=
  ⟨h.ascending.of_cons, fun n hn => h.below n (List.mem_cons_of_mem _ hn)⟩

/-- Numbers are passed over before and among missing ones as well as behind them. -/
theorem skip (h : WellFormed missing) (limit : Nat) (hcount : next + count < UInt64.size) :
    WellFormed (Missing.skip missing limit next count).1 := by
  have hmem (n : Nat) (hn : n ∈ missing.dropWhile (· < next)) : n ∈ missing :=
    (List.dropWhile_sublist _).subset hn
  have hlater : ∀ n ∈ missing.dropWhile (· < next), next ≤ n := le_of_mem_dropWhile h.ascending
  obtain ⟨hfilled, hfrom⟩ := fill_spec count (limit - missing.length)
    (h.ascending.sublist (List.dropWhile_sublist _)) hlater
  rw [Missing.skip, List.span_eq_takeWhile_dropWhile]
  constructor
  case ascending =>
    refine List.pairwise_append.2
      ⟨h.ascending.sublist (List.takeWhile_sublist _), hfilled, fun m hm n hn => ?_⟩
    have hm : m < next := by simpa using List.mem_takeWhile_imp hm
    exact Nat.lt_of_lt_of_le hm (hfrom n hn).1
  case below =>
    intro n hn
    rcases List.mem_append.1 hn with hn | hn
    · exact h.below n ((List.takeWhile_sublist _).subset hn)
    · rcases (hfrom n hn).2 with hold | hnew
      · exact h.below n (hmem n hold)
      · omega

end WellFormed

theorem runEnd_spec (last room : Nat) (rest : List Nat) :
    last ≤ runEnd last room rest ∧ runEnd last room rest ≤ last + room ∧
      ∀ n, last ≤ n → n ≤ runEnd last room rest → n ∈ last :: rest := by
  have hends (n : Nat) (hlast : last ≤ n) (hn : n ≤ last) : n ∈ last :: rest :=
    List.mem_cons.2 (Or.inl (Nat.le_antisymm hn hlast))
  fun_induction runEnd last room rest with
  | case1 last rest => exact ⟨Nat.le_refl _, Nat.le_refl _, hends⟩
  | case2 last room => exact ⟨Nat.le_refl _, Nat.le_add_right _ _, hends⟩
  | case3 last room rest ih =>
      obtain ⟨hle, hroom, hmem⟩ := ih fun n hnext hn => List.mem_cons.2 (Or.inl (by omega))
      refine ⟨by omega, by omega, fun n hlast hn => ?_⟩
      by_cases heq : n = last
      · exact List.mem_cons.2 (Or.inl heq)
      · exact List.mem_cons_of_mem _ (hmem n (by omega) hn)
  | case4 last room next rest hnext => exact ⟨Nat.le_refl _, Nat.le_add_right _ _, hends⟩

/-- A run ends where there is no more room, or before a number that is not missing. -/
theorem runEnd_maximal (last room : Nat) (hascending : (last :: rest).Pairwise (· < ·)) :
    runEnd last room rest = last + room ∨ runEnd last room rest + 1 ∉ last :: rest := by
  fun_induction runEnd last room rest with
  | case1 last rest => exact Or.inl rfl
  | case2 last room => exact Or.inr (by simp)
  | case3 last room rest ih =>
      obtain ⟨hbehind, hrest⟩ := List.pairwise_cons.1 hascending
      refine (ih hrest).imp (fun hfull => by omega) fun hfree hmem => ?_
      have hend := (runEnd_spec (last + 1) room rest).1
      rcases List.mem_cons.1 hmem with heq | hmem
      · omega
      · exact hfree hmem
  | case4 last room next rest hnext =>
      obtain ⟨hbehind, hrest⟩ := List.pairwise_cons.1 hascending
      refine Or.inr fun hmem => ?_
      have hlt := hbehind next List.mem_cons_self
      rcases List.mem_cons.1 hmem with heq | hmem
      · omega
      rcases List.mem_cons.1 hmem with heq | hmem
      · exact hnext heq.symm
      · -- The numbers behind the next one are larger still.
        have := (List.pairwise_cons.1 hrest).1 (last + 1) hmem
        omega

/-- The earliest run starts at the smallest missing number, has no gaps and is as short as it must be. -/
theorem firstRun?_spec (hascending : missing.Pairwise (· < ·))
    (hrun : firstRun? missing limit = some (first, last)) :
    first ≤ last ∧ last - first + 1 ≤ max limit 1 ∧ (∀ n, first ≤ n → n ≤ last → n ∈ missing) ∧
      ∀ n ∈ missing, first ≤ n := by
  cases missing with
  | nil => cases hrun
  | cons start rest =>
      cases hrun
      obtain ⟨hle, hroom, hmem⟩ := runEnd_spec first (max limit 1 - 1) rest
      refine ⟨hle, by omega, hmem, fun n hn => ?_⟩
      rcases List.mem_cons.1 hn with rfl | hn
      · exact Nat.le_refl _
      · exact Nat.le_of_lt ((List.pairwise_cons.1 hascending).1 n hn)

/-- And it is no shorter than it must be. -/
theorem firstRun?_maximal (hascending : missing.Pairwise (· < ·))
    (hrun : firstRun? missing limit = some (first, last)) :
    last - first + 1 = max limit 1 ∨ last + 1 ∉ missing := by
  cases missing with
  | nil => cases hrun
  | cons start rest =>
      cases hrun
      refine (runEnd_maximal first (max limit 1 - 1) hascending).imp_left fun hfull => ?_
      omega

/-- The difference of two words, if it is one. -/
def difference? (a b : UInt64) : Option UInt64 := if b ≤ a then some (a - b) else none

/-- The end of the run from `first` on that `last` is in, looked for in words, number after number, and
cut to so many: there is none if a sum or a difference on the way is no word. -/
def walk? (most first last : UInt64) : List UInt64 → Option UInt64
  | [] => some last
  | n :: rest => do
      let next ← (addChecked last 1).toOption
      if n ≠ next then some last
      else
        let passed ← difference? n first
        if most ≤ passed then some last else walk? most first n rest

/-- The earliest run of these numbers, if there are any, looked for in words. -/
def walkRun? (limit : UInt64) : List UInt64 → Option (Option (UInt64 × UInt64))
  | [] => some none
  | first :: rest =>
      (walk? (if limit < 1 then 1 else limit) first first rest).map fun last => some (first, last)

theorem difference?_of_le {a b : UInt64} (hle : b.toNat ≤ a.toNat) :
    difference? a b = some (a - b) ∧ (a - b).toNat = a.toNat - b.toNat := by
  have hle : b ≤ a := UInt64.le_iff_toNat_le.2 hle
  exact ⟨if_pos hle, UInt64.toNat_sub_of_le a b hle⟩

/-- No sum and no difference on the way fails. -/
theorem walk?_eq {most first last : UInt64} {rest : List Nat}
    (hproper : WellFormed (last.toNat :: rest)) (hfirst : first.toNat ≤ last.toNat)
    (hroom : last.toNat - first.toNat < most.toNat) :
    walk? most first last (rest.map UInt64.ofNat) =
      some (UInt64.ofNat
        (runEnd last.toNat (most.toNat - 1 - (last.toNat - first.toNat)) rest)) := by
  induction rest generalizing last with
  | nil =>
      rw [List.map_nil, walk?]
      cases most.toNat - 1 - (last.toNat - first.toNat) <;>
        exact congrArg some UInt64.ofNat_toNat.symm
  | cons n rest ih =>
      have hword : (UInt64.ofNat n).toNat = n :=
        UInt64.toNat_ofNat_of_lt' (Nat.lt_of_succ_lt (hproper.below n (by simp)))
      have hnext : last.toNat + 1 < UInt64.size := hproper.below _ List.mem_cons_self
      have hchecked : addChecked last 1 = .ok (last + 1) := if_pos hnext
      have hsum : (last + 1).toNat = last.toNat + 1 := toNat_of_addChecked hchecked
      rw [List.map_cons, walk?, hchecked]
      simp only [Except.toOption, Option.bind_eq_bind, Option.bind_some]
      by_cases heq : n = last.toNat + 1
      · have heq' : UInt64.ofNat n = last + 1 := UInt64.toNat_inj.1 (by rw [hword, hsum, heq])
        obtain ⟨hpassed, hcount⟩ := difference?_of_le (a := UInt64.ofNat n) (b := first) (by omega)
        rw [if_neg (not_not_intro heq'), hpassed, Option.bind_some]
        split
        · rename_i hfull
          rw [UInt64.le_iff_toNat_le, hcount, hword] at hfull
          have hnone : most.toNat - 1 - (last.toNat - first.toNat) = 0 := by omega
          rw [hnone, runEnd, UInt64.ofNat_toNat]
        · rename_i hfree
          rw [UInt64.le_iff_toNat_le, hcount, hword] at hfree
          have hmore : most.toNat - 1 - (last.toNat - first.toNat) =
              most.toNat - 1 - (n - first.toNat) + 1 := by omega
          rw [hmore, runEnd, if_pos heq]
          have hbehind : WellFormed ((UInt64.ofNat n).toNat :: rest) := by
            rw [hword]
            exact hproper.tail
          have hlater := ih hbehind (by omega) (by omega)
          rwa [hword] at hlater
      · have hne : UInt64.ofNat n ≠ last + 1 := fun heq' => heq (by rw [← hword, heq', hsum])
        rw [if_pos hne]
        cases most.toNat - 1 - (last.toNat - first.toNat) with
        | zero => rw [runEnd, UInt64.ofNat_toNat]
        | succ room => rw [runEnd, if_neg heq, UInt64.ofNat_toNat]

/-- The search in words finds what the search among all numbers finds. -/
theorem walkRun?_eq (h : WellFormed missing) (limit : UInt64) :
    walkRun? limit (missing.map UInt64.ofNat) =
      some ((firstRun? missing limit.toNat).map fun (first, last) =>
        (UInt64.ofNat first, UInt64.ofNat last)) := by
  cases missing with
  | nil => rfl
  | cons first rest =>
      have hmost : (if limit < 1 then 1 else limit).toNat = max limit.toNat 1 := by
        have hone : (1 : UInt64).toNat = 1 := rfl
        split <;> rename_i hlimit <;> rw [UInt64.lt_iff_toNat_lt, hone] at hlimit <;> omega
      have hword : (UInt64.ofNat first).toNat = first :=
        UInt64.toNat_ofNat_of_lt' (Nat.lt_of_succ_lt (h.below first List.mem_cons_self))
      rw [List.map_cons, walkRun?, walk?_eq (by rwa [hword]) (Nat.le_refl _) (by omega), hmost, hword,
        Nat.sub_self]
      rfl

end Missing

/-! ### The missing numbers of a tracker -/

namespace SequenceTracker

variable {tracker after : SequenceTracker} {base expected n first last limit : UInt64}
  {accepted : List UInt64} {outcome : SequenceOutcome}

/-- Whether a request is for the earliest numbers that are missing, and for no more than so many. -/
structure EarliestRun (tracker : SequenceTracker) (limit : UInt64) (request : GapRequest) : Prop where
  nonempty : request.first ≤ request.last
  missing : ∀ n, request.first ≤ n → n ≤ request.last → tracker.isMissing n
  earliest : ∀ n, tracker.isMissing n → request.first ≤ n
  length_le : request.last.toNat - request.first.toNat + 1 ≤ max limit.toNat 1

/-- Whether the earliest missing numbers go from `first` to `last`, and stop there only because they are
as many as may be or because the next number is not missing. The next number is a word in any case. -/
structure MaximalRun (tracker : SequenceTracker) (limit first last : UInt64) : Prop extends
    tracker.EarliestRun limit ⟨first, last⟩ where
  next_lt : last.toNat + 1 < UInt64.size
  maximal : last.toNat - first.toNat + 1 = max limit.toNat 1 ∨ tracker.isMissing (last + 1) = false

theorem isMissing_iff : tracker.isMissing n = true ↔ n.toNat ∈ tracker.missing :=
  List.contains_iff_mem

/-- The largest word is not missing, so the ends of the run are words. -/
theorem firstRun?_of_firstMissingRange? (h : Missing.WellFormed tracker.missing)
    (hrange : tracker.firstMissingRange? limit = some (first, last)) :
    Missing.firstRun? tracker.missing limit.toNat = some (first.toNat, last.toNat) := by
  obtain ⟨⟨start, stop⟩, hrun, hwords⟩ := Option.map_eq_some_iff.1 hrange
  obtain ⟨hle, -, hmem, -⟩ := Missing.firstRun?_spec h.ascending hrun
  have hword (m : Nat) (hm : m ∈ tracker.missing) : (UInt64.ofNat m).toNat = m :=
    UInt64.toNat_ofNat_of_lt' (Nat.lt_of_succ_lt (h.below m hm))
  obtain ⟨rfl, rfl⟩ := Prod.mk.inj hwords
  rw [hrun, hword start (hmem start (Nat.le_refl _) hle), hword stop (hmem stop hle (Nat.le_refl _))]

theorem earliestRun (h : Missing.WellFormed tracker.missing) {request : GapRequest}
    (hrange : tracker.firstMissingRange? limit = some (request.first, request.last)) :
    tracker.EarliestRun limit request := by
  obtain ⟨hle, hlength, hmem, hearliest⟩ :=
    Missing.firstRun?_spec h.ascending (firstRun?_of_firstMissingRange? h hrange)
  constructor
  case nonempty => exact UInt64.le_iff_toNat_le.2 hle
  case missing =>
    intro n hn hn'
    rw [UInt64.le_iff_toNat_le] at hn hn'
    exact isMissing_iff.2 (hmem n.toNat hn hn')
  case earliest =>
    intro n hn
    rw [UInt64.le_iff_toNat_le]
    exact hearliest n.toNat (isMissing_iff.1 hn)
  case length_le => exact hlength

theorem maximalRun (h : Missing.WellFormed tracker.missing)
    (hrange : tracker.firstMissingRange? limit = some (first, last)) :
    tracker.MaximalRun limit first last := by
  have hrun := firstRun?_of_firstMissingRange? h hrange
  obtain ⟨hle, -, hmem, -⟩ := Missing.firstRun?_spec h.ascending hrun
  have hnext : last.toNat + 1 < UInt64.size := h.below _ (hmem last.toNat hle (Nat.le_refl _))
  have hsum : (last + 1).toNat = last.toNat + 1 := toNat_add_one (by omega)
  refine ⟨earliestRun h hrange, hnext, (Missing.firstRun?_maximal h.ascending hrun).imp_right ?_⟩
  intro hfree
  rw [← Bool.not_eq_true, isMissing_iff, hsum]
  exact hfree

namespace MaximalRun

variable {first' last' : UInt64}

theorem first_le (h : tracker.MaximalRun limit first last)
    (h' : tracker.MaximalRun limit first' last') : first ≤ first' :=
  h.earliest first' (h'.missing first' (UInt64.le_refl _) h'.nonempty)

/-- A run with the same start does not go on behind one that is as long as may be. -/
theorem last_le (h : tracker.MaximalRun limit first last)
    (h' : tracker.MaximalRun limit first last') : last' ≤ last := by
  refine UInt64.not_lt.1 fun hlt => ?_
  have hsum : (last + 1).toNat = last.toNat + 1 := by
    have := h.next_lt
    exact toNat_add_one (by omega)
  have hle := h.nonempty
  have hlength := h'.length_le
  rw [UInt64.lt_iff_toNat_lt] at hlt
  rw [UInt64.le_iff_toNat_le] at hle
  simp only at hle hlength
  rcases h.maximal with hfull | hfree
  · omega
  · have hmissing : tracker.isMissing (last + 1) = true := by
      apply h'.missing <;> rw [UInt64.le_iff_toNat_le, hsum] <;> simp only <;> omega
    rw [hfree] at hmissing
    cases hmissing

theorem unique (h : tracker.MaximalRun limit first last)
    (h' : tracker.MaximalRun limit first' last') : first' = first ∧ last' = last := by
  have hfirst : first' = first := UInt64.le_antisymm (h'.first_le h) (h.first_le h')
  subst hfirst
  exact ⟨rfl, UInt64.le_antisymm (h.last_le h') (h'.last_le h)⟩

end MaximalRun

theorem firstMissingRange?_eq_none : tracker.firstMissingRange? limit = none ↔ tracker.missing = [] := by
  rw [firstMissingRange?, Option.map_eq_none_iff]
  cases tracker.missing <;> simp [Missing.firstRun?]

theorem firstMissingRange?_eq_some (h : Missing.WellFormed tracker.missing) :
    tracker.firstMissingRange? limit = some (first, last) ↔ tracker.MaximalRun limit first last := by
  refine ⟨maximalRun h, fun hrun => ?_⟩
  cases hfound : tracker.firstMissingRange? limit with
  | none =>
      have hmissing := isMissing_iff.1 (hrun.missing first (UInt64.le_refl _) hrun.nonempty)
      rw [firstMissingRange?_eq_none.1 hfound] at hmissing
      cases hmissing
  | some found =>
      obtain ⟨hfirst, hlast⟩ := hrun.unique (maximalRun h hfound)
      exact congrArg some (Prod.ext hfirst hlast)

/-- A number keeps the missing ones in order and the largest word out of them. -/
theorem wellFormed_receive (h : Missing.WellFormed tracker.missing)
    (hreceive : tracker.receive n = .ok (outcome, after)) : Missing.WellFormed after.missing := by
  rcases receive_cases hreceive with ⟨-, -, rfl⟩ | ⟨expected, untracked, -, hlt, -, -, rfl⟩ |
    ⟨expected, -, -, ⟨-, -, rfl⟩ | ⟨-, -, rfl⟩⟩
  · exact h
  · -- Only numbers before the one that has come are passed over.
    have hsize := n.toNat_lt_size
    rw [UInt64.lt_iff_toNat_lt] at hlt
    exact h.skip tracker.maxMissing (by omega)
  · exact h.erase n.toNat
  · exact h

theorem Accounts.wellFormed (h : tracker.Accounts base expected accepted) :
    Missing.WellFormed tracker.missing := by
  refine ⟨h.missing_ascending, fun n hn => ?_⟩
  have hbelow := (h.missing_range n hn).2
  have hsize := expected.toNat_lt_size
  omega

namespace Ledger

variable {ledger final : Ledger} {input : Input} {inputs : List Input}

theorem wellFormed_after (h : Missing.WellFormed ledger.tracker.missing)
    (hafter : ledger.after input = .ok final) : Missing.WellFormed final.tracker.missing := by
  cases input with
  | receive n =>
      obtain ⟨answer, hreceive, hafter⟩ := exists_of_bind_ok hafter
      cases hafter
      exact wellFormed_receive h hreceive
  | reset next =>
      cases hafter
      exact .nil

theorem wellFormed_run (h : Missing.WellFormed ledger.tracker.missing)
    (hrun : ledger.run inputs = .ok final) : Missing.WellFormed final.tracker.missing := by
  induction inputs generalizing ledger with
  | nil =>
      cases hrun
      exact h
  | cons input inputs ih =>
      obtain ⟨next, hafter, hrun⟩ := exists_of_bind_ok hrun
      exact ih (wellFormed_after h hafter) hrun

end Ledger

/-- **The earliest missing numbers are found, and all of them.** However numbers, the largest included,
and fresh starts have followed each other, there is a range of missing numbers just when any are missing,
and it is the one that starts at the smallest of them, has no number that is not missing, and stops only
when it is as long as it may be or before a number that is not missing. No missing number is the largest
word, and looking for the range in words, no sum and no difference passes its word. -/
theorem finds_maximal_run (maxMissing : Nat) (start : Ledger)
    (hstart : start = .unsynchronised maxMissing ∨ ∃ next, start = .startingAt next maxMissing)
    (inputs : List Input) (final : Ledger) (hrun : start.run inputs = .ok final) (limit : UInt64) :
    (final.tracker.firstMissingRange? limit = none ↔ final.tracker.missing = []) ∧
    (∀ first last, final.tracker.firstMissingRange? limit = some (first, last) ↔
      final.tracker.MaximalRun limit first last) ∧
    (∀ n ∈ final.tracker.missing, n + 1 < UInt64.size) ∧
    Missing.walkRun? limit (final.tracker.missing.map UInt64.ofNat) =
      some (final.tracker.firstMissingRange? limit) := by
  have hnone : Missing.WellFormed start.tracker.missing := by
    rcases hstart with rfl | ⟨next, rfl⟩ <;> exact .nil
  have h := Ledger.wellFormed_run hnone hrun
  exact ⟨firstMissingRange?_eq_none, fun first last => firstMissingRange?_eq_some h, h.below,
    Missing.walkRun?_eq h limit⟩

/-- The largest number leaves a gap at the top, and after it the stream goes on from 0 and leaves
another. -/
def wrappedFeed : List Input := [.receive 18446744073709551615, .receive 3, .receive 5, .receive 4]

theorem finds_maximal_run_wrappedFeed :
    ∃ final, (Ledger.startingAt 18446744073709551613 10).run wrappedFeed = .ok final ∧
      final.tracker.missing = [0, 1, 2, 18446744073709551613, 18446744073709551614] ∧
      final.tracker.MaximalRun 18446744073709551615 0 2 ∧ final.tracker.MaximalRun 0 0 0 ∧
      ¬final.tracker.MaximalRun 2 0 2 := by
  refine ⟨_, rfl, rfl, ?_⟩
  have h := finds_maximal_run 10 _ (Or.inr ⟨18446744073709551613, rfl⟩) wrappedFeed _ rfl
  refine ⟨?_, ?_, ?_⟩
  · exact ((h 18446744073709551615).2.1 0 2).1 rfl
  · exact ((h 0).2.1 0 0).1 rfl
  · intro hmaximal
    have := ((h 2).2.1 0 2).2 hmaximal
    cases this

end SequenceTracker

end MarketFeed
