import Unifabric.EbpfFlow.FlowAccounts

/-!
# What is credited and what was counted

With complete iterations a queue pair is credited exactly what it counted, and
never more than all its lives counted together.
-/

namespace Unifabric.EbpfFlow

open Lib Option

/-! ## The life of a queue pair -/

/--
A queue pair: the accounts of the agent, its entry of `qp_stats` and what all
its lives counted.
-/
structure QpWorld where
  accounts : Accounts
  entry : Option QpStat
  counted : Totals

/-- Nothing was posted yet. -/
def QpWorld.new : QpWorld := { accounts := .new, entry := none, counted := 0 }

/-- What can happen to a queue pair. -/
inductive QpEvent where
  /-- The kernel program adds to the counters. -/
  | count (bytes wrs : UInt64)
  /-- The entry is removed. -/
  | remove
  /-- A report round whose iteration is complete. -/
  | report (round : List Observation)

/-- The counters after an addition, unless one of them would wrap. -/
def QpStat.add (stat : QpStat) (bytes wrs : UInt64) : Option QpStat :=
  if stat.bytes.toNat + bytes.toNat < UInt64.size ∧ stat.wrs.toNat + wrs.toNat < UInt64.size then
    some { bytes := stat.bytes + bytes, wrs := stat.wrs + wrs }
  else none

/--
One step.  An entry is created at zero by the first addition, and a complete
iteration yields every entry once.
-/
def QpWorld.step (runtime : Runtime) (key : QpKey) (world : QpWorld) : QpEvent → Option QpWorld
  | .count bytes wrs => do
      let stat ← (world.entry.getD .zero).add bytes wrs
      return { world with
        entry := some stat
        counted := world.counted + (bytes.toNat, wrs.toNat) }
  | .remove => some { world with entry := none }
  | .report round =>
    if (round.map Observation.key).Nodup ∧ (readingOf key round).stat = world.entry then
      some { world with accounts := world.accounts.report runtime round }
    else none

lemma QpStat.totals_add {stat next : QpStat} {bytes wrs : UInt64}
    (added : stat.add bytes wrs = some next) :
    next.totals = stat.totals + (bytes.toNat, wrs.toNat) := by
  rw [QpStat.add] at added
  split_ifs at added with fits
  cases added
  ext
  · exact Nat.mod_eq_of_lt fits.1
  · exact Nat.mod_eq_of_lt fits.2

section

variable {runtime : Runtime} {key : QpKey} {world next : QpWorld}

lemma QpWorld.step_count {bytes wrs : UInt64}
    (stepped : world.step runtime key (.count bytes wrs) = some next) :
    ∃ stat, stat.totals = (world.entry.getD .zero).totals + (bytes.toNat, wrs.toNat) ∧
      next = { world with
        entry := some stat
        counted := world.counted + (bytes.toNat, wrs.toNat) } := by
  obtain ⟨stat, added, result⟩ := bind_eq_some_iff.1 stepped
  exact ⟨stat, QpStat.totals_add added, (some.inj result).symm⟩

lemma QpWorld.step_report {round : List Observation}
    (stepped : world.step runtime key (.report round) = some next) :
    (readingOf key round).stat = world.entry ∧
      next = { world with accounts := world.accounts.report runtime round } ∧
      accountOf key next.accounts = (accountOf key world.accounts).read (readingOf key round) := by
  rw [QpWorld.step] at stepped
  split_ifs at stepped with complete
  cases stepped
  exact ⟨complete.2, rfl, accountOf_report runtime complete.1 key _⟩

end

/-! ## Entries which are never removed -/

/-- The baseline is what was credited, and the entry is at least that. -/
def Account.Exact (account : Account) (entry : Option QpStat) : Prop :=
  account.credited = (account.baseline.getD .zero).totals ∧
    (account.baseline.getD .zero).totals ≤ (entry.getD .zero).totals ∧
    (account.baseline ≠ none → entry ≠ none)

lemma Account.Exact.read {account : Account} {reading : Reading}
    (exact : account.Exact reading.stat) : (account.read reading).Exact reading.stat := by
  obtain ⟨credited, grown, present⟩ := exact
  cases reading with
  | missed =>
    have unread : account.baseline = none := by
      by_contra read
      exact present read rfl
    rw [unread] at credited
    exact ⟨credited, le_refl _, fun read => absurd rfl read⟩
  | unresolved stat => exact ⟨credited, grown, present⟩
  | resolved stat =>
    refine ⟨?_, le_refl _, fun _ => some_ne_none stat⟩
    show account.credited + _ = stat.totals
    rw [credited]
    exact totals_delta_of_le grown

lemma QpWorld.step_exact {runtime : Runtime} {world next : QpWorld}
    (exact : (accountOf key world.accounts).Exact world.entry) (kept : event ≠ .remove)
    (stepped : world.step runtime key event = some next) :
    (accountOf key next.accounts).Exact next.entry := by
  cases event with
  | count bytes wrs =>
    obtain ⟨stat, counted, rfl⟩ := QpWorld.step_count stepped
    refine ⟨exact.1, exact.2.1.trans ?_, fun _ => some_ne_none stat⟩
    show _ ≤ stat.totals
    rw [counted]
    exact le_self_add
  | remove => exact absurd rfl kept
  | report round =>
    obtain ⟨complete, rfl, read⟩ := QpWorld.step_report stepped
    rw [read, ← complete]
    rw [← complete] at exact
    exact exact.read

/-! ## Any number of lives -/

/--
What can still be credited was counted: everything of the entry, or what it
gained since the baseline if that is of this life.
-/
def Account.Covered (account : Account) (entry : Option QpStat) (counted : Totals) : Prop :=
  account.credited + (entry.getD .zero).totals ≤ counted ∨
    ∃ prev stat, account.baseline = some prev ∧ entry = some stat ∧ prev.totals ≤ stat.totals ∧
      account.credited + stat.totals ≤ counted + prev.totals

lemma Account.Covered.credited_le {account : Account} {entry : Option QpStat}
    (covered : account.Covered entry counted) : account.credited ≤ counted := by
  rcases covered with all | ⟨prev, stat, _, _, grown, gained⟩
  · exact le_self_add.trans all
  · have bound : account.credited + stat.totals ≤ counted + stat.totals := gained.trans (by gcongr)
    exact le_of_add_le_add_right bound

lemma Account.Covered.read {account : Account} {reading : Reading}
    (covered : account.Covered reading.stat counted) :
    (account.read reading).Covered reading.stat counted := by
  cases reading with
  | missed =>
    rcases covered with all | ⟨prev, stat, _, present, _⟩
    · exact .inl all
    · cases present
  | unresolved stat => exact covered
  | resolved stat =>
    right
    refine ⟨stat, stat, rfl, rfl, le_refl _, ?_⟩
    show account.credited + _ + stat.totals ≤ counted + stat.totals
    gcongr
    rcases covered with all | ⟨prev, entry, baseline, same, grown, gained⟩
    · calc account.credited + _ ≤ account.credited + stat.totals := by
            gcongr
            exact totals_delta_le _ stat
        _ ≤ counted := all
    · cases same
      rw [baseline, getD_some]
      rw [← totals_delta_of_le grown, add_comm prev.totals, ← add_assoc] at gained
      exact le_of_add_le_add_right gained

lemma QpWorld.step_covered {runtime : Runtime} {world next : QpWorld}
    (covered : (accountOf key world.accounts).Covered world.entry world.counted)
    (stepped : world.step runtime key event = some next) :
    (accountOf key next.accounts).Covered next.entry next.counted := by
  cases event with
  | count bytes wrs =>
    obtain ⟨stat, counted, rfl⟩ := QpWorld.step_count stepped
    rcases covered with all | ⟨prev, old, baseline, present, grown, gained⟩
    · left
      show _ + stat.totals ≤ _ + _
      rw [counted, ← add_assoc]
      gcongr
    · rw [present, getD_some] at counted
      right
      refine ⟨prev, stat, baseline, rfl, ?_, ?_⟩
      · rw [counted]
        exact grown.trans le_self_add
      · show _ + _ ≤ _ + _ + _
        rw [counted, ← add_assoc, add_right_comm world.counted]
        gcongr
  | remove =>
    cases stepped
    left
    show _ + 0 ≤ world.counted
    exact covered.credited_le
  | report round =>
    obtain ⟨complete, rfl, read⟩ := QpWorld.step_report stepped
    rw [read, ← complete]
    rw [← complete] at covered
    exact covered.read

lemma QpWorld.step_balanced {runtime : Runtime} {world next : QpWorld}
    (balanced : world.accounts.Balanced) (stepped : world.step runtime key event = some next) :
    next.accounts.Balanced := by
  cases event with
  | count bytes wrs =>
    obtain ⟨stat, _, rfl⟩ := QpWorld.step_count stepped
    exact balanced
  | remove =>
    cases stepped
    exact balanced
  | report round =>
    obtain ⟨_, rfl, _⟩ := QpWorld.step_report stepped
    exact balanced.report runtime round

lemma Accounts.balanced_new : Accounts.new.Balanced := by
  intro labels
  simp [Accounts.new, FlowMetrics.new, Accounts.creditedTo]

/--
In every run the counters of the flows are the sums of what was credited to
them, and a queue pair is credited no more than all its lives counted.  If its
entry is never removed, then after a report in which it was resolved it is
credited exactly the counters read.
-/
theorem flow_counters_exact (runtime : Runtime) (key : QpKey)
    (events : List QpEvent) (final : QpWorld)
    (reached : runEvents (QpWorld.step runtime key) .new events = some final) :
    final.accounts.Balanced ∧ final.accounts.creditedFor key ≤ final.counted ∧
      ∀ before round stat, events = before ++ [.report round] →
        (∀ event ∈ before, event ≠ .remove) →
        readingOf key round = .resolved stat → final.accounts.creditedFor key = stat.totals := by
  refine ⟨?_, ?_, ?_⟩
  · exact runEvents_invariant (fun world => world.accounts.Balanced)
      (fun _ _ _ => QpWorld.step_balanced) Accounts.balanced_new reached
  · have start : (accountOf key QpWorld.new.accounts).Covered none 0 := by
      rw [QpWorld.new, accountOf_new]
      exact Or.inl (le_refl 0)
    exact (runEvents_invariant (fun world =>
        (accountOf key world.accounts).Covered world.entry world.counted)
      (fun _ _ _ => QpWorld.step_covered) start reached).credited_le
  · intro before round stat split kept resolved
    have all : ∀ event ∈ events, event ≠ .remove := by
      subst split
      intro event listed
      rcases List.mem_append.mp listed with old | last
      · exact kept event old
      · rw [List.mem_singleton.mp last]
        intro removed
        cases removed
    have start : (accountOf key QpWorld.new.accounts).Exact none := by
      rw [QpWorld.new, accountOf_new]
      exact ⟨rfl, le_refl _, fun read => absurd rfl read⟩
    have exact := runEvents_invariant_of_meets
      (fun world => (accountOf key world.accounts).Exact world.entry)
      (fun _ _ _ => QpWorld.step_exact)
      (stepsMeet_of_forall all QpWorld.new) start reached
    subst split
    rcases (runEvents_append_eq_some.mp reached) with ⟨middle, _, last⟩
    rcases runEvents_cons_eq_some.mp last with ⟨next, stepped, rest⟩
    cases rest
    rcases QpWorld.step_report stepped with ⟨_, _, read⟩
    have credited := exact.1
    rw [read, resolved] at credited
    have account : accountOf key final.accounts =
        (accountOf key middle.accounts).read (.resolved stat) := by
      rw [read, resolved]
    calc final.accounts.creditedFor key = (accountOf key final.accounts).credited := rfl
      _ = stat.totals := by
        rw [account, credited]
        rfl

/-- A Pod of the examples. -/
def podPeer (name : String) : Peer :=
  { namespaceName := "default"
    name
    owner := { kind := "", namespaceName := "", name := "" }
    label := ""
    hostNetwork := false }

/-- A resolved reading of queue pair 7 of process 1. -/
def resolvedReading (bytes : UInt64) : Observation :=
  { key := { tgid := 1, qpn := 7 }
    stat := { bytes, wrs := 1 }
    src := podPeer "sender"
    dst := podPeer "receiver"
    ends := { srcDevice := "mlx5_0", dstDevice := "mlx5_1" } }

theorem flow_counters_exact_two_reports : ∃ final,
      runEvents (QpWorld.step .canonical { tgid := 1, qpn := 7 }) .new
          [.count 60 1, .report [resolvedReading 60], .count 40 0, .report [resolvedReading 100]] =
            some final ∧ final.accounts.creditedFor { tgid := 1, qpn := 7 } = (100, 1) := by
  refine ⟨_, rfl, ?_⟩
  exact (flow_counters_exact .canonical { tgid := 1, qpn := 7 } _ _ rfl).2.2
    [.count 60 1, .report [resolvedReading 60], .count 40 0] [resolvedReading 100]
    { bytes := 100, wrs := 1 } rfl (by simp) rfl

end Unifabric.EbpfFlow
