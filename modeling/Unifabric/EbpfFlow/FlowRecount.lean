import Unifabric.EbpfFlow.FlowConservation

/-!
# Iterations which stop early

An iteration over `qp_stats` which stops early drops the baselines of the queue
pairs it did not reach, and these are credited again from zero once they are
read.
-/

namespace Unifabric.EbpfFlow

open Lib
open List hiding after cons le_antisymm le_refl le_trans length nil

variable {readings : List Reading}

/-! ## Rounds and readings -/

/-- The accounts after some rounds. -/
def reports (runtime : Runtime) (rounds : List (List Observation)) : Accounts :=
  rounds.foldl (Accounts.report runtime) .new

/-- The counters in the latest reading which saw the queue pair. -/
def latestStat (readings : List Reading) : QpStat :=
  (readings.filterMap Reading.stat).getLast?.getD .zero

/-- The counters read never decrease. -/
def Growing (readings : List Reading) : Prop :=
  (readings.filterMap Reading.stat).Pairwise fun earlier later => earlier.totals ≤ later.totals

instance (readings : List Reading) : Decidable (Growing readings) :=
  inferInstanceAs (Decidable ((readings.filterMap Reading.stat).Pairwise
    fun earlier later => earlier.totals ≤ later.totals))

/--
A queue pair was read with traffic, was missed by a later round and is read
again.
-/
def Recounted (readings : List Reading) : Prop :=
  ∃ first second third fourth stat again, readings = first ++ Reading.resolved stat ::
          (second ++ Reading.missed :: (third ++ Reading.resolved again :: fourth)) ∧
      stat ≠ .zero

/-- The account after some readings. -/
def accountAfter (readings : List Reading) : Account := readings.foldl Account.read .new

lemma accountOf_reports (runtime : Runtime) (key : QpKey)
    (once : ∀ round ∈ rounds, (round.map Observation.key).Nodup) :
    accountOf key (reports runtime rounds) = accountAfter (rounds.map (readingOf key)) := by
  induction rounds using reverseRecOn with
  | nil => exact accountOf_new key
  | append_singleton before last ih =>
    have earlier := ih fun round listed => once round (mem_append_left _ listed)
    rw [reports, foldl_append, foldl_cons, foldl_nil,
      accountOf_report runtime (once last (by simp)), ← reports, earlier,
      accountAfter, accountAfter, map_append, foldl_append]
    rfl

lemma accountAfter_append (before : List Reading) (last : Reading) :
    accountAfter (before ++ [last]) = (accountAfter before).read last := by
  rw [accountAfter, foldl_append]
  rfl

lemma latestStat_append (before : List Reading) (last : Reading) :
    latestStat (before ++ [last]) = last.stat.getD (latestStat before) := by
  rw [latestStat, filterMap_append]
  cases seen : last.stat with
  | none => simp [seen, latestStat]
  | some stat => simp [seen]

lemma latestStat_le {before : List Reading} (growing : Growing (before ++ [last])) :
    (latestStat before).totals ≤ (latestStat (before ++ [last])).totals := by
  rw [latestStat_append]
  cases seen : last.stat with
  | none => exact le_refl _
  | some stat =>
    rw [Growing, filterMap_append, pairwise_append] at growing
    rw [Option.getD_some, latestStat]
    cases latest : (before.filterMap Reading.stat).getLast? with
    | none =>
      exact zero_le
    | some old => exact growing.2.2 old (mem_of_getLast? latest) stat (by simp [seen])

lemma Growing.before {before : List Reading} (growing : Growing (before ++ after)) :
    Growing before := by
  rw [Growing, filterMap_append, pairwise_append] at growing
  exact growing.1

/-! ## Queue pairs which are not recounted -/

/--
The phases of a queue pair which is not recounted: nothing credited yet, a
baseline equal to what was credited, or a baseline lost for good.
-/
inductive Phase (readings : List Reading) : Prop where
  | unread (credited : (accountAfter readings).credited = 0)
      (empty : (accountAfter readings).baseline.getD .zero = .zero)
  | current (stat : QpStat) (baseline : (accountAfter readings).baseline = some stat)
      (credited : (accountAfter readings).credited = stat.totals)
      (bounded : stat.totals ≤ (latestStat readings).totals)
      (nonzero : stat ≠ .zero)
      (seen : Reading.resolved stat ∈ readings)
  | lost (stat : QpStat) (first second third : List Reading) (bounded :
        (accountAfter readings).credited ≤ (latestStat readings).totals)
      (shape : readings = first ++ Reading.resolved stat :: (second ++ Reading.missed :: third))
      (nonzero : stat ≠ .zero)

lemma Phase.credited_le (phase : Phase readings) :
    (accountAfter readings).credited ≤ (latestStat readings).totals := by
  cases phase with
  | unread credited _ =>
    rw [credited]
    exact zero_le
  | current stat _ credited bounded => exact credited.trans_le bounded
  | lost _ _ _ _ bounded => exact bounded

lemma Phase.append {before : List Reading} (phase : Phase before)
    (growing : Growing (before ++ [last])) (single : ¬ Recounted (before ++ [last])) :
    Phase (before ++ [last]) := by
  have grown := latestStat_le growing
  cases last with
  | missed =>
    cases phase with
    | unread credited empty =>
      refine .unread ?_ ?_
      · rw [accountAfter_append]
        exact credited
      · rw [accountAfter_append]
        rfl
    | current stat baseline credited bounded nonzero seen =>
      obtain ⟨first, second, shape⟩ := append_of_mem seen
      refine .lost stat first second [] ?_ ?_ nonzero
      · rw [accountAfter_append]
        exact (credited.trans_le bounded).trans grown
      · rw [shape, append_assoc, cons_append]
    | lost stat first second third bounded shape nonzero =>
      refine .lost stat first second (third ++ [Reading.missed]) ?_ ?_ nonzero
      · rw [accountAfter_append]
        exact bounded.trans grown
      · simp [shape]
  | unresolved read =>
    have same : accountAfter (before ++ [Reading.unresolved read]) =
      accountAfter before := accountAfter_append before _
    cases phase with
    | unread credited empty =>
      refine .unread ?_ ?_
      · rwa [same]
      · rwa [same]
    | current stat baseline credited bounded nonzero seen =>
      refine .current stat ?_ ?_ (bounded.trans grown) nonzero (mem_append_left _ seen)
      · rwa [same]
      · rwa [same]
    | lost stat first second third bounded shape nonzero =>
      refine .lost stat first second (third ++ [Reading.unresolved read]) ?_ ?_ nonzero
      · rw [same]
        exact bounded.trans grown
      · simp [shape]
  | resolved read =>
    have after := accountAfter_append before (Reading.resolved read)
    have latest : latestStat (before ++ [Reading.resolved read]) = read :=
      latestStat_append before _
    cases phase with
    | unread credited empty =>
      have gained : (accountAfter (before ++ [Reading.resolved read])).credited = read.totals := by
        rw [after, Account.read, credited, empty, delta_zero, zero_add]
      by_cases nothing : read = .zero
      · refine .unread ?_ ?_
        · rw [gained, nothing, QpStat.totals_zero]
        · rw [after, nothing]
          rfl
      · refine .current read ?_ gained ?_ nothing (by simp)
        · rw [after]
          rfl
        · rw [latest]
    | current stat baseline credited bounded nonzero seen =>
      rw [latest] at grown
      have covered : stat.totals ≤ read.totals := bounded.trans grown
      refine .current read ?_ ?_ ?_ ?_ (by simp)
      · rw [after]
        rfl
      · rw [after, Account.read, baseline, credited, Option.getD_some, totals_delta_of_le covered]
      · rw [latest]
      · rintro rfl
        exact nonzero (QpStat.totals_eq_zero.1 (le_antisymm covered zero_le))
    | lost stat first second third bounded shape nonzero =>
      refine absurd ⟨first, second, third, [], stat, read, ?_, nonzero⟩ single
      simp [shape]

lemma Recounted.append {before : List Reading} (recounted : Recounted before)
    (after : List Reading) : Recounted (before ++ after) := by
  obtain ⟨first, second, third, fourth, stat, again, shape, nonzero⟩ := recounted
  refine ⟨first, second, third, fourth ++ after, stat, again, ?_, nonzero⟩
  simp [shape]

lemma phase_of_not_recounted (growing : Growing readings) (single : ¬ Recounted readings) :
    Phase readings := by
  induction readings using reverseRecOn with
  | nil => exact .unread rfl rfl
  | append_singleton before last ih =>
    have earlier := ih growing.before fun recounted => single (recounted.append [last])
    exact earlier.append growing single

/-! ## Queue pairs which are recounted -/

lemma baseline_le_credited (readings : List Reading) :
    ((accountAfter readings).baseline.getD .zero).totals ≤ (accountAfter readings).credited := by
  induction readings using reverseRecOn with
  | nil => exact le_refl _
  | append_singleton before last ih =>
    rw [accountAfter_append]
    cases last with
    | missed => exact zero_le
    | unresolved stat => exact ih
    | resolved stat => exact totals_le_add_delta ih

lemma credited_le_foldl_read (readings : List Reading) (account : Account) :
    account.credited ≤ (readings.foldl Account.read account).credited := by
  induction readings generalizing account with
  | nil => exact le_refl _
  | cons first rest ih =>
    refine le_trans ?_ (ih (account.read first))
    cases first with
    | missed => exact le_refl _
    | unresolved stat => exact le_refl _
    | resolved stat => exact le_self_add

lemma credited_le_accountAfter_append (before after : List Reading) :
    (accountAfter before).credited ≤ (accountAfter (before ++ after)).credited := by
  rw [accountAfter, accountAfter, foldl_append]
  exact credited_le_foldl_read after _

/--
A queue pair which has credit and no baseline exceeds its counters as soon as
it is read.
-/
lemma exceeds_of_read {before : List Reading} (lost : (accountAfter before).baseline = none)
    (credited : (accountAfter before).credited ≠ 0) (stat : QpStat) :
    ¬ (accountAfter (before ++ [Reading.resolved stat])).credited ≤
      (latestStat (before ++ [Reading.resolved stat])).totals := by
  intro bounded
  rw [accountAfter_append, latestStat_append, Account.read, lost] at bounded
  change _ + (delta .zero stat).totals ≤ stat.totals at bounded
  rw [delta_zero, add_le_iff_nonpos_left] at bounded
  exact credited (le_antisymm bounded zero_le)

/-- Whatever comes in between, it is read again and exceeds them. -/
lemma exists_exceeds (later : Reading.resolved again ∈ third) {before : List Reading}
    (lost : (accountAfter before).baseline = none) (credited : (accountAfter before).credited ≠ 0) :
    ∃ more rest, third = more ++ rest ∧ ¬ (accountAfter (before ++ more)).credited ≤
        (latestStat (before ++ more)).totals := by
  induction third generalizing before with
  | nil => cases later
  | cons first rest ih =>
    by_cases idle : accountAfter (before ++ [first]) = accountAfter before
    · -- The reading changed nothing, so the queue pair is read later.
      rcases mem_cons.1 later with rfl | tail
      · exact ⟨[Reading.resolved again], rest, rfl, exceeds_of_read lost credited again⟩
      · rw [← idle] at lost credited
        obtain ⟨more, remaining, rfl, exceeds⟩ := ih tail lost credited
        refine ⟨first :: more, remaining, rfl, ?_⟩
        rwa [append_cons]
    · cases first with
      | missed =>
        refine absurd ?_ idle
        rw [accountAfter_append, Account.read, ← lost]
      | unresolved stat =>
        refine absurd ?_ idle
        rw [accountAfter_append, Account.read]
      | resolved stat =>
        exact ⟨[Reading.resolved stat], rest, rfl, exceeds_of_read lost credited stat⟩

lemma Recounted.exists_exceeds (recounted : Recounted readings) :
    ∃ before after, readings = before ++ after ∧
      ¬ (accountAfter before).credited ≤ (latestStat before).totals := by
  obtain ⟨first, second, third, fourth, stat, again, rfl, nonzero⟩ := recounted
  have read : stat.totals ≤ (accountAfter (first ++ [Reading.resolved stat])).credited := by
    have covered := baseline_le_credited (first ++ [Reading.resolved stat])
    rwa [accountAfter_append] at covered ⊢
  have kept : (accountAfter (first ++ [Reading.resolved stat])).credited ≤ (accountAfter
        (first ++ [Reading.resolved stat] ++ second ++ [Reading.missed])).credited := by
    rw [append_assoc _ second]
    exact credited_le_accountAfter_append _ _
  have credited : (accountAfter
      (first ++ [Reading.resolved stat] ++ second ++ [Reading.missed])).credited ≠ 0 := by
    intro nothing
    rw [nothing] at kept
    exact nonzero (QpStat.totals_eq_zero.1 (le_antisymm (read.trans kept) zero_le))
  have lost : (accountAfter
      (first ++ [Reading.resolved stat] ++ second ++ [Reading.missed])).baseline =
        none := by
    rw [accountAfter_append]
    rfl
  have later : Reading.resolved again ∈ third ++ Reading.resolved again :: fourth := by simp
  obtain ⟨more, rest, shape, exceeds⟩ := EbpfFlow.exists_exceeds later lost credited
  refine ⟨_, rest, ?_, exceeds⟩
  simp only [append_assoc, cons_append, nil_append]
  rw [shape]

/--
For an entry which is never removed, what is credited stays within the counters
of the latest round which saw it, after every round, exactly if the entry is
not recounted.
-/
theorem reports_bounded_iff (runtime : Runtime) (key : QpKey) (rounds : List (List Observation))
    (once : ∀ round ∈ rounds, (round.map Observation.key).Nodup)
    (growing : Growing (rounds.map (readingOf key))) :
    (∀ before after, rounds = before ++ after → (reports runtime before).creditedFor key ≤
          (latestStat (before.map (readingOf key))).totals) ↔
      ¬ Recounted (rounds.map (readingOf key)) := by
  have account : ∀ before after, rounds = before ++ after →
      (reports runtime before).creditedFor key =
        (accountAfter (before.map (readingOf key))).credited := by
    intro before after split
    rw [← accountOf_reports runtime key fun round listed =>
      once round (by rw [split]; exact mem_append_left _ listed)]
    rfl
  constructor
  · intro bounded recounted
    rcases recounted.exists_exceeds with ⟨readings, rest, split, exceeds⟩
    rcases map_eq_append_iff.mp split with ⟨before, after, parts, rfl, rfl⟩
    refine exceeds ?_
    rw [← account before after parts]
    exact bounded before after parts
  · intro single before after split
    rw [account before after split]
    subst split
    rw [map_append] at growing single
    exact (phase_of_not_recounted growing.before fun recounted =>
      single (recounted.append _)).credited_le

theorem reports_bounded_iff_two_rounds :
    (reports .canonical [[resolvedReading 100], [resolvedReading 150]]
      ).creditedFor { tgid := 1, qpn := 7 } ≤ (150, 1) := by
  refine (reports_bounded_iff .canonical { tgid := 1, qpn := 7 }
    [[resolvedReading 100], [resolvedReading 150]] ?_ ?_).mpr ?_ _ []
    (append_nil _).symm
  · decide
  · decide
  · rintro ⟨first, second, third, fourth, stat, again, shape, _⟩
    have length := congrArg List.length shape
    simp only [map_cons, map_nil, length_cons, length_nil, length_append] at length
    omega

/--
A round which stops before the entry makes the next one credit all of it
again.
-/
theorem missed_round_recredits : Growing ([[resolvedReading 100], [], [resolvedReading 100]].map
        (readingOf { tgid := 1, qpn := 7 })) ∧
      (reports .canonical [[resolvedReading 100], [], [resolvedReading 100]]
        ).creditedFor { tgid := 1, qpn := 7 } = (200, 2) ∧
      (latestStat ([[resolvedReading 100], [], [resolvedReading 100]].map
        (readingOf { tgid := 1, qpn := 7 }))).totals = (100, 1) := by
  decide +kernel

end Unifabric.EbpfFlow
