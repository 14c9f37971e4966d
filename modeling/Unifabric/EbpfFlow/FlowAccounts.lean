import Unifabric.EbpfFlow.FlowMetrics
import Unifabric.Lib.Loop
import Unifabric.Lib.Transition

/-!
# The account of a queue pair over many rounds

Rounds treat the queue pairs independently of each other, so the account of
one of them is a small machine of its own: its baseline and what it was
credited.  Over this machine credits are compared with what was counted.
-/

namespace Unifabric.EbpfFlow

open Lib List

variable {prev : QpStat} {round : List Observation}

/-! ## Totals -/

@[simp]
lemma QpStat.totals_zero : QpStat.zero.totals = 0 := rfl

lemma QpStat.totals_eq_zero {stat : QpStat} : stat.totals = 0 ↔ stat = .zero := by
  constructor
  · intro empty
    obtain ⟨bytes, wrs⟩ := stat
    have parts := Prod.mk.inj empty
    rw [QpStat.zero, QpStat.mk.injEq]
    exact ⟨UInt64.toNat_inj.1 parts.1, UInt64.toNat_inj.1 parts.2⟩
  · rintro rfl
    rfl

lemma totals_delta_of_le {stat : QpStat} (grown : prev.totals ≤ stat.totals) :
    prev.totals + (delta prev stat).totals = stat.totals := by
  have bytes : prev.bytes ≤ stat.bytes := UInt64.le_iff_toNat_le.2 grown.1
  have wrs : prev.wrs ≤ stat.wrs := UInt64.le_iff_toNat_le.2 grown.2
  rw [delta, if_pos ⟨bytes, wrs⟩]
  ext
  · show prev.bytes.toNat + (stat.bytes - prev.bytes).toNat = stat.bytes.toNat
    rw [UInt64.toNat_sub_of_le _ _ bytes]
    exact Nat.add_sub_cancel' grown.1
  · show prev.wrs.toNat + (stat.wrs - prev.wrs).toNat = stat.wrs.toNat
    rw [UInt64.toNat_sub_of_le _ _ wrs]
    exact Nat.add_sub_cancel' grown.2

lemma delta_of_not_le {stat : QpStat} (shrunk : ¬ prev.totals ≤ stat.totals) :
    delta prev stat = stat := by
  rw [delta, if_neg]
  rintro ⟨bytes, wrs⟩
  exact shrunk ⟨UInt64.le_iff_toNat_le.1 bytes, UInt64.le_iff_toNat_le.1 wrs⟩

lemma delta_zero (stat : QpStat) : (delta .zero stat).totals = stat.totals := by
  have grown : QpStat.zero.totals ≤ stat.totals := by
    exact zero_le
  have sum := totals_delta_of_le grown
  rwa [QpStat.totals_zero, zero_add] at sum

lemma totals_delta_le (prev stat : QpStat) : (delta prev stat).totals ≤ stat.totals := by
  by_cases grown : prev.totals ≤ stat.totals
  · rw [← totals_delta_of_le grown]
    exact le_add_self
  · rw [delta_of_not_le grown]

lemma totals_le_add_delta {stat : QpStat} (covered : prev.totals ≤ credited) :
    stat.totals ≤ credited + (delta prev stat).totals := by
  by_cases grown : prev.totals ≤ stat.totals
  · rw [← totals_delta_of_le grown]
    gcongr
  · rw [delta_of_not_le grown]
    exact le_add_self

/-! ## One queue pair -/

/-- What a round has of one queue pair. -/
inductive Reading where
  | missed
  | unresolved (stat : QpStat)
  | resolved (stat : QpStat)
  deriving DecidableEq, Repr

/-- The counters a round read. -/
def Reading.stat : Reading → Option QpStat
  | .missed => none
  | .unresolved stat => some stat
  | .resolved stat => some stat

/-- The reading of a queue pair in a round. -/
def readingOf (key : QpKey) (round : List Observation) : Reading :=
  match round.find? fun observation => observation.key = key with
  | none => .missed
  | some observation =>
    if observation.resolved then .resolved observation.stat
    else .unresolved observation.stat

/-- The baseline of a queue pair and what it was credited. -/
structure Account where
  baseline : Option QpStat
  credited : Totals
  deriving DecidableEq

/-- An account nothing was read for. -/
def Account.new : Account := { baseline := none, credited := 0 }

/-- A reading of the queue pair. -/
def Account.read (account : Account) : Reading → Account
  | .missed => { account with baseline := none }
  | .unresolved _ => account
  | .resolved stat =>
    { baseline := some stat
      credited :=
        account.credited + (delta (account.baseline.getD .zero) stat).totals }

/-- The account of a queue pair in the metrics. -/
def accountOf (key : QpKey) (accounts : Accounts) : Account :=
  { baseline := accounts.metrics.last[key]?, credited := accounts.creditedFor key }

lemma accountOf_new (key : QpKey) : accountOf key .new = .new := by
  simp [accountOf, Accounts.new, FlowMetrics.new, Account.new, Accounts.creditedFor]

lemma accountOf_observe (key : QpKey) (accounts : Accounts) (observation : Observation) :
    accountOf key (accounts.observe observation) = if observation.key = key then
        (accountOf key accounts).read (if observation.resolved then .resolved observation.stat
          else .unresolved observation.stat)
      else accountOf key accounts := by
  cases isResolved : observation.resolved with
  | false =>
    simp [accountOf, Accounts.observe, FlowMetrics.observe, isResolved,
      Accounts.creditedFor, Account.read]
  | true =>
    by_cases same : observation.key = key
    · subst same
      simp [accountOf, Accounts.observe, FlowMetrics.observe, isResolved,
        Accounts.creditedFor, Account.read, GoMap.getD_eq]
    · simp [accountOf, Accounts.observe, FlowMetrics.observe, isResolved,
        Accounts.creditedFor, same, GoMap.getElem?_insert]

lemma accountOf_foldl_of_not_mem (absent : key ∉ round.map Observation.key) (accounts : Accounts) :
    accountOf key (round.foldl Accounts.observe accounts) = accountOf key accounts := by
  induction round generalizing accounts with
  | nil => rfl
  | cons first rest ih =>
    rw [map_cons, mem_cons, not_or] at absent
    rw [foldl_cons, ih absent.2, accountOf_observe, if_neg (Ne.symm absent.1)]

lemma accountOf_foldl_observe (once : (round.map Observation.key).Nodup)
    (key : QpKey) (accounts : Accounts) :
    accountOf key (round.foldl Accounts.observe accounts) = if key ∈ round.map Observation.key then
        (accountOf key accounts).read (readingOf key round)
      else accountOf key accounts := by
  induction round generalizing accounts with
  | nil => rfl
  | cons first rest ih =>
    rw [map_cons, nodup_cons] at once
    rw [foldl_cons]
    by_cases same : first.key = key
    · subst same
      have reading : readingOf first.key (first :: rest) =
          if first.resolved then .resolved first.stat
          else .unresolved first.stat := by
        rw [readingOf, find?_cons_of_pos (by simp)]
      rw [accountOf_foldl_of_not_mem once.1, accountOf_observe,
        if_pos rfl, map_cons, if_pos mem_cons_self, reading]
    · have reading : readingOf key (first :: rest) = readingOf key rest := by
        rw [readingOf, find?_cons_of_neg (by simpa using same), readingOf]
      rw [ih once.2, accountOf_observe, if_neg same, reading]
      simp [Ne.symm same]

lemma getElem?_endReport (runtime : Runtime) (metrics : FlowMetrics)
    (seen : List QpKey) (key : QpKey) : (metrics.endReport runtime seen).last[key]? =
      if key ∈ seen then metrics.last[key]? else none := by
  have general : ∀ (keys : List QpKey) (last : GoMap QpKey QpStat), (keys.foldl
          (fun last key => if key ∈ seen then last else last.erase key)
          last)[key]? =
        if key ∈ keys ∧ key ∉ seen then none else last[key]? := by
    intro keys
    induction keys with
    | nil => simp
    | cons first rest ih =>
      intro last
      rw [foldl_cons, ih]
      by_cases isSeen : first ∈ seen
      · by_cases same : key = first
        · subst same
          simp [isSeen]
        · simp [isSeen, same]
      · by_cases same : first = key
        · subst same
          simp [isSeen]
        · simp [isSeen, same, Ne.symm same, GoMap.getElem?_erase]
  rw [FlowMetrics.endReport, general]
  by_cases isSeen : key ∈ seen
  · simp [isSeen]
  · cases found : metrics.last[key]? with
    | none => simp
    | some stat =>
      have listed : key ∈ runtime.range ["endReport"] metrics.last.keys := by
        rw [MapOrder.mem_range, GoMap.mem_keys_iff]
        exact ⟨stat, found⟩
      rw [if_pos ⟨listed, isSeen⟩, if_neg isSeen]

lemma readingOf_eq_missed (absent : key ∉ round.map Observation.key) :
    readingOf key round = .missed := by
  have none : (round.find? fun observation => observation.key = key) =
      none := by
    rw [find?_eq_none]
    intro observation listed same
    exact absent (mem_map.2 ⟨observation, listed, of_decide_eq_true same⟩)
  rw [readingOf, none]

lemma accountOf_report (runtime : Runtime) (once : (round.map Observation.key).Nodup)
    (key : QpKey) (accounts : Accounts) :
    accountOf key (accounts.report runtime round) =
      (accountOf key accounts).read (readingOf key round) := by
  have observed := accountOf_foldl_observe once key
    { accounts with metrics := accounts.metrics.beginReport }
  have baseline := getElem?_endReport runtime (round.foldl Accounts.observe
      { accounts with metrics := accounts.metrics.beginReport }).metrics
    (round.map Observation.key) key
  have start : accountOf key { accounts with metrics := accounts.metrics.beginReport } =
    accountOf key accounts := rfl
  rw [start] at observed
  have ended : accountOf key (accounts.report runtime round) =
      { baseline :=
          if key ∈ round.map Observation.key then
            (accountOf key (round.foldl Accounts.observe
              { accounts with metrics := accounts.metrics.beginReport })).baseline
          else none
        credited :=
          (accountOf key (round.foldl Accounts.observe
            { accounts with
              metrics := accounts.metrics.beginReport })).credited } :=
    congrArg (fun found => Account.mk found _) baseline
  rw [ended, observed]
  by_cases listed : key ∈ round.map Observation.key
  · simp only [if_pos listed]
  · simp only [if_neg listed, readingOf_eq_missed listed, Account.read]

end Unifabric.EbpfFlow
