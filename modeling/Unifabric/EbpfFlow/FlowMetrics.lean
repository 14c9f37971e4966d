import Unifabric.Lib.GoMap

/-!
# Flow metrics

A report round reads the counters of every queue pair and adds what came in
since the last round to the counters of its flow.  A queue pair whose ends are
not both resolved to Pods is skipped and keeps its baseline; a queue pair which
the round did not see loses it.
-/

namespace Unifabric.EbpfFlow

open Lib List

/-! ## Queue pairs and flows -/

/-- The process and the number of a queue pair. -/
structure QpKey where
  tgid : UInt32
  qpn : UInt32
  deriving DecidableEq, Repr

instance : LinearOrder QpKey :=
  LinearOrder.lift' (fun key => (toLex (key.tgid.toNat, key.qpn.toNat) : Lex (Nat × Nat))) (by
      intro left right equal
      have parts := toLex.injective equal
      rw [Prod.mk.injEq, UInt32.toNat_inj, UInt32.toNat_inj] at parts
      cases left
      cases right
      cases parts.1
      cases parts.2
      rfl)

/-- The counters of a queue pair. -/
structure QpStat where
  bytes : UInt64
  wrs : UInt64
  deriving DecidableEq, Repr

/-- The counters of a new entry. -/
def QpStat.zero : QpStat := { bytes := 0, wrs := 0 }

/-- Bytes and work requests as exact numbers. -/
abbrev Totals := Nat × Nat

/-- The counters as numbers. -/
def QpStat.totals (stat : QpStat) : Totals := (stat.bytes.toNat, stat.wrs.toNat)

/-- The owner of a Pod. -/
structure OwnerInfo where
  kind : String
  namespaceName : String
  name : String
  deriving DecidableEq, Repr

/-- One end of a flow; without a name it is not resolved to a Pod. -/
structure Peer where
  namespaceName : String
  name : String
  owner : OwnerInfo
  label : String
  hostNetwork : Bool
  deriving DecidableEq, Repr

def Peer.isPod (peer : Peer) : Bool := peer.name ≠ ""

/-- The devices of a flow. -/
structure FlowEnds where
  srcDevice : String
  dstDevice : String
  deriving DecidableEq, Repr

def peerLabels (peer : Peer) : List String :=
  [peer.namespaceName, peer.name, peer.owner.kind, peer.owner.namespaceName, peer.owner.name]

def flowLabels (src dst : Peer) (ends : FlowEnds) : List String :=
  peerLabels src ++ peerLabels dst ++ [ends.srcDevice, ends.dstDevice]

/-- What a round reads of one queue pair. -/
structure Observation where
  key : QpKey
  stat : QpStat
  src : Peer
  dst : Peer
  ends : FlowEnds
  deriving DecidableEq, Repr

/-- Whether both ends are Pods. -/
def Observation.resolved (observation : Observation) : Bool :=
  observation.src.isPod && observation.dst.isPod

/-! ## The metrics -/

/-- A vector of counters, by label values. -/
abbrev CounterVec := GoMap (List String) Nat

/-- The counters of the flows and the baselines of the queue pairs. -/
structure FlowMetrics where
  bytes : CounterVec
  wrs : CounterVec
  qps : CounterVec
  last : GoMap QpKey QpStat

/-- `newFlowMetrics`. -/
def FlowMetrics.new : FlowMetrics := { bytes := ∅, wrs := ∅, qps := ∅, last := ∅ }

/-- Add to one counter of a vector. -/
def addCounter (counters : CounterVec) (labels : List String) (amount : Nat) : CounterVec :=
  if 0 < amount then
    counters.insert labels (counters.getD labels 0 + amount)
  else counters

/--
What a queue pair gained since its baseline.  A counter which went backwards
belongs to a new entry.
-/
def delta (prev stat : QpStat) : QpStat :=
  if prev.bytes ≤ stat.bytes ∧ prev.wrs ≤ stat.wrs then
    { bytes := stat.bytes - prev.bytes, wrs := stat.wrs - prev.wrs }
  else stat

def FlowMetrics.beginReport (metrics : FlowMetrics) : FlowMetrics := { metrics with qps := ∅ }

def FlowMetrics.observe (metrics : FlowMetrics) (observation : Observation) : Bool × FlowMetrics :=
  if observation.resolved = false then (false, metrics)
  else
    let labels := flowLabels observation.src observation.dst observation.ends
    let gained := delta (metrics.last.getD observation.key .zero) observation.stat
    (true,
      { bytes := addCounter metrics.bytes labels gained.bytes.toNat
        wrs := addCounter metrics.wrs labels gained.wrs.toNat
        qps := metrics.qps.insert labels (metrics.qps.getD labels 0 + 1)
        last := metrics.last.insert observation.key observation.stat })

/-- `endReport`: drop the baselines of the queue pairs not seen. -/
def FlowMetrics.endReport (runtime : Runtime) (metrics : FlowMetrics)
    (seen : List QpKey) : FlowMetrics :=
  { metrics with
    last :=
      (runtime.range ["endReport"] metrics.last.keys).foldl
        (fun last key => if key ∈ seen then last else last.erase key)
        metrics.last }

/-! ## The account of one queue pair -/

/-- One addition to the counters of a flow. -/
structure Credit where
  key : QpKey
  labels : List String
  amount : Totals

/-- The metrics with the list of additions which led to them. -/
structure Accounts where
  metrics : FlowMetrics
  credits : List Credit

/-- A new agent has credited nothing. -/
def Accounts.new : Accounts := { metrics := .new, credits := [] }

section

variable (accounts : Accounts)

/-- Observe a queue pair and note what it is credited. -/
def Accounts.observe (observation : Observation) :
    Accounts :=
  { metrics := (accounts.metrics.observe observation).2
    credits :=
      if observation.resolved then
        accounts.credits ++
          [{ key := observation.key
             labels := flowLabels observation.src observation.dst observation.ends
             amount :=
               (delta (accounts.metrics.last.getD observation.key .zero) observation.stat).totals }]
      else accounts.credits }

/-- One report round over the queue pairs its iteration yields. -/
def Accounts.report (runtime : Runtime) (accounts : Accounts)
    (round : List Observation) : Accounts :=
  let observed :=
    round.foldl Accounts.observe { accounts with metrics := accounts.metrics.beginReport }
  { observed with
    metrics :=
      observed.metrics.endReport runtime (round.map Observation.key) }

/-- What was credited for a queue pair over all flows. -/
def Accounts.creditedFor (key : QpKey) : Totals :=
  ((accounts.credits.filter fun credit => credit.key = key).map Credit.amount).sum

/-- What was credited to a flow over all queue pairs. -/
def Accounts.creditedTo (labels : List String) : Totals :=
  ((accounts.credits.filter fun credit => credit.labels = labels).map Credit.amount).sum

lemma getD_addCounter (counters : CounterVec) (labels : List String)
    (amount : Nat) (other : List String) : (addCounter counters labels amount).getD other 0 =
      counters.getD other 0 + if labels = other then amount else 0 := by
  rw [addCounter]
  split_ifs with positive same same
  · rw [GoMap.getD_insert, if_pos same, same]
  · rw [GoMap.getD_insert, if_neg same, Nat.add_zero]
  · omega
  · rfl

/-- The counters of a flow are the sums of what it was credited. -/
def Accounts.Balanced : Prop :=
  ∀ labels, (accounts.metrics.bytes.getD labels 0,
    accounts.metrics.wrs.getD labels 0) = accounts.creditedTo labels

end

lemma Accounts.Balanced.observe {accounts : Accounts} (balanced : accounts.Balanced)
    (observation : Observation) : (accounts.observe observation).Balanced := by
  intro labels
  have before := balanced labels
  rw [Accounts.creditedTo, Prod.mk.injEq] at before
  cases isResolved : observation.resolved with
  | false =>
    simp only [Accounts.observe, FlowMetrics.observe, isResolved, Accounts.creditedTo]
    exact balanced labels
  | true =>
    simp only [Accounts.observe, FlowMetrics.observe, isResolved,
      Accounts.creditedTo, getD_addCounter, filter_append,
      map_append, sum_append, if_true, before,
      Bool.true_eq_false, if_false]
    by_cases same : flowLabels observation.src observation.dst observation.ends = labels
    · simp [same, QpStat.totals, Prod.ext_iff]
    · simp [same]

lemma Accounts.Balanced.report {accounts : Accounts} (balanced : accounts.Balanced)
    (runtime : Runtime) (round : List Observation) : (accounts.report runtime round).Balanced := by
  suffices general : ∀ start : Accounts, start.Balanced →
      (round.foldl Accounts.observe start).Balanced by
    exact general { accounts with metrics := accounts.metrics.beginReport } balanced
  induction round with
  | nil => exact fun start holds => holds
  | cons first rest ih => exact fun start holds => ih _ (holds.observe first)

end Unifabric.EbpfFlow
