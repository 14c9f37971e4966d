import Unifabric.EbpfFlow.Endpoint

/-!
# The queue pairs of an interface

`buildInterface` splits the queue pairs of a device by port and attaches them
to the ports of the table.  Those without a port go to the first one, and an
unreadable table gives one port with all of them.  A port which the table does
not list takes its queue pairs with it.
-/

namespace Unifabric.EbpfFlow

open Lib GoMap List

/-- The published form of a record. -/
def QpRecord.pair (qp : QpRecord) : RdmaQueuePair :=
  { qpn := qp.qpn, pid := qp.pid }

/-- The published queue pairs of the records on one port. -/
def pairsOn (qps : List QpRecord) (port : Int) : List RdmaQueuePair :=
  (qps.filter (·.port = port)).map QpRecord.pair

/--
Every record is on exactly one port of the interface, and on the port with its
number if the table has it.
-/
structure KeepsQueuePairs (info : DeviceInfo) (qps : List QpRecord) (iface : RdmaInterface) :
    Prop where
  once : (iface.ports.flatMap RdmaPort.queuePairs).Perm (qps.map QpRecord.pair)
  onPort : ∀ port ∈ info.ports, ∃ published ∈ iface.ports,
    published.port = port.num ∧ (pairsOn qps port.num).Subperm published.queuePairs

/-- The table is unreadable, or has the port of each record which has one. -/
def KnownPorts (info : DeviceInfo) (qps : List QpRecord) : Prop :=
  info.ports = [] ∨ ∀ qp ∈ qps, qp.port ∈ 0 :: info.ports.map PortInfo.num

/-! ## Records by port -/

lemma getD_queuePairsByPort (qps : List QpRecord) (port : Int) :
    (queuePairsByPort qps).getD port [] = pairsOn qps port := by
  induction qps using reverseRecOn with
  | nil => simp [queuePairsByPort, pairsOn, getD_eq]
  | append_singleton before last ih =>
    rw [queuePairsByPort, foldl_append, foldl_cons, foldl_nil, ← queuePairsByPort,
      getD_insert, pairsOn, filter_append, map_append, ← pairsOn]
    by_cases same : last.port = port
    · subst same
      rw [if_pos rfl, ih]
      simp [QpRecord.pair]
    · rw [if_neg same, ih]
      simp [same]

lemma mem_queuePairsByPort {qps : List QpRecord} {qp : QpRecord} (listed : qp ∈ qps) :
    qp.port ∈ (queuePairsByPort qps).keys := by
  rw [GoMap.mem_keys_iff, ← GoMap.mem_iff]
  by_contra absent
  have empty := getD_queuePairsByPort qps qp.port
  rw [GoMap.getD_eq, (GoMap.getElem?_eq_none_iff _ _).2 absent] at empty
  have among : qp.pair ∈ pairsOn qps qp.port :=
    List.mem_map_of_mem (List.mem_filter.2 ⟨listed, by simp⟩)
  rw [← empty] at among
  cases among

lemma filter_or_perm {α : Type} {left right : α → Bool} {values : List α}
    (disjoint : ∀ value ∈ values, left value = true → right value = false) :
    (values.filter left ++ values.filter right).Perm
      (values.filter fun value => left value || right value) := by
  induction values with
  | nil => exact .nil
  | cons first rest ih =>
    have shorter := ih fun value among => disjoint value (mem_cons_of_mem _ among)
    cases isLeft : left first with
    | true =>
      have notRight := disjoint first mem_cons_self isLeft
      simpa [isLeft, notRight] using shorter
    | false =>
      cases isRight : right first with
      | true => simpa [isLeft, isRight] using perm_middle.trans (shorter.cons first)
      | false => simpa [isLeft, isRight] using shorter

lemma flatMap_pairsOn_perm (qps : List QpRecord) {ports : List Int} (distinct : ports.Nodup) :
    (ports.flatMap (pairsOn qps)).Perm ((qps.filter (·.port ∈ ports)).map QpRecord.pair) := by
  induction ports with
  | nil => simp
  | cons first rest ih =>
    rw [nodup_cons] at distinct
    have disjoint : ∀ qp ∈ qps, decide (qp.port = first) = true →
        decide (qp.port ∈ rest) = false := by
      intro qp _ isFirst
      rw [decide_eq_true_eq] at isFirst
      simpa [isFirst] using distinct.1
    have joined := (filter_or_perm disjoint).map QpRecord.pair
    rw [map_append] at joined
    refine ((ih distinct.2).append_left _).trans (joined.trans ?_)
    simp [mem_cons, Bool.decide_or]

lemma map_filter_perm_iff {α β : Type} {keep : α → Bool} {values : List α} {change : α → β} :
    ((values.filter keep).map change).Perm (values.map change) ↔ ∀ value ∈ values, keep value := by
  constructor
  · intro same
    have length := same.length_eq
    rw [length_map, length_map] at length
    exact length_filter_eq_length_iff.1 length
  · intro all
    rw [filter_eq_self.2 all]

/-! ## Interfaces -/

variable (runtime : Runtime)

lemma sortQueuePairs_perm (queuePairs : List RdmaQueuePair) :
    (sortQueuePairs runtime queuePairs).Perm queuePairs :=
  runtime.sortSlice_perm _ _

lemma buildPort_queuePairs (info : DeviceInfo) (qps : List QpRecord) (port : PortInfo) :
    (buildPort runtime info (queuePairsByPort qps) port).queuePairs.Perm (pairsOn qps port.num ++
      if port.num = firstPortNum info.ports then pairsOn qps 0 else []) := by
  rw [buildPort, getD_queuePairsByPort, getD_queuePairsByPort]
  exact sortQueuePairs_perm runtime _

/-- The ports of a readable table have the records of port zero and their own. -/
lemma ports_perm {info : DeviceInfo} (qps : List QpRecord)
    (distinct : (info.ports.map PortInfo.num).Nodup) (readable : info.ports ≠ []) :
    ((info.ports.map (buildPort runtime info (queuePairsByPort qps))).flatMap
      RdmaPort.queuePairs).Perm ((0 :: info.ports.map PortInfo.num).flatMap (pairsOn qps)) := by
  have built := buildPort_queuePairs runtime info qps
  obtain ⟨netdev, ports⟩ := info
  cases ports with
  | nil => exact absurd rfl readable
  | cons first rest =>
    rw [map_cons, nodup_cons] at distinct
    have others : ∀ port ∈ rest, (buildPort runtime ⟨netdev, first :: rest⟩ (queuePairsByPort qps)
        port).queuePairs.Perm (pairsOn qps port.num) := by
      intro port listed
      have different : port.num ≠ firstPortNum (first :: rest) := by
        intro same
        exact distinct.1 (mem_map.2 ⟨port, listed, same⟩)
      have own := built port
      rwa [if_neg different, append_nil] at own
    have own := built first
    rw [if_pos (by rfl)] at own
    rw [map_cons, flatMap_cons, flatMap_cons, map_cons, flatMap_cons,
      flatMap_map, flatMap_map, ← append_assoc]
    refine List.Perm.append (own.trans perm_append_comm) ?_
    exact List.Perm.flatMap_left rest others

/--
The interface keeps every queue pair exactly if the table is unreadable or has
the port of every record which has one.
-/
theorem buildInterface_keeps_iff_knownPorts (device : String) (info : DeviceInfo)
    (qps : List QpRecord) (distinct : (info.ports.map PortInfo.num).Nodup)
    (positive : ∀ port ∈ info.ports, 1 ≤ port.num) :
    KeepsQueuePairs info qps (buildInterface runtime device info qps) ↔ KnownPorts info qps := by
  by_cases unreadable : info.ports = []
  · refine iff_of_true ⟨?_, by simp [unreadable]⟩ (Or.inl unreadable)
    by_cases none : qps = []
    · simp [buildInterface, unreadable, none]
    · have ranged := runtime.range_perm ["buildInterface", device] (queuePairsByPort qps).keys
      have once := flatMap_pairsOn_perm qps (ranged.nodup_iff.mpr (keys_nodup _))
      rw [filter_eq_self.mpr fun qp listed => by
        simpa [ranged.mem_iff] using mem_queuePairsByPort listed] at once
      simp only [buildInterface, unreadable, getD_queuePairsByPort]
      simpa [none] using (sortQueuePairs_perm runtime _).trans once
  · have ports : (buildInterface runtime device info qps).ports =
        info.ports.map (buildPort runtime info (queuePairsByPort qps)) := by
      simp [buildInterface, unreadable]
    have zero : (0 :: info.ports.map PortInfo.num).Nodup := by
      refine nodup_cons.mpr ⟨fun listed => ?_, distinct⟩
      rcases mem_map.mp listed with ⟨port, isPort, isZero⟩
      have least := positive port isPort
      omega
    have all := (ports_perm runtime qps distinct unreadable).trans (flatMap_pairsOn_perm qps zero)
    rw [KnownPorts, or_iff_right unreadable]
    constructor
    · intro kept
      have once := kept.once
      rw [ports] at once
      intro qp listed
      simpa using map_filter_perm_iff.mp (all.symm.trans once) qp listed
    · intro known
      refine ⟨?_, fun port listed => ?_⟩
      · rw [ports]
        exact all.trans (map_filter_perm_iff.mpr fun qp listed => by simpa using known qp listed)
      · rw [ports]
        refine ⟨_, mem_map_of_mem listed, rfl, ?_⟩
        exact (sublist_append_left _ _).subperm.trans
          (buildPort_queuePairs runtime info qps port).symm.subperm

/-- One queue pair on the port of the table, one without a port. -/
theorem buildInterface_keeps_iff_knownPorts_one_port :
    KeepsQueuePairs ⟨"eth0", [⟨1, .ethernet, 0, "", []⟩]⟩ [⟨5, 9, 1⟩, ⟨6, 9, 0⟩]
      (buildInterface Runtime.canonical "mlx5_0" ⟨"eth0", [⟨1, .ethernet, 0, "", []⟩]⟩
        [⟨5, 9, 1⟩, ⟨6, 9, 0⟩]) :=
  (buildInterface_keeps_iff_knownPorts Runtime.canonical "mlx5_0" _ _ (by decide)
    (by decide)).mpr (Or.inr (by decide))

/-- The queue pair of a port which the table does not list is published nowhere. -/
theorem unlisted_port_loses_queuePair :
    (buildInterface Runtime.canonical "mlx5_0" ⟨"eth0", [⟨1, .ethernet, 0, "", []⟩]⟩
      [⟨5, 9, 2⟩]).ports.flatMap RdmaPort.queuePairs = [] := by
  decide +kernel

end Unifabric.EbpfFlow
