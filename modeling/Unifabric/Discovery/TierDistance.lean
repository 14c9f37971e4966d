import Unifabric.Discovery.TieredGraph

/-!
# Tiers are distances

The tiers in terms of the stored graph itself: a host has tier 0, a switch has
one more than the length of a shortest walk through switches to a switch next
to a host, and the edges which remain afterwards are those between consecutive
tiers.
-/

namespace Unifabric.Discovery

open Lib

/-- A walk of the given length through switches to a switch next to a host. -/
def HostWalk (graph : TopologyGraph) : Nat → String → Prop
  | 0, name => typeOf graph.devices name = .switch ∧ ∃ host, HasEdge graph.adj name host ∧
        typeOf graph.devices host = .host
  | length + 1, name => typeOf graph.devices name = .switch ∧
      ∃ next, HasEdge graph.adj name next ∧ HostWalk graph length next

section

variable (runtime : Runtime) (hosts : List Host) (switches : List Switch)

lemma hostWalk_iff_reach (length : Nat) (name : String) :
    HostWalk (buildTopologyGraph runtime hosts switches) length name ↔
      (fabric hosts switches).Reach (length + 1) name := by
  have edges := (buildTopologyGraph_spec runtime hosts switches).2.2.1
  induction length generalizing name with
  | zero =>
    refine and_congr (typeOf_input_switch runtime hosts switches name)
      (exists_congr fun host => and_congr (edges name host) ?_)
    exact typeOf_input_host runtime hosts switches host
  | succ length ih =>
    exact and_congr (typeOf_input_switch runtime hosts switches name) (exists_congr fun next =>
        and_congr (edges name next) (ih next))

lemma level_succ_iff_isLeast (isSwitch : (fabric hosts switches).inner name) (length : Nat) :
    (fabric hosts switches).Level (length + 1) name ↔
      IsLeast {length | HostWalk (buildTopologyGraph runtime hosts switches)
        length name} length := by
  have noShorter : ¬ (fabric hosts switches).Reach 0 name :=
    fun isHost => (fabric hosts switches).disjoint isHost isSwitch
  constructor
  · rintro ⟨reached, minimal⟩
    refine ⟨(hostWalk_iff_reach runtime hosts switches _ _).2 reached, ?_⟩
    intro other walk
    by_contra shorter
    exact minimal (other + 1) (by omega) ((hostWalk_iff_reach runtime hosts switches _ _).1 walk)
  · rintro ⟨walk, least⟩
    refine ⟨(hostWalk_iff_reach runtime hosts switches _ _).1 walk, ?_⟩
    intro shorter less reached
    cases shorter with
    | zero => exact noShorter reached
    | succ shorter =>
      have bound : length ≤ shorter := least
        ((hostWalk_iff_reach runtime hosts switches _ _).2 reached)
      omega

lemma tierOf_inferTiers_switch (isSwitch : (fabric hosts switches).inner name) :
    let graph := buildTopologyGraph runtime hosts switches
    let tier := tierOf (inferTiers runtime graph).devices name
    (∃ length : Nat, IsLeast {length | HostWalk graph length name} length ∧ tier = 1 + length) ∨
      ((∀ length, ¬ HostWalk graph length name) ∧ tier = -1) := by
  intro graph tier
  have known : Known hosts switches name := .inr isSwitch
  by_cases reachable : ∃ length, HostWalk graph length name
  · -- The shortest walk exists, and its length is the level.
    classical
    have least : IsLeast {length | HostWalk graph length name} (Nat.find reachable) :=
      ⟨Nat.find_spec reachable, fun _ walk => Nat.find_min' reachable walk⟩
    refine .inl ⟨Nat.find reachable, least, ?_⟩
    have level := (level_succ_iff_isLeast runtime hosts switches isSwitch
      (Nat.find reachable)).2 least
    refine ((tierOf_inferTiers_iff runtime hosts switches known
      (Nat.find reachable + 1)).2 level).trans ?_
    push_cast
    ring
  · refine .inr ⟨not_exists.1 reachable, ?_⟩
    refine (tierOf_inferTiers_eq_neg_one_iff runtime hosts switches known).2 ?_
    rintro ⟨level, reached⟩
    cases level with
    | zero =>
      exact (fabric hosts switches).disjoint
        ((LayeredGraph.level_zero_iff name).1 reached) isSwitch
    | succ length =>
      exact reachable ⟨length, (hostWalk_iff_reach runtime hosts switches _ _).2 reached.1⟩

/--
After `InferTiers` a host has tier 0 and a switch one more than its distance to
a switch next to a host, or `-1` if it has none.  After `NormalizeTierEdges`
the adjacency is symmetric and has exactly the edges between tiers which differ
by one.
-/
theorem inferTiers_shortest_distance :
    let graph : TopologyGraph := buildTopologyGraph runtime hosts switches
    let tier := tierOf (inferTiers runtime graph).devices
    let normalized := normalizeTierEdges runtime (inferTiers runtime graph)
    (∀ name, typeOf graph.devices name = .host → tier name = 0) ∧
    (∀ name, typeOf graph.devices name = .switch →
      (∃ length : Nat, IsLeast {length | HostWalk graph length name} length ∧
          tier name = 1 + length) ∨
        ((∀ length, ¬ HostWalk graph length name) ∧ tier name = -1)) ∧
    (∀ a b, HasEdge normalized.adj a b → HasEdge normalized.adj b a) ∧
    ∀ a b, HasEdge normalized.adj a b ↔ HasEdge graph.adj a b ∧ 0 ≤ tier a ∧ 0 ≤ tier b ∧
      (tier a - tier b).natAbs = 1 := by
  intro graph tier normalized
  rcases buildTopologyGraph_spec runtime hosts switches with ⟨_, allTrue, edges, _⟩
  rcases normalizeTierEdges_spec runtime (inferTiers runtime graph) allTrue
    (fun a b edge => (edges b a).mpr ((edges a b).mp edge).symm)
    (fun a b edge => (inferTiers_mem_devices_iff runtime hosts switches
      a).mpr ((edges a b).mp edge).known) with ⟨_, _, kept, _⟩
  refine ⟨?_, ?_, ?_, kept⟩
  · intro name isHost
    exact (inferTiers_invariant runtime hosts switches).host
      ((typeOf_input_host runtime hosts switches name).mp isHost)
  · intro name isSwitch
    exact tierOf_inferTiers_switch runtime hosts switches
      ((typeOf_input_switch runtime hosts switches name).mp isSwitch)
  · intro a b edge
    rcases (kept a b).mp edge with ⟨original, joins⟩
    exact (kept b a).mpr ⟨(edges b a).mpr ((edges a b).mp original).symm, joins.symm⟩

end

end Unifabric.Discovery
