import Unifabric.Discovery.TierSpec
import Unifabric.Discovery.Topology

/-!
# The graph between tiers

`NormalizeTierEdges` keeps the links between consecutive tiers.  `Tiered` says
what the later stages rely on: the tiers are the levels of a layered graph and
the edges are its links between consecutive levels.
-/

namespace Unifabric.Discovery

open Lib GoMap Std.ExtTreeMap Option

/-! ## Edge normalization -/

/-- The edge joins consecutive tiers. -/
def JoinsTiers (devices : GoMap String Device) (a b : String) : Prop :=
  0 ≤ tierOf devices a ∧ 0 ≤ tierOf devices b ∧ (tierOf devices a - tierOf devices b).natAbs = 1

lemma JoinsTiers.symm (joins : JoinsTiers devices a b) : JoinsTiers devices b a := by
  obtain ⟨left, right, apart⟩ := joins
  exact ⟨right, left, by omega⟩

lemma joins_keepTierEdge (devices : GoMap String Device) (adj : Adjacency)
    (entry : String × String) : Joins (fun a b => JoinsTiers devices a b ∧ entry = (a, b)) adj
      (keepTierEdge devices entry.1 adj entry.2) := by
  obtain ⟨source, target⟩ := entry
  unfold keepTierEdge
  simp only
  split_ifs with untiered apart
  · refine joins_none ?_ _
    rintro a b ⟨⟨left, right, _⟩, ⟨⟩⟩
    exact untiered.elim (not_lt.2 left) (not_lt.2 right)
  · refine joins_none ?_ _
    rintro a b ⟨⟨_, _, consecutive⟩, ⟨⟩⟩
    exact apart consecutive
  · have consecutive : JoinsTiers devices source target := by
      unfold JoinsTiers tierOf
      omega
    convert joins_setEdge adj source target using 3
    aesop

/-- The adjacency entries in visiting order. -/
def adjacencyEntries (runtime : Runtime) (adj : Adjacency) : List (String × String) :=
  (runtime.range ["NormalizeTierEdges", "adj"] adj.keys).flatMap fun a =>
    (runtime.range ["NormalizeTierEdges", "adj", a] (adj.getD a ∅).keys).map fun b => (a, b)

/-- The normalized adjacency, for a symmetric adjacency without `false`. -/
lemma normalizeTierEdges_spec (runtime : Runtime) (graph : TopologyGraph)
    (allTrue : AllTrue graph.adj) (symmetric : ∀ a b, HasEdge graph.adj a b → HasEdge graph.adj b a)
    (inside : ∀ a b, HasEdge graph.adj a b → a ∈ graph.devices) :
    (normalizeTierEdges runtime graph).devices = graph.devices ∧
      AllTrue (normalizeTierEdges runtime graph).adj ∧
      (∀ a b, HasEdge (normalizeTierEdges runtime graph).adj a b ↔
        HasEdge graph.adj a b ∧ JoinsTiers graph.devices a b) ∧
      ∀ a, a ∈ (normalizeTierEdges runtime graph).adj ↔ a ∈ graph.devices := by
  have rows := fun name => GoMap.getElem?_foldl_insert
    (runtime.range ["NormalizeTierEdges", "devices"] graph.devices.keys)
    id (fun _ => (∅ : GoMap String Bool)) (∅ : Adjacency) name
  simp only [id_eq, List.map_id, runtime.mem_range, Std.ExtTreeMap.mem_keys] at rows
  have flattened : (normalizeTierEdges runtime graph).adj =
      (adjacencyEntries runtime graph.adj).foldl
        (fun adj entry => keepTierEdge graph.devices entry.1 adj entry.2)
        ((runtime.range ["NormalizeTierEdges", "devices"] graph.devices.keys).foldl
            (fun adj name => adj.insert name ∅) (∅ : Adjacency)) := by
    unfold normalizeTierEdges adjacencyEntries
    rw [List.foldl_flatMap]
    simp only [List.foldl_map]
  generalize (runtime.range ["NormalizeTierEdges", "devices"]
    graph.devices.keys).foldl (fun adj name => adj.insert name ∅)
      (∅ : Adjacency) = start at rows flattened
  have joins : Joins _ start (normalizeTierEdges runtime graph).adj :=
    flattened ▸ joins_foldl (joins_keepTierEdge graph.devices)
      (adjacencyEntries runtime graph.adj) start
  have emptyRow : ∀ a, start.getD a ∅ = ∅ := by
    intro a
    rw [GoMap.getD_eq, rows a]
    split_ifs <;> simp
  have listed : ∀ a b, (a, b) ∈ adjacencyEntries runtime graph.adj ↔ HasEdge graph.adj a b := by
    intro a b
    unfold adjacencyEntries
    rw [← mem_row_keys_iff allTrue]
    simp only [List.mem_flatMap, runtime.mem_range, List.mem_map,
      Prod.mk.injEq, Std.ExtTreeMap.mem_keys]
    constructor
    · rintro ⟨x, _, y, found, rfl, rfl⟩
      exact found
    · intro found
      refine ⟨a, ?_, b, found, rfl, rfl⟩
      by_contra missing
      rw [GoMap.mem_iff, GoMap.getD_eq, (GoMap.getElem?_eq_none_iff _ _).2 missing] at found
      simp at found
  have kept : ∀ a b, (∃ entry ∈ adjacencyEntries runtime graph.adj,
      JoinsTiers graph.devices a b ∧ entry = (a, b)) ↔
        HasEdge graph.adj a b ∧ JoinsTiers graph.devices a b := by
    intro a b
    aesop
  refine ⟨rfl, joins.allTrue fun a b value found => ?_, fun a b => ?_, fun a => ?_⟩
  · rw [emptyRow a] at found
    simp at found
  · rw [joins.edges, kept, kept]
    simp only [HasEdge, emptyRow]
    have reversed := symmetric b a
    have turned : JoinsTiers graph.devices b a → JoinsTiers graph.devices a b := JoinsTiers.symm
    tauto
  · have isRow : a ∈ start ↔ a ∈ graph.devices := by
      rw [GoMap.mem_iff, rows a]
      by_cases present : a ∈ graph.devices <;> simp [present]
    rw [joins.vertices, isRow]
    simp only [kept]
    constructor
    · rintro (⟨b, ⟨edge, _⟩ | ⟨edge, _⟩⟩ | present)
      · exact inside a b edge
      · exact inside a b (symmetric b a edge)
      · exact present
    · exact .inr

/-! ## What the later stages rely on -/

/-- The devices and edges of a graph are the levels of a layered graph. -/
structure Tiered (graph : TopologyGraph) (layers : LayeredGraph String) : Prop where
  vertex : ∀ name, name ∈ graph.devices ↔ layers.base name ∨ layers.inner name
  row : ∀ name, name ∈ graph.adj ↔ name ∈ graph.devices
  named : ∀ {name : String} {device}, graph.devices[name]? = some device → device.name = name
  host : ∀ {name : String} {device}, graph.devices[name]? = some device →
      (device.type = .host ↔ layers.base name)
  tier : ∀ {name : String} {device}, graph.devices[name]? = some device →
      ∀ level : Nat, device.tier = level ↔ layers.Level level name
  allTrue : AllTrue graph.adj
  edge : ∀ a b, HasEdge graph.adj a b ↔ layers.Adjacent a b

section

variable (runtime : Runtime) (hosts : List Host) (switches : List Switch)

lemma inferTiers_mem_devices_iff (name : String) : name ∈ (inferTiers runtime
        (buildTopologyGraph runtime hosts switches)).devices ↔ Known hosts switches name := by
  rw [mem_iff, inferTiers_getElem?, ← inputDevice_isSome_iff]
  cases inputDevice hosts switches name with
  | none => simp
  | some device => simp

/-- Linked devices join tiers exactly when their levels are consecutive. -/
lemma joinsTiers_iff_adjacent (linked : Linked hosts switches a b) :
    JoinsTiers (inferTiers runtime (buildTopologyGraph runtime hosts switches)).devices a b ↔
      (fabric hosts switches).Adjacent a b := by
  have left := tierOf_inferTiers_iff runtime hosts switches linked.known
  have right := tierOf_inferTiers_iff runtime hosts switches linked.symm.known
  unfold JoinsTiers LayeredGraph.Adjacent
  simp only [← left, ← right]
  constructor
  · rintro ⟨leftTier, rightTier, apart⟩
    refine ⟨linked, ?_⟩
    rcases lt_or_ge (tierOf (inferTiers runtime
          (buildTopologyGraph runtime hosts switches)).devices a)
        (tierOf (inferTiers runtime (buildTopologyGraph runtime hosts switches)).devices b) with
      less | more
    · exact ⟨_, .inl ⟨(Int.toNat_of_nonneg leftTier).symm, by push_cast; omega⟩⟩
    · exact ⟨_, .inr ⟨by push_cast; omega, (Int.toNat_of_nonneg rightTier).symm⟩⟩
  · rintro ⟨_, level, ⟨lower, upper⟩ | ⟨upper, lower⟩⟩
    · push_cast at upper
      omega
    · push_cast at upper
      omega

lemma tieredGraph_spec : (tieredGraph runtime hosts switches).devices = (inferTiers runtime
          (buildTopologyGraph runtime hosts switches)).devices ∧
      AllTrue (tieredGraph runtime hosts switches).adj ∧
      (∀ a b, HasEdge (tieredGraph runtime hosts switches).adj a b ↔
        (fabric hosts switches).Adjacent a b) ∧
      ∀ a, a ∈ (tieredGraph runtime hosts switches).adj ↔ Known hosts switches a := by
  obtain ⟨_, allTrue, edges, _⟩ := buildTopologyGraph_spec runtime hosts switches
  obtain ⟨devices, keptTrue, keptEdges, vertices⟩ :=
    normalizeTierEdges_spec runtime (inferTiers runtime (buildTopologyGraph runtime hosts switches))
      allTrue
      (fun a b edge =>
        (edges b a).2 ((edges a b).1 edge).symm)
      (fun a b edge =>
        (inferTiers_mem_devices_iff runtime hosts switches a).2 ((edges a b).1 edge).known)
  refine ⟨devices, keptTrue, ?_, ?_⟩
  · intro a b
    refine (keptEdges a b).trans ?_
    constructor
    · rintro ⟨edge, joins⟩
      exact (joinsTiers_iff_adjacent runtime hosts switches ((edges a b).1 edge)).1 joins
    · intro adjacent
      exact ⟨(edges a b).2 adjacent.1,
        (joinsTiers_iff_adjacent runtime hosts switches adjacent.1).2 adjacent⟩
  · intro a
    exact (vertices a).trans (inferTiers_mem_devices_iff runtime hosts switches a)

/-- The graph on which groups are built has the levels of the fabric. -/
lemma tieredGraph_tiered : Tiered (tieredGraph runtime hosts switches)
      (fabric hosts switches) := by
  obtain ⟨devices, allTrue, edges, vertices⟩ := tieredGraph_spec runtime hosts switches
  have lookup : ∀ {name : String} {device : Device},
      (tieredGraph runtime hosts switches).devices[name]? = some device →
        ∃ input, inputDevice hosts switches name = some input ∧
          device.name = input.name ∧ device.type = input.type ∧
          device.tier = tierOf (inferTiers runtime
            (buildTopologyGraph runtime hosts switches)).devices name := by
    intro name device found
    rw [devices, inferTiers_getElem?] at found
    obtain ⟨input, isInput, rfl⟩ := map_eq_some_iff.1 found
    exact ⟨input, isInput, rfl, rfl, rfl⟩
  refine
    { vertex := ?_
      row := ?_
      named := ?_
      host := ?_
      tier := ?_
      allTrue := allTrue
      edge := edges }
  · intro name
    rw [devices, inferTiers_mem_devices_iff, known_iff_base_or_inner]
  · intro name
    rw [vertices, devices, inferTiers_mem_devices_iff]
  · intro name device found
    obtain ⟨input, isInput, sameName, _, _⟩ := lookup found
    rw [sameName]
    unfold inputDevice at isInput
    split_ifs at isInput
    · rw [← some.inj isInput]
    · rw [← some.inj isInput]
  · intro name device found
    obtain ⟨input, isInput, _, sameType, _⟩ := lookup found
    rw [sameType]
    unfold inputDevice at isInput
    split_ifs at isInput with isSwitch isHost
    · simp [← some.inj isInput, fabric, isSwitch]
    · simp [← some.inj isInput, fabric, isSwitch, isHost]
  · intro name device found level
    obtain ⟨input, isInput, _, _, tier⟩ := lookup found
    rw [tier]
    exact tierOf_inferTiers_iff runtime hosts switches
      ((inputDevice_isSome_iff hosts switches name).1 ⟨input, isInput⟩)
      level

end

/-! ## The graph depends on the fabric only -/

lemma fabric_congr (same : SameFabric hosts hosts' switches switches') :
    fabric hosts switches = fabric hosts' switches' := by
  have sameBase : (fabric hosts switches).base = (fabric hosts' switches').base := by
    funext name
    simp only [fabric, same.sameHosts, same.sameSwitches]
  have sameInner : (fabric hosts switches).inner = (fabric hosts' switches').inner := by
    funext name
    simp only [fabric, same.sameSwitches]
  have sameLink : (fabric hosts switches).link = (fabric hosts' switches').link := by
    funext a b
    simp only [fabric, same.sameLinks]
  exact LayeredGraph.ext sameBase sameInner sameLink

lemma tieredGraph_congr (runtime runtime' : Runtime)
    (same : SameFabric hosts hosts' switches switches') :
    (tieredGraph runtime hosts switches).devices = (tieredGraph runtime' hosts' switches').devices ∧
      (tieredGraph runtime hosts switches).adj = (tieredGraph runtime' hosts' switches').adj := by
  obtain ⟨devices, allTrue, edges, vertices⟩ := tieredGraph_spec runtime hosts switches
  obtain ⟨devices', allTrue', edges', vertices'⟩ := tieredGraph_spec runtime' hosts' switches'
  have sameKnown : ∀ name, Known hosts switches name ↔ Known hosts' switches' name := by
    intro name
    unfold Known
    rw [same.sameHosts, same.sameSwitches]
  have sameInput : ∀ name, inputDevice hosts switches name = inputDevice hosts' switches' name := by
    intro name
    unfold inputDevice
    simp only [same.sameHosts, same.sameSwitches]
  have sameTier : ∀ name, Known hosts switches name → tierOf (inferTiers runtime
          (buildTopologyGraph runtime hosts switches)).devices name =
        tierOf (inferTiers runtime'
          (buildTopologyGraph runtime' hosts' switches')).devices name := by
    intro name known
    by_cases leveled : ∃ level, (fabric hosts switches).Level level name
    · obtain ⟨level, reached⟩ := leveled
      rw [(tierOf_inferTiers_iff runtime hosts switches known level).2 reached,
        (tierOf_inferTiers_iff runtime' hosts' switches' ((sameKnown name).1 known) level).2
            (fabric_congr same ▸ reached)]
    · rw [(tierOf_inferTiers_eq_neg_one_iff runtime hosts switches known).2 leveled,
        (tierOf_inferTiers_eq_neg_one_iff runtime' hosts' switches' ((sameKnown name).1 known)).2
            (fabric_congr same ▸ leveled)]
  constructor
  · refine ext_getElem? fun name => ?_
    rw [devices, devices', inferTiers_getElem?, inferTiers_getElem?, ← sameInput name]
    refine map_congr fun device isInput => ?_
    rw [sameTier name ((inputDevice_isSome_iff hosts switches name).1 ⟨device, isInput⟩)]
  · refine adjacency_ext allTrue allTrue' (fun a => ?_) (fun a b => ?_)
    · rw [vertices, vertices', sameKnown]
    · rw [edges, edges', fabric_congr same]

end Unifabric.Discovery
