import Unifabric.Discovery.TieredGraph
import Unifabric.Lib.Worklist

/-!
# Zones are connected parts

The zone search is a worklist search along the edges of the tiered graph.  A
zone is therefore the connected part of a host, the zones are disjoint, and
every device with a tier is in one.
-/

namespace Unifabric.Discovery

open Lib Relation GoMap List Option

variable {graph : TopologyGraph} {layers : LayeredGraph String}

/-! ## One zone -/

section

variable (runtime : Runtime) (adj : Adjacency)

/-- The devices a zone search has marked. -/
abbrev ZoneSearch.Seen (search : ZoneSearch) (name : String) : Prop :=
  search.visited.getD name false = true

lemma getD_insert_true (table : GoMap String Bool) (key other : String) :
    (table.insert key true).getD other false = true ↔
      table.getD other false = true ∨ other = key := by
  rw [GoMap.getD_eq, GoMap.getElem?_insert, GoMap.getD_eq]
  by_cases same : key = other
  · simp [same]
  · simp [same, Ne.symm same]

lemma zoneStep_worklist : Worklist (zoneStep runtime adj) ZoneSearch.queue ZoneSearch.Seen
      (HasEdge adj) where
  stop := by
    intro search stopped
    unfold zoneStep at stopped
    split at stopped
    · assumption
    · split_ifs at stopped
  popped := by
    intro search after stepped
    unfold zoneStep at stepped
    cases split : search.queue with
    | nil => simp [split] at stepped
    | cons current rest =>
      simp only [split] at stepped
      refine ⟨current, rest, rfl, ?_⟩
      split_ifs at stepped with known
      · refine .inl ?_
        rw [← some.inj stepped]
        exact ⟨known, rfl, fun _ => Iff.rfl⟩
      · refine .inr ⟨known, ?_⟩
        rw [← some.inj stepped]
        refine ⟨fun a => getD_insert_true _ _ _, _, rfl, ?_⟩
        intro a
        simp [HasEdge, ZoneSearch.Seen]

/-- The result lists what the search has newly marked, each name once. -/
lemma zoneSearch_result (search : ZoneSearch) (fuel : Nat) (initial : search.result = []) :
    (∀ name, name ∈ (runLoop (zoneStep runtime adj) fuel search).result ↔
        (runLoop (zoneStep runtime adj) fuel search).Seen name ∧ ¬ search.Seen name) ∧
      (runLoop (zoneStep runtime adj) fuel search).result.Nodup := by
  suffices invariant : (∀ name, search.Seen name →
        (runLoop (zoneStep runtime adj) fuel search).Seen name) ∧
      (∀ name, name ∈ (runLoop (zoneStep runtime adj) fuel search).result ↔
          (runLoop (zoneStep runtime adj) fuel search).Seen name ∧ ¬ search.Seen name) ∧
      (runLoop (zoneStep runtime adj) fuel search).result.Nodup from
    invariant.2
  refine runLoop_invariant (fun state =>
      (∀ name, search.Seen name → state.Seen name) ∧
      (∀ name, name ∈ state.result ↔ state.Seen name ∧ ¬ search.Seen name) ∧ state.result.Nodup)
    ?_ fuel search
    ⟨fun _ seen => seen, by simp [initial], by simp [initial]⟩
  rintro state next ⟨kept, listed, distinct⟩ stepped
  unfold zoneStep at stepped
  cases split : state.queue with
  | nil => simp [split] at stepped
  | cons current rest =>
    simp only [split] at stepped
    split_ifs at stepped with known
    · rw [← some.inj stepped]
      exact ⟨kept, listed, distinct⟩
    · have marks : ∀ name, next.Seen name ↔ state.Seen name ∨ name = current := by
        intro name
        rw [← some.inj stepped]
        exact getD_insert_true _ _ _
      have result : next.result = state.result ++ [current] := by rw [← some.inj stepped]
      refine ⟨?_, ?_, ?_⟩
      · intro name seen
        exact (marks name).2 (.inl (kept name seen))
      · intro name
        rw [result, marks, mem_append, listed, mem_singleton]
        constructor
        · rintro (⟨seen, fresh⟩ | rfl)
          · exact ⟨.inl seen, fresh⟩
          · exact ⟨.inr rfl, fun seen => known (kept name seen)⟩
        · rintro ⟨seen | rfl, fresh⟩
          · exact .inl ⟨seen, fresh⟩
          · exact .inr rfl
      · rw [result]
        refine List.Nodup.append distinct (nodup_singleton current) ?_
        intro name member isCurrent
        rw [mem_singleton.1 isCurrent, listed] at member
        exact known member.1

lemma length_sortedBoolKeys_le (site : List String) (table : GoMap String Bool) :
    (sortedBoolKeys runtime site table).length ≤ table.size := by
  rw [sortedBoolKeys_eq, ← Std.ExtTreeMap.length_keys]
  exact length_filter_le _ _

lemma zoneSearch_stops (inside : ∀ a b, HasEdge adj a b → b ∈ adj) (start : String)
    (known : start ∈ adj) (visited : GoMap String Bool) :
    zoneStep runtime adj (runLoop (zoneStep runtime adj) (entryCount adj + 2)
        { queue := [start], visited := visited, result := [] }) =
      none := by
  refine (zoneStep_worklist runtime adj).stops adj.keys
    (fun name => (adj.getD name ∅).size) ?_ ?_ _ ?_ _ ?_
  · intro a b _ edge
    rw [Std.ExtTreeMap.mem_keys]
    exact inside a b edge
  · intro state after stepped current rest pushed split newQueue fresh _
    unfold zoneStep at stepped
    simp only [split] at stepped
    rw [if_neg fresh] at stepped
    rw [← some.inj stepped] at newQueue
    rw [← append_cancel_left newQueue]
    exact (length_filter_le _ _).trans (length_sortedBoolKeys_le runtime _ _)
  · intro a member
    rw [mem_singleton.1 member, Std.ExtTreeMap.mem_keys]
    exact known
  · simp only [length_singleton, entryCount]
    omega

/-- What one zone search returns, for marks closed under edges. -/
lemma collectZoneDeviceNames_spec (symmetric : ∀ a b, HasEdge adj a b → HasEdge adj b a)
    (inside : ∀ a b, HasEdge adj a b → b ∈ adj) (start : String) (known : start ∈ adj)
    (visited : GoMap String Bool)
    (closed : ∀ a b, visited.getD a false = true →
      ReflTransGen (HasEdge adj) a b → visited.getD b false = true)
    (fresh : visited.getD start false = false) :
    (collectZoneDeviceNames runtime adj start visited).1.Pairwise (· < ·) ∧ (∀ name,
        (collectZoneDeviceNames runtime adj start visited).2.getD name false = true ↔
          visited.getD name false = true ∨ ReflTransGen (HasEdge adj) start name) ∧
      ∀ name, name ∈ (collectZoneDeviceNames runtime adj start visited).1 ↔
          ReflTransGen (HasEdge adj) start name := by
  have marks := (zoneStep_worklist runtime adj).seen_iff
    { queue := [start], visited := visited, result := [] }
    (entryCount adj + 2)
    (fun a b seen edge => closed a b seen (ReflTransGen.single edge))
    (zoneSearch_stops runtime adj inside start known visited)
  simp only [mem_singleton, exists_eq_left] at marks
  obtain ⟨listed, distinct⟩ := zoneSearch_result runtime adj
    { queue := [start], visited := visited, result := [] }
    (entryCount adj + 2) rfl
  refine ⟨?_, marks, ?_⟩
  · unfold collectZoneDeviceNames
    exact sortValues_pairwise_lt distinct
  · intro name
    unfold collectZoneDeviceNames
    rw [mem_sortValues, listed, marks]
    constructor
    · rintro ⟨seen | path, notSeen⟩
      · exact absurd seen notSeen
      · exact path
    · intro path
      refine ⟨.inr path, fun seen => ?_⟩
      have startSeen := closed name start seen ((equivalence_reflTransGen fun edge =>
          symmetric _ _ edge).symm path)
      rw [fresh] at startSeen
      exact Bool.false_ne_true startSeen

end

/-! ## All zones -/

lemma mem_collectHostStarts (tiered : Tiered graph layers) (name : String) :
    name ∈ collectHostStarts runtime graph ↔ layers.base name := by
  unfold collectHostStarts
  rw [mem_sortValues, mem_filter, MapOrder.mem_range, mem_keys_iff, getD_eq]
  constructor
  · rintro ⟨⟨device, found⟩, isHost⟩
    rw [found] at isHost
    exact (tiered.host found).1 (by simpa using isHost)
  · intro isBase
    have known := (tiered.vertex name).2 (.inl isBase)
    obtain ⟨device, found⟩ := (mem_iff _ _).1 known
    refine ⟨⟨device, found⟩, ?_⟩
    rw [found]
    simpa using (tiered.host found).2 isBase

/-- A sorted list of the devices connected to a host. -/
structure Zone (layers : LayeredGraph String) (names : List String) : Prop where
  sorted : names.Pairwise (· < ·)
  part : ∃ host, layers.base host ∧ ∀ name, name ∈ names ↔ layers.Connected host name

lemma Tiered.hasEdge_symm (tiered : Tiered graph layers) (a b : String)
    (edge : HasEdge graph.adj a b) : HasEdge graph.adj b a := by
  rw [tiered.edge] at edge ⊢
  exact edge.symm

lemma Tiered.mem_of_level (tiered : Tiered graph layers) (reached : layers.Level level name) :
    name ∈ graph.devices := by
  rw [tiered.vertex]
  cases level with
  | zero => exact .inl ((LayeredGraph.level_zero_iff name).1 reached)
  | succ level => exact .inr reached.inner

lemma Tiered.mem_adj_of_hasEdge (tiered : Tiered graph layers) (a b : String)
    (edge : HasEdge graph.adj a b) : b ∈ graph.adj := by
  rw [tiered.row]
  obtain ⟨level, reached⟩ := ((tiered.edge a b).1 edge).symm.leveled
  exact tiered.mem_of_level reached

lemma collectConnectedZones_spec (runtime : Runtime) (tiered : Tiered graph layers) :
    (∀ zone ∈ collectConnectedZones runtime graph, Zone layers zone) ∧ (∀ host, layers.base host →
        ∃ zone ∈ collectConnectedZones runtime graph, host ∈ zone) ∧
      (collectConnectedZones runtime graph).Pairwise fun left right =>
        ∀ name, name ∈ left → name ∉ right := by
  have sameRelation : ReflTransGen (HasEdge graph.adj) = layers.Connected := by
    have sameStep : HasEdge graph.adj = layers.Adjacent := by
      funext a b
      exact propext (tiered.edge a b)
    rw [sameStep]
    rfl
  have equivalence : Equivalence (ReflTransGen (HasEdge graph.adj)) :=
    equivalence_reflTransGen fun edge => tiered.hasEdge_symm _ _ edge
  obtain ⟨classes, covered, disjoint⟩ := collectAll_classes
    (fun (visited : GoMap String Bool) name => visited.getD name false)
    (collectZoneDeviceNames runtime graph.adj)
    equivalence
    (fun (zone : List String) name => name ∈ zone)
    (fun zone => zone.Pairwise (· < ·))
    (collectHostStarts runtime graph) ∅ (by simp)
    (fun start isStart visited closed _ fresh =>
      collectZoneDeviceNames_spec runtime graph.adj tiered.hasEdge_symm
        tiered.mem_adj_of_hasEdge start
        ((tiered.row start).2 ((tiered.vertex start).2
          (.inl ((mem_collectHostStarts tiered start).1 isStart))))
        visited closed fresh)
  refine ⟨?_, ?_, disjoint⟩
  · intro zone listed
    obtain ⟨sorted, host, isStart, isClass⟩ := classes zone listed
    refine ⟨sorted, host, (mem_collectHostStarts tiered host).1 isStart, ?_⟩
    rw [sameRelation] at isClass
    exact isClass
  · intro host isBase
    exact covered host ((mem_collectHostStarts tiered host).2 isBase)

end Unifabric.Discovery
