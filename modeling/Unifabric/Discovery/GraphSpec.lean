import Unifabric.Discovery.Graph
import Unifabric.Lib.LayeredGraph

/-!
# What the device graph is

The graph depends on its input only through the set of host names, the set of
switch names and the set of accepted links.  This module states the lookups of
`buildTopologyGraph` in these terms and derives that two inputs which agree on
the three sets build the same devices and the same adjacency.
-/

namespace Unifabric.Discovery

open Lib GoMap List

/-! ## Sorted keys do not depend on the visiting order -/

section

variable (runtime : Runtime) (site : List String)

@[simp]
lemma sortedDeviceNames_eq {V : Type} (table : GoMap String V) :
    sortedDeviceNames runtime site table = table.keys :=
  runtime.sort_range_keys site table

@[simp]
lemma sortedNamesFromMap_eq {V : Type} (table : GoMap String V) :
    sortedNamesFromMap runtime site table = table.keys :=
  runtime.sort_range_keys site table

@[simp]
lemma sortedTierKeys_eq {V : Type} (table : GoMap Int V) :
    sortedTierKeys runtime site table = table.keys :=
  runtime.sort_range_keys site table

lemma sortedBoolKeys_eq (table : GoMap String Bool) : sortedBoolKeys runtime site table =
      table.keys.filter fun name => table.getD name false := by
  unfold sortedBoolKeys
  rw [sortValues_eq_of_perm ((runtime.range_perm site table.keys).filter _)]
  refine sortValues_eq_self ?_
  exact ((keys_pairwise table).filter _).imp fun less => le_of_lt less

@[simp]
lemma mem_sortedBoolKeys (table : GoMap String Bool) (name : String) :
    name ∈ sortedBoolKeys runtime site table ↔ table.getD name false = true := by
  rw [sortedBoolKeys_eq, mem_filter, mem_keys_iff]
  constructor
  · exact fun present => present.2
  · intro isTrue
    refine ⟨?_, isTrue⟩
    rw [getD_eq] at isTrue
    cases found : table[name]? with
    | none => simp [found] at isTrue
    | some value => exact ⟨value, rfl⟩

lemma sortedBoolKeys_nodup (table : GoMap String Bool) :
    (sortedBoolKeys runtime site table).Nodup := by
  rw [sortedBoolKeys_eq]
  exact (keys_nodup table).filter _

end

/-! ## Adjacency -/

/-- The adjacency joins `a` to `b`. -/
def HasEdge (adj : Adjacency) (a b : String) : Prop := (adj.getD a ∅).getD b false = true

instance (adj : Adjacency) (a b : String) : Decidable (HasEdge adj a b) :=
  inferInstanceAs (Decidable (_ = true))

/-- No row stores `false`. -/
def AllTrue (adj : Adjacency) : Prop :=
  ∀ (a b : String) (value : Bool), (adj.getD a ∅)[b]? = some value → value = true

lemma hasEdge_iff_getElem? (adj : Adjacency) (a b : String) :
    HasEdge adj a b ↔ (adj.getD a ∅)[b]? = some true := by
  unfold HasEdge
  rw [getD_eq]
  cases (adj.getD a ∅)[b]? with
  | none => simp
  | some value => simp

lemma mem_row_keys_iff (allTrue : AllTrue adj) (a b : String) :
    b ∈ (adj.getD a ∅).keys ↔ HasEdge adj a b := by
  rw [mem_keys_iff, hasEdge_iff_getElem?]
  constructor
  · rintro ⟨value, found⟩
    rw [found, allTrue a b value found]
  · exact fun found => ⟨true, found⟩

lemma adjacency_ext (leftTrue : AllTrue left) (rightTrue : AllTrue right)
    (vertices : ∀ a, a ∈ left ↔ a ∈ right) (edges : ∀ a b, HasEdge left a b ↔ HasEdge right a b) :
    left = right := by
  have rows : ∀ a, left.getD a ∅ = right.getD a ∅ := by
    intro a
    refine Std.ExtTreeMap.ext_getElem? fun b => ?_
    have sameEdge := edges a b
    rw [hasEdge_iff_getElem?, hasEdge_iff_getElem?] at sameEdge
    cases leftRow : (left.getD a ∅)[b]? with
    | none =>
      cases rightRow : (right.getD a ∅)[b]? with
      | none => rfl
      | some value =>
        rw [rightTrue a b value rightRow] at rightRow
        rw [leftRow] at sameEdge
        exact absurd (sameEdge.2 rightRow) (by simp)
    | some value =>
      have isTrue := leftTrue a b value leftRow
      subst isTrue
      exact (sameEdge.1 leftRow).symm
  refine Std.ExtTreeMap.ext_getElem? fun a => ?_
  have sameVertex := vertices a
  have sameRow := rows a
  simp only [getD_eq] at sameRow
  rw [Std.ExtTreeMap.mem_iff_isSome_getElem?, Std.ExtTreeMap.mem_iff_isSome_getElem?] at sameVertex
  cases leftFound : left[a]? with
  | none =>
    cases rightFound : right[a]? with
    | none => rfl
    | some row => simp [leftFound, rightFound] at sameVertex
  | some leftRow =>
    cases rightFound : right[a]? with
    | none => simp [leftFound, rightFound] at sameVertex
    | some rightRow =>
      simp only [leftFound, rightFound, Option.getD_some] at sameRow
      rw [sameRow]

lemma getD_setEdge (adj : Adjacency) (source target a : String) :
    (setEdge adj source target).getD a ∅ = if source = a then (adj.getD a ∅).insert target true
      else adj.getD a ∅ := by
  unfold setEdge
  rw [GoMap.getD_eq, GoMap.getElem?_insert]
  split_ifs with same
  · subst same
    rfl
  · rw [GoMap.getD_eq]

lemma hasEdge_setEdge (adj : Adjacency) (source target a b : String) :
    HasEdge (setEdge adj source target) a b ↔ (a = source ∧ b = target) ∨ HasEdge adj a b := by
  rw [hasEdge_iff_getElem?, hasEdge_iff_getElem?, getD_setEdge]
  split_ifs with same
  · subst same
    rw [GoMap.getElem?_insert]
    by_cases equal : target = b
    · simp [equal]
    · simp [equal, eq_comm]
  · simp [eq_comm, same]

lemma mem_setEdge (adj : Adjacency) (source target a : String) :
    a ∈ setEdge adj source target ↔ a = source ∨ a ∈ adj := by
  exact mem_insert adj source a _

lemma AllTrue.setEdge (allTrue : AllTrue adj) (source target : String) :
    AllTrue (setEdge adj source target) := by
  intro a b value found
  rw [getD_setEdge] at found
  split_ifs at found with same
  · rw [GoMap.getElem?_insert] at found
    split_ifs at found with equal
    · simpa using found.symm
    · exact allTrue a b value found
  · exact allTrue a b value found

lemma getD_ensureVertex (adj : Adjacency) (name a : String) :
    (ensureVertex adj name).getD a ∅ = adj.getD a ∅ := by
  unfold ensureVertex
  split_ifs with present
  · rfl
  · rw [GoMap.getD_eq, GoMap.getD_eq, GoMap.getElem?_insert]
    split_ifs with same
    · subst same
      have missing : adj[name]? = none := by
        rw [GoMap.getElem?_eq_none_iff]
        exact fun member => present (Std.ExtTreeMap.mem_iff_contains.1 member)
      simp [missing]
    · rfl

lemma mem_ensureVertex (adj : Adjacency) (name a : String) :
    a ∈ ensureVertex adj name ↔ a = name ∨ a ∈ adj := by
  unfold ensureVertex
  split_ifs with present
  · constructor
    · exact .inr
    · rintro (rfl | old)
      · exact Std.ExtTreeMap.mem_iff_contains.2 present
      · exact old
  · exact mem_insert adj name a ∅

lemma hasEdge_ensureVertex (adj : Adjacency) (name a b : String) :
    HasEdge (ensureVertex adj name) a b ↔ HasEdge adj a b := by
  unfold HasEdge
  rw [getD_ensureVertex]

lemma AllTrue.ensureVertex (allTrue : AllTrue adj) (name : String) :
    AllTrue (ensureVertex adj name) := by
  intro a b value found
  rw [getD_ensureVertex] at found
  exact allTrue a b value found

/-- An adjacency has become another one by adding undirected edges. -/
structure Joins (added : String → String → Prop) (adj adj' : Adjacency) : Prop where
  allTrue : AllTrue adj → AllTrue adj'
  edges : ∀ a b, HasEdge adj' a b ↔ added a b ∨ added b a ∨ HasEdge adj a b
  vertices : ∀ a, a ∈ adj' ↔ (∃ b, added a b ∨ added b a) ∨ a ∈ adj

lemma joins_none {added : String → String → Prop} (none : ∀ a b, ¬ added a b) (adj : Adjacency) :
    Joins added adj adj :=
  ⟨id, by simp [none], by simp [none]⟩

lemma joins_setEdge (adj : Adjacency) (source target : String) :
    Joins (fun a b => a = source ∧ b = target) adj
      (setEdge (setEdge adj source target) target source) where
  allTrue initial := (initial.setEdge source target).setEdge target source
  edges a b := by
    rw [hasEdge_setEdge, hasEdge_setEdge]
    tauto
  vertices a := by
    rw [mem_setEdge, mem_setEdge]
    aesop

lemma joins_addUndirectedEdge (adj : Adjacency) (source target : String) :
    Joins (fun a b => a = source ∧ b = target) adj (addUndirectedEdge adj source target) := by
  have joins := joins_setEdge (ensureVertex (ensureVertex adj source) target) source target
  refine ⟨fun initial => joins.allTrue
    ((initial.ensureVertex source).ensureVertex target), fun a b => ?_,
    fun a => ?_⟩
  · rw [addUndirectedEdge, joins.edges, hasEdge_ensureVertex, hasEdge_ensureVertex]
  · rw [addUndirectedEdge, joins.vertices, mem_ensureVertex, mem_ensureVertex]
    aesop

lemma Joins.trans {first second : String → String → Prop} (before : Joins first adj adj')
    (after : Joins second adj' adj'') :
    Joins (fun a b => first a b ∨ second a b) adj adj'' where
  allTrue := after.allTrue ∘ before.allTrue
  edges a b := by
    rw [after.edges, before.edges]
    tauto
  vertices a := by
    rw [after.vertices, before.vertices]
    simp only [exists_or]
    tauto

/-- The edges which the values of a list add one after the other. -/
lemma joins_foldl {σ α : Type} {adjOf : σ → Adjacency} {step : σ → α → σ}
    {added : α → String → String → Prop}
    (one : ∀ state value, Joins (added value) (adjOf state) (adjOf (step state value)))
    (values : List α) (start : σ) :
    Joins (fun a b => ∃ value ∈ values, added value a b) (adjOf start)
      (adjOf (values.foldl step start)) := by
  induction values generalizing start with
  | nil => exact joins_none (by simp) _
  | cons first rest ih =>
    have joins := (one start first).trans (ih (step start first))
    simpa only [mem_cons, exists_eq_or_imp, foldl_cons] using joins

/-! ## The input as a fabric -/

/-- The names of the hosts. -/
def hostNames (hosts : List Host) : List String := hosts.map Host.name

/-- The names of the switches. -/
def switchNames (switches : List Switch) : List String := switches.map Switch.name

/-- A host or a switch has the name. -/
def Known (hosts : List Host) (switches : List Switch) (name : String) : Prop :=
  name ∈ hostNames hosts ∨ name ∈ switchNames switches

/--
Some switch of name `a` reports an accepted neighbour `b`: the local device is
empty or the switch itself, and the remote name is not empty and known.
-/
def Reports (hosts : List Host) (switches : List Switch) (a b : String) : Prop :=
  ∃ switch ∈ switches, ∃ neighbor ∈ switch.neighbors,
    switch.name = a ∧ neighbor.remoteSystemName = b ∧ (neighbor.localDeviceName = "" ∨
        neighbor.localDeviceName = switch.name) ∧
      b ≠ "" ∧ Known hosts switches b

/-- The unordered pair of `a` and `b` is an accepted link. -/
def Linked (hosts : List Host) (switches : List Switch) (a b : String) : Prop :=
  Reports hosts switches a b ∨ Reports hosts switches b a

lemma Linked.symm (linked : Linked hosts switches a b) : Linked hosts switches b a :=
  Or.symm linked

lemma Linked.known (linked : Linked hosts switches a b) : Known hosts switches a := by
  rcases linked with ⟨switch, member, _, _, name, _⟩ | report
  · exact .inr (mem_map.2 ⟨switch, member, name⟩)
  · obtain ⟨_, _, _, _, _, _, _, _, known⟩ := report
    exact known

/-- The device the input gives a name. -/
def inputDevice (hosts : List Host) (switches : List Switch) (name : String) : Option Device :=
  if name ∈ switchNames switches then
    some { name := name, type := .switch, tier := -1 }
  else if name ∈ hostNames hosts then
    some { name := name, type := .host, tier := 0 }
  else none

lemma inputDevice_isSome_iff (hosts : List Host) (switches : List Switch) (name : String) :
    (∃ device, inputDevice hosts switches name = some device) ↔ Known hosts switches name := by
  unfold inputDevice Known
  split_ifs with isSwitch isHost
  · simp [isSwitch]
  · simp [isHost]
  · simp [isSwitch, isHost]

/-! ## Lookups of the built graph -/

lemma addDevices_spec (deviceOf : String → Device) (graph : TopologyGraph) (names : List String) :
    (∀ name : String, (addDevices deviceOf graph names).devices[name]? =
        if name ∈ names then some (deviceOf name)
        else graph.devices[name]?) ∧
      (∀ name, name ∈ (addDevices deviceOf graph names).adj ↔ name ∈ names ∨ name ∈ graph.adj) ∧
      (∀ name, (addDevices deviceOf graph names).adj.getD name ∅ = graph.adj.getD name ∅) := by
  unfold addDevices
  induction names generalizing graph with
  | nil => simp
  | cons first rest ih =>
    obtain ⟨devices, vertices, rows⟩ :=
      ih
        { graph with
          devices := graph.devices.insert first (deviceOf first)
          adj := ensureVertex graph.adj first }
    rw [List.foldl_cons]
    refine ⟨?_, ?_, ?_⟩
    · intro name
      rw [devices]
      by_cases later : name ∈ rest
      · rw [if_pos later, if_pos (List.mem_cons_of_mem _ later)]
      · rw [if_neg later, GoMap.getElem?_insert]
        by_cases same : first = name
        · rw [if_pos same, if_pos (by simp [same]), same]
        · rw [if_neg same, if_neg]
          simp [later, Ne.symm same]
    · intro name
      rw [vertices, mem_ensureVertex, List.mem_cons]
      tauto
    · intro name
      rw [rows, getD_ensureVertex]

/-- The graph before the neighbours are processed. -/
def registeredGraph (hosts : List Host) (switches : List Switch) : TopologyGraph :=
  addSwitches (addHosts { devices := ∅, adj := ∅, links := [] } hosts) switches

lemma registeredGraph_spec (hosts : List Host) (switches : List Switch) :
    (∀ name, (registeredGraph hosts switches).devices[name]? = inputDevice hosts switches name) ∧
      (∀ name, name ∈ (registeredGraph hosts switches).adj ↔ Known hosts switches name) ∧
      ∀ name, (registeredGraph hosts switches).adj.getD name ∅ = ∅ := by
  obtain ⟨hostDevices, hostVertices, hostRows⟩ :=
    addDevices_spec (fun name => { name := name, type := .host, tier := 0 })
      { devices := ∅, adj := ∅, links := [] } (hosts.map Host.name)
  obtain ⟨devices, vertices, rows⟩ :=
    addDevices_spec (fun name => { name := name, type := .switch, tier := -1 })
      (addHosts { devices := ∅, adj := ∅, links := [] } hosts)
      (switches.map Switch.name)
  refine ⟨?_, ?_, ?_⟩
  · intro name
    refine (devices name).trans ?_
    unfold inputDevice switchNames hostNames addHosts
    rw [hostDevices]
    simp
  · intro name
    refine (vertices name).trans ?_
    unfold Known switchNames hostNames addHosts
    rw [hostVertices]
    simp [or_comm]
  · intro name
    refine (rows name).trans ?_
    unfold addHosts
    rw [hostRows]
    simp

/-- A neighbour entry resolves to its own remote name, when it is known. -/
lemma resolve_eq_some_iff (runtime : Runtime)
    (devices : GoMap String Device) (neighbor : Neighbor) (name : String) :
    (newDeviceResolver runtime devices).resolve neighbor = some name ↔
      neighbor.remoteSystemName = name ∧ name ≠ "" ∧ name ∈ devices := by
  unfold DeviceResolver.resolve newDeviceResolver
  have indexed := getElem?_foldl_insert (runtime.range ["NewDeviceResolver"] devices.keys)
    id id (∅ : GoMap String String) neighbor.remoteSystemName
  simp only [id_eq, map_id, runtime.mem_range, Std.ExtTreeMap.mem_keys] at indexed
  split_ifs with empty
  · simp only [false_iff, not_and]
    rintro rfl nonempty
    exact absurd empty nonempty
  · rw [indexed]
    split_ifs with present
    · constructor
      · intro equal
        rw [Option.some.injEq] at equal
        subst equal
        exact ⟨rfl, empty, present⟩
      · rintro ⟨rfl, _, _⟩
        rfl
    · simp only [Std.ExtTreeMap.getElem?_empty, reduceCtorEq, false_iff, not_and]
      rintro rfl _
      exact present

/-- The neighbour entries with the switch that reports them. -/
def neighborEntries (switches : List Switch) : List (String × Neighbor) :=
  switches.flatMap fun switch => switch.neighbors.map fun neighbor => (switch.name, neighbor)

lemma buildTopologyGraph_eq (runtime : Runtime) (hosts : List Host) (switches : List Switch) :
    buildTopologyGraph runtime hosts switches = (neighborEntries switches).foldl (fun graph entry =>
          addNeighbor (newDeviceResolver runtime (registeredGraph hosts switches).devices)
            entry.1 graph entry.2) (registeredGraph hosts switches) := by
  unfold buildTopologyGraph neighborEntries registeredGraph
  rw [foldl_flatMap]
  simp only [foldl_map]

/-- Some entry makes the switch `source` accept the neighbour `target`. -/
def AcceptsEntry (resolver : DeviceResolver)
    (entries : List (String × Neighbor)) (source target : String) : Prop :=
  ∃ entry ∈ entries, entry.1 = source ∧
    (entry.2.localDeviceName = "" ∨ entry.2.localDeviceName = source) ∧
    resolver.resolve entry.2 = some target

lemma joins_addNeighbor (resolver : DeviceResolver) (graph : TopologyGraph)
    (entry : String × Neighbor) :
    Joins (fun source target => entry.1 = source ∧ (entry.2.localDeviceName = "" ∨
          entry.2.localDeviceName = source) ∧ resolver.resolve entry.2 = some target) graph.adj
      (addNeighbor resolver entry.1 graph entry.2).adj := by
  unfold addNeighbor
  split_ifs with foreign
  · refine joins_none ?_ _
    rintro a b ⟨rfl, isLocal, _⟩
    tauto
  · cases resolved : resolver.resolve entry.2 with
    | none => exact joins_none (by simp) _
    | some target =>
      have isLocal : entry.2.localDeviceName = "" ∨ entry.2.localDeviceName = entry.1 := by tauto
      convert joins_addUndirectedEdge graph.adj entry.1 target using 3
      aesop

lemma foldl_addNeighbor_spec (resolver : DeviceResolver)
    (entries : List (String × Neighbor)) (graph : TopologyGraph) :
    let final := entries.foldl (fun graph entry => addNeighbor resolver entry.1 graph entry.2) graph
    final.devices = graph.devices ∧ Joins (AcceptsEntry resolver entries) graph.adj final.adj := by
  refine ⟨?_, joins_foldl (joins_addNeighbor resolver) entries graph⟩
  refine List.foldlRecOn (motive := fun final : TopologyGraph => final.devices = graph.devices)
    entries _ rfl fun graph' same entry _ => ?_
  rw [← same, addNeighbor]
  split_ifs
  · rfl
  · split <;> rfl

lemma buildTopologyGraph_spec (runtime : Runtime) (hosts : List Host) (switches : List Switch) :
    (∀ name, (buildTopologyGraph runtime hosts switches).devices[name]? =
        inputDevice hosts switches name) ∧
      AllTrue (buildTopologyGraph runtime hosts switches).adj ∧
      (∀ a b, HasEdge (buildTopologyGraph runtime hosts switches).adj a b ↔
        Linked hosts switches a b) ∧
      ∀ a, a ∈ (buildTopologyGraph runtime hosts switches).adj ↔ Known hosts switches a := by
  obtain ⟨registered, known, rows⟩ := registeredGraph_spec hosts switches
  have noEdge : ∀ a b, ¬ HasEdge (registeredGraph hosts switches).adj a b := by
    intro a b
    rw [hasEdge_iff_getElem?, rows a]
    simp
  have noFalse : AllTrue (registeredGraph hosts switches).adj := by
    intro a b value found
    rw [rows a] at found
    simp at found
  have isKnown : ∀ name, name ∈ (registeredGraph hosts switches).devices ↔
        Known hosts switches name := by
    intro name
    rw [mem_iff, ← inputDevice_isSome_iff, registered name]
  obtain ⟨devices, joins⟩ :=
    foldl_addNeighbor_spec (newDeviceResolver runtime (registeredGraph hosts switches).devices)
      (neighborEntries switches) (registeredGraph hosts switches)
  have reports : ∀ source target, AcceptsEntry (newDeviceResolver runtime
            (registeredGraph hosts switches).devices)
          (neighborEntries switches) source target ↔
        Reports hosts switches source target := by
    intro source target
    simp only [AcceptsEntry, resolve_eq_some_iff, isKnown]
    constructor
    · rintro ⟨⟨_, neighbor⟩, member, rfl, isLocal, remote, nonempty, seen⟩
      obtain ⟨switch, listed, reported⟩ := mem_flatMap.1 member
      obtain ⟨other, otherListed, pair⟩ := mem_map.1 reported
      obtain ⟨rfl, rfl⟩ := Prod.mk.injEq .. ▸ pair
      exact ⟨switch, listed, other, otherListed, rfl, remote, isLocal, nonempty, seen⟩
    · rintro ⟨switch, listed, neighbor, neighborListed, rfl, remote, isLocal, nonempty, seen⟩
      refine ⟨(switch.name, neighbor), ?_, rfl, isLocal, remote, nonempty, seen⟩
      exact mem_flatMap.2 ⟨switch, listed, mem_map.2 ⟨neighbor, neighborListed, rfl⟩⟩
  rw [buildTopologyGraph_eq]
  refine ⟨?_, joins.allTrue noFalse, ?_, ?_⟩
  · intro name
    rw [devices]
    exact registered name
  · intro a b
    rw [joins.edges, reports, reports]
    simp [noEdge, Linked]
  · intro a
    rw [joins.vertices, known]
    simp only [reports]
    constructor
    · rintro (⟨b, linked⟩ | present)
      · exact Linked.known linked
      · exact present
    · exact .inr

/-- Two inputs present the same fabric. -/
structure SameFabric (hosts hosts' : List Host)
    (switches switches' : List Switch) : Prop where
  sameHosts : ∀ name, name ∈ hostNames hosts ↔ name ∈ hostNames hosts'
  sameSwitches : ∀ name, name ∈ switchNames switches ↔ name ∈ switchNames switches'
  sameLinks : ∀ a b, Linked hosts switches a b ↔ Linked hosts' switches' a b

/-- The input as a layered graph: a name used twice is a switch. -/
def fabric (hosts : List Host) (switches : List Switch) : LayeredGraph String where
  base name := name ∈ hostNames hosts ∧ name ∉ switchNames switches
  inner name := name ∈ switchNames switches
  link := Linked hosts switches
  link_symm linked := linked.symm
  disjoint isBase := isBase.2

end Unifabric.Discovery
