import Unifabric.Lib.Versioned
import Unifabric.TopologyStatus.EventFilter
import Unifabric.TopologyStatus.Membership

/-!
# The status controller

`Reconcile` reads a Topology, the Nodes and the Switches from a cache which may
be stale, and patches the status built from them.  A patch carries the version
of the copy it was computed from, so a stored status is built from the groups
which were stored before, and node groups keep their names.
-/

namespace Unifabric.TopologyStatus

open Lib V1beta1 TopologyLabel
open List hiding after length next nil

/-! ## The controller -/

/-- A Topology as the controller reads and writes it. -/
structure TopologyObject where
  deletionTimestamp : Bool
  status : TopologyStatus

def newFixedTopology : TopologyObject := ⟨false, ⟨[], []⟩⟩

def topologyStatusEmpty (status : TopologyStatus) : Bool :=
  status.domains.length = 0 && status.nodes.length = 0

/-- What a Reconcile does with what it has read. -/
inductive StatusAction where
  | keep
  | fail (cause : BuildError)
  | create (status : TopologyStatus)
  | patch (base : Copy TopologyObject) (status : TopologyStatus)

/-- The status which is written. -/
def StatusAction.writes : StatusAction → Option TopologyStatus
  | .create status | .patch _ status => some status
  | .keep | .fail _ => none

/-- Write the status if it differs, into a new Topology if there is none. -/
def publishStatus (object : Option (Copy TopologyObject)) (status : TopologyStatus) :
    StatusAction :=
  match object with
  | none => if topologyStatusEmpty status then .keep else .create status
  | some base => if base.object.status = status then .keep else .patch base status

/-- The groups of a Topology, if there is one. -/
def statusGroups (object : Option TopologyObject) : List TopologyNodeGroup :=
  (object.map (·.status.nodes)).getD []

section

variable (isValidLabelValue : String → List String) (templates : Option TemplateSet)
  (name : String)

/-- `Reconcile` when it is not delayed and its reads succeed. -/
def reconcileStatus (runtime : Runtime) (object : Option (Copy TopologyObject))
    (cluster : WatchedCluster) : StatusAction :=
  if name ∉ fixedTopologyNames ∨ object.any (·.object.deletionTimestamp) then .keep
  else
    match buildTopologyStatus runtime isValidLabelValue (templates.bind (·.forTopology name))
        (cluster.snapshot name) (statusGroups (object.map (·.object))) with
    | .error cause => .fail cause
    | .ok result => publishStatus object result.status

/-! ## The server -/

/-- What was stored after each write, the last one first; a version counts the writes. -/
abbrev StatusHistory := List (Option TopologyObject)

/-- What is stored. -/
def StatusHistory.stored (history : StatusHistory) : Option TopologyObject := history.head?.join

/-- The copy was stored. -/
def StatusHistory.Known (history : StatusHistory) (copy : Copy TopologyObject) : Prop :=
  ∃ older, some copy.object :: older <:+ history ∧ copy.version = older.length + 1

/-- The writes of other clients, which do not set the status. -/
inductive OthersWrite (history : StatusHistory) : Option TopologyObject → Prop
  | update (found : history.stored = some current) (deletionTimestamp : Bool) :
      OthersWrite history (some { current with deletionTimestamp })
  | create (absent : history.stored = none) : OthersWrite history (some newFixedTopology)
  | delete : OthersWrite history none

/-- The history, and the patch which a running Reconcile is about to send. -/
structure StatusSystem where
  history : StatusHistory
  sends : Option (Copy TopologyObject × TopologyStatus)

/--
The steps of the controller of one Topology and of other clients.  A read may
return what was stored long ago, every request may fail, also after it has
taken effect, and a patch is stored only if its base has the last version.
-/
inductive StatusStep : StatusSystem → StatusSystem → Prop
  | read {history : StatusHistory} {cluster : WatchedCluster}
      (known : ∀ copy, object = some copy → history.Known copy)
      (few : cluster.nodes.length < 2 ^ 62)
      (decided : reconcileStatus isValidLabelValue templates name runtime object cluster =
        .patch base status) : StatusStep ⟨history, none⟩ ⟨history, some (base, status)⟩
  | create {history : StatusHistory} {cluster : WatchedCluster} (absent : history.stored = none)
      (few : cluster.nodes.length < 2 ^ 62)
      (decided : reconcileStatus isValidLabelValue templates name runtime none cluster =
        .create status) : StatusStep ⟨history, none⟩
        ⟨some newFixedTopology :: history, some (⟨history.length + 1, newFixedTopology⟩, status)⟩
  | patch {history : StatusHistory} {base : Copy TopologyObject}
      (found : history.stored = some current) (latest : base.version = history.length) :
      StatusStep ⟨history, some (base, status)⟩ ⟨some { current with status } :: history, none⟩
  | stop (system : StatusSystem) : StatusStep system ⟨system.history, none⟩
  | other {system : StatusSystem} (writes : OthersWrite system.history next) :
      StatusStep system ⟨next :: system.history, system.sends⟩

/-! ## Runs -/

/-- Groups stay, are gone, or are built from themselves. -/
def Evolves (before after : List TopologyNodeGroup) : Prop :=
  after = before ∨ after = [] ∨ Builds isValidLabelValue before after

/-- Every write lets the stored groups evolve. -/
inductive StatusHistory.Ok : StatusHistory → Prop
  | nil : Ok []
  | write {history : StatusHistory} {next : Option TopologyObject} (ok : Ok history)
      (evolves : Evolves isValidLabelValue (statusGroups history.stored) (statusGroups next)) :
      Ok (next :: history)

/-- The history is in order, and a patch is built from a copy which was stored. -/
structure StatusSystem.Ok (system : StatusSystem) : Prop where
  history : system.history.Ok isValidLabelValue
  sends : ∀ base status, system.sends = some (base, status) → system.history.Known base ∧
    Builds isValidLabelValue base.object.status.nodes status.nodes

end

section

variable {valid : String → List String} {templates : Option TemplateSet} {name : String}

/-- Nothing is written, or a status which was built from the groups which were read. -/
lemma reconcileStatus_eq
    (decided : reconcileStatus valid templates name runtime object cluster = action) :
    action.writes = none ∨ ∃ result, buildTopologyStatus runtime valid
        (templates.bind (·.forTopology name)) (cluster.snapshot name)
        (statusGroups (object.map (·.object))) = .ok result ∧
      action = publishStatus object result.status := by
  subst decided
  unfold reconcileStatus
  split_ifs
  · exact .inl rfl
  · split
    · exact .inl rfl
    · next result built => exact .inr ⟨result, built, rfl⟩

/-- What is patched is what was read, and a Topology is created if there was none. -/
lemma publishStatus_writes (writes : (publishStatus object status).writes = some written) :
    written = status ∧ ∀ base, publishStatus object status = .patch base written →
      object = some base := by
  cases object with
  | none =>
    by_cases empty : topologyStatusEmpty status = true <;>
      simp_all [publishStatus, StatusAction.writes]
  | some base =>
    by_cases same : base.object.status = status <;> simp_all [publishStatus, StatusAction.writes]

lemma WatchedCluster.snapshot_few {cluster : WatchedCluster} (few : cluster.nodes.length < 2 ^ 62) :
    (cluster.snapshot name).nodes.length < 2 ^ 62 := by
  rwa [snapshot, length_map]

lemma builds_of_writes {cluster : WatchedCluster} (few : cluster.nodes.length < 2 ^ 62)
    (decided : reconcileStatus valid templates name runtime object cluster = action)
    (writes : action.writes = some status) :
    Builds valid (statusGroups (object.map (·.object))) status.nodes ∧
      ∀ base, action = .patch base status → object = some base := by
  rcases reconcileStatus_eq decided with silent | ⟨result, built, rfl⟩
  · cases silent.symm.trans writes
  · rcases publishStatus_writes writes with ⟨rfl, isRead⟩
    exact ⟨⟨runtime, _, _, result, WatchedCluster.snapshot_few few, built, rfl⟩, isRead⟩

lemma OthersWrite.evolves {history : StatusHistory} (writes : OthersWrite history next) :
    Evolves valid (statusGroups history.stored) (statusGroups next) := by
  cases writes with
  | update found deletionTimestamp =>
    rw [found]
    exact .inl rfl
  | create absent => exact .inr (.inl rfl)
  | delete => exact .inr (.inl rfl)

lemma StatusSystem.Ok.step {system after : StatusSystem} (ok : system.Ok valid)
    (step : StatusStep valid templates name system after) : after.Ok valid := by
  cases step with
  | read known few decided =>
    refine ⟨ok.history, fun base status isSent => ?_⟩
    cases isSent
    rcases builds_of_writes few decided rfl with ⟨builds, isRead⟩
    cases isRead _ rfl
    exact ⟨known _ rfl, builds⟩
  | create absent few decided =>
    refine ⟨.write ok.history (.inr (.inl rfl)), fun base status isSent => ?_⟩
    cases isSent
    rcases builds_of_writes few decided rfl with ⟨builds, _⟩
    exact ⟨⟨_, suffix_rfl, rfl⟩, builds⟩
  | patch found latest =>
    refine ⟨.write ok.history (.inr (.inr ?_)), by simp⟩
    rcases ok.sends _ _ rfl with ⟨⟨older, wasStored, version⟩, builds⟩
    cases wasStored.eq_of_length (version.symm.trans latest)
    exact builds
  | stop => exact ⟨ok.history, by simp⟩
  | other writes =>
    refine ⟨.write ok.history writes.evolves, fun base status isSent => ?_⟩
    rcases ok.sends base status isSent with ⟨⟨older, wasStored, version⟩, builds⟩
    exact ⟨⟨older, wasStored.trans (suffix_cons _ _), version⟩, builds⟩

lemma StatusSystem.ok_of_reachable {system : StatusSystem}
    (reached : Relation.ReflTransGen (StatusStep valid templates name) ⟨[], none⟩ system) :
    system.Ok valid := by
  induction reached with
  | refl => exact ⟨.nil, by simp⟩
  | tail _ step ok => exact ok.step step

/-- A path in both lists of groups has one name. -/
def KeepsNames (before after : List TopologyNodeGroup) : Prop :=
  ∀ old ∈ before, ∀ new ∈ after, new.switchDomainPath = old.switchDomainPath → new.name = old.name

lemma RunGroups.evolves (run : RunGroups before) (plain : PlainLabelValues valid)
    (evolves : Evolves valid before after) : RunGroups after ∧ KeepsNames before after := by
  rcases evolves with rfl | rfl | builds
  · refine ⟨run, fun old isOld new isNew same => ?_⟩
    rw [inj_on_of_nodup_map run.distinct isNew isOld same]
  · exact ⟨runGroups_nil, by simp [KeepsNames]⟩
  · exact run.builds plain builds

/-- Every write keeps names distinct, and paths keep their names. -/
lemma StatusHistory.Ok.written {history : StatusHistory} (ok : history.Ok valid)
    (plain : PlainLabelValues valid) :
    RunGroups (statusGroups history.stored) ∧ ∀ next older, next :: older <:+ history →
      RunGroups (statusGroups next) ∧
        KeepsNames (statusGroups (stored older)) (statusGroups next) := by
  induction ok with
  | nil => exact ⟨runGroups_nil, by simp⟩
  | write _ evolves ih =>
    have now := ih.1.evolves plain evolves
    refine ⟨now.1, fun next older written => ?_⟩
    rcases suffix_cons_iff.mp written with same | before
    · cases same
      exact now
    · exact ih.2 next older before

/-! ## Settled statuses -/

lemma eq_of_unnamed (same : unnamed left = unnamed right) (sameName : left.name = right.name) :
    left = right := by
  cases left
  cases right
  simp_all [unnamed]

/-- Names which are assigned are assigned again. -/
lemma assignNodeGroupNames_again (paths : DistinctPaths groups) (distinct : DistinctNames previous)
    (few : groups.length < 2 ^ 62) (room : previous.length < 2 ^ 62) :
    assignNodeGroupNames groups (assignNodeGroupNames groups previous) =
      assignNodeGroupNames groups previous := by
  have bound : 2 ^ 62 + 2 ^ 62 ≤ maxInt + 1 := by decide
  have first := namesAssigned_assignNodeGroupNames paths distinct (by omega)
  have length := congrArg List.length first.same
  rw [length_map, length_map] at length
  have second := namesAssigned_assignNodeGroupNames paths (first.distinctNames paths distinct)
    (by omega)
  have same := second.same.trans first.same.symm
  refine ext_getElem (by simpa using congrArg List.length same) fun index isNew isOld => ?_
  have unnamedSame := getElem_of_eq same (by simpa using isNew)
  rw [getElem_map, getElem_map] at unnamedSame
  rcases second.group_named (getElem_mem isNew) with ⟨_, law⟩
  exact eq_of_unnamed unnamedSame (law.kept _ (getElem_mem isOld)
    (congrArg TopologyNodeGroup.switchDomainPath unnamedSame).symm)

/-- A status is built again from its own groups. -/
lemma buildTopologyStatus_again (plain : PlainLabelValues valid) (run : RunGroups previous)
    (few : snapshot.nodes.length < 2 ^ 62)
    (built : buildTopologyStatus runtime valid (some template) snapshot previous = .ok result) :
    buildTopologyStatus runtime valid (some template) snapshot result.status.nodes =
      .ok result := by
  rcases bind_eq_ok.mp built with ⟨state, nodes, later⟩
  rcases bind_eq_ok.mp later with ⟨joined, switches, finished⟩
  cases finished
  have sorted : (sortByName runtime snapshot.nodes).length = snapshot.nodes.length :=
    (runtime.sortSlice_perm _ _).length_eq
  rcases (groupsKept_of_built plain nodes).distinctPaths runtime with ⟨paths, bounded⟩
  have again := assignNodeGroupNames_again paths run.toDistinctNames (by omega) run.length
  refine bind_eq_ok.mpr ⟨state, nodes, bind_eq_ok.mpr ⟨joined, switches, ?_⟩⟩
  simp only [finishStatus, again]

end

/--
Whatever the cache returns, whichever requests fail and whatever other clients
write, the names of the stored groups are distinct, and a path which stays
stored keeps its name.
-/
theorem stored_nodeGroup_names (isValidLabelValue : String → List String)
    (plain : PlainLabelValues isValidLabelValue) (templates : Option TemplateSet) (name : String)
    (system : StatusSystem) (reached : Relation.ReflTransGen
      (StatusStep isValidLabelValue templates name) ⟨[], none⟩ system) :
    ∀ next older, next :: older <:+ system.history → ((statusGroups next).map (·.name)).Nodup ∧
      KeepsNames (statusGroups (StatusHistory.stored older)) (statusGroups next) := by
  intro next older written
  have ok := (StatusSystem.ok_of_reachable reached).history
  rcases (ok.written plain).2 next older written with ⟨run, kept⟩
  exact ⟨run.names, kept⟩

/-- Three templates. -/
def someTemplates : TemplateSet := ⟨⟨"up", ""⟩, ⟨"tier", ""⟩, ⟨"storage", ""⟩⟩

/-- A Node in a rack. -/
def rackNode (name rack : String) : Node := ⟨name, (∅ : Labels).insert "tier1" rack⟩

/-- Two Nodes in two racks. -/
def twoRacks : WatchedCluster :=
  ⟨[rackNode "n1" "rack1", rackNode "n2" "rack2"], [], by decide, by simp⟩

/-- The status of the two racks. -/
def twoRackStatus : TopologyStatus :=
  ⟨[⟨"rack1", 1, "", []⟩, ⟨"rack2", 1, "", []⟩],
    [⟨"node-group1", ["n1"], ["rack1"]⟩, ⟨"node-group2", ["n2"], ["rack2"]⟩]⟩

/-- One rack is gone, and another is new. -/
def otherRacks : WatchedCluster :=
  ⟨[rackNode "n2" "rack2", rackNode "n3" "rack3"], [], by decide, by simp⟩

lemma reconcileStatus_of_built (result : BuildResult)
    (alive : object.any (·.object.deletionTimestamp) = false)
    (built : buildTopologyStatus .canonical findsNul (some ⟨"tier", ""⟩)
      (cluster.snapshot "scaleout") (statusGroups (object.map (·.object))) = .ok result) :
    reconcileStatus findsNul (some someTemplates) "scaleout" .canonical object cluster =
      publishStatus object result.status := by
  rw [reconcileStatus, if_neg (by rw [alive]; decide)]
  split
  · next failed => cases built.symm.trans failed
  · next isBuilt =>
    cases built.symm.trans isBuilt
    rfl

lemma reconcileStatus_twoRacks :
    reconcileStatus findsNul (some someTemplates) "scaleout" .canonical none twoRacks =
    .create twoRackStatus :=
  reconcileStatus_of_built ⟨twoRackStatus, []⟩ rfl (by decide +kernel)

/-- A Topology is created with two groups; one of them keeps its name in a second write. -/
theorem stored_nodeGroup_names_created :
    ∃ system, Relation.ReflTransGen (StatusStep findsNul (some someTemplates) "scaleout")
        ⟨[], none⟩ system ∧ system.history.map statusGroups =
        [[⟨"node-group2", ["n2"], ["rack2"]⟩, ⟨"node-group3", ["n3"], ["rack3"]⟩],
          twoRackStatus.nodes, []] ∧
      KeepsNames twoRackStatus.nodes (statusGroups system.history.stored) := by
  have created : StatusStep findsNul _ _ ⟨[], none⟩ _ :=
    .create rfl (by decide) reconcileStatus_twoRacks
  have stored := Relation.ReflTransGen.tail (.single created) (.patch rfl rfl)
  have decided : reconcileStatus findsNul (some someTemplates) "scaleout" .canonical
      (some ⟨2, false, twoRackStatus⟩) otherRacks = .patch _ _ :=
    reconcileStatus_of_built ⟨⟨[⟨"rack2", 1, "", []⟩, ⟨"rack3", 1, "", []⟩],
      [⟨"node-group2", ["n2"], ["rack2"]⟩, ⟨"node-group3", ["n3"], ["rack3"]⟩]⟩, []⟩ rfl
      (by decide +kernel)
  have read := stored.tail (.read (fun _ same => ⟨_, by cases same; exact suffix_rfl,
    by cases same; rfl⟩) (by decide) decided)
  have reached := read.tail (.patch rfl rfl)
  exact ⟨_, reached, rfl, (stored_nodeGroup_names findsNul plainLabelValues_findsNul _ _ _ reached
    _ _ suffix_rfl).2⟩

/--
Once the status which a Reconcile writes is stored, no Reconcile writes another
while the Nodes and the Switches stay, however lists and maps are ordered.
-/
theorem written_status_settled (isValidLabelValue : String → List String)
    (plain : PlainLabelValues isValidLabelValue) (templates : Option TemplateSet) (name : String)
    (system : StatusSystem) (reached : Relation.ReflTransGen
      (StatusStep isValidLabelValue templates name) ⟨[], none⟩ system)
    (object : Option (Copy TopologyObject)) (fresh : object.map (·.object) = system.history.stored)
    (cluster : WatchedCluster) (few : cluster.nodes.length < 2 ^ 62) (runtime : Runtime)
    (status : TopologyStatus)
    (writes : (reconcileStatus isValidLabelValue templates name runtime object cluster).writes =
      some status) : ∀ (later : Runtime) (same : WatchedCluster) (copy : Copy TopologyObject),
      cluster.nodes.Perm same.nodes → cluster.switches.Perm same.switches →
      copy.object.status = status →
      reconcileStatus isValidLabelValue templates name later (some copy) same = .keep := by
  intro later same copy nodes switches isStored
  rcases reconcileStatus_eq rfl with silent | ⟨result, built, isAction⟩
  · cases silent.symm.trans writes
  rw [isAction] at writes
  cases (publishStatus_writes writes).1
  have run := ((StatusSystem.ok_of_reachable reached).history.written plain).1
  rw [← fresh] at run
  have again : buildTopologyStatus later isValidLabelValue (templates.bind (·.forTopology name))
      (same.snapshot name) copy.object.status.nodes = .ok result := by
    cases isTemplate : templates.bind (·.forTopology name) with
    | none =>
      rw [isTemplate] at built
      cases built
    | some template =>
      rw [isTemplate] at built
      rw [isStored, ← buildTopologyStatus_again plain run (WatchedCluster.snapshot_few few) built]
      refine (buildTopologyStatus_congr plain runtime later ?_ ?_ ((nodes.map _).filterMap _)
        (((switches.filter _).map _).filterMap _) _).symm
      · rw [WatchedCluster.snapshot, map_map]
        exact cluster.nodeNames
      · rw [WatchedCluster.snapshot, map_map]
        exact cluster.switchNames.sublist (filter_sublist.map _)
  rw [reconcileStatus]
  split_ifs
  · rfl
  · split
    · next failed => cases again.symm.trans failed
    · next isBuilt =>
      cases again.symm.trans isBuilt
      exact if_pos isStored

/-- The status of two racks is settled. -/
theorem written_status_settled_twoRacks :
    reconcileStatus findsNul (some someTemplates) "scaleout" .canonical
      (some ⟨1, false, twoRackStatus⟩) twoRacks = .keep :=
  written_status_settled findsNul plainLabelValues_findsNul _ _ _ .refl none rfl twoRacks
    (by decide) .canonical _ (congrArg _ reconcileStatus_twoRacks) _ _ _ (.refl _) (.refl _)
    rfl

end Unifabric.TopologyStatus
