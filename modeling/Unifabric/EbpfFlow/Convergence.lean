import Unifabric.EbpfFlow.Publisher

/-!
# Convergence of the endpoint publisher

Over whole sequences of runs: as long as the names of the collected Pods are
not tracked for other UIDs, every collected Pod has its object after each run
and no object of a Pod which disappeared is left.
-/

namespace Unifabric.EbpfFlow

open Lib V1beta1 GoMap List

variable {state : PublishState} {object : RdmaEndpoint}

/-! ## Tracked objects -/

/-- The UIDs and keys a table tracks. -/
def trackedKeys (published : Published) : List (String × ObjectKey) :=
  published.keys.filterMap fun uid => (published[uid]?).map fun tracked => (uid, tracked.key)

lemma mem_trackedKeys : (uid, key) ∈ trackedKeys published ↔
      ∃ tracked, published[uid]? = some tracked ∧ tracked.key = key := by
  simp only [trackedKeys, mem_filterMap, Option.map_eq_some_iff, Prod.mk.injEq]
  constructor
  · rintro ⟨other, _, tracked, found, rfl, same⟩
    exact ⟨tracked, found, same⟩
  · rintro ⟨tracked, found, same⟩
    exact ⟨uid, (mem_keys_iff _ _).2 ⟨tracked, found⟩, tracked, found, rfl, same⟩

/--
The table agrees with the API: a tracked fingerprint is the content of the
stored object, an object which was ever claimed for its owner is still
tracked, and no two UIDs are tracked under one key.
-/
structure Tracks (claimed : String → ObjectKey → Prop)
    (state : PublishState) : Prop where
  content : ∀ {uid : String} {tracked : PublishedObject} {fingerprint : RdmaEndpoint},
    state.published[uid]? = some tracked → tracked.fingerprint = some fingerprint →
        ∃ stored, state.store.objects[tracked.key]? = some stored ∧
          endpointFingerprint stored = fingerprint ∧
          podUIDOf stored = uid
  claims : ∀ {uid : String} {key : ObjectKey} {stored : RdmaEndpoint}, claimed uid key →
    state.store.objects[key]? = some stored → podUIDOf stored = uid →
      ∃ tracked, state.published[uid]? = some tracked ∧ tracked.key = key
  distinct : ∀ {uid other : String} {tracked another : PublishedObject},
    state.published[uid]? = some tracked → state.published[other]? = some another →
        tracked.key = another.key → uid = other

lemma Tracks.claimTracked {claimed : String → ObjectKey → Prop} (tracks : Tracks claimed state) :
    Tracks (fun uid key =>
        claimed uid key ∨ (uid, key) ∈ trackedKeys state.published)
      state where
  content := tracks.content
  claims := by
    rintro uid key stored (before | now) found owned
    · exact tracks.claims before found owned
    · exact mem_trackedKeys.1 now
  distinct := tracks.distinct

/-- A key is tracked for the Pod of an object and for no other one. -/
def NameFree (published : Published) (object : RdmaEndpoint) : Prop :=
  ∀ uid tracked, published[uid]? = some tracked → (tracked.key = object.key ↔ uid = podUIDOf object)

/-- The entry of an object with its current content. -/
def IsPublished (published : Published) (object : RdmaEndpoint) : Prop :=
  ∃ tracked, published[podUIDOf object]? = some tracked ∧ tracked.key = object.key ∧
    tracked.fingerprint = some (endpointFingerprint object)

section

variable {claimed : String → ObjectKey → Prop} (clock : RunClock)

section

variable (tracks : Tracks claimed state)

include tracks

lemma Tracks.apply (free : NameFree state.published object)
    (keyed : entry.key = object.key)
    (current : entry.fingerprint = some (endpointFingerprint object)) :
    Tracks claimed
      { published := state.published.insert (podUIDOf object) entry
        store := state.store.apply object } where
  content := by
    intro uid tracked fingerprint found marked
    rw [GoMap.getElem?_insert] at found
    split_ifs at found with same
    · cases found
      rw [current] at marked
      cases marked
      refine ⟨object, ?_, rfl, same⟩
      rw [EndpointStore.getElem?_apply, if_pos keyed.symm]
    · obtain ⟨stored, isStored, agree⟩ := tracks.content found marked
      refine ⟨stored, ?_, agree⟩
      have other : object.key ≠ tracked.key := fun equal =>
        same ((free uid tracked found).1 equal.symm).symm
      rw [EndpointStore.getElem?_apply, if_neg other]
      exact isStored
  claims := by
    intro uid key stored isClaimed isStored owned
    rw [EndpointStore.getElem?_apply] at isStored
    split_ifs at isStored with same
    · cases isStored
      refine ⟨entry, ?_, keyed.trans same⟩
      rw [GoMap.getElem?_insert, if_pos owned]
    · obtain ⟨tracked, found, sameKey⟩ := tracks.claims isClaimed isStored owned
      have other : podUIDOf object ≠ uid := fun equal =>
        same (((free uid tracked found).2 equal.symm).symm.trans sameKey)
      refine ⟨tracked, ?_, sameKey⟩
      rw [GoMap.getElem?_insert, if_neg other]
      exact found
  distinct := by
    intro uid other tracked another found foundOther sameKey
    rw [GoMap.getElem?_insert] at found foundOther
    split_ifs at found foundOther with isObject otherIsObject otherIsObject
    · exact isObject.symm.trans otherIsObject
    · cases found
      rw [← isObject]
      exact ((free other another foundOther).1 (sameKey.symm.trans keyed)).symm
    · cases foundOther
      rw [← otherIsObject]
      exact (free uid tracked found).1 (sameKey.trans keyed)
    · exact tracks.distinct found foundOther sameKey

lemma publishObject_spec (free : named object = true → NameFree state.published object) :
    Tracks claimed (publishObject clock state object) ∧ (named object = true →
        IsPublished (publishObject clock state object).published object) ∧
      ∀ uid, uid ≠ podUIDOf object → (publishObject clock state object).published[uid]? =
          state.published[uid]? := by
  simp only [publishObject]
  split_ifs with unnamed current
  · refine ⟨tracks, fun isNamed => ?_, fun _ _ => rfl⟩
    rw [unnamed] at isNamed
    cases isNamed
  · refine ⟨tracks, fun isNamed => ?_, fun _ _ => rfl⟩
    simp only [upToDate] at current
    split at current
    · cases current
    · rename_i previous found
      rw [Bool.and_eq_true, decide_eq_true_eq] at current
      exact ⟨previous, found, (free isNamed _ previous found).2 rfl, current.1⟩
  · have isNamed : named object = true := by simpa using unnamed
    refine ⟨tracks.apply (free isNamed) rfl rfl, fun _ => ?_, ?_⟩
    · exact ⟨_, (GoMap.getElem?_insert _ _ _ _).trans (if_pos rfl), rfl, rfl⟩
    · intro uid other
      rw [GoMap.getElem?_insert, if_neg (Ne.symm other)]

lemma nameFree_publishObject (freeFirst : named first = true → NameFree state.published first)
    (otherPod : podUIDOf first ≠ podUIDOf object)
    (otherName : named first = true → first.key ≠ object.key)
    (free : NameFree state.published object) :
    NameFree (publishObject clock state first).published object := by
  intro uid tracked found
  cases isNamed : named first with
  | false =>
    rw [publishObject, if_pos isNamed] at found
    exact free uid tracked found
  | true =>
    obtain ⟨_, published, frame⟩ := publishObject_spec clock tracks freeFirst
    by_cases isFirst : uid = podUIDOf first
    · obtain ⟨entry, isEntry, keyed, _⟩ := published isNamed
      rw [isFirst, isEntry] at found
      cases found
      rw [keyed, isFirst]
      exact iff_of_false (otherName isNamed) otherPod
    · rw [frame uid isFirst] at found
      exact free uid tracked found

end

/-- The collected objects have names of their own. -/
def DistinctNames (objects : List RdmaEndpoint) : Prop :=
  ∀ object ∈ objects, ∀ other ∈ objects, named object = true →
    named other = true → object.key = other.key → podUIDOf object = podUIDOf other

instance (objects : List RdmaEndpoint) : Decidable (DistinctNames objects) :=
  inferInstanceAs (Decidable (∀ object ∈ objects, ∀ other ∈ objects,
    named object = true → named other = true → object.key = other.key →
      podUIDOf object = podUIDOf other))

lemma foldl_publishObject_spec {objects : List RdmaEndpoint} (uids : (objects.map podUIDOf).Nodup)
    (names : DistinctNames objects) (tracks : Tracks claimed state)
    (free : ∀ object ∈ objects, named object = true → NameFree state.published object) :
    Tracks claimed (objects.foldl (publishObject clock) state) ∧
      (∀ object ∈ objects, named object = true →
        IsPublished (objects.foldl (publishObject clock) state).published object) ∧
      ∀ uid, uid ∉ objects.map podUIDOf →
        (objects.foldl (publishObject clock) state).published[uid]? = state.published[uid]? := by
  induction objects generalizing state with
  | nil => exact ⟨tracks, by simp, fun _ _ => rfl⟩
  | cons first rest ih =>
    rw [map_cons, nodup_cons] at uids
    have freeFirst := free first mem_cons_self
    obtain ⟨kept, published, frame⟩ := publishObject_spec clock tracks freeFirst
    have freeRest : ∀ object ∈ rest, named object = true →
        NameFree (publishObject clock state first).published object := by
      intro object listed isNamed
      have otherPod : podUIDOf first ≠ podUIDOf object := fun equal =>
        uids.1 (equal ▸ mem_map_of_mem listed)
      refine nameFree_publishObject clock tracks freeFirst otherPod ?_
        (free object (mem_cons_of_mem first listed) isNamed)
      intro firstNamed sameKey
      exact otherPod (names first mem_cons_self object
        (mem_cons_of_mem first listed) firstNamed isNamed sameKey)
    rcases ih uids.2 (fun object listed other listedOther =>
        names object (mem_cons_of_mem first listed) other (mem_cons_of_mem first listedOther))
      kept freeRest with ⟨keptAll, publishedRest, frameRest⟩
    refine ⟨keptAll, ?_, ?_⟩
    · intro object listed isNamed
      rcases mem_cons.1 listed with rfl | later
      · obtain ⟨tracked, found, agrees⟩ := published isNamed
        exact ⟨tracked, (frameRest _ uids.1).trans found, agrees⟩
      · exact publishedRest object later isNamed
    · intro uid absent
      rw [map_cons, mem_cons, not_or] at absent
      exact (frameRest uid absent.2).trans (frame uid absent.1)

/-! ## The second loop -/

lemma Tracks.remove (tracks : Tracks claimed state)
    (found : state.published[uid]? = some previous) :
    Tracks claimed
      { published := state.published.erase uid, store := state.store.delete previous.key } where
  content := by
    intro other tracked fingerprint foundOther marked
    rw [getElem?_erase] at foundOther
    split_ifs at foundOther with same
    obtain ⟨stored, isStored, agree⟩ := tracks.content foundOther marked
    refine ⟨stored, ?_, agree⟩
    have otherKey : previous.key ≠ tracked.key := fun equal =>
      same (tracks.distinct found foundOther equal)
    exact (getElem?_erase _ _ _).trans ((if_neg otherKey).trans isStored)
  claims := by
    intro other key stored isClaimed isStored owned
    replace isStored := (getElem?_erase _ _ _).symm.trans isStored
    split_ifs at isStored with sameKey
    obtain ⟨tracked, foundOther, keyed⟩ := tracks.claims isClaimed isStored owned
    refine ⟨tracked, ?_, keyed⟩
    have differs : uid ≠ other := by
      rintro rfl
      rw [found] at foundOther
      cases foundOther
      exact sameKey keyed
    exact (getElem?_erase _ _ _).trans ((if_neg differs).trans foundOther)
  distinct := by
    intro first second tracked another isFirst isSecond sameKey
    rw [getElem?_erase] at isFirst isSecond
    split_ifs at isFirst isSecond
    exact tracks.distinct isFirst isSecond sameKey

lemma removeDead_spec (tracks : Tracks claimed state) (live : List String) (uid : String) :
    Tracks claimed (removeDead live state uid) ∧
      ∀ other, (removeDead live state uid).published[other]? = if uid = other ∧ uid ∉ live then none
        else state.published[other]? := by
  rw [removeDead]
  split
  · rename_i absent
    refine ⟨tracks, fun other => ?_⟩
    split_ifs with dead
    · rw [← dead.1, absent]
    · rfl
  · rename_i previous found
    split_ifs with isLive
    · refine ⟨tracks, fun other => ?_⟩
      rw [if_neg (fun dead => dead.2 isLive)]
    · refine ⟨tracks.remove found, fun other => ?_⟩
      rw [getElem?_erase]
      simp only [isLive, not_false_eq_true, and_true]

/-- The second loop removes the dead UIDs and keeps the others. -/
lemma foldl_removeDead_spec (live uids : List String) (tracks : Tracks claimed state) :
    Tracks claimed (uids.foldl (removeDead live) state) ∧
      ∀ other, (uids.foldl (removeDead live) state).published[other]? =
        if other ∈ uids ∧ other ∉ live then none
        else state.published[other]? := by
  induction uids generalizing state with
  | nil => exact ⟨tracks, fun other => by simp⟩
  | cons first rest induction =>
    obtain ⟨kept, lookup⟩ := removeDead_spec tracks live first
    obtain ⟨keptAll, lookupAll⟩ := induction kept
    refine ⟨keptAll, fun other => ?_⟩
    rw [foldl_cons, lookupAll, lookup]
    by_cases same : first = other
    · subst same
      by_cases isLive : first ∈ live
      · simp [isLive]
      · simp [isLive]
    · simp [same, Ne.symm same]

end

/-! ## Adoption -/

/-- What is adopted has no fingerprint and the key of a listed object. -/
def Adopted (items : List RdmaEndpoint) (published : Published) : Prop :=
  ∀ uid tracked, published[uid]? = some tracked → tracked.fingerprint = none ∧
      ∃ item ∈ items, podUIDOf item = uid ∧ tracked.key = item.key

lemma adopted_adoptExisting (runtime : Runtime) (node : String) (store : EndpointStore) :
    Adopted (store.list runtime node) (adoptExisting runtime node store ∅) := by
  refine foldl_prefix_induction adoptObject (store.list runtime node) ∅ Adopted ?_ ?_
  · intro uid tracked found
    simp at found
  · intro done item rest published _ adopted uid tracked found
    rw [adoptObject] at found
    split_ifs at found
    · obtain ⟨bare, other, listed, agrees⟩ := adopted uid tracked found
      exact ⟨bare, other, List.mem_append_left _ listed, agrees⟩
    · rw [GoMap.getElem?_insert] at found
      split_ifs at found with same
      · cases found
        exact ⟨rfl, item, by simp, same, rfl⟩
      · obtain ⟨bare, other, listed, agrees⟩ := adopted uid tracked found
        exact ⟨bare, other, List.mem_append_left _ listed, agrees⟩

lemma tracks_adoptExisting (runtime : Runtime) (node : String) (store : EndpointStore) :
    Tracks (fun _ _ => False) { published := adoptExisting runtime node store ∅, store } where
  content := by
    intro uid tracked fingerprint found marked
    rw [(adopted_adoptExisting runtime node store uid tracked found).1] at marked
    cases marked
  claims := fun isClaimed => isClaimed.elim
  distinct := by
    intro uid other tracked another found foundOther sameKey
    rcases (adopted_adoptExisting runtime node store uid tracked found).2
      with ⟨item, listed, owned, keyed⟩
    rcases (adopted_adoptExisting runtime node store other another
      foundOther).2 with ⟨second, listedSecond, ownedSecond, keyedSecond⟩
    have stored := EndpointStore.getElem?_of_mem_list listed
    rw [← keyed, sameKey, keyedSecond, EndpointStore.getElem?_of_mem_list listedSecond] at stored
    cases stored
    exact owned.symm.trans ownedSecond

/-! ## Sequences of runs -/

/-- The input of one run. -/
structure Round where
  scan : Scan
  clock : RunClock

/--
The publisher and the API.  `claimed` records every UID with every key under
which an object was adopted or published for it; no code reads it.
-/
structure World where
  publisher : EndpointPublisher
  store : EndpointStore
  claimed : List (String × ObjectKey)

/-- A new publisher over any stored objects. -/
def World.start (store : EndpointStore) : World :=
  { publisher := { published := ∅, lastRun := none, synced := false }
    store
    claimed := [] }

section

variable (runtime : Runtime) (node : String) (allPods : Bool)

/-- The objects a round collects. -/
def Round.objects (round : Round) : List RdmaEndpoint :=
  collectEndpoints runtime node allPods round.scan

/-- One call of `run`. -/
def worldStep (world : World) (round : Round) : Option World :=
  let objects := round.objects runtime node allPods
  let after := publishRun runtime node round.clock objects world.publisher world.store
  some
    { publisher := after.1
      store := after.2
      claimed :=
        world.claimed ++ trackedKeys (trackedAtStart runtime node world.publisher world.store) ++
          trackedKeys (appliedState runtime node round.clock objects world.publisher
              world.store).published }

/--
The Pods of the index have names of their own, and the name of a collected Pod
is tracked for this Pod and for no other UID.
-/
def NamesFollowPods (world : World) (round : Round) : Prop :=
  DistinctNames (round.objects runtime node allPods) ∧
    ∀ object ∈ round.objects runtime node allPods, named object = true →
      NameFree (trackedAtStart runtime node world.publisher world.store) object

/-- What the runs keep. -/
structure World.Consistent (world : World) : Prop where
  tracks : Tracks (fun uid key => (uid, key) ∈ world.claimed)
    { published := world.publisher.published, store := world.store }
  fresh : world.publisher.synced = false → world.publisher.published = ∅ ∧ world.claimed = []

lemma consistent_start (store : EndpointStore) : (World.start store).Consistent where
  tracks :=
    { content := fun found => by simp [World.start] at found
      claims := fun isClaimed => by simp [World.start] at isClaimed
      distinct := fun found => by simp [World.start] at found }
  fresh := fun _ => ⟨rfl, rfl⟩

/--
After a run: every collected Pod of the index has its object with its current
interfaces, and no object of the node is left which was adopted or published
for a Pod that is not collected any more.
-/
structure Converged (round : Round) (world : World) : Prop where
  published : ∀ object ∈ round.objects runtime node allPods, named object = true →
      ∃ stored, world.store.objects[object.key]? = some stored ∧ podUIDOf stored = podUIDOf object ∧
        stored.status.interfaces = object.status.interfaces
  removed : ∀ (key : ObjectKey) (stored : RdmaEndpoint), world.store.objects[key]? = some stored →
      stored.labels[rdmaEndpointLabelNode]? = some node →
      (podUIDOf stored, key) ∈ world.claimed → podUIDOf stored ∈
          (round.objects runtime node allPods).map podUIDOf

variable {runtime node allPods}

lemma World.Consistent.trackedAtStart {world : World} (consistent : world.Consistent) : Tracks
      (fun uid key => (uid, key) ∈ world.claimed ++ trackedKeys
          (trackedAtStart runtime node world.publisher world.store))
      { published := trackedAtStart runtime node world.publisher world.store
        store := world.store } := by
  have tracks : Tracks (fun uid key => (uid, key) ∈ world.claimed)
      { published := EbpfFlow.trackedAtStart runtime node world.publisher world.store
        store := world.store } := by
    cases synced : world.publisher.synced with
    | true =>
      rw [EbpfFlow.trackedAtStart, if_pos synced]
      exact consistent.tracks
    | false =>
      obtain ⟨empty, unclaimed⟩ := consistent.fresh synced
      rw [EbpfFlow.trackedAtStart, if_neg (by simp [synced]), empty, unclaimed]
      simpa using tracks_adoptExisting runtime node world.store
  simpa only [mem_append] using tracks.claimTracked

lemma worldStep_spec {world : World} (consistent : world.Consistent) {round : Round}
    (follow : NamesFollowPods runtime node allPods world round) {after : World}
    (stepped : worldStep runtime node allPods world round = some after) :
    after.Consistent ∧ Converged runtime node allPods round after := by
  cases stepped
  rcases foldl_publishObject_spec round.clock
    (collectEndpoints_uids_nodup runtime node allPods round.scan)
    follow.1 consistent.trackedAtStart follow.2 with
    ⟨applied, published, _⟩
  rcases foldl_removeDead_spec ((round.objects runtime node allPods).map podUIDOf)
    (runtime.range ["run"] (appliedState runtime node round.clock
        (round.objects runtime node allPods) world.publisher
        world.store).published.keys)
    applied.claimTracked with ⟨cleaned, lookup⟩
  have tracks : Tracks (fun uid key =>
      (uid, key) ∈ world.claimed ++ trackedKeys
          (trackedAtStart runtime node world.publisher world.store) ++
        trackedKeys (appliedState runtime node round.clock
            (round.objects runtime node allPods) world.publisher
            world.store).published)
      (cleanedState runtime (round.objects runtime node allPods)
        (appliedState runtime node round.clock (round.objects runtime node allPods) world.publisher
          world.store)) :=
    { content := cleaned.content
      claims := fun isClaimed => cleaned.claims (mem_append.1 isClaimed)
      distinct := cleaned.distinct }
  refine ⟨⟨tracks, fun unsynced => nomatch unsynced⟩, ?_, ?_⟩
  · intro object listed isNamed
    obtain ⟨tracked, found, keyed, current⟩ := published object listed isNamed
    have kept : (cleanedState runtime (round.objects runtime node allPods)
        (appliedState runtime node round.clock (round.objects runtime node allPods) world.publisher
          world.store)).published[podUIDOf object]? = some tracked := by
      refine (lookup (podUIDOf object)).trans ((if_neg ?_).trans found)
      exact fun dead => dead.2 (mem_map_of_mem listed)
    obtain ⟨stored, isStored, same, owned⟩ := tracks.content kept current
    refine ⟨stored, keyed ▸ isStored, owned, ?_⟩
    exact congrArg (fun content => content.status.interfaces) same
  · intro key stored isStored _ isClaimed
    obtain ⟨tracked, found, _⟩ := tracks.claims isClaimed isStored rfl
    by_contra dead
    replace found := (lookup (podUIDOf stored)).symm.trans found
    split_ifs at found with removed
    refine removed ⟨?_, dead⟩
    rw [MapOrder.mem_range]
    exact (mem_keys_iff _ _).2 ⟨tracked, found⟩

end

/--
Every sequence of runs whose rounds meet the condition converges after each
run, whatever objects the API held before.
-/
theorem publisher_converges (runtime : Runtime) (node : String)
    (allPods : Bool) (store : EndpointStore) (rounds : List Round) {world : World}
    (reached : runEvents (worldStep runtime node allPods) (World.start store) rounds = some world)
    (meets : StepsMeet (worldStep runtime node allPods)
      (NamesFollowPods runtime node allPods) (World.start store) rounds) (round : Round)
    (follow : NamesFollowPods runtime node allPods world round) :
    ∃ after, worldStep runtime node allPods world round = some after ∧
      Converged runtime node allPods round after := by
  have consistent : world.Consistent :=
    runEvents_invariant_of_meets World.Consistent (fun _ _ _ before condition stepped =>
        (worldStep_spec before condition stepped).1)
      meets (consistent_start store) reached
  exact ⟨_, rfl, (worldStep_spec consistent follow rfl).2⟩

lemma keyed_empty (key : ObjectKey) (object : RdmaEndpoint)
    (stored : (∅ : GoMap ObjectKey RdmaEndpoint)[key]? = some object) : object.key = key := by
  simp at stored

/-- An API without objects. -/
def EndpointStore.empty : EndpointStore := ⟨∅, keyed_empty⟩

/-- A run at a time which finds host network Pods with one device, by UID and name. -/
def podRound (pods : List (String × String)) (now : Int) : Round :=
  { scan :=
      { now := now
        hostDevices := ∅
        podDeviceTable := fun _ => ∅
        podDeviceHolders := pods.foldl (fun holders pod => holders.insert pod.1
            { pid := "7", devices := (∅ : GoMap String Bool).insert "mlx5_0" true }) ∅
        podQPs := ∅
        byUID := pods.foldl (fun index pod => index.insert pod.1
            { namespaceName := "dc", name := pod.2, hostNetwork := true }) ∅ }
    clock :=
      { startedAt := now, checkedAt := fun _ => now, sentAt := fun _ => now } }

lemma namesFollowPods_of_keys {round : Round} {world : World}
    (distinct : DistinctNames (round.objects runtime node allPods))
    (free : ∀ object ∈ round.objects runtime node allPods,
      ∀ uid ∈ (trackedAtStart runtime node world.publisher world.store).keys, ∀ tracked ∈
        (trackedAtStart runtime node world.publisher world.store)[uid]?,
        (tracked.key = object.key ↔ uid = podUIDOf object)) :
    NamesFollowPods runtime node allPods world round :=
  ⟨distinct, fun object listed _ uid tracked found =>
    free object listed uid ((GoMap.mem_keys_iff _ _).2 ⟨tracked, found⟩) tracked found⟩

/-- After a run with two Pods a second one finds only one of them. -/
theorem publisher_converges_dropped_pod :
    let step := worldStep .canonical "node" false
    let second := podRound [("uid-2", "decode-0")] 1
    ∃ world after, step (World.start EndpointStore.empty)
        (podRound [("uid-1", "prefill-0"), ("uid-2", "decode-0")] 0) = some world ∧
      step world second = some after ∧ Converged .canonical "node" false second after := by
  intro step second
  have follow : NamesFollowPods .canonical "node" false (World.start EndpointStore.empty)
      (podRound [("uid-1", "prefill-0"), ("uid-2", "decode-0")] 0) :=
    namesFollowPods_of_keys (by decide +kernel) (by decide +kernel)
  obtain ⟨after, stepped, converged⟩ := publisher_converges .canonical "node" false
    EndpointStore.empty [podRound [("uid-1", "prefill-0"), ("uid-2", "decode-0")] 0] rfl
    ⟨follow, fun _ _ => trivial⟩ second
    (namesFollowPods_of_keys (by decide +kernel) (by decide +kernel))
  exact ⟨_, after, rfl, stepped, converged⟩

/--
A Pod is replaced by one of the same name between two runs: the object of the
new Pod is applied and then deleted with the entry of the old UID, and the run
after that takes it for unchanged.
-/
theorem replaced_pod_loses_endpoint :
    let round (uid : String) (now : Int) := podRound [(uid, "prefill-0")] now
    let published (rounds : List Round) := (runEvents (worldStep .canonical "node" false)
      (World.start EndpointStore.empty) rounds).map fun world =>
        world.store.objects.contains (toLex ("dc", "prefill-0"))
    ((round "uid-2" 1).objects .canonical "node" false).map
        (fun object => (podUIDOf object, object.key)) = [("uid-2", toLex ("dc", "prefill-0"))] ∧
      published [round "uid-1" 0, round "uid-2" 1] = some false ∧
      published [round "uid-1" 0, round "uid-2" 1, round "uid-2" 2] = some false := by
  refine ⟨?_, ?_, ?_⟩
  · decide +kernel
  · decide +kernel
  · decide +kernel

end Unifabric.EbpfFlow
