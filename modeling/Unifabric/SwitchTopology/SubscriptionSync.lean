import Unifabric.SwitchTopology.Subscription

/-!
# The subscriptions of all Switches

`syncSubscriptions` compares the Switches with the running subscriptions: those
of Switches without a management address are stopped and their status is
cleared, then those which are gone or have another target are cancelled, and
the missing ones are started.  A failed status write ends the call early.
-/

namespace Unifabric.SwitchTopology

open Lib List

/-- A listed Switch, and how the write which clears its status ends. -/
structure ListedSwitch where
  name : String
  mgmtIP : String
  grpcPort : Option Int
  clearStatus : Option SubscriptionError
  deriving DecidableEq, Repr

/-- The registered targets, and the goroutines not cancelled, now and after each change. -/
structure SubscriptionManager where
  subscriptions : GoMap String String
  running : List (String × String)
  history : List (List (String × String))

/-- A manager without subscriptions. -/
def SubscriptionManager.new : SubscriptionManager := ⟨∅, [], []⟩

/-- The target of the subscription of a name. -/
def SubscriptionManager.target (manager : SubscriptionManager) (name : String) : Option String :=
  manager.subscriptions[name]?

/-- Cancel the subscription of a name and forget it; `stopSubscription`. -/
def SubscriptionManager.stop (manager : SubscriptionManager) (name : String) :
    SubscriptionManager :=
  match manager.target name with
  | none => manager
  | some target =>
    let running := manager.running.erase (name, target)
    ⟨manager.subscriptions.erase name, running, manager.history ++ [running]⟩

/-- Register a subscription and start its goroutine. -/
def SubscriptionManager.start (manager : SubscriptionManager) (name target : String) :
    SubscriptionManager :=
  let running := manager.running ++ [(name, target)]
  ⟨manager.subscriptions.insert name target, running, manager.history ++ [running]⟩

section

variable (runtime : Runtime) (defaultGrpcPort : Int)

/-- The target of a Switch. -/
def ListedSwitch.target (switch : ListedSwitch) : String :=
  switch.mgmtIP ++ ":" ++ toString (switch.grpcPort.getD defaultGrpcPort)

/-- One listed Switch: stop it and clear its status, or collect its target. -/
def collectTarget (state : SubscriptionManager × GoMap String String) (switch : ListedSwitch) :
    Except (SubscriptionError × SubscriptionManager) (SubscriptionManager × GoMap String String) :=
  if switch.mgmtIP = "" then
    match switch.clearStatus with
    | some failure => .error (failure, state.1.stop switch.name)
    | none => .ok (state.1.stop switch.name, state.2)
  else .ok (state.1, state.2.insert switch.name (switch.target defaultGrpcPort))

/-- Cancel a subscription which is not wanted as it is. -/
def dropStale (desired : GoMap String String) (manager : SubscriptionManager) (name : String) :
    SubscriptionManager :=
  if manager.target name = desired[name]? then manager else manager.stop name

/-- Start a wanted subscription; `hasSubscription` says whether it runs. -/
def startMissing (desired : GoMap String String) (manager : SubscriptionManager) (name : String) :
    SubscriptionManager :=
  let target := desired.getD name ""
  if manager.target name = some target then manager else manager.start name target

/-- `syncSubscriptions`: its error, and the manager afterwards. -/
def syncSubscriptions (manager : SubscriptionManager)
    (listed : Except SubscriptionError (List ListedSwitch)) :
    Option SubscriptionError × SubscriptionManager :=
  match listed with
  | .error failure => (some failure, manager)
  | .ok switches =>
    match switches.foldlM (collectTarget defaultGrpcPort) (manager, ∅) with
    | .error (failure, stopped) => (some failure, stopped)
    | .ok (stopped, desired) =>
      let kept := (runtime.range ["syncSubscriptions", "subscriptions"]
        stopped.subscriptions.keys).foldl (dropStale desired) stopped
      (none, (runtime.range ["syncSubscriptions", "desiredTargets"] desired.keys).foldl
        (startMissing desired) kept)

/-! ## Targets -/

/-- Stop the Switches without a management address. -/
def stopListed (manager : SubscriptionManager) (switches : List ListedSwitch) :
    SubscriptionManager :=
  ((switches.filter (·.mgmtIP = "")).map ListedSwitch.name).foldl .stop manager

/-- The targets of the listed Switches. -/
def desiredTargets (switches : List ListedSwitch) : GoMap String String :=
  (switches.filter (·.mgmtIP ≠ "")).foldl
    (fun desired switch => desired.insert switch.name (switch.target defaultGrpcPort)) ∅

/-- The status of a Switch is to be cleared, which fails. -/
def ListedSwitch.Fails (switch : ListedSwitch) : Prop :=
  switch.mgmtIP = "" ∧ switch.clearStatus ≠ none

instance (switch : ListedSwitch) : Decidable switch.Fails :=
  inferInstanceAs (Decidable (_ ∧ _))

/-- The Switches up to the first one which fails, which is included. -/
def upToFailure : List ListedSwitch → List ListedSwitch
  | [] => []
  | first :: rest => if first.Fails then [first] else first :: upToFailure rest

variable {switches : List ListedSwitch}

lemma collect_of_works (works : ∀ switch ∈ switches, ¬ switch.Fails)
    (manager : SubscriptionManager) (desired : GoMap String String) :
    switches.foldlM (collectTarget defaultGrpcPort) (manager, desired) =
      .ok (stopListed manager switches, (switches.filter (·.mgmtIP ≠ "")).foldl
        (fun desired switch => desired.insert switch.name (switch.target defaultGrpcPort))
        desired) := by
  induction switches generalizing manager desired with
  | nil => rfl
  | cons first rest ih =>
    have later := ih fun switch listed => works switch (.tail _ listed)
    rw [foldlM_cons, collectTarget]
    by_cases unmanaged : first.mgmtIP = ""
    · have cleared : first.clearStatus = none :=
        by_contra fun fails => works first (.head _) ⟨unmanaged, fails⟩
      simp [unmanaged, cleared, stopListed, bind, Except.bind, later]
    · simp [unmanaged, stopListed, bind, Except.bind, later]

lemma collect_of_fails (fails : ∃ switch ∈ switches, switch.Fails)
    (manager : SubscriptionManager) (desired : GoMap String String) :
    ∃ failure, switches.foldlM (collectTarget defaultGrpcPort) (manager, desired) =
      .error (failure, stopListed manager (upToFailure switches)) := by
  induction switches generalizing manager desired with
  | nil => simp at fails
  | cons first rest ih =>
    rw [foldlM_cons, collectTarget, upToFailure]
    by_cases now : first.Fails
    · obtain ⟨failure, cleared⟩ := Option.ne_none_iff_exists'.1 now.2
      exact ⟨failure, by simp [now, now.1, cleared, stopListed, bind, Except.bind]⟩
    · have later := ih (by simpa [now] using fails)
      by_cases unmanaged : first.mgmtIP = ""
      · have cleared : first.clearStatus = none := by_contra fun failed => now ⟨unmanaged, failed⟩
        simpa [now, unmanaged, cleared, stopListed, bind, Except.bind] using
          later (manager.stop first.name) desired
      · simpa [now, unmanaged, stopListed, bind, Except.bind] using
          later manager (desired.insert first.name (first.target defaultGrpcPort))

variable (manager : SubscriptionManager)

lemma target_stop (name other : String) :
    (manager.stop name).target other = if name = other then none else manager.target other := by
  rw [SubscriptionManager.stop]
  cases found : manager.target name with
  | none =>
    split_ifs with same
    · rw [← same, found]
    · rfl
  | some target => exact GoMap.getElem?_erase _ _ _

lemma target_start (name target other : String) : (manager.start name target).target other =
      if name = other then some target else manager.target other :=
  GoMap.getElem?_insert _ _ _ _

lemma target_foldl_stop (names : List String) (manager : SubscriptionManager) (name : String) :
    (names.foldl .stop manager).target name =
      if name ∈ names then none else manager.target name := by
  induction names generalizing manager with
  | nil => rfl
  | cons first rest ih =>
    rw [foldl_cons, ih, target_stop]
    by_cases later : name ∈ rest
    · simp [later]
    · simp [later, eq_comm]

lemma target_foldl_dropStale (desired : GoMap String String) (names : List String)
    (manager : SubscriptionManager) (name : String) :
    (names.foldl (dropStale desired) manager).target name =
      if name ∈ names ∧ manager.target name ≠ desired[name]? then none
      else manager.target name := by
  induction names generalizing manager with
  | nil => simp
  | cons first rest ih =>
    have step : (dropStale desired manager first).target name =
        if first = name ∧ manager.target name ≠ desired[name]? then none
        else manager.target name := by
      rw [dropStale]
      split_ifs with same both both
      · exact absurd (both.1 ▸ same) both.2
      · rfl
      · rw [target_stop, if_pos both.1]
      · rw [target_stop]
        split_ifs with isName
        · exact absurd ⟨isName, isName ▸ same⟩ both
        · rfl
    rw [foldl_cons, ih, step]
    by_cases stale : manager.target name = desired[name]?
    · simp [stale]
    · by_cases same : first = name
      · simp [stale, same]
      · simp [stale, same, Ne.symm same]

lemma getElem?_of_wanted {desired : GoMap String String} {name : String}
    (wanted : name ∈ desired) : desired[name]? = some (desired.getD name "") := by
  obtain ⟨target, found⟩ := (GoMap.mem_iff _ _).1 wanted
  rw [GoMap.getD_eq, found]
  rfl

lemma target_foldl_startMissing {desired : GoMap String String} {names : List String}
    (wanted : ∀ name ∈ names, name ∈ desired) (manager : SubscriptionManager) (name : String) :
    (names.foldl (startMissing desired) manager).target name =
      if name ∈ names then desired[name]? else manager.target name := by
  induction names generalizing manager with
  | nil => simp
  | cons first rest ih =>
    have isWanted := getElem?_of_wanted (wanted first (.head _))
    have step : (startMissing desired manager first).target name =
        if first = name then desired[name]? else manager.target name := by
      rw [startMissing]
      split_ifs with runs same same
      · rw [← same, runs, isWanted]
      · rfl
      · rw [target_start, if_pos same, ← same, isWanted]
      · rw [target_start, if_neg same]
    rw [foldl_cons, ih (fun other listed => wanted other (.tail _ listed)), step]
    by_cases later : name ∈ rest
    · simp [later]
    · simp [later, eq_comm]

/-- After a call without a failure the targets are those of the list. -/
lemma target_syncSubscriptions (works : ∀ switch ∈ switches, ¬ switch.Fails) (name : String) :
    (syncSubscriptions runtime defaultGrpcPort manager (.ok switches)).2.target name =
      (desiredTargets defaultGrpcPort switches)[name]? := by
  simp only [syncSubscriptions, collect_of_works defaultGrpcPort works]
  rw [← desiredTargets, target_foldl_startMissing, target_foldl_dropStale]
  · simp only [MapOrder.mem_range, GoMap.mem_keys_iff, ← GoMap.mem_iff]
    split_ifs with wanted stale
    · rfl
    · exact ((GoMap.getElem?_eq_none_iff _ _).2 wanted).symm
    · rw [(GoMap.getElem?_eq_none_iff _ _).2 wanted] at stale ⊢
      by_contra running
      exact stale ⟨(GoMap.getElem?_eq_none_iff _ _).not_left.1 running, running⟩
  · intro other listed
    rwa [MapOrder.mem_range, GoMap.mem_keys_iff, ← GoMap.mem_iff] at listed

lemma syncSubscriptions_of_fails (fails : ∃ switch ∈ switches, switch.Fails) :
    (syncSubscriptions runtime defaultGrpcPort manager (.ok switches)).2 =
      stopListed manager (upToFailure switches) := by
  obtain ⟨failure, failed⟩ := collect_of_fails defaultGrpcPort fails manager ∅
  simp only [syncSubscriptions, failed]

/-! ## Failed status writes -/

/-- The same list with status writes which succeed. -/
def withoutFailures (switches : List ListedSwitch) : List ListedSwitch :=
  switches.map fun switch => { switch with clearStatus := none }

/-- The Switches whose status writes fail. -/
def failingNames (switches : List ListedSwitch) : List String :=
  (switches.filter fun switch => switch.Fails).map ListedSwitch.name

/--
A Switch already has the subscription of the list, if those are stopped which
have no management address and are listed up to the first failure.
-/
def SettledBefore (manager : SubscriptionManager) (switches : List ListedSwitch)
    (name : String) : Prop :=
  (if ∃ switch ∈ upToFailure switches, switch.mgmtIP = "" ∧ switch.name = name then none
    else manager.target name) = (desiredTargets defaultGrpcPort switches)[name]?

lemma desiredTargets_withoutFailures (switches : List ListedSwitch) :
    desiredTargets defaultGrpcPort (withoutFailures switches) =
      desiredTargets defaultGrpcPort switches := by
  rw [desiredTargets, withoutFailures, filter_map, foldl_map]
  rfl

/--
Failed status writes leave the subscriptions of all other Switches as if they
had succeeded exactly if none fails or there was nothing left to do.
-/
theorem others_unaffected_iff_settled (manager : SubscriptionManager)
    (switches : List ListedSwitch) : (∀ name ∉ failingNames switches,
      (syncSubscriptions runtime defaultGrpcPort manager (.ok switches)).2.target name =
        (syncSubscriptions runtime defaultGrpcPort manager
          (.ok (withoutFailures switches))).2.target name) ↔
      ((∀ switch ∈ switches, ¬ switch.Fails) ∨ ∀ name ∉ failingNames switches,
        SettledBefore defaultGrpcPort manager switches name) := by
  have free : ∀ switch ∈ withoutFailures switches, ¬ switch.Fails := by
    intro switch listed fails
    rcases List.mem_map.mp listed with ⟨_, _, rfl⟩
    exact fails.2 rfl
  have target := target_syncSubscriptions runtime defaultGrpcPort manager free
  rw [desiredTargets_withoutFailures] at target
  by_cases fails : ∃ switch ∈ switches, switch.Fails
  · have some : ¬ ∀ switch ∈ switches, ¬ switch.Fails := by
      simpa only [not_forall, not_not, exists_prop] using fails
    rw [or_iff_right some]
    refine forall₂_congr fun name _ => ?_
    rw [target, syncSubscriptions_of_fails runtime defaultGrpcPort manager fails, stopListed,
      target_foldl_stop, SettledBefore]
    simp only [List.mem_map, List.mem_filter, decide_eq_true_eq, and_assoc]
  · have works : ∀ switch ∈ switches, ¬ switch.Fails :=
      fun switch listed isFailing => fails ⟨switch, listed, isFailing⟩
    refine iff_of_true (fun name _ => ?_) (Or.inl works)
    rw [target, target_syncSubscriptions runtime defaultGrpcPort manager works]

end

/-- The status of a cannot be cleared, and b gets no subscription. -/
theorem failed_write_blocks_other_switch :
    (syncSubscriptions Runtime.canonical 50051 .new (.ok [⟨"a", "", none, some snapshotNotReady⟩,
        ⟨"b", "10.0.0.2", none, none⟩])).2.target "b" = none ∧
      (syncSubscriptions Runtime.canonical 50051 .new (.ok [⟨"a", "", none, none⟩,
        ⟨"b", "10.0.0.2", none, none⟩])).2.target "b" = some "10.0.0.2:50051" := by
  constructor
  · decide +kernel
  · decide +kernel

/-! ## Goroutines -/

/-- The goroutines which are not cancelled are those of the subscriptions, one for each name. -/
structure Tracks (manager : SubscriptionManager) : Prop where
  running : ∀ name target, (name, target) ∈ manager.running ↔ manager.target name = some target
  distinct : (manager.running.map Prod.fst).Nodup
  history : ∀ running ∈ manager.history, (running.map Prod.fst).Nodup

lemma tracks_new : Tracks .new :=
  ⟨by simp [SubscriptionManager.new, SubscriptionManager.target], nodup_nil, by
    simp [SubscriptionManager.new]⟩

namespace Tracks

variable {manager : SubscriptionManager}

variable (tracks : Tracks manager)

include tracks

lemma stop (name : String) : Tracks (manager.stop name) := by
  have lookup := target_stop manager name
  rw [SubscriptionManager.stop] at lookup ⊢
  cases found : manager.target name with
  | none => exact tracks
  | some target =>
    simp only [found] at lookup
    have distinct : ((manager.running.erase (name, target)).map Prod.fst).Nodup :=
      tracks.distinct.sublist (erase_sublist.map _)
    refine ⟨fun other wanted => ?_, distinct, forall_mem_concat tracks.history distinct⟩
    rw [(List.Nodup.of_map _ tracks.distinct).mem_erase_iff, tracks.running, lookup]
    split_ifs with same
    · rw [← same, found]
      simp [eq_comm]
    · simp [Ne.symm same]

lemma start (absent : manager.target name = none) (target : String) :
    Tracks (manager.start name target) := by
  have unused : name ∉ manager.running.map Prod.fst := by
    intro listed
    obtain ⟨⟨_, other⟩, isRunning, rfl⟩ := mem_map.1 listed
    rw [tracks.running, absent] at isRunning
    cases isRunning
  have distinct : ((manager.running ++ [(name, target)]).map Prod.fst).Nodup := by
    rw [map_append, map_singleton, ← concat_eq_append]
    exact tracks.distinct.concat unused
  refine ⟨fun other wanted => ?_, distinct, forall_mem_concat tracks.history distinct⟩
  rw [target_start, SubscriptionManager.start, mem_append, mem_singleton, tracks.running,
    Prod.mk.injEq]
  split_ifs with same
  · rw [← same, absent]
    simp [eq_comm]
  · simp [Ne.symm same]

/-- After stale subscriptions are gone, only absent ones are started. -/
lemma foldl_startMissing {desired : GoMap String String}
    (settled : ∀ name ∈ desired, manager.target name = none ∨
      manager.target name = desired[name]?) {names : List String}
    (wanted : ∀ name ∈ names, name ∈ desired) :
    Tracks (names.foldl (startMissing desired) manager) := by
  induction names generalizing manager with
  | nil => exact tracks
  | cons first rest ih =>
    have isWanted := getElem?_of_wanted (wanted first (.head _))
    have later := fun name listed => wanted name (mem_cons_of_mem first listed)
    rw [foldl_cons, startMissing]
    split_ifs with runs
    · exact ih tracks settled later
    · have absent : manager.target first = none :=
        (settled first (wanted first (.head _))).resolve_right fun same =>
          runs (same.trans isWanted)
      refine ih (tracks.start absent _) (fun name among => ?_) later
      rw [target_start]
      split_ifs with same
      · exact .inr (same ▸ isWanted.symm)
      · exact settled name among

lemma sync (runtime : Runtime) (defaultGrpcPort : Int)
    (listed : Except SubscriptionError (List ListedSwitch)) :
    Tracks (syncSubscriptions runtime defaultGrpcPort manager listed).2 := by
  cases listed with
  | error failure => exact tracks
  | ok switches =>
    have stopped : ∀ switches, Tracks (stopListed manager switches) :=
      fun switches => foldlRecOn _ _ tracks fun _ before name _ => before.stop name
    by_cases fails : ∃ switch ∈ switches, switch.Fails
    · rw [syncSubscriptions_of_fails runtime defaultGrpcPort manager fails]
      exact stopped _
    · have works : ∀ switch ∈ switches, ¬ switch.Fails :=
        fun switch among isFailing => fails ⟨switch, among, isFailing⟩
      simp only [syncSubscriptions, collect_of_works defaultGrpcPort works]
      refine foldl_startMissing
        (foldlRecOn _ _ (stopped switches) fun before isTracked name _ => ?_)
        (fun name _ => ?_) fun name isListed => ?_
      · rw [dropStale]
        split_ifs
        · exact isTracked
        · exact isTracked.stop name
      · rw [target_foldl_dropStale]
        split_ifs with stale
        · exact .inl rfl
        · rw [MapOrder.mem_range, GoMap.mem_keys_iff, not_and, not_not] at stale
          cases found : (stopListed manager switches).target name with
          | none => exact .inl rfl
          | some target => exact .inr (found ▸ stale ⟨target, found⟩)
      · rwa [MapOrder.mem_range, GoMap.mem_keys_iff, ← GoMap.mem_iff] at isListed

end Tracks

/-- A sequence of calls. -/
def runSyncs (defaultGrpcPort : Int)
    (calls : List (Runtime × Except SubscriptionError (List ListedSwitch))) :
    SubscriptionManager :=
  calls.foldl (fun manager call =>
    (syncSubscriptions call.1 defaultGrpcPort manager call.2).2) .new

/--
At no time two goroutines of one name are not cancelled, and after a call
without an error there is one for each Switch with a management address, with
the target of the list.
-/
theorem subscriptions_track_switches (defaultGrpcPort : Int)
    (calls : List (Runtime × Except SubscriptionError (List ListedSwitch))) :
    (∀ running ∈ (runSyncs defaultGrpcPort calls).history, (running.map Prod.fst).Nodup) ∧
    ∀ runtime switches manager,
      syncSubscriptions runtime defaultGrpcPort (runSyncs defaultGrpcPort calls) (.ok switches) =
        (none, manager) → (switches.map ListedSwitch.name).Nodup →
      (manager.running.map Prod.fst).Nodup ∧ ∀ name target, (name, target) ∈ manager.running ↔
        ∃ switch ∈ switches, switch.mgmtIP ≠ "" ∧ switch.name = name ∧
          switch.target defaultGrpcPort = target := by
  have tracks : Tracks (runSyncs defaultGrpcPort calls) :=
    List.foldlRecOn _ _ tracks_new fun _ before call _ => before.sync call.1 defaultGrpcPort call.2
  refine ⟨tracks.history, fun runtime switches manager returned distinct => ?_⟩
  have after := tracks.sync runtime defaultGrpcPort (.ok switches)
  have works : ∀ switch ∈ switches, ¬ switch.Fails := by
    intro switch listed fails
    rcases collect_of_fails defaultGrpcPort ⟨switch, listed, fails⟩ (runSyncs defaultGrpcPort calls)
      ∅ with ⟨failure, failed⟩
    simp [syncSubscriptions, failed] at returned
  have target := target_syncSubscriptions runtime defaultGrpcPort
    (runSyncs defaultGrpcPort calls) works
  rw [returned] at after target
  have unique : ∀ left ∈ switches.filter (·.mgmtIP ≠ ""),
      ∀ right ∈ switches.filter (·.mgmtIP ≠ ""), left.name = right.name →
        left.target defaultGrpcPort = right.target defaultGrpcPort := by
    intro left isLeft right isRight same
    rw [List.inj_on_of_nodup_map distinct (List.mem_of_mem_filter isLeft)
      (List.mem_of_mem_filter isRight) same]
  refine ⟨after.distinct, fun name wanted => ?_⟩
  rw [after.running, target, desiredTargets, GoMap.getElem?_foldl_insert_eq_some_iff unique]
  simp only [List.mem_filter, decide_eq_true_eq, and_assoc]

/-- After a second call one goroutine is gone, and one has another address. -/
theorem subscriptions_track_moved_switch :
    let before := runSyncs 50051
      [(.canonical, .ok [⟨"a", "10.0.0.1", none, none⟩, ⟨"b", "10.0.0.2", none, none⟩])]
    let synced := syncSubscriptions .canonical 50051 before
      (.ok [⟨"b", "10.0.0.3", none, none⟩, ⟨"c", "", none, none⟩])
    (before.running.map Prod.fst).Perm ["a", "b"] ∧ synced.1 = none ∧
      ∀ name target, (name, target) ∈ synced.2.running ↔
        name = "b" ∧ target = "10.0.0.3:50051" := by
  intro before synced
  have returned : synced.1 = none := by decide +kernel
  refine ⟨by decide +kernel, returned, fun name target => ?_⟩
  have isTarget : ListedSwitch.target 50051 ⟨"b", "10.0.0.3", none, none⟩ = "10.0.0.3:50051" := by
    decide +kernel
  rw [((subscriptions_track_switches 50051 _).2 .canonical _ synced.2
    (Prod.ext returned rfl) (by decide)).2]
  simp [isTarget]
  exact and_congr eq_comm eq_comm

end Unifabric.SwitchTopology
