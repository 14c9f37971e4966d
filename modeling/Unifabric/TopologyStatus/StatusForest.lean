import Unifabric.TopologyLabel.Compile
import Unifabric.TopologyStatus.LabelForest
import Unifabric.TopologyStatus.StatusOrder

/-!
# The status is the forest of the labels

`BuildTopologyStatus` succeeds exactly on labels which do not conflict, and its
status lists the forest which they describe: every value with its tier, its
parent and its members, every labelled Node in the group of its path, and
every Switch whose domain is on no Node.
-/

namespace Unifabric.TopologyStatus

open Lib TopologyLabel V1beta1 GoMap List

variable {check : String → List String} {runtime : Runtime}
  {previous : List TopologyNodeGroup} {switchViews : List (String × String)} {domains : Domains}
  {views : List (String × GoMap Int String)}

/-! ## What a status says about labels -/

section

variable (template : Template) (snapshot : LabelSnapshot)

/-- The path holds the values of the labels from the top tier to tier one. -/
structure TopDown (labels : Labels) (path : List String) : Prop where
  nonempty : path ≠ []
  values : ∀ (level : Nat) value, path.reverse[level]? = some value ↔
    TierLabel template labels ((level : Int) + 1) value

/-- A domain of a status describes its value. -/
structure DomainDescribes (domains : List TopologyDomain)
    (domain : TopologyDomain) : Prop where
  tier : OnTier template snapshot domain.tier domain.name
  parent : NextTier template snapshot domain.name domain.parent ∨ domain.parent = "" ∧
      ∀ next, ¬ NextTier template snapshot domain.name next
  above : domain.parent ≠ "" → ∃ above ∈ domains,
    above.name = domain.parent ∧ above.tier = domain.tier + 1
  sorted : domain.switchMember.Pairwise (· < ·)
  members : ∀ switchName, switchName ∈ domain.switchMember ↔
    InDomain snapshot switchName domain.name

/-- The groups of a status describe the labelled Nodes. -/
structure GroupsDescribe (groups : List TopologyNodeGroup) : Prop where
  distinct : (groups.map (·.switchDomainPath)).Nodup
  nonempty : ∀ group ∈ groups, group.nodes ≠ []
  sorted : ∀ group ∈ groups, group.nodes.Pairwise (· < ·)
  nodes : ∀ group ∈ groups, ∀ name, name ∈ group.nodes ↔ ∃ node ∈ snapshot.nodes, node.name = name ∧
      TopDown template node.labels group.switchDomainPath
  labelled : ∀ node ∈ snapshot.nodes, (∃ tier value, TierLabel template node.labels tier value) →
      ∃! group, group ∈ groups ∧ node.name ∈ group.nodes

/-- The texts are about the Switches whose domain is on no Node. -/
structure PendingDescribes (pending : List String) : Prop where
  sorted : pending.Pairwise (· ≤ ·)
  switches : ∃ switches : List (String × String), switches.Nodup ∧
    (∀ switchName value, (switchName, value) ∈ switches ↔ InDomain snapshot switchName value ∧
        ∀ tier, ¬ OnTier template snapshot tier value) ∧
    pending.Perm (switches.map fun view => pendingText view.1 view.2)

/-- The result describes the labels. -/
structure StatusDescribes (result : BuildResult) : Prop where
  names : (result.status.domains.map (·.name)).Nodup
  values : ∀ tier value, OnTier template snapshot tier value →
    ∃ domain ∈ result.status.domains, domain.name = value
  domains : ∀ domain ∈ result.status.domains,
    DomainDescribes template snapshot result.status.domains domain
  groups : GroupsDescribe template snapshot result.status.nodes
  pending : PendingDescribes template snapshot result.pending

end

/-! ## The result of the loops -/

/-- The result is the one of the views. -/
structure BuiltFrom (runtime : Runtime)
    (views : List (String × GoMap Int String))
    (switchViews : List (String × String))
    (previous : List TopologyNodeGroup) (result : BuildResult) : Prop where
  status : ∃ domains, DomainsMatch (statusRelations (views.map viewPath) switchViews) domains ∧
      result.status = finishStatus runtime domains (groupsOf views) previous
  pending : result.pending = sortValues (pendingTexts (views.map viewPath) switchViews)

section

variable {template : Template} {snapshot : LabelSnapshot}

lemma buildTopologyStatus_decides (check : String → List String) (template : Template)
    (runtime : Runtime) (snapshot : LabelSnapshot) (previous : List TopologyNodeGroup)
    (isViews : (sortByName runtime snapshot.nodes).filterMap (nodeView template) = views)
    (isSwitchViews : (sortByName runtime snapshot.switches).filterMap switchView = switchViews) :
    (GoodViews check views ∧ GoodMembers check switchViews →
      ∃ result, buildTopologyStatus runtime check (some template) snapshot previous = .ok result ∧
        BuiltFrom runtime views switchViews previous result) ∧
    (¬ (GoodViews check views ∧ GoodMembers check switchViews) →
      ∃ failure, buildTopologyStatus runtime check
        (some template) snapshot previous = .error failure) := by
  unfold buildTopologyStatus
  simp only [foldlM_addNode, foldlM_addSwitch, isViews, isSwitchViews]
  have nodesLoop := nodesLoop_decides check views
  by_cases goodViews : GoodViews check views
  · obtain ⟨built, isBuilt, matched, groups⟩ := nodesLoop.1 goodViews
    have switchesLoop := switchesLoop_decides check (views.map viewPath) switchViews matched
    rw [isBuilt, and_iff_right goodViews]
    dsimp only [bind, Except.bind]
    constructor
    · intro goodMembers
      obtain ⟨joined, isJoined, relations, pending⟩ := switchesLoop.1 goodMembers
      rw [isJoined]
      exact ⟨_, rfl, ⟨joined.domains, relations, by rw [groups]⟩, by rw [pending]⟩
    · intro bad
      obtain ⟨failure, failed⟩ := switchesLoop.2 bad
      rw [failed]
      exact ⟨failure, rfl⟩
  · obtain ⟨failure, failed⟩ := nodesLoop.2 goodViews
    rw [failed]
    exact ⟨fun good => absurd good.1 goodViews, fun _ => ⟨failure, rfl⟩⟩

lemma nodeViews_sortByName (runtime : Runtime) (template : Template) (snapshot : LabelSnapshot) :
    NodeViews template snapshot ((sortByName runtime snapshot.nodes).filterMap
        (nodeView template)) := by
  intro view
  rw [mem_filterMap]
  simp only [sortByName, Sorter.mem_sortSlice]

lemma switchViews_sortByName (runtime : Runtime) (snapshot : LabelSnapshot) : SwitchViews snapshot
      ((sortByName runtime snapshot.switches).filterMap switchView) := by
  intro view
  rw [mem_filterMap]
  simp only [sortByName, Sorter.mem_sortSlice]

end

/-! ## Domains -/

section

variable {paths : List (List String)}

lemma finishDomain_parent (runtime : Runtime)
    (matched : DomainsMatch (statusRelations paths switchViews) domains)
    (unique : ParentsUnique paths) (found : domains[value]? = some state) :
    Below paths value (finishDomain runtime state).parent ∨
      (finishDomain runtime state).parent = "" ∧ ∀ parent, ¬ Below paths value parent := by
  have above : ∀ parent, parent ∈ state.parents.keys ↔ Below paths value parent := by
    intro parent
    rw [Std.ExtTreeMap.mem_keys, matched.parent value state found]
    rfl
  have distinct := keys_nodup state.parents
  unfold finishDomain
  rw [sortedSet_eq]
  cases listed : state.parents.keys with
  | nil =>
    rw [listed] at above
    obtain ⟨level, _, domain⟩ := matched.domain value state found
    rw [domain]
    exact .inr ⟨rfl, fun parent below =>
      absurd ((above parent).2 below) not_mem_nil⟩
  | cons first rest =>
    rw [listed] at above distinct
    cases rest with
    | nil => exact .inl ((above first).1 mem_cons_self)
    | cons second rest =>
      have same := unique value first second ((above first).1 mem_cons_self)
        ((above second).1 (by simp))
      rw [same] at distinct
      exact absurd mem_cons_self (nodup_cons.1 distinct).1

lemma mem_finishStatus_domains :
    domain ∈ (finishStatus runtime domains nodeGroups previous).domains ↔
      ∃ (value : String) (state : DomainState), domains[value]? = some state ∧
          finishDomain runtime state = domain := by
  unfold finishStatus
  simp only [Sorter.mem_sortSlice, mem_map, MapOrder.mem_range, mem_entries_iff]
  constructor
  · rintro ⟨state, ⟨value, found⟩, finished⟩
    exact ⟨value, state, found, finished⟩
  · rintro ⟨value, state, found, finished⟩
    exact ⟨state, ⟨value, found⟩, finished⟩

lemma finishStatus_names_nodup (runtime : Runtime)
    (matched : DomainsMatch (statusRelations paths switchViews) domains)
    (nodeGroups : NodeGroups) (previous : List TopologyNodeGroup) :
    ((finishStatus runtime domains nodeGroups previous).domains.map (·.name)).Nodup := by
  have sorted := (runtime.sortSlice_perm domainLess ((runtime.range ["domains"] domains.entries).map
    (finishDomain runtime))).map (·.name)
  have ranged := ((runtime.range_perm ["domains"] domains.entries).map
    (finishDomain runtime)).map (·.name)
  refine (sorted.trans ranged).nodup_iff.2 ?_
  rw [map_map]
  have names := matched.names runtime
  have keys := keys_nodup domains
  rw [← names] at keys
  exact keys

end

/-! ## Groups -/

/-- The views whose path has the key. -/
def viewsAt (key : String) (views : List (String × GoMap Int String)) :
    List (String × GoMap Int String) :=
  views.filter fun view => nodeGroupKey (viewPath view).reverse = key

lemma groupsOf_concat (views : List (String × GoMap Int String))
    (view : String × GoMap Int String) :
    groupsOf (views ++ [view]) = addToGroup (groupsOf views) (viewPath view).reverse view.1 :=
  foldl_concat _ _ _ _

lemma getElem?_groupsOf (views : List (String × GoMap Int String)) (key : String) :
    (groupsOf views)[key]? = (viewsAt key views).head?.map fun view =>
      ⟨"", (viewsAt key views).map Prod.fst, (viewPath view).reverse⟩ := by
  induction views using reverseRecOn with
  | nil => exact Std.ExtTreeMap.getElem?_empty
  | append_singleton views view ih =>
    have split : viewsAt key (views ++ [view]) = viewsAt key views ++
        if nodeGroupKey (viewPath view).reverse = key then [view]
        else [] := by
      rw [viewsAt, viewsAt, filter_append, filter_singleton]
      by_cases same : nodeGroupKey (viewPath view).reverse = key
      · simp [same]
      · simp [same]
    rw [groupsOf_concat, addToGroup, split]
    by_cases same : nodeGroupKey (viewPath view).reverse = key
    · rw [if_pos same, same, ih]
      cases viewsAt key views with
      | nil => simp
      | cons first rest => simp
    · rw [if_neg same, append_nil, ← ih]
      split
      · rw [GoMap.getElem?_insert, if_neg same]
      · rw [GoMap.getElem?_insert, if_neg same]

/-- The groups of valid paths are stored under the keys of their paths. -/
lemma groupsKept_groupsOf (valid : ∀ view ∈ views, ValidPath (viewPath view).reverse) :
    GroupsKept views.length (groupsOf views) := by
  induction views using reverseRecOn with
  | nil => exact ⟨by simp [groupsOf], by simp [groupsOf], by simp [groupsOf]⟩
  | append_singleton views view ih =>
    rw [groupsOf_concat, length_append]
    exact (ih fun other listed =>
      valid other (mem_append_left _ listed)).addToGroup (valid view (by simp)) view.1

lemma assignNodeGroupNames_unnamed (groups previous : List TopologyNodeGroup) :
    (assignNodeGroupNames groups previous).map unnamed = groups.map unnamed := by
  unfold assignNodeGroupNames
  refine foldl_prefix_induction _ _ _ (fun done (naming : Naming) => naming.named.map unnamed =
    done.map unnamed) rfl ?_
  intro done group rest naming _ reached
  unfold nameGroup
  dsimp only
  split_ifs
  · rw [map_append, map_append, reached]
    rfl
  · rw [map_append, map_append, reached]
    rfl

lemma finishStatus_unnamed (views : List (String × GoMap Int String)) (runtime : Runtime)
    (domains : Domains) (previous : List TopologyNodeGroup) :
    ((finishStatus runtime domains (groupsOf views) previous).nodes.map unnamed).Perm
      ((groupsOf views).entries.map fun group =>
        unnamed { group with nodes := sortValues group.nodes }) := by
  unfold finishStatus
  rw [assignNodeGroupNames_unnamed]
  refine ((runtime.sortSlice_perm _ _).map unnamed).trans ?_
  rw [map_map]
  exact (runtime.range_perm _ _).map _

section

variable (valid : ∀ view ∈ views, ValidPath (viewPath view).reverse)

include valid

lemma exists_view_of_group
    (listed : group ∈ (finishStatus runtime domains (groupsOf views) previous).nodes) :
    ∃ view ∈ views, group.switchDomainPath = (viewPath view).reverse ∧
      group.nodes = sortValues ((views.filter fun other =>
        viewPath other = viewPath view).map Prod.fst) := by
  have isGroup := (finishStatus_unnamed _ _ _ _).subset (mem_map_of_mem listed)
  obtain ⟨source, isSource, same⟩ := mem_map.1 isGroup
  obtain ⟨key, found⟩ := (mem_entries_iff _ _).1 isSource
  rw [getElem?_groupsOf, Option.map_eq_some_iff] at found
  obtain ⟨view, first, rfl⟩ := found
  have isView := mem_filter.1 (mem_of_mem_head? first)
  have isKey := of_decide_eq_true isView.2
  refine ⟨view, isView.1, (congrArg TopologyNodeGroup.switchDomainPath same).symm, ?_⟩
  have nodes := (congrArg TopologyNodeGroup.nodes same).symm
  have samePaths : viewsAt key views =
      views.filter fun other => viewPath other = viewPath view := by
    refine filter_congr fun other isOther => ?_
    refine decide_eq_decide.2 ⟨fun sameKey => ?_, fun samePath => ?_⟩
    · refine reverse_injective (nodeGroupKey_inj (valid other isOther)
        (valid view isView.1) (sameKey.trans isKey.symm))
    · rw [samePath, isKey]
  rw [← samePaths]
  exact nodes

lemma exists_group_of_view (isView : view ∈ views) (runtime : Runtime) (domains : Domains)
    (previous : List TopologyNodeGroup) :
    ∃ group ∈ (finishStatus runtime domains (groupsOf views) previous).nodes,
      group.switchDomainPath = (viewPath view).reverse := by
  have isFirst : view ∈ viewsAt (nodeGroupKey (viewPath view).reverse) views :=
    mem_filter.2 ⟨isView, decide_eq_true rfl⟩
  have found := getElem?_groupsOf views (nodeGroupKey (viewPath view).reverse)
  cases first : viewsAt (nodeGroupKey (viewPath view).reverse) views with
  | nil =>
    rw [first] at isFirst
    exact absurd isFirst not_mem_nil
  | cons other rest =>
    have isOther : other ∈ viewsAt (nodeGroupKey (viewPath view).reverse) views :=
      first ▸ mem_cons_self
    have listedOther := mem_filter.1 isOther
    rw [first, head?_cons, Option.map_some] at found
    have isSource := (mem_entries_iff (groupsOf views) _).2 ⟨_, found⟩
    have isGroup := (finishStatus_unnamed views runtime domains
      previous).symm.subset (mem_map_of_mem isSource)
    obtain ⟨group, listed, same⟩ := mem_map.1 isGroup
    refine ⟨group, listed, (congrArg TopologyNodeGroup.switchDomainPath same).trans ?_⟩
    exact nodeGroupKey_inj (valid other listedOther.1) (valid view isView)
      (of_decide_eq_true listedOther.2)

lemma finishStatus_paths_nodup
    (runtime : Runtime) (domains : Domains) (previous : List TopologyNodeGroup) :
    ((finishStatus runtime domains (groupsOf views) previous).nodes.map
      (·.switchDomainPath)).Nodup := by
  have distinct := ((groupsKept_groupsOf valid).distinctPaths runtime).1.distinct
  have same := congrArg (map (·.switchDomainPath)) (assignNodeGroupNames_unnamed
    (runtime.sortSlice groupLess ((runtime.range ["nodeGroups"] (groupsOf views).entries).map
        fun group => { group with nodes := sortValues group.nodes }))
    previous)
  rw [map_map, map_map] at same
  exact same ▸ distinct

end

/-! ## The result describes the labels -/

section

variable {template : Template} {snapshot : LabelSnapshot}

lemma GoodViews.validPath (plain : PlainLabelValues check)
    (good : GoodViews check views) (listed : view ∈ views)
    (nonempty : viewPath view ≠ []) : ValidPath (viewPath view).reverse := by
  refine ⟨by simpa using nonempty, fun value isValue => ?_⟩
  rw [mem_reverse] at isValue
  obtain ⟨tier, isTier, rfl⟩ := mem_map.1 isValue
  obtain ⟨text, lookup⟩ := (mem_keys_iff view.2 tier).1 isTier
  have valid := ((goodTiers_iff.1 (good.tiers view listed)).2 tier text lookup).1
  rw [getD_eq, lookup]
  exact plain text (validateDomainName_eq_ok.1 valid).2

section

variable (complete : CompleteTiers template snapshot)

include complete

lemma CompleteTiers.topDown_iff (listed : node ∈ snapshot.nodes) :
    TopDown template node.labels path ↔ (∃ tier value, TierLabel template node.labels tier value) ∧
        path = (tierPath (tierValues template node.labels)).reverse := by
  constructor
  · rintro ⟨nonempty, values⟩
    have same : path.reverse = tierPath (tierValues template node.labels) := by
      refine ext_getElem? fun level => Option.ext fun value => ?_
      rw [values, complete.getElem?_tierPath listed]
    refine ⟨?_, by rw [← same, reverse_reverse]⟩
    cases isPath : path.reverse with
    | nil => exact absurd (reverse_eq_nil_iff.1 isPath) nonempty
    | cons first rest => exact ⟨_, first, (values 0 first).1 (by rw [isPath]; rfl)⟩
  · rintro ⟨⟨tier, value, labelled⟩, rfl⟩
    refine ⟨fun empty => ?_, fun level value => ?_⟩
    · have found : (tierPath (tierValues template node.labels))[
          (tier - 1).toNat]? = some value := by
        rw [complete.getElem?_tierPath listed]
        have positive := labelled.one_le
        rwa [show ((tier - 1).toNat : Int) + 1 = tier by omega]
      rw [reverse_eq_nil_iff.1 empty] at found
      cases found
    · rw [reverse_reverse, complete.getElem?_tierPath listed]

section

variable (isViews : NodeViews template snapshot views)

include isViews

lemma CompleteTiers.exists_view_iff :
    (∃ view ∈ views, view.1 = name ∧ path = (viewPath view).reverse) ↔
      ∃ node ∈ snapshot.nodes, node.name = name ∧ TopDown template node.labels path := by
  constructor
  · rintro ⟨view, listed, isName, isPath⟩
    obtain ⟨node, isNode, seen⟩ := (isViews view).1 listed
    obtain ⟨labelled, rfl⟩ := nodeView_eq_some_iff.1 seen
    exact ⟨node, isNode, isName, (complete.topDown_iff isNode).2 ⟨labelled, isPath⟩⟩
  · rintro ⟨node, isNode, isName, topDown⟩
    obtain ⟨labelled, isPath⟩ := (complete.topDown_iff isNode).1 topDown
    exact ⟨_, (isViews _).2 ⟨node, isNode, nodeView_eq_some_iff.2 ⟨labelled, rfl⟩⟩, isName, isPath⟩

lemma groupsDescribe_finishStatus (names : (views.map Prod.fst).Nodup)
    (valid : ∀ view ∈ views, ValidPath (viewPath view).reverse)
    (runtime : Runtime) (domains : Domains) (previous : List TopologyNodeGroup) :
    GroupsDescribe template snapshot
      (finishStatus runtime domains (groupsOf views) previous).nodes := by
  have distinct := finishStatus_paths_nodup valid runtime domains previous
  have members : ∀ group ∈ (finishStatus runtime domains (groupsOf views) previous).nodes,
      ∀ name, name ∈ group.nodes ↔ ∃ view ∈ views, view.1 = name ∧
        group.switchDomainPath = (viewPath view).reverse := by
    intro group listed name
    obtain ⟨view, isView, path, nodes⟩ := exists_view_of_group valid listed
    rw [nodes, mem_sortValues, path]
    simp only [mem_map, mem_filter, decide_eq_true_eq, reverse_inj]
    constructor
    · rintro ⟨other, ⟨isOther, same⟩, isName⟩
      exact ⟨other, isOther, isName, same.symm⟩
    · rintro ⟨other, isOther, isName, same⟩
      exact ⟨other, ⟨isOther, same.symm⟩, isName⟩
  refine ⟨distinct, fun group listed => ?_, fun group listed => ?_,
    fun group listed name => ?_, fun node isNode labelled => ?_⟩
  · obtain ⟨view, isView, path, _⟩ := exists_view_of_group valid listed
    exact ne_nil_of_mem ((members group listed view.1).2 ⟨view, isView, rfl, path⟩)
  · obtain ⟨view, _, _, nodes⟩ := exists_view_of_group valid listed
    rw [nodes]
    exact sortValues_pairwise_lt (names.sublist (filter_sublist.map Prod.fst))
  · rw [members group listed, complete.exists_view_iff isViews]
  · have isView : (node.name, tierValues template node.labels) ∈ views :=
      (isViews _).2 ⟨node, isNode, nodeView_eq_some_iff.2 ⟨labelled, rfl⟩⟩
    obtain ⟨group, listed, path⟩ := exists_group_of_view valid isView runtime domains previous
    refine ⟨group, ⟨listed, (members group listed _).2 ⟨_, isView, rfl, path⟩⟩, ?_⟩
    rintro other ⟨isOther, inside⟩
    obtain ⟨view, isOtherView, sameName, otherPath⟩ := (members other isOther _).1 inside
    have same := inj_on_of_nodup_map names isOtherView isView sameName
    rw [same] at otherPath
    exact inj_on_of_nodup_map distinct isOther listed (otherPath.trans path.symm)

lemma domainDescribes_finishStatus (isSwitchViews : SwitchViews snapshot switchViews)
    (forest : PathForest (views.map viewPath))
    (matched : DomainsMatch (statusRelations (views.map viewPath) switchViews) domains)
    (runtime : Runtime) (nodeGroups : NodeGroups) (previous : List TopologyNodeGroup)
    (listed : domain ∈ (finishStatus runtime domains nodeGroups previous).domains) :
    DomainDescribes template snapshot
      (finishStatus runtime domains nodeGroups previous).domains domain := by
  obtain ⟨value, state, found, rfl⟩ := mem_finishStatus_domains.1 listed
  obtain ⟨level, occurs, isDomain⟩ := matched.domain value state found
  have isName : (finishDomain runtime state).name = value := by rw [finishDomain_name, isDomain]
  have isTier : (finishDomain runtime state).tier = (level : Int) + 1 := by
    show state.domain.tier = _
    rw [isDomain]
  have parents := finishDomain_parent runtime matched forest.parents found
  have onTier : OnTier template snapshot ((level : Int) + 1) value :=
    (complete.occursAt_iff isViews).1 occurs
  refine ⟨?_, ?_, fun isParent => ?_, ?_, fun switchName => ?_⟩
  · rw [isName, isTier]
    exact onTier
  · rw [isName]
    simpa only [complete.below_iff isViews] using parents
  · have below : Below (views.map viewPath) value (finishDomain runtime state).parent :=
      parents.resolve_right fun none => isParent none.1
    obtain ⟨path, isPath, below, isValue, isAbove⟩ := below
    have sameLevel : below = level := forest.levels value below level ⟨path, isPath, isValue⟩ occurs
    have occursAbove : OccursAt (views.map viewPath)
        (finishDomain runtime state).parent (level + 1) :=
      sameLevel ▸ ⟨path, isPath, isAbove⟩
    rcases (mem_iff _ _).1 ((matched.listed _).2 ⟨level + 1, occursAbove⟩) with ⟨above, isState⟩
    obtain ⟨levelAbove, occursThere, domainAbove⟩ := matched.domain _ above isState
    have twoLevels := forest.levels _ _ _ occursAbove occursThere
    refine ⟨finishDomain runtime above, mem_finishStatus_domains.2 ⟨_, above, isState, rfl⟩, ?_, ?_⟩
    · rw [finishDomain_name, domainAbove]
    · rw [isTier]
      show above.domain.tier = _
      rw [domainAbove, ← twoLevels]
      push_cast
      rfl
  · show (sortedSet runtime _ state.members).Pairwise (· < ·)
    rw [sortedSet_eq]
    exact keys_pairwise state.members
  · show switchName ∈ sortedSet runtime _ state.members ↔ _
    rw [sortedSet_eq, Std.ExtTreeMap.mem_keys,
      matched.member value state found, isName, ← isSwitchViews.mem_iff]
    exact and_iff_left ⟨level, occurs⟩

lemma pendingDescribes_pendingTexts (isSwitchViews : SwitchViews snapshot switchViews)
    (distinct : switchViews.Nodup) : PendingDescribes template snapshot
      (sortValues (pendingTexts (views.map viewPath) switchViews)) := by
  refine ⟨sortValues_pairwise _, _, distinct.filter _, ?_, sortValues_perm _⟩
  intro switchName value
  rw [mem_filter, isSwitchViews.mem_iff, Bool.not_eq_true', ← Bool.not_eq_true, onNode_iff]
  refine and_congr_right fun _ => ⟨fun absent tier occurs => ?_, ?_⟩
  · obtain ⟨level, rfl⟩ := occurs.exists_level
    exact absent ⟨level, (complete.occursAt_iff isViews).2 occurs⟩
  · rintro absent ⟨level, occurs⟩
    exact absent _ ((complete.occursAt_iff isViews).1 occurs)

end

end

lemma BuiltFrom.describes (plain : PlainLabelValues check)
    (built : BuiltFrom runtime views switchViews previous result)
    (isViews : NodeViews template snapshot views) (isSwitchViews : SwitchViews snapshot switchViews)
    (names : (views.map Prod.fst).Nodup) (switchNames : (switchViews.map Prod.fst).Nodup)
    (good : GoodViews check views) : StatusDescribes template snapshot result := by
  have complete : CompleteTiers template snapshot := ((goodViews_iff isViews).1 good).1.tiers
  have valid : ∀ view ∈ views, ValidPath (viewPath view).reverse := by
    intro view listed
    refine good.validPath plain listed fun empty => ?_
    obtain ⟨node, isNode, seen⟩ := (isViews view).1 listed
    obtain ⟨labelled, rfl⟩ := nodeView_eq_some_iff.1 seen
    have topDown := (complete.topDown_iff isNode).2 ⟨labelled, rfl⟩
    exact topDown.nonempty (reverse_eq_nil_iff.2 empty)
  obtain ⟨domains, matched, status⟩ := built.status
  refine ⟨?_, fun tier value occurs => ?_, fun domain listed => ?_, ?_, ?_⟩
  · rw [status]
    exact finishStatus_names_nodup runtime matched _ previous
  · obtain ⟨level, rfl⟩ := occurs.exists_level
    have listed := (matched.listed value).2 ⟨level, (complete.occursAt_iff isViews).2 occurs⟩
    obtain ⟨state, found⟩ := (mem_iff _ _).1 listed
    rw [status]
    refine ⟨_, mem_finishStatus_domains.2 ⟨value, state, found, rfl⟩, ?_⟩
    rw [finishDomain_name, matched.name_eq found]
  · rw [status] at listed ⊢
    exact domainDescribes_finishStatus complete isViews isSwitchViews
      good.forest matched runtime _ previous listed
  · rw [status]
    exact groupsDescribe_finishStatus complete isViews names valid runtime domains previous
  · rw [built.pending]
    exact pendingDescribes_pendingTexts complete isViews isSwitchViews
      (List.Nodup.of_map _ switchNames)

end

/-! ## The status of a snapshot -/

lemma exists_status_iff (runtime : Runtime) (template : Template)
    (snapshot : LabelSnapshot) (previous : List TopologyNodeGroup) :
    (∃ result, buildTopologyStatus runtime check (some template) snapshot previous = .ok result) ↔
      ConsistentLabels template snapshot check ∧ TiersInRange template snapshot := by
  rw [exists_ok_iff_of_decides (buildTopologyStatus_decides
      check template runtime snapshot previous rfl rfl),
    goodViews_iff (nodeViews_sortByName runtime template snapshot),
    goodMembers_iff (switchViews_sortByName runtime snapshot)]
  constructor
  · rintro ⟨⟨nodes, range⟩, domains⟩
    exact ⟨⟨nodes, domains⟩, range⟩
  · rintro ⟨⟨nodes, domains⟩, range⟩
    exact ⟨⟨nodes, range⟩, domains⟩

/--
`BuildTopologyStatus` returns a status exactly if the labels do not conflict
and stay within the tiers of the API.  The status describes the labels, and
neither it nor an error depends on the order of lists and maps.
-/
theorem buildTopologyStatus_label_forest
    (plain : PlainLabelValues isValidLabelValue) (runtime : Runtime)
    (template : Template) (snapshot : LabelSnapshot)
    (distinctNodes : (snapshot.nodes.map (·.name)).Nodup)
    (distinctSwitches : (snapshot.switches.map (·.name)).Nodup)
    (previous : List TopologyNodeGroup) : ((∃ result, buildTopologyStatus runtime isValidLabelValue
          (some template) snapshot previous = .ok result) ↔
        ConsistentLabels template snapshot isValidLabelValue ∧ TiersInRange template snapshot) ∧
      (∀ result, buildTopologyStatus runtime isValidLabelValue
          (some template) snapshot previous = .ok result →
        StatusDescribes template snapshot result) ∧
      ∀ (runtime' : Runtime) (snapshot' : LabelSnapshot), snapshot.nodes.Perm snapshot'.nodes →
        snapshot.switches.Perm snapshot'.switches →
          buildTopologyStatus runtime' isValidLabelValue (some template) snapshot' previous =
            buildTopologyStatus runtime isValidLabelValue (some template) snapshot previous := by
  have decides := buildTopologyStatus_decides isValidLabelValue template
    runtime snapshot previous rfl rfl
  have names (resources : List LabeledResource) (distinct : (resources.map (·.name)).Nodup) :
      ((sortByName runtime resources).map (·.name)).Nodup :=
    ((runtime.sortSlice_perm _ resources).map _).nodup_iff.mpr distinct
  refine ⟨exists_status_iff runtime template snapshot previous, fun result succeeded => ?_, ?_⟩
  · rcases eq_ok_of_decides decides succeeded with ⟨good, built⟩
    exact built.describes plain (nodeViews_sortByName runtime template snapshot)
      (switchViews_sortByName runtime snapshot)
      (nodup_view_names (fun _ _ => nodeView_name) (names _ distinctNodes))
      (nodup_view_names (fun _ _ => switchView_name) (names _ distinctSwitches)) good.1
  · intro runtime' snapshot' nodes switches
    exact (buildTopologyStatus_congr plain runtime runtime' distinctNodes
      distinctSwitches (nodes.filterMap _) (switches.filterMap _)
      previous).symm

/-- Two racks of a pod, and a Switch whose domain no Node has. -/
theorem label_forest_two_racks :
    let labels (rack : String) := ((∅ : Labels).insert "tier-1" rack).insert "tier-2" "pod1"
    let snapshot : LabelSnapshot := ⟨[⟨"n1", labels "rack1"⟩, ⟨"n2", labels "rack2"⟩],
      [⟨"s1", (∅ : Labels).insert topologyDomainLabel "rack1"⟩,
        ⟨"s2", (∅ : Labels).insert topologyDomainLabel "rack9"⟩]⟩
    let status : TopologyStatus :=
      ⟨[⟨"pod1", 2, "", []⟩, ⟨"rack1", 1, "pod1", ["s1"]⟩, ⟨"rack2", 1, "pod1", []⟩],
        [⟨"node-group1", ["n1"], ["pod1", "rack1"]⟩, ⟨"node-group2", ["n2"], ["pod1", "rack2"]⟩]⟩
    ConsistentLabels ⟨"tier-", ""⟩ snapshot findsNul ∧ ∃ result : BuildResult,
      result.status = status ∧ result.pending.length = 1 ∧
        StatusDescribes ⟨"tier-", ""⟩ snapshot result := by
  intro labels snapshot status
  have forest := buildTopologyStatus_label_forest plainLabelValues_findsNul
    .canonical ⟨"tier-", ""⟩ snapshot (by decide) (by decide) []
  obtain ⟨result, succeeded, isStatus, pending⟩ : ∃ result, buildTopologyStatus .canonical findsNul
      (some ⟨"tier-", ""⟩) snapshot [] = .ok result ∧ result.status = status ∧
        result.pending.length = 1 := by
    decide +kernel
  exact ⟨(forest.1.mp ⟨_, succeeded⟩).1, result, isStatus, pending, forest.2.1 _ succeeded⟩

/-! ## Tiers beyond the API -/

/-- Labels with the tiers from one to a number, each with its number. -/
def tallLabels (template : Template) (count : Nat) : Labels :=
  (range count).foldl (fun labels (level : Nat) =>
      labels.insert (template.key ((level : Int) + 1))
        (String.ofList (digits ((level : Int) + 1)))) ∅

section

variable {template : Template} {count : Nat}

lemma digits_injective (positive : 1 ≤ tier) (positive' : 1 ≤ tier')
    (same : String.ofList (digits tier) = String.ofList (digits tier')) : tier = tier' := by
  obtain ⟨number, rfl⟩ := Int.eq_ofNat_of_zero_le (by omega : 0 ≤ tier)
  obtain ⟨number', rfl⟩ := Int.eq_ofNat_of_zero_le (by omega : 0 ≤ tier')
  exact_mod_cast toDigits_injective (String.ofList_inj.1 same)

lemma tierLabel_tallLabels (bounded : count ≤ maxInt) :
    TierLabel template (tallLabels template count) tier value ↔
      1 ≤ tier ∧ tier ≤ count ∧ value = String.ofList (digits tier) := by
  have lookup : ∀ key value, (tallLabels template count)[key]? =
      some value ↔ ∃ level ∈ range count, template.key ((level : Int) + 1) = key ∧
          String.ofList (digits ((level : Int) + 1)) = value := by
    intro key value
    refine getElem?_foldl_insert_eq_some_iff ?_ key value
    intro left _ right _ same
    rw [key_injective (by omega) (by omega) same]
  unfold TierLabel
  simp only [lookup, mem_range]
  constructor
  · rintro ⟨_, matched, ⟨level, inside, rfl, rfl⟩, _⟩
    rw [matchTier_key (by omega) (by omega), Option.some_inj] at matched
    exact ⟨by omega, by omega, by rw [matched]⟩
  · rintro ⟨positive, inside, rfl⟩
    have isTier : (((tier - 1).toNat : Nat) : Int) + 1 = tier := by omega
    refine ⟨template.key tier, matchTier_key positive (by omega),
      ⟨(tier - 1).toNat, by omega, by rw [isTier], by rw [isTier]⟩,
      fun empty => ?_⟩
    rw [← String.ofList_nil, String.ofList_inj, ← Int.toNat_of_nonneg
      (by omega : 0 ≤ tier), digits_natCast] at empty
    have decimal := isPositiveDecimal_toDigits (by omega : 0 < tier.toNat)
    rw [empty] at decimal
    cases decimal

lemma consistentLabels_tallLabels (bounded : count ≤ maxInt) (nodeName : String) :
    ConsistentLabels template ⟨[⟨nodeName, tallLabels template count⟩], []⟩ findsNul := by
  have onTier : ∀ tier value, OnTier template
      ⟨[⟨nodeName, tallLabels template count⟩], []⟩ tier value ↔
        1 ≤ tier ∧ tier ≤ count ∧ value = String.ofList (digits tier) := by
    intro tier value
    simp [OnTier, tierLabel_tallLabels bounded]
  refine ⟨⟨?_, ?_, ?_, ?_⟩, ?_⟩
  · intro node listed
    rw [mem_singleton.1 listed]
    refine ⟨count, fun tier => ?_⟩
    simp only [tierLabel_tallLabels bounded, exists_and_left, exists_eq, and_true]
  · intro tier value occurs
    obtain ⟨positive, _, rfl⟩ := (onTier tier value).1 occurs
    refine if_neg ?_
    rw [String.toList_ofList, ← Int.toNat_of_nonneg (by omega : 0 ≤ tier)]
    exact separator_not_mem_digits _ (by decide)
  · intro value tier tier' here there
    obtain ⟨positive, _, isValue⟩ := (onTier tier value).1 here
    obtain ⟨positive', _, isValue'⟩ := (onTier tier' value).1 there
    exact digits_injective positive positive' (isValue.symm.trans isValue')
  · rintro value next next' ⟨node, listed, tier, isValue, isNext⟩
      ⟨node', listed', tier', isValue', isNext'⟩
    rw [mem_singleton.1 listed, tierLabel_tallLabels bounded] at isValue isNext
    rw [mem_singleton.1 listed', tierLabel_tallLabels bounded] at isValue' isNext'
    have sameTier := digits_injective isValue.1 isValue'.1 (isValue.2.2.symm.trans isValue'.2.2)
    rw [isNext.2.2, isNext'.2.2, sameTier]
  · rintro switchName value ⟨switch, listed, _⟩
    exact absurd listed not_mem_nil

/-- There is no status for a tier which the API cannot express. -/
lemma no_status_tallLabels (bounded : count ≤ maxInt) (tall : maxTier < count) (nodeName : String)
    (check : String → List String) (runtime : Runtime) (previous : List TopologyNodeGroup) :
    ¬ ∃ result, buildTopologyStatus runtime check
      (some template) ⟨[⟨nodeName, tallLabels template count⟩], []⟩ previous = .ok result := by
  rw [exists_status_iff]
  rintro ⟨_, range⟩
  have positive : 0 < maxTier := by decide
  have tooHigh := range count _ ⟨_, mem_singleton_self _,
    (tierLabel_tallLabels bounded).2 ⟨by omega, le_rfl, rfl⟩⟩
  omega

end

/--
A Node with a label for every tier up to 2147483648: no label conflicts with
another, but the API has no such tier and there is no status.
-/
theorem no_status_beyond_api_tiers :
    compile plainLibrary "topologyLabels.scaleOut" (withTier "tier-") = .ok ⟨"tier-", ""⟩ ∧
      PlainLabelValues findsNul ∧
      ConsistentLabels ⟨"tier-", ""⟩ ⟨[⟨"n1", tallLabels ⟨"tier-", ""⟩ 2147483648⟩], []⟩ findsNul ∧
      ∀ runtime previous, ¬ ∃ result, buildTopologyStatus runtime findsNul (some ⟨"tier-", ""⟩)
          ⟨[⟨"n1", tallLabels ⟨"tier-", ""⟩ 2147483648⟩], []⟩ previous = .ok result := by
  have bounded : 2147483648 ≤ maxInt := by decide
  have tall : maxTier < ((2147483648 : Nat) : Int) := by decide
  exact ⟨by decide +kernel, plainLabelValues_findsNul, consistentLabels_tallLabels bounded "n1",
    no_status_tallLabels bounded tall "n1" findsNul⟩

end Unifabric.TopologyStatus
