import Unifabric.EbpfFlow.FlowMetrics
import Unifabric.Lib.GoText
import Unifabric.Lib.Transition

/-!
# The Pod of a process

The resolver reads the Pod UID of a process from its cgroup and remembers it by
process number.  The kernel gives the number of an exited process to another
one, and nothing ever removes a number from the memory.
-/

namespace Unifabric.EbpfFlow

open Lib

/-! ## Pod UIDs in a cgroup -/

/-- `[0-9a-f]`. -/
def isLowerHex (c : Char) : Bool := c.isDigit || ('a' ≤ c && c ≤ 'f')

/-- `[-_]`. -/
def isUIDSeparator (c : Char) : Bool := c = '-' || c = '_'

/-- The characters of `podUIDPattern`, one after another. -/
def podUIDPattern : List (Char → Bool) :=
  [(· == 'p'), (· == 'o'), (· == 'd')] ++ List.replicate 8 isLowerHex ++ [isUIDSeparator] ++
    List.replicate 4 isLowerHex ++ [isUIDSeparator] ++
    List.replicate 4 isLowerHex ++ [isUIDSeparator] ++
    List.replicate 4 isLowerHex ++ [isUIDSeparator] ++
    List.replicate 12 isLowerHex

/-- The characters a pattern of fixed length matches at the start of a text. -/
def matchHere : List (Char → Bool) → List Char → Option (List Char)
  | [], _ => some []
  | _ :: _, [] => none
  | first :: rest, c :: text => if first c then (matchHere rest text).map (c :: ·) else none

/-- The leftmost match. -/
def findMatch (pattern : List (Char → Bool)) : List Char → Option (List Char)
  | [] => matchHere pattern []
  | c :: text => (matchHere pattern (c :: text)).or (findMatch pattern text)

/-- The Pod UID a cgroup file names, empty outside Pods. -/
def podUIDOfCgroup (data : String) : String :=
  match findMatch podUIDPattern data.toList with
  | none => ""
  | some found =>
    String.ofList ((found.drop 3).map fun c =>
      toLowerAscii (if c = '_' then '-' else c))

/-! ## The resolver -/

/-- The indexes of the resolver which attribution by process reads. -/
structure Resolver where
  byUID : GoMap String Peer
  uidByTgid : GoMap Nat String

/-- The cgroup file of a process, if it can be read. -/
abbrev CgroupFile := Option String

def cgroupPodUID (file : CgroupFile) : String :=
  match file with
  | none => ""
  | some data => podUIDOfCgroup data

section

variable (resolver : Resolver)

def podUIDForTgid (tgid : UInt32) (file : CgroupFile) : String × Resolver :=
  match resolver.uidByTgid[tgid.toNat]? with
  | some uid => (uid, resolver)
  | none =>
    let uid := cgroupPodUID file
    if uid ≠ "" then
      (uid,
        { resolver with uidByTgid := resolver.uidByTgid.insert tgid.toNat uid })
    else (uid, resolver)

/-- An end which is not a Pod. -/
def Peer.ofLabel (label : String) : Peer :=
  { namespaceName := ""
    name := ""
    owner := { kind := "", namespaceName := "", name := "" }
    label
    hostNetwork := false }

/-- The end of a flow with a Pod UID. -/
def peerOfUID (byUID : GoMap String Peer) (tgid : UInt32) (comm uid : String) : Peer :=
  let label := if comm ≠ "" then s!"pid:{tgid}({comm})" else s!"pid:{tgid}"
  if uid = "" then .ofLabel label
  else byUID.getD uid (.ofLabel ("pod-uid:" ++ uid))

def podForTgid (tgid : UInt32) (comm : String) (file : CgroupFile) : Peer × Resolver :=
  let (uid, resolver) := podUIDForTgid resolver tgid file
  (peerOfUID resolver.byUID tgid comm uid, resolver)

/-! ## Runs with process numbers used again -/

/-- The processes, by number, with the text of their cgroup files. -/
structure TgidWorld where
  resolver : Resolver
  processes : UInt32 → Option String

/-- A new resolver and no process. -/
def TgidWorld.new : TgidWorld :=
  { resolver := { byUID := ∅, uidByTgid := ∅ }
    processes := fun _ => none }

/-- What processes and the agent do. -/
inductive TgidEvent where
  | start (tgid : UInt32) (cgroup : String)
  | exit (tgid : UInt32)
  /-- The Pod index is built again. -/
  | refresh (byUID : GoMap String Peer)
  /-- A call of `podUIDForTgid`, which may fail to read the file. -/
  | lookup (tgid : UInt32) (readable : Bool)

/-- What reading the cgroup file of a process number gives. -/
def readCgroup (process : Option String) (readable : Bool) : CgroupFile :=
  if readable then process else none

/-- One event; a number is free until its process exited. -/
def TgidWorld.step (world : TgidWorld) : TgidEvent → Option TgidWorld
  | .start tgid cgroup =>
    if world.processes tgid = none then
      some { world with processes := Function.update world.processes tgid (some cgroup) }
    else none
  | .exit tgid =>
    some { world with processes := Function.update world.processes tgid none }
  | .refresh byUID => some { world with resolver := { world.resolver with byUID } }
  | .lookup tgid readable =>
    some { world with
      resolver :=
        (podUIDForTgid world.resolver tgid (readCgroup (world.processes tgid) readable)).2 }

/--
The Pod UIDs of the processes which the calls for a number met, in order;
`process` has the number at first.
-/
def podsMet (tgid : UInt32) : Option String → List TgidEvent → List String
  | _, [] => []
  | process, .start started cgroup :: rest =>
    podsMet tgid (if started = tgid then some cgroup else process) rest
  | process, .exit exited :: rest => podsMet tgid (if exited = tgid then none else process) rest
  | process, .refresh _ :: rest => podsMet tgid process rest
  | process, .lookup looked readable :: rest =>
    let uid := cgroupPodUID (readCgroup process readable)
    if looked = tgid ∧ uid ≠ "" then uid :: podsMet tgid process rest
    else podsMet tgid process rest

lemma podUIDForTgid_fst (tgid : UInt32) (file : CgroupFile) :
    (podUIDForTgid resolver tgid file).1 =
      resolver.uidByTgid[tgid.toNat]?.getD (cgroupPodUID file) := by
  rw [podUIDForTgid]
  cases cached : resolver.uidByTgid[tgid.toNat]? with
  | some uid => rfl
  | none =>
    dsimp only
    split_ifs with inPod
    · rfl
    · rfl

lemma podUIDForTgid_byUID (tgid : UInt32) (file : CgroupFile) :
    (podUIDForTgid resolver tgid file).2.byUID = resolver.byUID := by
  rw [podUIDForTgid]
  cases cached : resolver.uidByTgid[tgid.toNat]? with
  | some uid => rfl
  | none =>
    dsimp only
    split_ifs with inPod
    · rfl
    · rfl

lemma getElem?_podUIDForTgid (looked tgid : UInt32) (file : CgroupFile) :
    (podUIDForTgid resolver looked file).2.uidByTgid[tgid.toNat]? =
      resolver.uidByTgid[tgid.toNat]?.or (if looked = tgid ∧ cgroupPodUID file ≠ "" then
          some (cgroupPodUID file)
        else none) := by
  rw [podUIDForTgid]
  cases cached : resolver.uidByTgid[looked.toNat]? with
  | some uid =>
    by_cases same : looked = tgid
    · rw [← same, cached]
      rfl
    · simp [same]
  | none =>
    by_cases inPod : cgroupPodUID file ≠ ""
    · by_cases same : looked = tgid
      · subst same
        simp [inPod, cached]
      · have different : looked.toNat ≠ tgid.toNat := fun equal => same (UInt32.toNat_inj.1 equal)
        simp [inPod, same, GoMap.getElem?_insert, different]
    · simp [inPod]

end

/--
The memory of a number is the Pod UID of the first process in a Pod which a
call for it met.
-/
lemma uidByTgid_run (tgid : UInt32) (reached : runEvents TgidWorld.step world events = some final) :
    final.resolver.uidByTgid[tgid.toNat]? = world.resolver.uidByTgid[tgid.toNat]?.or
        (podsMet tgid (world.processes tgid) events).head? := by
  induction events generalizing world with
  | nil =>
    cases reached
    simp [podsMet]
  | cons event rest ih =>
    obtain ⟨next, stepped, later⟩ := runEvents_cons_eq_some.1 reached
    rw [ih later]
    cases event with
    | start started cgroup =>
      rw [TgidWorld.step] at stepped
      split_ifs at stepped with free
      cases stepped
      simp only [Function.update_apply, podsMet, eq_comm (a := tgid)]
    | exit exited =>
      cases stepped
      simp only [Function.update_apply, podsMet, eq_comm (a := tgid)]
    | refresh byUID =>
      cases stepped
      rfl
    | lookup looked readable =>
      cases stepped
      simp only [getElem?_podUIDForTgid, podsMet, Option.or_assoc]
      by_cases same : looked = tgid
      · subst same
        split_ifs with met
        · rfl
        · rfl
      · simp [same]

/--
A call for a process which is alive and whose cgroup can be read returns its
Pod UID, and charges its Pod, exactly if the first process in a Pod which a
call for this number ever met was of the same Pod.
-/
theorem podUIDForTgid_eq_iff (events : List TgidEvent) (world : TgidWorld)
    (tgid : UInt32) (cgroup comm : String)
    (reached : runEvents TgidWorld.step .new events = some world)
    (alive : world.processes tgid = some cgroup) :
    let file := readCgroup (world.processes tgid) true
    ((podUIDForTgid world.resolver tgid file).1 = podUIDOfCgroup cgroup ↔
      ∀ first, (podsMet tgid none events).head? = some first → first = podUIDOfCgroup cgroup) ∧
    ((podUIDForTgid world.resolver tgid file).1 = podUIDOfCgroup cgroup →
      (podForTgid world.resolver tgid comm file).1 = peerOfUID world.resolver.byUID tgid comm
          (podUIDOfCgroup cgroup)) := by
  intro file
  have cache := uidByTgid_run tgid reached
  change world.resolver.uidByTgid[tgid.toNat]? = (podsMet tgid none events).head? at cache
  have content : cgroupPodUID file = podUIDOfCgroup cgroup := by
    show cgroupPodUID (readCgroup (world.processes tgid) true) = _
    rw [alive]
    rfl
  constructor
  · rw [podUIDForTgid_fst, cache, content]
    cases met : (podsMet tgid none events).head? with
    | none =>
      refine ⟨fun _ first equal => ?_, fun _ => rfl⟩
      cases equal
    | some uid =>
      rw [Option.getD_some]
      constructor
      · rintro same first equal
        cases equal
        exact same
      · intro all
        exact all uid rfl
  · intro correct
    show peerOfUID (podUIDForTgid world.resolver tgid file).2.byUID tgid
      comm (podUIDForTgid world.resolver tgid file).1 = _
    rw [correct, podUIDForTgid_byUID]

/-- A cgroup file of a Pod. -/
def podCgroup (digit : Char) : String :=
  "0::/kubepods.slice/pod" ++ String.ofList (List.replicate 8 digit) ++
    "-0000-0000-0000-000000000000"

theorem podUIDForTgid_eq_iff_same_pod : ∃ world, runEvents TgidWorld.step .new
          [.start 4 (podCgroup 'a'), .lookup 4 true] = some world ∧
        (podUIDForTgid world.resolver 4 (readCgroup (world.processes 4) true)).1 =
            podUIDOfCgroup (podCgroup 'a') := by
  refine ⟨_, rfl, ?_⟩
  refine ((podUIDForTgid_eq_iff
    [.start 4 (podCgroup 'a'), .lookup 4 true] _ 4 (podCgroup 'a') "" rfl
    rfl).1.mpr ?_)
  intro first met
  cases met
  rfl

/--
A process of Pod b which gets the number of an exited process of Pod a is
charged to Pod a.
-/
theorem reused_tgid_keeps_old_pod : ((runEvents TgidWorld.step .new
        [.start 4 (podCgroup 'a'), .lookup 4 true, .exit 4,
          .start 4 (podCgroup 'b')]).map fun world =>
      (world.processes 4, (podUIDForTgid world.resolver 4 (world.processes 4)).1)) =
      some (some (podCgroup 'b'), "aaaaaaaa-0000-0000-0000-000000000000") := by
  decide +kernel

end Unifabric.EbpfFlow
