import Unifabric.SwitchTopology.ApiServer
import Unifabric.SwitchTopology.Reconnect

/-!
# Snapshots under concurrent writes

`handleSnapshot` request by request.  Between two requests other clients may
write the Switch, delete it and create it again; every request may fail, a
write also after it has taken effect; and a read may show an old state.  A
Switch which is not found counts as updated, so a snapshot may be accepted
without being stored.
-/

namespace Unifabric.SwitchTopology

open Lib V1beta1 SwitchAgent List

variable {target : SwitchStatus → Prop}

variable {snapshot : LldpNeighborSnapshot}

/-! ## Requests -/

/-- The requests of `handleSnapshot` for one Switch. -/
inductive StatusRequest where
  | listNodes
  | getSwitch
  | updateStatus (base : Copy SwitchObject) (status : SwitchStatus)

/-- What a Get yields, and the time at which the new status is computed. -/
structure GetAnswer where
  now : Int
  result : Except ApiError (Copy SwitchObject)

/-- What a request is answered with. -/
abbrev StatusAnswer : StatusRequest → Type
  | .listNodes => Except ApiError (List String)
  | .getSwitch => GetAnswer
  | .updateStatus _ _ => Except ApiError Unit

/-- Why a snapshot is not accepted. -/
inductive SnapshotError where
  | rejected (error : SubscriptionError)
  | api (error : ApiError)
  deriving DecidableEq, Repr

/-- The programs of a subscription. -/
abbrev StatusProgram := Program StatusRequest StatusAnswer SnapshotError

/-! ## The calls -/

section

variable (library : StatusLibrary)

/-- The error of an answer, if any. -/
def failureOf : Except ApiError Unit → Option ApiError
  | .ok () => none
  | .error error => some error

lemma failureOf_eq_none : failureOf answer = none ↔ answer = .ok () := by
  cases answer <;> simp [failureOf]

/-- What an attempt does with the answer to its Get. -/
def afterGet (mutate : Int → SwitchObject → SwitchStatus) (got : GetAnswer) :
    StatusProgram (Option ApiError) :=
  match got.result with
  | .error .notFound => return none
  | .error error => return some error
  | .ok copy =>
    let status := mutate got.now copy.object
    if library.deepEqual copy.object.status status then return none
    else do
      return failureOf (← Program.ask (StatusRequest.updateStatus copy status))

/-- One attempt of `mutateSwitchStatus`: the error it returns, if any. -/
def attemptMutation (mutate : Int → SwitchObject → SwitchStatus) :
    StatusProgram (Option ApiError) := do
  afterGet library mutate (← Program.ask StatusRequest.getSwitch)

/-- `retry.RetryOnConflict` with a number of attempts left. -/
def retryOnConflict (attempt : StatusProgram (Option ApiError)) :
    Nat → StatusProgram (Option ApiError)
  | 0 => return some .conflict
  | 1 => attempt
  | attempts + 2 => do
      let result ← attempt
      if result = some .conflict then retryOnConflict attempt (attempts + 1)
      else return result

/-- The hostname `handleSnapshot` stores. -/
def snapshotHostname (switchName : String) (snapshot : LldpNeighborSnapshot) : String :=
  if snapshot.switchName = "" then switchName else snapshot.switchName

/-- The end of `handleSnapshot`, by the error of the status write. -/
def snapshotStored (snapshot : LldpNeighborSnapshot) :
    Option ApiError → StatusProgram (Bool × UInt64)
  | some error => .fail (.api error)
  | none => return (true, snapshot.generation)

/-- The part of `handleSnapshot` after the list of the Nodes. -/
def storeSnapshot (runtime : Runtime) (ignoreSwitchPorts : List String)
    (switchName : String) (attempts : Nat) (snapshot : LldpNeighborSnapshot)
    (nodeList : Except ApiError (List String)) : StatusProgram (Bool × UInt64) :=
  match snapshotNeighbors runtime ignoreSwitchPorts nodeList.toOption snapshot with
  | .error error => .fail (.rejected error)
  | .ok neighbors => do
      snapshotStored snapshot (← retryOnConflict (attemptMutation library fun now switch =>
            acceptedStatus library now (snapshotHostname switchName snapshot)
              snapshot.generation neighbors switch)
          attempts)

/-- `handleSnapshot`: whether it updated the Switch, and the last generation. -/
def handleSnapshotCall (runtime : Runtime) (ignoreSwitchPorts : List String)
    (switchName : String) (attempts : Nat) (snapshot : LldpNeighborSnapshot)
    (lastGeneration : UInt64) : StatusProgram (Bool × UInt64) :=
  if snapshot.generation ≤ lastGeneration then
    return (false, lastGeneration)
  else do
    storeSnapshot library runtime ignoreSwitchPorts switchName attempts snapshot
      (← Program.ask StatusRequest.listNodes)

end

/-! ## The server -/

/-- The Switch of one name as the API server stores it. -/
structure SwitchServer where
  revision : Nat
  stored : Option (Copy SwitchObject)

/-- What other clients do with the Switch: every write has a new version. -/
inductive Change where
  | write (object : SwitchObject)
  | delete

/-- The server after a write. -/
def SwitchServer.write (server : SwitchServer) (object : SwitchObject) : SwitchServer where
  revision := server.revision + 1
  stored := some ⟨server.revision + 1, object⟩

/-- The server after a change. -/
def SwitchServer.change (server : SwitchServer) : Change → SwitchServer
  | .write object => server.write object
  | .delete => { revision := server.revision + 1, stored := none }

/-- How a request fails: before it takes effect, or after. -/
inductive Fault where
  | refused (error : ApiError)
  | lost (error : ApiError)

/-- The error of a fault. -/
def Fault.error : Fault → ApiError
  | .refused error => error
  | .lost error => error

/--
The circumstances of one request: what others do before it, the Nodes and the
Switch as the reads show them, the time, and whether it fails.
-/
structure Turn where
  others : List Change
  nodes : List String
  shown : Option (Copy SwitchObject)
  now : Int
  fault : Option Fault

/-- What others do in a turn. -/
def Turn.before (turn : Turn) (server : SwitchServer) : SwitchServer :=
  turn.others.foldl SwitchServer.change server

/-- A status update: the stored object must have the version of the base. -/
def SwitchServer.updateStatus (server : SwitchServer)
    (base : Copy SwitchObject) (status : SwitchStatus) : Except ApiError SwitchServer :=
  match server.stored with
  | none => .error .notFound
  | some current =>
    if current.version = base.version then
      .ok (server.write { current.object with status })
    else .error .conflict

/-- The Nodes a list shows. -/
def Turn.listNodes (turn : Turn) : Except ApiError (List String) :=
  match turn.fault with
  | none => .ok turn.nodes
  | some fault => .error fault.error

/-- The Switch a Get shows. -/
def Turn.getSwitch (turn : Turn) : GetAnswer where
  now := turn.now
  result :=
    match turn.fault, turn.shown with
    | some fault, _ => .error fault.error
    | none, none => .error .notFound
    | none, some copy => .ok copy

/-- What becomes of a status update. -/
def Turn.updateStatus (turn : Turn) (server : SwitchServer)
    (base : Copy SwitchObject) (status : SwitchStatus) : Except ApiError Unit × SwitchServer :=
  match turn.fault, server.updateStatus base status with
  | some (.refused error), _ => (.error error, server)
  | _, .error error => (.error error, server)
  | none, .ok after => (.ok (), after)
  | some (.lost error), .ok after => (.error error, after)

/-- What the server does with a request. -/
def serveStatus (turn : Turn) (server : SwitchServer) :
    (request : StatusRequest) → StatusAnswer request × SwitchServer
  | .listNodes => (turn.listNodes, server)
  | .getSwitch => (turn.getSwitch, server)
  | .updateStatus base status => turn.updateStatus server base status

/-! ## Sequences of snapshots -/

/-- The requests of a call which were served. -/
abbrev ServedStatus := Served SwitchServer StatusRequest StatusAnswer

/-- A call of `handleSnapshot` with the cell before it and its run. -/
structure SnapshotCall where
  snapshot : LldpNeighborSnapshot
  lastBefore : UInt64
  run : Run SwitchServer StatusRequest StatusAnswer SnapshotError (Bool × UInt64)

/-- The last generation after a call. -/
def SnapshotCall.lastAfter (call : SnapshotCall) : UInt64 :=
  match call.run.result with
  | .ok (_, lastGeneration) => lastGeneration
  | .error _ => call.lastBefore

section

variable (library : StatusLibrary) (runtime : Runtime) (ignoreSwitchPorts : List String)
  (switchName : String) (attempts : Nat)

/-- One call in given circumstances. -/
def callSnapshot (server : SwitchServer) (lastGeneration : UInt64)
    (snapshot : LldpNeighborSnapshot) (turns : Nat → Turn) : SnapshotCall where
  snapshot := snapshot
  lastBefore := lastGeneration
  run :=
    (handleSnapshotCall library runtime ignoreSwitchPorts switchName attempts snapshot
      lastGeneration).run Turn.before serveStatus turns 0 server

/-- One call after another with one cell for the last generation. -/
def callSnapshots (server : SwitchServer) (lastGeneration : UInt64) :
    List (LldpNeighborSnapshot × (Nat → Turn)) → List SnapshotCall
  | [] => []
  | (snapshot, turns) :: rest =>
    let call := callSnapshot library runtime ignoreSwitchPorts switchName attempts
      server lastGeneration snapshot turns
    call :: callSnapshots call.run.state call.lastAfter rest

/-- The cell after a list of calls. -/
def finalGeneration (lastGeneration : UInt64) (calls : List SnapshotCall) : UInt64 :=
  (calls.getLast?.map SnapshotCall.lastAfter).getD lastGeneration

end

/-! ## One attempt -/

/-- A request after which the Switch is stored as before. -/
def Unchanged (served : ServedStatus) : Prop := served.after.stored = served.before.stored

/--
A read which is answered shows the Switch which is stored, and a write which
fails has not taken effect.
-/
def Dependable : ServedStatus → Prop
  | ⟨_, ⟨.listNodes, _⟩, _⟩ => True
  | ⟨before, ⟨.getSwitch, answer⟩, _⟩ =>
    GetAnswer.result answer ≠ .error .notFound ∧
      ∀ copy, GetAnswer.result answer = .ok copy → before.stored = some copy
  | ⟨before, ⟨.updateStatus _ _, answer⟩, after⟩ =>
    answer ≠ Except.ok () → after.stored = before.stored

/--
Without an error the last request leaves a Switch with a status of a kind, with
an error no request changes the Switch.
-/
structure Settles {α : Type} (isNil : α → Prop) (target : SwitchStatus → Prop)
    (run : Run SwitchServer StatusRequest StatusAnswer SnapshotError α) :
    Prop where
  stored : ∀ value, run.result = .ok value → isNil value →
    ∃ last copy, run.served.getLast? = some last ∧
      last.after.stored = some copy ∧ target copy.object.status
  unchanged : (∀ value, run.result = .ok value → ¬ isNil value) →
    ∀ served ∈ run.served, Unchanged served

lemma SwitchServer.updateStatus_stored {server after : SwitchServer}
    (updated : server.updateStatus base status = .ok after) :
    ∃ copy, after.stored = some copy ∧ copy.object.status = status := by
  unfold SwitchServer.updateStatus at updated
  split at updated
  · cases updated
  · next current _ =>
    split_ifs at updated
    cases updated
    exact ⟨_, rfl, rfl⟩

lemma Turn.updateStatus_stored {turn : Turn}
    (accepted : (turn.updateStatus server base status).1 = .ok ()) :
    ∃ copy, (turn.updateStatus server base status).2.stored = some copy ∧
      copy.object.status = status := by
  unfold Turn.updateStatus at accepted ⊢
  rcases faulty : turn.fault with _ | error | error <;>
    cases updated : server.updateStatus base status <;>
      simp only [faulty, updated, reduceCtorEq] at accepted ⊢
  exact SwitchServer.updateStatus_stored updated

namespace Settles

variable {α : Type} {isNil : α → Prop}
  {run : Run SwitchServer StatusRequest StatusAnswer SnapshotError α}

lemma after (settles : Settles isNil target run)
    (unchanged : ∀ served ∈ earlier, Unchanged served) :
    Settles isNil target { run with served := earlier ++ run.served } := by
  constructor
  · intro value ended isNil
    obtain ⟨last, copy, isLast, isStored, written⟩ := settles.stored value ended isNil
    exact ⟨last, copy, by simp [isLast], isStored, written⟩
  · intro failed served among
    rcases mem_append.1 among with earlier | later
    · exact unchanged served earlier
    · exact settles.unchanged failed served later

end Settles

section

variable {library : StatusLibrary} {mutate : Int → SwitchObject → SwitchStatus} {turns : Nat → Turn}

lemma settles_error (get : ServedStatus) (read : Unchanged get) {error : ApiError} :
    Settles (· = none) target (Run.prepend ⟨[], state, .ok (some error)⟩ get) := by
  constructor
  · intro value ended isNone
    cases ended
    cases isNone
  · intro _ served among
    rw [mem_singleton.1 among]
    exact read

/-- An attempt whose Get shows another status updates it. -/
lemma run_afterGet {got : GetAnswer} (shown : got.result = .ok copy)
    (changed : ¬ library.deepEqual copy.object.status (mutate got.now copy.object)) :
    (afterGet library mutate got).run Turn.before serveStatus turns turn server =
      let middle := (turns turn).before server
      let status := mutate got.now copy.object
      let updated := (turns turn).updateStatus middle copy status
      ⟨[⟨middle, ⟨.updateStatus copy status, updated.1⟩, updated.2⟩], updated.2,
        .ok (failureOf updated.1)⟩ := by
  unfold afterGet
  rw [shown]
  simp only [changed]
  rfl

lemma attemptMutation_settles (writes : ∀ now object, target (mutate now object)) (turn : Nat)
    (server : SwitchServer)
    (dependable : ∀ served ∈ ((attemptMutation library mutate).run Turn.before
      serveStatus turns turn server).served, Dependable served) : Settles (· = none) target
      ((attemptMutation library mutate).run Turn.before serveStatus turns turn server) := by
  let before := (turns turn).before server
  let answer := (turns turn).getSwitch
  let get : ServedStatus := ⟨before, ⟨.getSwitch, answer⟩, before⟩
  change Settles _ _ (((afterGet library mutate answer).run Turn.before
    serveStatus turns (turn + 1) before).prepend get)
  change ∀ served ∈ get :: ((afterGet library mutate answer).run Turn.before
    serveStatus turns (turn + 1) before).served, Dependable served at dependable
  have shown : answer.result ≠ .error .notFound ∧
      ∀ copy, answer.result = .ok copy → before.stored = some copy :=
    dependable get (.head _)
  cases got : answer.result with
  | error error =>
    have failed : error ≠ .notFound := fun isNotFound => shown.1 (isNotFound ▸ got)
    have ended : (afterGet library mutate answer).run Turn.before serveStatus
        turns (turn + 1) before = ⟨[], before, .ok (some error)⟩ := by
      unfold afterGet
      rw [got]
      cases error <;> first | exact absurd rfl failed | rfl
    rw [ended]
    exact settles_error get rfl
  | ok copy =>
    have isStored := shown.2 copy got
    by_cases same : library.deepEqual copy.object.status (mutate answer.now copy.object)
    · have ended : (afterGet library mutate answer).run Turn.before
          serveStatus turns (turn + 1) before = ⟨[], before, .ok none⟩ := by
        unfold afterGet
        rw [got]
        simp only [same, if_true]
        rfl
      rw [ended]
      refine ⟨fun _ _ _ => ⟨get, copy, rfl, isStored, ?_⟩, fun failed => ?_⟩
      · rw [(library.deepEqual_iff _ _).1 same]
        exact writes _ _
      · exact absurd rfl (failed none rfl)
    · let status := mutate answer.now copy.object
      let middle := (turns (turn + 1)).before before
      let updated := (turns (turn + 1)).updateStatus middle copy status
      let update : ServedStatus := ⟨middle, ⟨.updateStatus copy status, updated.1⟩, updated.2⟩
      have ended : (afterGet library mutate answer).run Turn.before
          serveStatus turns (turn + 1) before =
            ⟨[update], updated.2, .ok (failureOf updated.1)⟩ := run_afterGet got same
      rw [ended] at dependable ⊢
      have reported : updated.1 ≠ .ok () → Unchanged update := dependable update (by simp)
      constructor
      · intro value isValue isNone
        cases isValue
        have accepted := failureOf_eq_none.1 isNone
        obtain ⟨written, isWritten, hasStatus⟩ := Turn.updateStatus_stored accepted
        exact ⟨update, written, rfl, isWritten, hasStatus ▸ writes _ _⟩
      · intro failed served among
        have refused : updated.1 ≠ .ok () := fun accepted =>
          failed _ rfl (failureOf_eq_none.2 accepted)
        simp only [Run.prepend, mem_cons, not_mem_nil, or_false] at among
        rcases among with rfl | rfl
        · rfl
        · exact reported refused

lemma retryOnConflict_settles
    (settles : ∀ turn server, (∀ served ∈ (attempt.run Turn.before serveStatus turns turn
        server).served, Dependable served) →
      Settles (· = none) target (attempt.run Turn.before serveStatus turns turn server))
    (attempts turn : Nat) (server : SwitchServer)
    (dependable : ∀ served ∈ ((retryOnConflict attempt attempts).run
      Turn.before serveStatus turns turn server).served, Dependable served) :
    Settles (· = none) target ((retryOnConflict attempt attempts).run Turn.before serveStatus turns
        turn server) := by
  induction attempts using retryOnConflict.induct generalizing turn server with
  | case1 =>
    constructor
    · intro value ended isNone
      cases ended
      cases isNone
    · intro _ served among
      cases among
  | case2 => exact settles turn server dependable
  | case3 attempts hypothesis =>
    let first := attempt.run Turn.before serveStatus turns turn server
    rw [retryOnConflict, Program.run_bind] at dependable ⊢
    change ∀ served ∈ (first.followedBy _).served, _ at dependable
    change Settles _ _ (first.followedBy _)
    have attempted : (∀ served ∈ first.served, Dependable served) →
      Settles (· = none) target first := settles turn server
    obtain ⟨served, state, result⟩ := first
    cases result with
    | error failure =>
      constructor
      · intro value ended
        cases ended
      · intro _
        exact (attempted dependable).unchanged (by simp)
    | ok result =>
      by_cases conflict : result = some .conflict
      · simp only [Run.followedBy, conflict, if_true, mem_append] at dependable ⊢
        have before := attempted fun served among => dependable served (.inl among)
        refine (hypothesis _ _ fun served among =>
          dependable served (.inr among)).after (before.unchanged ?_)
        intro value isValue isNone
        rw [← Except.ok.inj isValue, conflict] at isNone
        cases isNone
      · simp only [Run.followedBy, conflict, if_false] at dependable ⊢
        change ∀ among ∈ served ++ [], Dependable among at dependable
        change Settles _ _ ⟨served ++ [], state, .ok result⟩
        rw [append_nil] at dependable ⊢
        exact attempted dependable

end

/-! ## Whole calls -/

/-- A call which returns true without an error. -/
def SnapshotCall.Accepted (call : SnapshotCall) : Prop :=
  ∃ lastGeneration, call.run.result = .ok (true, lastGeneration)

/--
An accepted call has stored the neighbours of its snapshot, as classified with
the Nodes it listed, in the Switch which exists when its last request is
served, and the cell has its generation.  Any other call changes neither.
-/
structure SnapshotCall.Atomic (runtime : Runtime)
    (ignoreSwitchPorts : List String) (call : SnapshotCall) : Prop where
  stored : call.Accepted → call.lastBefore < call.snapshot.generation ∧
    call.lastAfter = call.snapshot.generation ∧
    ∃ first nodeList neighbors last copy, call.run.served.head? = some first ∧
      first.exchange = ⟨.listNodes, nodeList⟩ ∧
      snapshotNeighbors runtime ignoreSwitchPorts nodeList.toOption call.snapshot = .ok neighbors ∧
      call.run.served.getLast? = some last ∧
      last.after.stored = some copy ∧
      copy.object.status.lldpNeighbors = neighbors
  unchanged : ¬ call.Accepted → call.lastAfter = call.lastBefore ∧
    ∀ served ∈ call.run.served, Unchanged served

lemma acceptedStatus_lldpNeighbors (library : StatusLibrary) (now : Int) (hostname : String)
    (generation : UInt64) (neighbors : List SwitchNeighbor) (switch : SwitchObject) :
    (acceptedStatus library now hostname generation neighbors switch).lldpNeighbors = neighbors :=
  rfl

section

variable {library : StatusLibrary} {runtime : Runtime} {ignoreSwitchPorts : List String}
  {switchName : String} {attempts : Nat}

/-- A snapshot whose neighbours are malformed requests nothing more. -/
lemma storeSnapshot_of_error (nodeList : Except ApiError (List String)) {error : SubscriptionError}
    (malformed : snapshotNeighbors runtime ignoreSwitchPorts nodeList.toOption
      snapshot = .error error) (turns : Nat → Turn) (turn : Nat)
    (server : SwitchServer) :
    (storeSnapshot library runtime ignoreSwitchPorts switchName attempts snapshot
        nodeList).run Turn.before serveStatus turns turn server =
      ⟨[], server, .error (.rejected error)⟩ := by
  rw [storeSnapshot, malformed]
  rfl

/-- How `handleSnapshot` computes the status of a Switch. -/
def snapshotMutation (library : StatusLibrary) (switchName : String)
    (snapshot : LldpNeighborSnapshot) (neighbors : List SwitchNeighbor)
    (now : Int) : SwitchObject → SwitchStatus :=
  acceptedStatus library now (snapshotHostname switchName snapshot) snapshot.generation neighbors

lemma storeSnapshot_of_neighbors (nodeList : Except ApiError (List String))
    (normalized : snapshotNeighbors runtime ignoreSwitchPorts
      nodeList.toOption snapshot = .ok neighbors)
    (turns : Nat → Turn) (turn : Nat) (server : SwitchServer) :
    (storeSnapshot library runtime ignoreSwitchPorts switchName attempts snapshot
        nodeList).run Turn.before serveStatus turns turn server =
      ((retryOnConflict (attemptMutation library
          (snapshotMutation library switchName snapshot neighbors))
        attempts).run Turn.before serveStatus turns turn server).followedBy fun result served =>
        (snapshotStored snapshot result).run Turn.before serveStatus turns (turn + served) := by
  rw [storeSnapshot, normalized]
  exact Program.run_bind _ _ _ _

lemma storeSnapshot_settles (normalized : snapshotNeighbors runtime ignoreSwitchPorts
      nodeList.toOption snapshot = .ok neighbors)
    (dependable : ∀ served ∈ ((storeSnapshot library runtime ignoreSwitchPorts
      switchName attempts snapshot nodeList).run Turn.before serveStatus turns turn
      server).served, Dependable served) :
    Settles (· = (true, snapshot.generation)) (fun status => status.lldpNeighbors = neighbors)
      ((storeSnapshot library runtime ignoreSwitchPorts switchName attempts snapshot
        nodeList).run Turn.before serveStatus turns turn server) := by
  let mutation := (retryOnConflict (attemptMutation library
    (snapshotMutation library switchName snapshot neighbors))
    attempts).run Turn.before serveStatus turns turn server
  have settles : (∀ served ∈ mutation.served, Dependable served) →
      Settles (· = none) (fun status => status.lldpNeighbors = neighbors)
        mutation := by
    apply retryOnConflict_settles
    apply attemptMutation_settles
    exact fun now => acceptedStatus_lldpNeighbors library now _ _ neighbors
  rw [storeSnapshot_of_neighbors nodeList normalized] at dependable ⊢
  change ∀ served ∈ (mutation.followedBy _).served, _ at dependable
  change Settles _ _ (mutation.followedBy _)
  obtain ⟨served, state, result⟩ := mutation
  cases result with
  | error failure =>
    constructor
    · intro value ended
      cases ended
    · intro _
      exact (settles dependable).unchanged (by simp)
  | ok result =>
    cases result with
    | some error =>
      change ∀ among ∈ served ++ [], Dependable among at dependable
      change Settles _ _ ⟨served ++ [], state, .error (.api error)⟩
      rw [append_nil] at dependable ⊢
      constructor
      · intro value ended
        cases ended
      · intro _
        exact (settles dependable).unchanged (by simp)
    | none =>
      change ∀ among ∈ served ++ [], Dependable among at dependable
      change Settles _ _ ⟨served ++ [], state, .ok (true, snapshot.generation)⟩
      rw [append_nil] at dependable ⊢
      constructor
      · intro _ _ _
        exact (settles dependable).stored none rfl rfl
      · intro failed
        exact absurd rfl (failed _ rfl)

lemma storeSnapshot_returns
    (returned : ((storeSnapshot library runtime ignoreSwitchPorts switchName attempts
      snapshot nodeList).run Turn.before serveStatus turns turn server).result
      = .ok value) : value = (true, snapshot.generation) := by
  unfold storeSnapshot at returned
  split at returned
  · cases returned
  · rw [Program.run_bind] at returned
    unfold Run.followedBy at returned
    split at returned
    · cases returned
    · next result _ =>
      cases result with
      | some error => cases returned
      | none => exact (Except.ok.inj returned).symm

section

variable {server : SwitchServer} {lastGeneration : UInt64} {turns : Nat → Turn}

lemma callSnapshot_of_stale (stale : snapshot.generation ≤ lastGeneration) :
    (callSnapshot library runtime ignoreSwitchPorts switchName attempts server
      lastGeneration snapshot turns).run = ⟨[], server, .ok (false, lastGeneration)⟩ := by
  simp only [callSnapshot, handleSnapshotCall, if_pos stale]
  rfl

lemma callSnapshot_of_newer (newer : ¬ snapshot.generation ≤ lastGeneration) :
    (callSnapshot library runtime ignoreSwitchPorts switchName attempts server
      lastGeneration snapshot turns).run =
      ((storeSnapshot library runtime ignoreSwitchPorts switchName attempts snapshot
        (turns 0).listNodes).run Turn.before serveStatus turns 1 ((turns 0).before server)).prepend
        ⟨(turns 0).before server, ⟨.listNodes, (turns 0).listNodes⟩, (turns 0).before server⟩ := by
  simp only [callSnapshot, handleSnapshotCall, if_neg newer]
  rfl

end

lemma callSnapshot_atomic (server : SwitchServer) (lastGeneration : UInt64)
    (snapshot : LldpNeighborSnapshot) (turns : Nat → Turn)
    (dependable : ∀ served ∈ (callSnapshot library runtime ignoreSwitchPorts
      switchName attempts server lastGeneration snapshot turns).run.served, Dependable served) :
    (callSnapshot library runtime ignoreSwitchPorts switchName attempts server
      lastGeneration snapshot turns).Atomic runtime ignoreSwitchPorts := by
  by_cases stale : snapshot.generation ≤ lastGeneration
  · constructor
    · rintro ⟨_, accepted⟩
      rw [callSnapshot_of_stale stale] at accepted
      cases accepted
    · intro _
      simp only [SnapshotCall.lastAfter, callSnapshot_of_stale stale]
      exact ⟨rfl, by simp⟩
  · let before := (turns 0).before server
    let nodeList := (turns 0).listNodes
    let list : ServedStatus := ⟨before, ⟨.listNodes, nodeList⟩, before⟩
    let rest := (storeSnapshot library runtime ignoreSwitchPorts switchName attempts
      snapshot nodeList).run Turn.before serveStatus turns 1 before
    have run : (callSnapshot library runtime ignoreSwitchPorts switchName attempts
        server lastGeneration snapshot turns).run = rest.prepend list := callSnapshot_of_newer stale
    rw [run] at dependable
    have later : ∀ served ∈ rest.served, Dependable served :=
      fun served among => dependable served (.tail _ among)
    cases normalized : snapshotNeighbors runtime ignoreSwitchPorts nodeList.toOption snapshot with
    | error error =>
      have ended : rest = ⟨[], before, .error (.rejected error)⟩ :=
        storeSnapshot_of_error nodeList normalized turns 1 before
      rw [ended] at run
      constructor
      · rintro ⟨_, accepted⟩
        rw [run] at accepted
        cases accepted
      · intro _
        simp only [SnapshotCall.lastAfter, run]
        refine ⟨rfl, fun served among => ?_⟩
        rw [mem_singleton.1 among]
        rfl
    | ok neighbors =>
      have settles : Settles (· = (true, snapshot.generation))
          (fun status => status.lldpNeighbors = neighbors) rest :=
        storeSnapshot_settles normalized later
      have newer : lastGeneration < snapshot.generation := UInt64.not_le.1 stale
      constructor
      · rintro ⟨last, accepted⟩
        rw [run] at accepted
        have returned := storeSnapshot_returns accepted
        obtain ⟨served, copy, isLast, isStored, written⟩ := settles.stored _ accepted returned
        refine ⟨newer, ?_, list, nodeList, neighbors, served, copy, ?_, rfl,
          normalized, ?_, isStored, written⟩
        · rw [SnapshotCall.lastAfter, run, accepted]
          exact congrArg Prod.snd returned
        · rw [run]
          rfl
        · rw [run]
          change (list :: rest.served).getLast? = some served
          rw [getLast?_cons, isLast]
          rfl
      · intro refused
        have failed : ∀ value, rest.result ≠ .ok value := by
          intro value returned
          have isValue := storeSnapshot_returns returned
          exact refused ⟨snapshot.generation, by
            rw [run, ← isValue]
            exact returned⟩
        constructor
        · rw [SnapshotCall.lastAfter, run]
          cases ended : rest.result with
          | ok value => exact absurd ended (failed value)
          | error error => simp [Run.prepend, ended, callSnapshot]
        · intro served among
          rw [run] at among
          rcases mem_cons.1 among with rfl | among
          · rfl
          · exact settles.unchanged (fun value returned => absurd returned (failed value))
              served among

/-- The generations which the calls of a list have stored. -/
def storedGenerations (calls : List SnapshotCall) : Set UInt64 :=
  { generation | ∃ call ∈ calls, call.Accepted ∧ call.snapshot.generation = generation }

lemma storedGenerations_of_accepted (accepted : call.Accepted) (later : List SnapshotCall) :
    storedGenerations (call :: later) =
      insert call.snapshot.generation (storedGenerations later) := by
  ext generation
  simp [storedGenerations, accepted, eq_comm]

lemma storedGenerations_of_refused (refused : ¬ call.Accepted) (later : List SnapshotCall) :
    storedGenerations (call :: later) = storedGenerations later := by
  ext generation
  simp [storedGenerations, refused]

lemma finalGeneration_cons (lastGeneration : UInt64) (call : SnapshotCall)
    (later : List SnapshotCall) :
    finalGeneration lastGeneration (call :: later) = finalGeneration call.lastAfter later := by
  unfold finalGeneration
  rw [getLast?_cons]
  cases later.getLast? <;> rfl

/--
In every sequence of snapshots whose reads show the stored Switch and whose
failed writes have no effect, every call is atomic and the cell has the largest
generation stored.
-/
theorem snapshots_atomic_and_monotone (library : StatusLibrary)
    (runtime : Runtime) (ignoreSwitchPorts : List String)
    (switchName : String) (attempts : Nat) (server : SwitchServer) (lastGeneration : UInt64)
    (snapshots : List (LldpNeighborSnapshot × (Nat → Turn)))
    (dependable : ∀ call ∈ callSnapshots library runtime ignoreSwitchPorts
      switchName attempts server lastGeneration snapshots,
      ∀ served ∈ call.run.served, Dependable served) :
    let calls := callSnapshots library runtime ignoreSwitchPorts switchName attempts
      server lastGeneration snapshots
    (∀ call ∈ calls, call.Atomic runtime ignoreSwitchPorts) ∧
      IsGreatest (insert lastGeneration (storedGenerations calls))
        (finalGeneration lastGeneration calls) := by
  induction snapshots generalizing server lastGeneration with
  | nil =>
    refine ⟨by simp [callSnapshots], Set.mem_insert _ _, ?_⟩
    rintro generation (rfl | ⟨_, listed, _⟩)
    · exact UInt64.le_refl _
    · cases listed
  | cons first rest hypothesis =>
    rcases first with ⟨snapshot, turns⟩
    let call := callSnapshot library runtime ignoreSwitchPorts switchName attempts
      server lastGeneration snapshot turns
    let later := callSnapshots library runtime ignoreSwitchPorts switchName attempts
      call.run.state call.lastAfter rest
    change ∀ among ∈ call :: later, _ at dependable
    have atomic : call.Atomic runtime ignoreSwitchPorts :=
      callSnapshot_atomic server lastGeneration snapshot turns (dependable call (.head _))
    rcases hypothesis call.run.state call.lastAfter
      (fun among listed => dependable among (.tail _ listed))
      with ⟨restAtomic, greatest⟩
    refine ⟨forall_mem_cons.mpr ⟨atomic, restAtomic⟩, ?_⟩
    change IsGreatest (insert lastGeneration (storedGenerations (call :: later)))
      (finalGeneration lastGeneration (call :: later))
    rw [finalGeneration_cons]
    by_cases accepted : call.Accepted
    · rcases atomic.stored accepted with ⟨newer, isGeneration, _⟩
      rw [storedGenerations_of_accepted accepted, ← isGeneration]
      rw [← isGeneration] at newer
      refine ⟨Set.mem_insert_of_mem _ greatest.1, ?_⟩
      rintro generation (rfl | stored)
      · exact UInt64.le_trans (UInt64.le_of_lt newer) (greatest.2 (Set.mem_insert _ _))
      · exact greatest.2 stored
    · have same : call.lastAfter = lastGeneration := (atomic.unchanged accepted).1
      rw [storedGenerations_of_refused accepted, ← same]
      exact greatest

/-! ## Calls which nothing disturbs -/

/-- A turn without others and faults, in which the reads show a server. -/
def quietTurn (server : SwitchServer) (nodes : List String) (now : Int) : Turn where
  others := []
  nodes := nodes
  shown := server.stored
  now := now
  fault := none

lemma attemptMutation_undisturbed (library : StatusLibrary)
    (mutate : Int → SwitchObject → SwitchStatus) (server : SwitchServer) (nodes : List String)
    (now : Int) (turn : Nat) :
    ∃ served state, (attemptMutation library mutate).run Turn.before serveStatus
        (fun _ => quietTurn server nodes now) turn server = ⟨served, state, .ok none⟩ ∧
      mutateSwitchStatus library none (mutate now) (server.stored.map Copy.object) =
        (.ok (), state.stored.map Copy.object) := by
  obtain ⟨revision, _ | copy⟩ := server
  · exact ⟨_, _, rfl, rfl⟩
  change ∃ served state, ((afterGet library mutate ⟨now, .ok copy⟩).run Turn.before serveStatus
    (fun _ => quietTurn ⟨revision, some copy⟩ nodes now) (turn + 1) ⟨revision, some copy⟩).prepend
      _ = Run.mk served state _ ∧ _
  by_cases same : library.deepEqual copy.object.status (mutate now copy.object)
  · simp only [afterGet, mutateSwitchStatus, Option.map_some, same, if_true]
    exact ⟨_, _, rfl, rfl⟩
  · have updated : (quietTurn ⟨revision, some copy⟩ nodes now).updateStatus
        ⟨revision, some copy⟩ copy (mutate now copy.object) = (.ok (), SwitchServer.write
          ⟨revision, some copy⟩ { copy.object with status := mutate now copy.object }) := by
      simp [Turn.updateStatus, SwitchServer.updateStatus, quietTurn]
    rw [run_afterGet rfl same]
    refine ⟨_, _, congrArg (Run.mk _ _ ∘ Except.ok) (failureOf_eq_none.2
      (congrArg Prod.fst updated)), ?_⟩
    simp only [mutateSwitchStatus, Option.map_some, same]
    exact congrArg (fun after => (Except.ok (), after.2.stored.map Copy.object)) updated.symm

/-- A call which nothing disturbs does what the one step `handleSnapshot` does. -/
lemma callSnapshot_undisturbed (server : SwitchServer) (lastGeneration : UInt64)
    (snapshot : LldpNeighborSnapshot) (nodes : List String) (now : Int) :
    let call := callSnapshot library runtime ignoreSwitchPorts switchName (attempts + 1)
      server lastGeneration snapshot fun _ => quietTurn server nodes now
    let step := handleSnapshot library runtime ignoreSwitchPorts switchName
      ⟨some nodes, none, now⟩ snapshot (server.stored.map Copy.object) lastGeneration
    call.run.result = (step.result.mapError .rejected).map (·, step.lastGeneration) ∧
      call.run.state.stored.map Copy.object = step.switch := by
  intro call step
  have start : (quietTurn server nodes now).before server = server := rfl
  have listed : (quietTurn server nodes now).listNodes = .ok nodes := rfl
  by_cases stale : snapshot.generation ≤ lastGeneration
  · simp only [call, step, callSnapshot_of_stale stale, handleSnapshot, if_pos stale]
    exact ⟨rfl, trivial⟩
  simp only [call, step, callSnapshot_of_newer stale, handleSnapshot, if_neg stale, start, listed]
  cases normalized : snapshotNeighbors runtime ignoreSwitchPorts (some nodes) snapshot with
  | error error =>
    rw [storeSnapshot_of_error (.ok nodes) normalized]
    exact ⟨rfl, rfl⟩
  | ok neighbors =>
    rw [storeSnapshot_of_neighbors (.ok nodes) normalized]
    obtain ⟨served, state, ran, stored⟩ := attemptMutation_undisturbed library
      (snapshotMutation library switchName snapshot neighbors) server nodes now 1
    have retried : ∃ served, (retryOnConflict (attemptMutation library
        (snapshotMutation library switchName snapshot neighbors)) (attempts + 1)).run Turn.before
          serveStatus (fun _ => quietTurn server nodes now) 1 server =
        ⟨served, state, .ok none⟩ := by
      cases attempts with
      | zero => exact ⟨served, ran⟩
      | succ attempts =>
        rw [retryOnConflict, Program.run_bind, ran]
        exact ⟨served ++ [], rfl⟩
    obtain ⟨served, retried⟩ := retried
    change mutateSwitchStatus library none (acceptedStatus library now
      (if snapshot.switchName = "" then switchName else snapshot.switchName) _ _) _ = _ at stored
    rw [retried]
    simp only [stored]
    exact ⟨rfl, rfl⟩

/-- The first snapshot of an agent, with one link. -/
def firstSnapshot : LldpNeighborSnapshot where
  switchName := "leaf-1"
  lldpNeighbors := [⟨"leaf-1", "Ethernet1", "spine-1", "Ethernet49"⟩]
  generation := 1

/-- A Switch which exists gets the first snapshot. -/
theorem snapshots_atomic_first_snapshot :
    let server : SwitchServer := ⟨1, some ⟨1, unconnectedSwitch⟩⟩
    let calls := callSnapshots .structural .canonical [] "leaf-1" 5 server 0
      [(firstSnapshot, fun _ => quietTurn server [] 0)]
    (∀ call ∈ calls, ∀ served ∈ call.run.served, Dependable served) ∧
      (∀ call ∈ calls, call.Atomic .canonical []) ∧
      finalGeneration 0 calls = 1 := by
  intro server calls
  have dependable : ∀ call ∈ calls, ∀ served ∈ call.run.served, Dependable served := by
    intro call listed served among
    obtain rfl := mem_singleton.mp listed
    change served ∈ [_, _, _] at among
    simp only [mem_cons, not_mem_nil, or_false] at among
    rcases among with rfl | rfl | rfl
    · trivial
    · refine ⟨fun failed => (by cases failed), fun copy got => ?_⟩
      cases got
      rfl
    · exact fun failed => absurd rfl failed
  exact ⟨dependable, (snapshots_atomic_and_monotone .structural .canonical []
    "leaf-1" 5 server 0 _ dependable).1, rfl⟩

/-- A Switch which was deleted does not keep the snapshot from being taken. -/
theorem snapshot_accepted_without_switch :
    let server : SwitchServer := ⟨1, some ⟨1, unconnectedSwitch⟩⟩
    let call := callSnapshot .structural .canonical [] "leaf-1" 5 server 0
      firstSnapshot fun _ => ⟨[.delete], [], none, 0, none⟩
    call.Accepted ∧ call.lastAfter = 1 ∧
      call.run.served.map (fun served => served.after.stored) = [none, none] :=
  ⟨⟨1, rfl⟩, rfl, rfl⟩

end

end Unifabric.SwitchTopology
