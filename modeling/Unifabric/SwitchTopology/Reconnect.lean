import Unifabric.Lib.Transition
import Unifabric.SwitchTopology.Subscription

/-!
# One agent and one subscription

The agent of a switch and the subscription of the controller to it as one
transition system.  The messages of a stream are delivered in order; a stream
which ends loses the ones under way.  The last accepted generation belongs to
the subscription and outlives its streams, while a restarted agent numbers its
snapshots from one again.
-/

namespace Unifabric.SwitchTopology

open Lib V1beta1 SwitchAgent Option

variable {snapshot : LldpNeighborSnapshot}

/-! ## The transition system -/

/-- An open stream. -/
structure Stream where
  handler : WatchHandler
  inFlight : List LldpNeighborSnapshot
  /-- Whether the agent process which serves the stream is running. -/
  live : Bool

/-- The agent, the stream if one is open, the subscription and the Switch. -/
structure System where
  agent : Agent
  stream : Option Stream
  lastGeneration : UInt64
  switch : SwitchObject

/-- What can happen. -/
inductive Event where
  /-- The agent collects neighbours, or fails to. -/
  | refresh (collected : Option Collected)
  /-- The agent process is replaced by a new one. -/
  | restart
  /-- The controller opens a stream. -/
  | connect (now : Int)
  /-- The agent takes the waiting update of the stream. -/
  | forward
  /-- The controller receives the next message. -/
  | deliver (nodes : List String) (now : Int)
  /-- The stream ends with an error. -/
  | fail (error : SubscriptionError) (now : Int)

section

variable (library : StatusLibrary) (runtime : Runtime)
variable (ignoreSwitchPorts : List String) (switchName : String)

/-- The Switch after its stream ended with an error. -/
def disconnectedSwitch (error : SubscriptionError) (now : Int)
    (switch : SwitchObject) : SwitchObject :=
  ((markSwitchDisconnected library none now (classifySubscriptionError error) error.message
      (some switch)).2).getD switch

/-- The end of a stream: the agent forgets it, the Switch is marked. -/
def endStream (error : SubscriptionError) (now : Int) (system : System)
    (stream : Stream) : System :=
  { system with
    agent :=
      if stream.live then
        system.agent.unsubscribe stream.handler.subscriptionId
      else system.agent
    stream := none
    switch := disconnectedSwitch library error now system.switch }

/-- Open a stream; an agent without a snapshot ends it at once. -/
def openStream (now : Int) (system : System) : System :=
  match watchLLDPNeighbors system.agent with
  | (agent, some (handler, snapshot)) =>
    { system with agent, stream := some { handler, inFlight := [snapshot], live := true } }
  | (agent, none) =>
    { system with
      agent
      switch :=
        disconnectedSwitch library snapshotNotReady now system.switch }

/-- Pass the waiting update to the stream. -/
def forwardStream (system : System) (stream : Stream) : Option System :=
  if stream.live then
    (forwardUpdate system.agent stream.handler).map fun (agent, handler, sent) =>
        { system with
          agent
          stream :=
            some
              { stream with
                handler
                inFlight := stream.inFlight ++ sent.toList } }
  else none

/-- Receive a snapshot; an error of its handling ends the stream. -/
def receiveSnapshot (nodes : List String) (now : Int) (system : System)
    (stream : Stream) (snapshot : LldpNeighborSnapshot)
    (rest : List LldpNeighborSnapshot) : System :=
  let handled :=
    handleSnapshot library runtime ignoreSwitchPorts switchName
      { nodeList := some nodes, writeFailure := none, now }
      snapshot (some system.switch) system.lastGeneration
  let received :=
    { system with
      stream := some { stream with inFlight := rest }
      lastGeneration := handled.lastGeneration
      switch := handled.switch.getD system.switch }
  match handled.result with
  | .ok _ => received
  | .error error => endStream library error now received stream

/-- One event; an event which cannot happen has no successor. -/
def systemStep (system : System) : Event → Option System
  | .refresh collected =>
    some
      { system with agent := system.agent.refreshSnapshot runtime collected }
  | .restart =>
    some
      { system with
        agent := Agent.new
        stream := system.stream.map fun stream =>
          { stream with live := false } }
  | .connect now =>
    match system.stream with
    | some _ => none
    | none => some (openStream library now system)
  | .forward => system.stream.bind (forwardStream system)
  | .deliver nodes now =>
    match system.stream with
    | none => none
    | some stream =>
      match stream.inFlight with
      | [] => none
      | snapshot :: rest =>
        some (receiveSnapshot library runtime ignoreSwitchPorts
            switchName nodes now system stream snapshot rest)
  | .fail error now => system.stream.map (endStream library error now system)

/-- A new agent and a new subscription to it; the Switch may have any status. -/
def System.start (switch : SwitchObject) : System :=
  { agent := Agent.new
    stream := none
    lastGeneration := 0
    switch }

/-! ## Writes to the status -/

/-- The status tells that the stream delivers these neighbours. -/
structure Reports (status : SwitchStatus)
    (neighbors : List SwitchNeighbor) : Prop where
  healthy : status.healthy = true
  connected : (findStatusCondition status.conditions "Connected").map
      Condition.status = some .isTrue
  stored : status.lldpNeighbors = neighbors

variable {library}

lemma mutateSwitchStatus_succeeds (mutate : SwitchObject → SwitchStatus) (switch : SwitchObject) :
    mutateSwitchStatus library none mutate (some switch) =
      (.ok (), some { switch with status := mutate switch }) := by
  rw [mutateSwitchStatus]
  split_ifs with same
  · rw [← (library.deepEqual_iff _ _).1 same]
  · rfl

lemma disconnectedSwitch_unhealthy (error : SubscriptionError) (now : Int) (switch : SwitchObject) :
    (disconnectedSwitch library error now switch).status.healthy = false := by
  rw [disconnectedSwitch, markSwitchDisconnected, mutateSwitchStatus_succeeds]
  rfl

lemma acceptedStatus_reports (now : Int) (hostname : String) (generation : UInt64)
    (neighbors : List SwitchNeighbor) (switch : SwitchObject) :
    Reports (acceptedStatus library now hostname generation neighbors switch) neighbors where
  healthy := rfl
  connected := by
    rw [acceptedStatus, setSwitchCondition, library.find_set_of_ne]
    · exact library.find_set _ _
    · show "Connected" ≠ "Ready"
      decide
  stored := rfl

variable {runtime ignoreSwitchPorts switchName}

lemma receiveSnapshot_of_stale (nodes : List String) (now : Int) (stream : Stream)
    (rest : List LldpNeighborSnapshot) (stale : snapshot.generation ≤ system.lastGeneration) :
    receiveSnapshot library runtime ignoreSwitchPorts switchName nodes now
        system stream snapshot rest =
      { system with stream := some { stream with inFlight := rest } } := by
  simp only [receiveSnapshot, handleSnapshot, if_pos stale, getD_some]

lemma receiveSnapshot_of_accepted (nodes : List String) (now : Int) (stream : Stream)
    (rest : List LldpNeighborSnapshot) (newer : ¬ snapshot.generation ≤ system.lastGeneration)
    (accepted : snapshotNeighbors runtime ignoreSwitchPorts (some nodes) snapshot = .ok neighbors) :
    ∃ status, Reports status neighbors ∧
      receiveSnapshot library runtime ignoreSwitchPorts switchName nodes
          now system stream snapshot rest =
        { system with
          stream := some { stream with inFlight := rest }
          lastGeneration := snapshot.generation
          switch := { system.switch with status } } := by
  refine ⟨acceptedStatus library now
    (if snapshot.switchName = "" then switchName else snapshot.switchName)
    snapshot.generation neighbors system.switch,
    acceptedStatus_reports _ _ _ _ _, ?_⟩
  simp only [receiveSnapshot, handleSnapshot, if_neg newer, accepted,
    mutateSwitchStatus_succeeds, getD_some]

lemma receiveSnapshot_of_rejected (nodes : List String) (now : Int) (stream : Stream)
    (rest : List LldpNeighborSnapshot) (newer : ¬ snapshot.generation ≤ system.lastGeneration)
    (rejected : snapshotNeighbors runtime ignoreSwitchPorts (some nodes) snapshot = .error error) :
    receiveSnapshot library runtime ignoreSwitchPorts switchName nodes now
        system stream snapshot rest = endStream library error now system stream := by
  simp only [receiveSnapshot, handleSnapshot, if_neg newer, rejected, getD_some, endStream]

/-! ## Streams since the last disconnect -/

/-- A stream carries increasing generations up to the last one sent. -/
structure Stream.Increasing (stream : Stream) : Prop where
  ordered : stream.inFlight.Pairwise fun earlier later => earlier.generation < later.generation
  sent : ∀ snapshot ∈ stream.inFlight, snapshot.generation ≤ stream.handler.lastGeneration

/--
While the Switch is healthy everything under way is newer than the last
accepted snapshot: either nothing was accepted before, or it was accepted from
this stream.  A stream which ends marks the Switch, so that the invariant asks
nothing of the next one.
-/
structure System.Consistent (system : System) : Prop where
  increasing : ∀ stream, system.stream = some stream → stream.Increasing
  newer : system.switch.status.healthy = true → ∀ stream, system.stream = some stream →
      system.lastGeneration ≤ stream.handler.lastGeneration ∧
        ∀ snapshot ∈ stream.inFlight, snapshot.generation ≠ 0 →
          system.lastGeneration < snapshot.generation
  unused : system.switch.status.healthy = true → system.stream = none → system.lastGeneration = 0

lemma consistent_start (switch : SwitchObject) : (System.start switch).Consistent where
  increasing := fun _ opened => nomatch opened
  newer := fun _ _ opened => nomatch opened
  unused := fun _ _ => rfl

/-- Without a stream an unhealthy Switch leaves nothing to show. -/
lemma consistent_of_unhealthy {system : System} (closed : system.stream = none)
    (unhealthy : system.switch.status.healthy = false) :
    system.Consistent where
  increasing := fun _ opened => by
    rw [closed] at opened
    cases opened
  newer := fun healthy => by
    rw [unhealthy] at healthy
    cases healthy
  unused := fun healthy => by
    rw [unhealthy] at healthy
    cases healthy

lemma consistent_endStream (error : SubscriptionError) (now : Int) (system : System)
    (stream : Stream) : (endStream library error now system stream).Consistent :=
  consistent_of_unhealthy rfl (disconnectedSwitch_unhealthy error now _)

lemma consistent_openStream {system : System} (consistent : system.Consistent)
    (closed : system.stream = none) (now : Int) : (openStream library now system).Consistent := by
  cases ready : system.agent.currentSnapshot with
  | none =>
    simp only [openStream, watchLLDPNeighbors, Agent.subscribe, ready]
    exact consistent_of_unhealthy closed (disconnectedSwitch_unhealthy _ now _)
  | some snapshot =>
    simp only [openStream, watchLLDPNeighbors, Agent.subscribe, ready]
    refine ⟨?_, ?_, fun _ isClosed => nomatch isClosed⟩
    · rintro stream ⟨⟩
      exact ⟨List.pairwise_singleton _ _, by simp⟩
    · rintro healthy stream ⟨⟩
      have fresh : system.lastGeneration = 0 := consistent.unused healthy closed
      simp only [List.mem_singleton, forall_eq, fresh]
      exact ⟨UInt64.zero_le, fun nonzero =>
        UInt64.pos_iff_ne_zero.2 nonzero⟩

lemma forwardUpdate_eq_some (forwarded : forwardUpdate agent handler = some (after, next, sent)) :
    (sent = none ∧ next = handler) ∨ ∃ snapshot, sent = some snapshot ∧
        handler.lastGeneration < snapshot.generation ∧
        next.lastGeneration = snapshot.generation := by
  simp only [forwardUpdate] at forwarded
  split at forwarded
  · cases forwarded
  · split_ifs at forwarded with old
    · cases forwarded
      exact .inl ⟨rfl, rfl⟩
    · cases forwarded
      exact .inr ⟨_, rfl, UInt64.not_le.1 old, rfl⟩

lemma Stream.Increasing.send {stream : Stream} (increasing : stream.Increasing)
    (newer : stream.handler.lastGeneration < snapshot.generation) {handler : WatchHandler}
    (last : handler.lastGeneration = snapshot.generation) :
    Stream.Increasing
      { stream with
        handler, inFlight := stream.inFlight ++ [snapshot] } where
  ordered := by
    rw [List.pairwise_append]
    refine ⟨increasing.ordered, List.pairwise_singleton _ _, ?_⟩
    intro earlier listed later isLast
    rw [List.mem_singleton.1 isLast]
    exact UInt64.lt_of_le_of_lt (increasing.sent earlier listed) newer
  sent := by
    intro sent listed
    rw [last]
    rcases List.mem_append.1 listed with earlier | isLast
    · exact UInt64.le_of_lt (UInt64.lt_of_le_of_lt (increasing.sent sent earlier) newer)
    · rw [List.mem_singleton.1 isLast]
      exact UInt64.le_refl _

lemma consistent_forwardStream {system next : System} {stream : Stream}
    (consistent : system.Consistent) (opened : system.stream = some stream)
    (forwarded : forwardStream system stream = some next) : next.Consistent := by
  simp only [forwardStream] at forwarded
  split_ifs at forwarded
  obtain ⟨⟨agent, handler, sent⟩, taken, rfl⟩ := map_eq_some_iff.1 forwarded
  have increasing := consistent.increasing stream opened
  rcases forwardUpdate_eq_some taken with ⟨rfl, rfl⟩ | ⟨snapshot, rfl, newer, last⟩
  · refine ⟨?_, ?_, fun _ isClosed => nomatch isClosed⟩
    · rintro _ ⟨⟩
      simpa using increasing
    · rintro healthy _ ⟨⟩
      simpa using consistent.newer healthy stream opened
  · refine ⟨?_, ?_, fun _ isClosed => nomatch isClosed⟩
    · rintro _ ⟨⟩
      exact increasing.send newer last
    · rintro healthy _ ⟨⟩
      obtain ⟨known, under⟩ := consistent.newer healthy stream opened
      have later : system.lastGeneration < snapshot.generation := UInt64.lt_of_le_of_lt known newer
      refine ⟨?_, ?_⟩
      · show system.lastGeneration ≤ handler.lastGeneration
        rw [last]
        exact UInt64.le_of_lt later
      · exact forall_mem_concat under fun nonzero => later

lemma Stream.Increasing.tail {stream : Stream} (increasing : stream.Increasing)
    (waiting : stream.inFlight = snapshot :: rest) :
    Stream.Increasing { stream with inFlight := rest } ∧
      ∀ later ∈ rest, snapshot.generation < later.generation := by
  have ordered := increasing.ordered
  rw [waiting, List.pairwise_cons] at ordered
  refine ⟨⟨ordered.2, ?_⟩, ordered.1⟩
  intro later listed
  exact increasing.sent later (waiting ▸ List.mem_cons_of_mem snapshot listed)

lemma consistent_receiveSnapshot (consistent : system.Consistent)
    (opened : system.stream = some stream) {rest : List LldpNeighborSnapshot}
    (waiting : stream.inFlight = snapshot :: rest) (nodes : List String) (now : Int) :
    (receiveSnapshot library runtime ignoreSwitchPorts switchName nodes
      now system stream snapshot rest).Consistent := by
  have increasing := consistent.increasing stream opened
  obtain ⟨left, later⟩ := increasing.tail waiting
  by_cases stale : snapshot.generation ≤ system.lastGeneration
  · rw [receiveSnapshot_of_stale nodes now stream rest stale]
    refine ⟨?_, ?_, fun _ isClosed => nomatch isClosed⟩
    · rintro _ ⟨⟩
      exact left
    · rintro healthy _ ⟨⟩
      obtain ⟨known, under⟩ := consistent.newer healthy stream opened
      refine ⟨known, fun sent listed => under sent ?_⟩
      rw [waiting]
      exact List.mem_cons_of_mem snapshot listed
  · cases outcome : snapshotNeighbors runtime ignoreSwitchPorts (some nodes) snapshot with
    | error error =>
      rw [receiveSnapshot_of_rejected nodes now stream rest stale outcome]
      exact consistent_endStream error now system stream
    | ok neighbors =>
      rcases receiveSnapshot_of_accepted nodes now stream rest stale
        outcome with ⟨status, _, received⟩
      rw [received]
      refine ⟨?_, ?_, fun _ isClosed => nomatch isClosed⟩
      · rintro _ ⟨⟩
        exact left
      · rintro _ _ ⟨⟩
        refine ⟨increasing.sent snapshot ?_, fun sent listed _ =>
          later sent listed⟩
        rw [waiting]
        exact .head _

lemma System.Consistent.ofAgent {system : System} (consistent : system.Consistent) (agent : Agent) :
    { system with agent }.Consistent where
  increasing := consistent.increasing
  newer := consistent.newer
  unused := consistent.unused

lemma consistent_systemStep (system : System) (event : Event)
    (next : System) (consistent : system.Consistent)
    (stepped : systemStep library runtime ignoreSwitchPorts switchName system event = some next) :
    next.Consistent := by
  cases event with
  | refresh collected =>
    cases stepped
    exact consistent.ofAgent _
  | restart =>
    cases stepped
    refine ⟨?_, ?_, ?_⟩
    · intro stream opened
      obtain ⟨before, was, rfl⟩ := map_eq_some_iff.1 opened
      exact ⟨(consistent.increasing before was).ordered, (consistent.increasing before was).sent⟩
    · intro healthy stream opened
      obtain ⟨before, was, rfl⟩ := map_eq_some_iff.1 opened
      exact consistent.newer healthy before was
    · intro healthy closed
      exact consistent.unused healthy (map_eq_none_iff.1 closed)
  | connect now =>
    simp only [systemStep] at stepped
    split at stepped
    · cases stepped
    · rename_i closed
      cases stepped
      exact consistent_openStream consistent closed now
  | forward =>
    obtain ⟨stream, opened, forwarded⟩ := bind_eq_some_iff.1 stepped
    exact consistent_forwardStream consistent opened forwarded
  | deliver nodes now =>
    simp only [systemStep] at stepped
    split at stepped
    · cases stepped
    · rename_i stream opened
      split at stepped
      · cases stepped
      · rename_i snapshot rest waiting
        cases stepped
        exact consistent_receiveSnapshot consistent opened waiting nodes now
  | fail error now =>
    obtain ⟨stream, _, rfl⟩ := map_eq_some_iff.1 stepped
    exact consistent_endStream error now system stream

end

/-! ## Deliveries after a reconnect -/

/-- A Switch which was never connected. -/
def unconnectedSwitch : SwitchObject :=
  { generation := 1
    status :=
      { hostname := ""
        healthy := false
        conditions := []
        lldpNeighborCount := 0
        lldpNeighbors := [] } }

/-- What a switch with one link to a peer collects. -/
def oneLink (peer : String) : Collected :=
  { switchName := "leaf", lldpNeighbors := [⟨"leaf", "p1", peer, "q1"⟩] }

/--
After the delivery of a snapshot with acceptable neighbours the status reports
them exactly if the snapshot is newer than everything the subscription
accepted before, on any of its streams.  Generation zero only follows an
overflow of the agent's counter.
-/
theorem delivery_reports_iff_newer (library : StatusLibrary)
    (runtime : Runtime) (ignoreSwitchPorts : List String)
    (switchName : String) (switch : SwitchObject) (events : List Event)
    {system after : System}
    (reached : runEvents (systemStep library runtime ignoreSwitchPorts switchName)
        (System.start switch) events = some system)
    {stream : Stream} (opened : system.stream = some stream)
    {snapshot : LldpNeighborSnapshot} {rest : List LldpNeighborSnapshot}
    (waiting : stream.inFlight = snapshot :: rest)
    (numbered : snapshot.generation ≠ 0) (nodes : List String) (now : Int)
    {neighbors : List SwitchNeighbor}
    (accepted : normalizeSnapshotNeighbors runtime snapshot ignoreSwitchPorts
        (kubernetesNodeNames nodes).1 (kubernetesNodeNames nodes).2 = .ok neighbors)
    (delivered : systemStep library runtime ignoreSwitchPorts switchName system
        (.deliver nodes now) = some after) :
    Reports after.switch.status neighbors ↔ system.lastGeneration < snapshot.generation := by
  have consistent : system.Consistent :=
    runEvents_invariant System.Consistent consistent_systemStep (consistent_start switch) reached
  have received : after = receiveSnapshot library runtime ignoreSwitchPorts switchName nodes
        now system stream snapshot rest := by
    simp only [systemStep, opened, waiting, Option.some.injEq] at delivered
    exact delivered.symm
  constructor
  · intro reports
    by_contra old
    have stale : snapshot.generation ≤ system.lastGeneration := UInt64.not_lt.mp old
    rw [received, receiveSnapshot_of_stale nodes now stream rest stale] at reports
    refine old ((consistent.newer reports.healthy stream opened).2 snapshot ?_ numbered)
    rw [waiting]
    exact .head _
  · intro newer
    rcases receiveSnapshot_of_accepted nodes now stream rest
      (UInt64.not_le.mpr newer) accepted with ⟨status, reports, equal⟩
    rw [received, equal]
    exact reports

/-- A new snapshot is delivered on the stream after a broken one. -/
theorem delivery_reports_iff_newer_second_stream :
    let step := systemStep .structural .canonical [] "leaf"
    let events : List Event := [.refresh (some (oneLink "spine")), .connect 0, .deliver [] 1,
      .fail ⟨.unavailable, "connection reset"⟩ 2, .refresh (some (oneLink "other")), .connect 3]
    ∃ system stream after neighbors,
      runEvents step (System.start unconnectedSwitch) events = some system ∧
        system.lastGeneration = 1 ∧ system.stream = some stream ∧
        step system (.deliver [] 4) = some after ∧
        (Reports after.switch.status neighbors ↔ system.lastGeneration < 2) := by
  intro step events
  have ran : (runEvents step (System.start unconnectedSwitch) events).map (fun system =>
      (system.lastGeneration, system.stream.map Stream.inFlight)) =
      some (1, some [collectSnapshot (oneLink "other") 2]) := by
    decide +kernel
  obtain ⟨system, reached, seen⟩ := Option.map_eq_some_iff.mp ran
  obtain ⟨last, streamed⟩ := Prod.mk.injEq .. ▸ seen
  obtain ⟨stream, opened, waiting⟩ := Option.map_eq_some_iff.mp streamed
  obtain ⟨neighbors, accepted⟩ : ∃ neighbors, normalizeSnapshotNeighbors .canonical
        (collectSnapshot (oneLink "other") 2) [] (kubernetesNodeNames []).1
        (kubernetesNodeNames []).2 = .ok neighbors := by
    decide +kernel
  have delivered : step system (.deliver [] 4) = some (receiveSnapshot .structural .canonical []
      "leaf" [] 4 system stream (collectSnapshot (oneLink "other") 2) []) := by
    simp only [step, systemStep, opened, waiting]
  exact ⟨system, stream, _, neighbors, reached, last, opened, delivered,
    delivery_reports_iff_newer .structural .canonical [] "leaf" unconnectedSwitch _ reached opened
      waiting (by decide) [] 4 accepted delivered⟩

/-- What is seen of a run: the state of the Switch and the generations. -/
def observed (system : System) : Bool × Option ConditionStatus × List String × UInt64 ×
      Option UInt64 :=
  (system.switch.status.healthy, (findStatusCondition system.switch.status.conditions
      "Connected").map Condition.status,
    system.switch.status.lldpNeighbors.map SwitchNeighbor.remoteSystemName,
    system.lastGeneration,
    system.agent.currentSnapshot.map LldpNeighborSnapshot.generation)

/--
A stream breaks and the same snapshot is delivered on the next one: it is
ignored, and the Switch stays disconnected.  After a restart of the agent its
first snapshot is ignored as well, and the Switch keeps the old neighbours.
-/
theorem reconnect_ignores_current_snapshot :
    let run := runEvents (systemStep .structural .canonical [] "leaf")
      (System.start unconnectedSwitch)
    (run [.refresh (some (oneLink "spine")), .connect 0, .deliver [] 1,
        .fail ⟨.unavailable, "connection reset"⟩ 2, .connect 3, .deliver [] 4]).map observed =
      some (false, some .isFalse, ["spine"], 1, some 1) ∧
    (run [.refresh (some (oneLink "spine")), .connect 0, .deliver [] 1,
        .restart, .refresh (some (oneLink "other")),
        .fail ⟨.unavailable, "connection reset"⟩ 2, .connect 3, .deliver [] 4]).map observed =
      some (false, some .isFalse, ["spine"], 1, some 1) ∧
    (normalizeSnapshotNeighbors .canonical (collectSnapshot (oneLink "other") 1) []
        (kubernetesNodeNames []).1 (kubernetesNodeNames []).2).toOption =
      some [⟨some .switch, "other", 1⟩] := by
  refine ⟨?_, ?_, ?_⟩
  · decide +kernel
  · decide +kernel
  · decide +kernel

end Unifabric.SwitchTopology
