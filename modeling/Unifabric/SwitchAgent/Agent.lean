import Unifabric.Lib.GoMap

/-!
# The switch agent

The agent of a switch numbers its LLDP snapshots and streams them to its
subscribers.  Every subscriber has a channel of capacity one which holds the
newest snapshot it has not taken yet.
-/

namespace Unifabric.SwitchAgent

open Lib

/-- One neighbour of a snapshot. -/
structure LldpNeighbor where
  localDeviceName : String
  localPort : String
  remoteSystemName : String
  remotePortId : String
  deriving DecidableEq, Repr

/-- A numbered list of neighbours. -/
structure LldpNeighborSnapshot where
  switchName : String
  lldpNeighbors : List LldpNeighbor
  generation : UInt64
  deriving DecidableEq, Repr

/-- What one run of `lldpcli` yields; the agent adds the generation. -/
structure Collected where
  switchName : String
  lldpNeighbors : List LldpNeighbor
  deriving DecidableEq, Repr

/-- `collectSnapshot` on what was collected. -/
def collectSnapshot (collected : Collected) (generation : UInt64) :
    LldpNeighborSnapshot :=
  { switchName := collected.switchName
    lldpNeighbors := collected.lldpNeighbors
    generation := generation }

/-- `snapshotsEqual`: equal up to the generation. -/
def snapshotsEqual (previous : Option LldpNeighborSnapshot) (next : LldpNeighborSnapshot) : Bool :=
  match previous with
  | none => false
  | some previous => { previous with generation := 0 } = { next with generation := 0 }

/-- A channel of capacity one. -/
abbrev Updates := Option LldpNeighborSnapshot

/-- The state of an agent process. -/
structure Agent where
  currentSnapshot : Option LldpNeighborSnapshot
  subscribers : GoMap Nat Updates
  nextSubscriber : Nat

/-- `New`: a process which has not collected anything yet. -/
def Agent.new : Agent := { currentSnapshot := none, subscribers := ∅, nextSubscriber := 0 }

/-- The generation of the next snapshot. -/
def Agent.nextGeneration (agent : Agent) : UInt64 :=
  match agent.currentSnapshot with
  | none => 1
  | some current => current.generation + 1

/-- Put a snapshot in a channel; a full channel is drained first. -/
def offer (snapshot : LldpNeighborSnapshot) : Updates → Updates
  | none => some snapshot
  | some _ => some snapshot

/-- `refreshSnapshot`; without an argument the collection failed. -/
def Agent.refreshSnapshot (runtime : Runtime) (agent : Agent)
    (collected : Option Collected) : Agent :=
  match collected with
  | none => agent
  | some collected =>
    let snapshot := collectSnapshot collected agent.nextGeneration
    if snapshotsEqual agent.currentSnapshot snapshot then agent
    else
      { agent with
        currentSnapshot := some snapshot
        subscribers :=
          (runtime.range ["refreshSnapshot"] agent.subscribers.keys).foldl (fun subscribers id =>
              subscribers.insert id (offer snapshot (subscribers.getD id none)))
            agent.subscribers }

/-- `subscribe`: the current snapshot, the identifier and the new state. -/
def Agent.subscribe (agent : Agent) : Option LldpNeighborSnapshot × Nat × Agent :=
  (agent.currentSnapshot, agent.nextSubscriber,
    { agent with
      subscribers := agent.subscribers.insert agent.nextSubscriber none
      nextSubscriber := agent.nextSubscriber + 1 })

def Agent.unsubscribe (agent : Agent) (id : Nat) : Agent :=
  { agent with subscribers := agent.subscribers.erase id }

/-! ## The stream of one subscriber -/

/-- The handler of a stream: its subscription and the last generation sent. -/
structure WatchHandler where
  subscriptionId : Nat
  lastGeneration : UInt64
  deriving DecidableEq, Repr

/--
The start of `WatchLLDPNeighbors` for a request without an expected name: the
first message, if a snapshot is ready.  Otherwise the call fails.
-/
def watchLLDPNeighbors (agent : Agent) : Agent × Option (WatchHandler × LldpNeighborSnapshot) :=
  let (snapshot, id, subscribed) := agent.subscribe
  match snapshot with
  | none => (subscribed.unsubscribe id, none)
  | some snapshot =>
    (subscribed, some ({ subscriptionId := id, lastGeneration := snapshot.generation }, snapshot))

/--
One round of its loop: take the waiting update and send it if it is newer than
the last one.
-/
def forwardUpdate (agent : Agent) (handler : WatchHandler) :
    Option (Agent × WatchHandler × Option LldpNeighborSnapshot) :=
  match agent.subscribers.getD handler.subscriptionId none with
  | none => none
  | some snapshot =>
    let drained :=
      { agent with
        subscribers :=
          agent.subscribers.insert handler.subscriptionId none }
    if snapshot.generation ≤ handler.lastGeneration then
      some (drained, handler, none)
    else
      some (drained, { handler with lastGeneration := snapshot.generation }, some snapshot)

end Unifabric.SwitchAgent
