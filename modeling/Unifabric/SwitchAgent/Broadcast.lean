import Unifabric.Lib.Transition
import Unifabric.SwitchAgent.Agent

/-!
# The broadcast of the agent, step by step

One goroutine refreshes the snapshot and any number of streams subscribe,
receive, send and unsubscribe.  The refresher holds the lock while it sends,
and the streams take from their channels without it.
-/

namespace Unifabric.SwitchAgent

open Lib List Option

/-! ## Streams -/

/-- Where the handler of a stream is. -/
inductive StreamPhase where
  /-- Subscribed, with the snapshot `subscribe` returned. -/
  | starting (snapshot : Option LldpNeighborSnapshot)
  /-- In the `select` of its loop. -/
  | waiting
  /-- With a snapshot from its channel. -/
  | received (snapshot : LldpNeighborSnapshot)
  /-- Returning, with `unsubscribe` still to run. -/
  | leaving
  | left
  deriving DecidableEq, Repr

/-- The snapshot a handler holds. -/
def StreamPhase.held : StreamPhase → Option LldpNeighborSnapshot
  | .starting snapshot => snapshot
  | .received snapshot => some snapshot
  | _ => none

/-- Whether a handler still forwards snapshots. -/
def StreamPhase.isActive : StreamPhase → Bool
  | .leaving => false
  | .left => false
  | _ => true

/-- A stream with its channel of capacity one and what it has sent. -/
structure WatchStream where
  id : Nat
  phase : StreamPhase
  buffer : Option LldpNeighborSnapshot
  closed : Bool
  lastGeneration : UInt64
  sent : List LldpNeighborSnapshot
  deriving DecidableEq, Repr

/-- The steps of a handler between `subscribe` and `unsubscribe`. -/
inductive StreamEvent where
  /-- Send the first snapshot; the argument is whether the send succeeds. -/
  | sendFirst (succeeds : Bool)
  | contextDone
  | receive
  | forward (succeeds : Bool)
  deriving DecidableEq, Repr

/-- A send by a handler, which ends the handler if it fails. -/
def WatchStream.send (stream : WatchStream) (snapshot : LldpNeighborSnapshot)
    (succeeds : Bool) : WatchStream :=
  if succeeds then
    { stream with
      phase := .waiting
      lastGeneration := snapshot.generation
      sent := stream.sent ++ [snapshot] }
  else { stream with phase := .leaving }

/-- One step of a handler. -/
def streamStep (stream : WatchStream) : StreamEvent → Option WatchStream
  | .sendFirst succeeds =>
    match stream.phase with
    | .starting none => some { stream with phase := .leaving }
    | .starting (some snapshot) => some (stream.send snapshot succeeds)
    | _ => none
  | .contextDone =>
    match stream.phase with
    | .waiting => some { stream with phase := .leaving }
    | _ => none
  | .receive =>
    match stream.phase, stream.buffer with
    | .waiting, some snapshot =>
      some { stream with phase := .received snapshot, buffer := none }
    | _, _ => none
  | .forward succeeds =>
    match stream.phase with
    | .received snapshot =>
      if snapshot.generation ≤ stream.lastGeneration then
        some { stream with phase := .waiting }
      else some (stream.send snapshot succeeds)
    | _ => none

/-! ## The refresher -/

/-- Where `refreshSnapshot` is; the channels are given by their streams. -/
inductive RefresherPhase where
  | idle
  /-- After the read lock, with the generation of the next snapshot. -/
  | collecting (generation : UInt64)
  /-- Waiting for the lock. -/
  | collected (snapshot : LldpNeighborSnapshot)
  /-- At the first `select` of the loop, with the channels to go. -/
  | sending (snapshot : LldpNeighborSnapshot) (rest : List Nat)
  /-- In the default branch, before the channel is drained. -/
  | full (snapshot : LldpNeighborSnapshot) (channel : Nat) (rest : List Nat)
  /-- Before the send which has no default. -/
  | drained (snapshot : LldpNeighborSnapshot) (channel : Nat) (rest : List Nat)
  deriving DecidableEq, Repr

/-- The channels which the loop has still to send to. -/
def RefresherPhase.pending : RefresherPhase → List Nat
  | .sending _ rest => rest
  | .full _ channel rest => channel :: rest
  | .drained _ channel rest => channel :: rest
  | _ => []

/-- Whether the refresher holds the lock. -/
def RefresherPhase.locks : RefresherPhase → Bool
  | .sending _ _ => true
  | .full _ _ _ => true
  | .drained _ _ _ => true
  | _ => false

/-- The agent with its refresher and its streams. -/
structure Broadcast where
  currentSnapshot : Option LldpNeighborSnapshot
  subscribers : GoMap Nat Nat
  nextSubscriber : Nat
  refresher : RefresherPhase
  streams : GoMap Nat WatchStream
  /-- How many streams were opened. -/
  opened : Nat
  /-- How many times the snapshot was replaced. -/
  changes : Nat

/-- A process which has not collected anything yet. -/
def Broadcast.new : Broadcast where
  currentSnapshot := none
  subscribers := ∅
  nextSubscriber := 0
  refresher := .idle
  streams := ∅
  opened := 0
  changes := 0

/-- The steps of the refresher, of the lock and of the streams. -/
inductive BroadcastEvent where
  | readCurrent
  /-- The collection ends; without an argument it failed. -/
  | collect (collected : Option Collected)
  /-- Take the lock, and range over the channels in an order. -/
  | acquire (order : List Nat)
  | trySend
  | drain
  | blockingSend
  | release
  | subscribe
  | unsubscribe (index : Nat)
  | stream (index : Nat) (event : StreamEvent)
  deriving DecidableEq, Repr

/-- The values of an `int` as bit patterns. -/
def intRange : Nat := 2 ^ 64

section

variable (state : Broadcast)

/-- The state with another stream. -/
def Broadcast.setStream (index : Nat) (stream : WatchStream) : Broadcast :=
  { state with streams := state.streams.insert index stream }

/-- Put a snapshot in an open channel with room and go on with the others. -/
def Broadcast.put (snapshot : LldpNeighborSnapshot)
    (channel : Nat) (rest : List Nat) (stream : WatchStream) : Broadcast :=
  { state.setStream channel { stream with buffer := some snapshot } with
    refresher := .sending snapshot rest }

/-- The handler of a stream right after `subscribe`. -/
def Broadcast.newStream : WatchStream where
  id := state.nextSubscriber
  phase := .starting state.currentSnapshot
  buffer := none
  closed := false
  lastGeneration := 0
  sent := []

/-- `subscribe`, by a new stream. -/
def Broadcast.subscribe : Broadcast :=
  { state with
    subscribers := state.subscribers.insert state.nextSubscriber state.opened
    nextSubscriber := (state.nextSubscriber + 1) % intRange
    streams := state.streams.insert state.opened state.newStream
    opened := state.opened + 1 }

/-- Close a channel. -/
def Broadcast.close (channel : Nat) : Broadcast :=
  match state.streams[channel]? with
  | none => state
  | some stream => state.setStream channel { stream with closed := true }

/-- `unsubscribe`, by a stream which is leaving. -/
def Broadcast.unsubscribe (index : Nat) (stream : WatchStream) : Broadcast :=
  let left := state.setStream index { stream with phase := .left }
  match state.subscribers[stream.id]? with
  | none => left
  | some channel =>
    { left.close channel with subscribers := state.subscribers.erase stream.id }

/-- One step.  A send on a full channel blocks and one on a closed panics. -/
def broadcastStep : BroadcastEvent → Option Broadcast
  | .readCurrent =>
    match state.refresher with
    | .idle =>
      some
        { state with
          refresher := .collecting (match state.currentSnapshot with
              | none => 1
              | some current => current.generation + 1) }
    | _ => none
  | .collect collected =>
    match state.refresher, collected with
    | .collecting _, none => some { state with refresher := .idle }
    | .collecting generation, some collected =>
      some { state with
        refresher := .collected (collectSnapshot collected generation) }
    | _, _ => none
  | .acquire order =>
    match state.refresher with
    | .collected snapshot =>
      if snapshotsEqual state.currentSnapshot snapshot then
        some { state with refresher := .idle }
      else if order.Perm (GoMap.entries state.subscribers) then
        some
          { state with
            currentSnapshot := some snapshot
            refresher := .sending snapshot order
            changes := state.changes + 1 }
      else none
    | _ => none
  | .trySend =>
    match state.refresher with
    | .sending snapshot (channel :: rest) =>
      match state.streams[channel]? with
      | none => none
      | some stream =>
        if stream.closed then none
        else if stream.buffer = none then
          some (state.put snapshot channel rest stream)
        else some { state with refresher := .full snapshot channel rest }
    | _ => none
  | .drain =>
    match state.refresher with
    | .full snapshot channel rest =>
      match state.streams[channel]? with
      | none => none
      | some stream =>
        some
          { state.setStream channel { stream with buffer := none } with
            refresher := .drained snapshot channel rest }
    | _ => none
  | .blockingSend =>
    match state.refresher with
    | .drained snapshot channel rest =>
      match state.streams[channel]? with
      | none => none
      | some stream =>
        if stream.closed ∨ stream.buffer ≠ none then none
        else some (state.put snapshot channel rest stream)
    | _ => none
  | .release =>
    match state.refresher with
    | .sending _ [] => some { state with refresher := .idle }
    | _ => none
  | .subscribe => if state.refresher.locks then none else some state.subscribe
  | .unsubscribe index =>
    match state.streams[index]? with
    | none => none
    | some stream =>
      if state.refresher.locks ∨ stream.phase ≠ .leaving then none
      else some (state.unsubscribe index stream)
  | .stream index event =>
    match state.streams[index]? with
    | none => none
    | some stream => (streamStep stream event).map (state.setStream index)

end

/-! ## What a stream has seen -/

/-- The number of a snapshot. -/
def LldpNeighborSnapshot.number (snapshot : LldpNeighborSnapshot) : Nat :=
  snapshot.generation.toNat

/-- What a stream has sent, holds and finds in its channel, in this order. -/
def WatchStream.pipeline (stream : WatchStream) : List LldpNeighborSnapshot :=
  stream.sent ++ stream.phase.held.toList ++ stream.buffer.toList

/--
The snapshots of a stream are numbered in order and none is newer than the
current one.  The newest is the current one unless the loop of the refresher
has still to come to the stream, and then all are older.
-/
structure StreamOk (current : Option LldpNeighborSnapshot) (pending : Prop)
    (stream : WatchStream) : Prop where
  increasing : stream.pipeline.Pairwise fun left right => left.number < right.number
  bounded : ∀ snapshot ∈ stream.pipeline, ∃ newest,
    current = some newest ∧ snapshot.number ≤ newest.number
  behind : pending → ∀ snapshot ∈ stream.pipeline, ∃ newest,
    current = some newest ∧ snapshot.number < newest.number
  latest : ¬ pending → stream.phase.isActive = true → stream.pipeline.getLast? =
    current
  last : stream.phase = .waiting ∨ (∃ snapshot, stream.phase = .received snapshot) →
    ∃ snapshot, stream.sent.getLast? = some snapshot ∧ snapshot.generation =
      stream.lastGeneration

section

variable {current : Option LldpNeighborSnapshot} {pending : Prop}
  {stream next : WatchStream}

section

variable (ok : StreamOk current pending stream)

include ok

lemma StreamOk.keep (same : next.pipeline = stream.pipeline)
    (active : next.phase.isActive = true → stream.phase.isActive = true)
    (last : next.phase = .waiting ∨ (∃ snapshot, next.phase = .received snapshot) →
      ∃ snapshot, next.sent.getLast? = some snapshot ∧ snapshot.generation =
        next.lastGeneration) :
    StreamOk current pending next where
  increasing := same ▸ ok.increasing
  bounded := same ▸ ok.bounded
  behind := same ▸ ok.behind
  latest notPending isActive := same ▸ ok.latest notPending (active isActive)
  last := last

lemma StreamOk.drop
    (fewer : next.pipeline.Sublist stream.pipeline)
    (inactive : next.phase.isActive = false) :
    StreamOk current pending next where
  increasing := ok.increasing.sublist fewer
  bounded snapshot among := ok.bounded snapshot (fewer.subset among)
  behind isPending snapshot among :=
    ok.behind isPending snapshot (fewer.subset among)
  latest _ isActive := by
    rw [inactive] at isActive
    cases isActive
  last phase := by
    rcases phase with phase | ⟨snapshot, phase⟩ <;>
      · rw [phase] at inactive
        cases inactive

lemma StreamOk.newer (phase : stream.phase = .received snapshot) :
    ¬ snapshot.generation ≤ stream.lastGeneration := by
  obtain ⟨sent, isLast, isGeneration⟩ := ok.last (.inr ⟨snapshot, phase⟩)
  have ordered := ok.increasing
  rw [WatchStream.pipeline, phase, append_assoc, pairwise_append] at ordered
  have newer := ordered.2.2 sent (mem_of_getLast? isLast) snapshot
    (by simp [StreamPhase.held])
  rw [← isGeneration, UInt64.not_le, UInt64.lt_iff_toNat_lt]
  exact newer

end

/-- A snapshot put in the empty channel of a stream which is behind. -/
lemma StreamOk.put {done : Prop} (ok : StreamOk (some snapshot) pending stream)
    (isPending : pending) (isDone : ¬ done) (empty : stream.buffer = none) :
    StreamOk (some snapshot) done { stream with buffer := some snapshot } := by
  have longer : ({ stream with buffer := some snapshot } :
      WatchStream).pipeline = stream.pipeline ++ [snapshot] := by
    simp [WatchStream.pipeline, empty]
  constructor
  case increasing =>
    rw [longer, pairwise_append]
    refine ⟨ok.increasing, pairwise_singleton _ _, ?_⟩
    intro older among newest isNewest
    obtain ⟨current, isCurrent, less⟩ := ok.behind isPending older among
    rw [mem_singleton.1 isNewest, some.inj isCurrent]
    exact less
  case bounded =>
    intro other among
    rw [longer] at among
    rcases mem_append.1 among with older | isLast
    · exact ok.bounded other older
    · rw [mem_singleton.1 isLast]
      exact ⟨snapshot, rfl, le_refl _⟩
  case behind => exact fun stillPending => absurd stillPending isDone
  case latest =>
    intro _ _
    rw [longer, getLast?_concat]
  case last => exact ok.last

lemma StreamOk.drain (ok : StreamOk current pending stream) (isPending : pending) :
    StreamOk current pending { stream with buffer := none } := by
  have fewer :
      ({ stream with buffer := none } : WatchStream).pipeline.Sublist stream.pipeline := by
    simp only [WatchStream.pipeline, toList_none, append_nil]
    exact sublist_append_left _ _
  constructor
  case increasing => exact ok.increasing.sublist fewer
  case bounded => exact fun other among => ok.bounded other (fewer.subset among)
  case behind =>
    exact fun _ other among => ok.behind isPending other (fewer.subset among)
  case latest => exact fun notPending => absurd isPending notPending
  case last => exact ok.last

lemma WatchStream.pipeline_send (held : stream.phase.held = some snapshot) :
    (stream.send snapshot true).pipeline = stream.pipeline := by
  rw [WatchStream.pipeline, WatchStream.pipeline, held]
  simp [WatchStream.send, StreamPhase.held]

lemma WatchStream.pipeline_leave (stream : WatchStream) :
    ({ stream with phase := .leaving } : WatchStream).pipeline.Sublist
      stream.pipeline := by
  simp only [WatchStream.pipeline, StreamPhase.held, toList_none, append_nil]
  exact (sublist_append_left _ _).append_right _

lemma StreamOk.send (ok : StreamOk current pending stream)
    (held : stream.phase.held = some snapshot)
    (active : stream.phase.isActive = true)
    (succeeds : Bool) : StreamOk current pending (stream.send snapshot succeeds) := by
  cases succeeds with
  | false => exact ok.drop (stream.pipeline_leave) rfl
  | true =>
    refine ok.keep (WatchStream.pipeline_send held) (fun _ => active) ?_
    intro _
    exact ⟨snapshot, by simp [WatchStream.send], rfl⟩

/-- What a step of a handler can do. -/
inductive StreamMove (stream : WatchStream) : WatchStream → Prop
  | leave (active : stream.phase.isActive = true) :
      StreamMove stream { stream with phase := .leaving }
  | send {snapshot : LldpNeighborSnapshot}
      (held : stream.phase.held = some snapshot)
      (active : stream.phase.isActive = true) (succeeds : Bool) :
      StreamMove stream (stream.send snapshot succeeds)
  | receive {snapshot : LldpNeighborSnapshot} (phase : stream.phase = .waiting)
      (buffered : stream.buffer = some snapshot) :
      StreamMove stream { stream with phase := .received snapshot, buffer := none }
  | skip {snapshot : LldpNeighborSnapshot}
      (phase : stream.phase = .received snapshot)
      (old : snapshot.generation ≤ stream.lastGeneration) :
      StreamMove stream { stream with phase := .waiting }

lemma streamStep_moves (stepped : streamStep stream event = some next) :
    StreamMove stream next := by
  cases event with
  | sendFirst succeeds =>
    simp only [streamStep] at stepped
    split at stepped
    · next phase =>
      cases stepped
      exact .leave (by rw [phase]; rfl)
    · next snapshot phase =>
      cases stepped
      exact .send (by rw [phase]; rfl) (by rw [phase]; rfl) succeeds
    · cases stepped
  | contextDone =>
    simp only [streamStep] at stepped
    split at stepped
    · next phase =>
      cases stepped
      exact .leave (by rw [phase]; rfl)
    · cases stepped
  | receive =>
    simp only [streamStep] at stepped
    split at stepped
    · next snapshot phase buffered =>
      cases stepped
      exact .receive phase buffered
    · cases stepped
  | forward succeeds =>
    simp only [streamStep] at stepped
    split at stepped
    · next snapshot phase =>
      split_ifs at stepped with old
      · cases stepped
        exact .skip phase old
      · cases stepped
        exact .send (by rw [phase]; rfl) (by rw [phase]; rfl) succeeds
    · cases stepped

lemma StreamMove.ok (ok : StreamOk current pending stream)
    (move : StreamMove stream next) : StreamOk current pending next := by
  cases move with
  | leave active => exact ok.drop stream.pipeline_leave rfl
  | send held active succeeds => exact ok.send held active succeeds
  | receive phase buffered =>
    refine ok.keep ?_ (fun _ => by rw [phase]; rfl) fun _ => ok.last (.inl phase)
    simp [WatchStream.pipeline, phase, buffered, StreamPhase.held]
  | skip phase old => exact absurd old (ok.newer phase)

lemma StreamMove.keeps (move : StreamMove stream next) :
    next.id = stream.id ∧ next.closed = stream.closed ∧ stream.phase ≠ .left ∧
      next.phase ≠ .left ∧
      (stream.buffer = none → next.buffer = none) := by
  have notLeft : stream.phase.isActive = true → stream.phase ≠ .left := by
    intro active isLeft
    rw [isLeft] at active
    cases active
  cases move with
  | leave active => exact ⟨rfl, rfl, notLeft active, by simp, id⟩
  | send held active succeeds =>
    cases succeeds <;> exact
      ⟨rfl, rfl, notLeft active, by simp [WatchStream.send], id⟩
  | receive phase buffered => simp [phase]
  | skip phase old => simp [phase]

end

end Unifabric.SwitchAgent
