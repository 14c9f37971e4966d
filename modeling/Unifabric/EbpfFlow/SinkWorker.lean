import Unifabric.Lib.Transition

/-!
# Sink workers

One storage backend of the send pipeline: a bounded queue, a flush loop which
moves rows into a pending batch, and a connection which is opened lazily.  The
calls of the backend take time, so rows are offered while they are under way.
-/

namespace Unifabric.EbpfFlow

open Lib List

/-! ## The worker -/

/-- The sizes of `sendOptions`; both are at least one. -/
structure SinkOptions where
  queue : Nat
  batch : Nat
  queue_pos : 1 ≤ queue
  batch_pos : 1 ≤ batch

/-- `sinkRetry`, in nanoseconds. -/
def sinkRetry : Int := 30 * 1000000000

/--
Where `run` is.  The flag of a flush says that the channel has been closed and
`run` returns after it.
-/
inductive SinkPhase where
  | starting
  | connecting
  | selecting
  | opening (last : Bool)
  | inserting (last : Bool)
  | returned
  deriving DecidableEq, Repr

/--
A worker, with the number of rows offered to it.  The counters, of 64 bits in
the source, are numbers which do not wrap around.
-/
structure SinkState (Row : Type) where
  queue : List Row
  closed : Bool
  pending : List Row
  phase : SinkPhase
  connected : Bool
  lastAttempt : Option Int
  offered : Nat
  inserted : Nat
  failed : Nat
  dropped : Nat

/-- What happens to a worker, with the time where the loop reads it. -/
inductive SinkEvent (Row : Type) where
  | enqueue (row : Row)
  | close
  | begin (now : Int)
  | opened (succeeded : Bool)
  | receive (now : Int)
  | tick (now : Int)
  | inserted (succeeded : Bool)

section

variable {Row : Type}

def newSinkWorker : SinkState Row :=
  { queue := [], closed := false, pending := [], phase := .starting
    connected := false, lastAttempt := none
    offered := 0, inserted := 0, failed := 0, dropped := 0 }

/-- `time.Since(lastAttempt) < sinkRetry`; the zero time is long ago. -/
def attemptedRecently (now : Int) (lastAttempt : Option Int) : Bool :=
  match lastAttempt with
  | none => false
  | some attempt => now - attempt < sinkRetry

/-- Where `run` is after a flush. -/
def afterFlush (last : Bool) : SinkPhase := if last then .returned else .selecting

namespace SinkState

/-- `enqueue`: the row is queued, or dropped if the queue is full. -/
def enqueue (options : SinkOptions) (state : SinkState Row) (row : Row) : SinkState Row :=
  if state.queue.length < options.queue then
    { state with queue := state.queue ++ [row], offered := state.offered + 1 }
  else
    { state with dropped := state.dropped + 1, offered := state.offered + 1 }

/-- A flush without a connection drops the batch. -/
def dropPending (state : SinkState Row) (last : Bool) : SinkState Row :=
  { state with
    dropped := state.dropped + state.pending.length
    pending := []
    phase := afterFlush last }

/-- `flush`, up to the call of the backend it needs. -/
def flush (state : SinkState Row) (now : Int) (last : Bool) : SinkState Row :=
  if state.pending.length = 0 then { state with phase := afterFlush last }
  else if state.connected then { state with phase := .inserting last }
  else if attemptedRecently now state.lastAttempt then
    state.dropPending last
  else
    { state with lastAttempt := some now, phase := .opening last }

/-- A row has been received. -/
def receive (options : SinkOptions) (state : SinkState Row) (now : Int)
    (row : Row) (rest : List Row) : SinkState Row :=
  let received := { state with queue := rest, pending := state.pending ++ [row] }
  if options.batch ≤ received.pending.length then received.flush now false
  else received

/-- The insert has returned; after an error the connection is given up. -/
def finishInsert (state : SinkState Row) (last succeeded : Bool) : SinkState Row :=
  if succeeded then
    { state with
      inserted := state.inserted + state.pending.length
      pending := []
      phase := afterFlush last }
  else
    { state with
      failed := state.failed + state.pending.length
      connected := false
      pending := []
      phase := afterFlush last }

end SinkState

/--
One step of the worker or of its callers.  A row is not offered after the close
(the send would panic), and the channel is closed once.
-/
def sinkStep (options : SinkOptions) (state : SinkState Row) :
    SinkEvent Row → Option (SinkState Row)
  | .enqueue row => if state.closed then none else some (state.enqueue options row)
  | .close => if state.closed then none else some { state with closed := true }
  | .begin now =>
    match state.phase with
    | .starting =>
      if attemptedRecently now state.lastAttempt then
        some { state with phase := .selecting }
      else
        some { state with lastAttempt := some now, phase := .connecting }
    | _ => none
  | .opened succeeded =>
    match state.phase with
    | .connecting => some { state with connected := succeeded, phase := .selecting }
    | .opening last =>
      if succeeded then
        some { state with connected := true, phase := .inserting last }
      else some (state.dropPending last)
    | _ => none
  | .receive now =>
    match state.phase with
    | .selecting =>
      match state.queue with
      | row :: rest => some (state.receive options now row rest)
      | [] => if state.closed then some (state.flush now true) else none
    | _ => none
  | .tick now =>
    match state.phase with
    | .selecting => some (state.flush now false)
    | _ => none
  | .inserted succeeded =>
    match state.phase with
    | .inserting last => some (state.finishInsert last succeeded)
    | _ => none

end

/-! ## Conservation -/

section

variable {Row : Type} {options : SinkOptions} {state : SinkState Row}

/-- `run` will not receive again. -/
def SinkPhase.leaving : SinkPhase → Bool
  | .opening last => last
  | .inserting last => last
  | .returned => true
  | _ => false

/-- `run` is outside a flush. -/
def SinkPhase.collecting : SinkPhase → Bool
  | .starting | .connecting | .selecting => true
  | _ => false

/-- Every row is counted once, and both stores keep their sizes. -/
structure RowsOk (options : SinkOptions) (state : SinkState Row) : Prop where
  conserved : state.offered = state.inserted + state.failed +
    state.dropped + state.queue.length + state.pending.length
  queue : state.queue.length ≤ options.queue
  pending : state.pending.length ≤ options.batch

/-- The rows of a worker, and what its phase says about them. -/
structure SinkOk (options : SinkOptions) (state : SinkState Row) : Prop
    extends RowsOk options state where
  room : state.phase.collecting = true → state.pending.length < options.batch
  left : state.phase.leaving = true → state.closed = true ∧ state.queue = []
  empty : state.phase = .returned → state.pending = []

lemma sinkOk_newSinkWorker : SinkOk options (newSinkWorker : SinkState Row) where
  conserved := rfl
  queue := Nat.zero_le _
  pending := Nat.zero_le _
  room _ := options.batch_pos
  left leaving := by cases leaving
  empty returned := by cases returned

lemma leaving_afterFlush (last : Bool) : (afterFlush last).leaving = last := by
  cases last with
  | true => rfl
  | false => rfl

section

variable {last : Bool} (ok : RowsOk options state)
  (left : last = true → state.closed = true ∧ state.queue = [])

include ok left

lemma RowsOk.flushed {next : SinkState Row} (phase : next.phase = afterFlush last)
    (pending : next.pending = []) (queue : next.queue = state.queue)
    (closed : next.closed = state.closed) (offered : next.offered = state.offered)
    (counted : next.inserted + next.failed + next.dropped =
      state.inserted + state.failed + state.dropped +
        state.pending.length) : SinkOk options next where
  conserved := by
    rw [offered, queue, pending, ok.conserved, counted, length_nil]
    omega
  queue := by rw [queue]; exact ok.queue
  pending := by rw [pending]; exact Nat.zero_le _
  room _ := by rw [pending]; exact options.batch_pos
  left leaving := by
    rw [phase, leaving_afterFlush] at leaving
    rw [closed, queue]
    exact left leaving
  empty _ := pending

/-- A flush which calls the backend keeps the rows where they are. -/
lemma RowsOk.flushing {phase : SinkPhase}
    (isFlush : phase = .opening last ∨ phase = .inserting last)
    (connected : Bool) (lastAttempt : Option Int) :
    SinkOk options
      { state with
        phase := phase
        connected := connected
        lastAttempt := lastAttempt } where
  toRowsOk := ⟨ok.conserved, ok.queue, ok.pending⟩
  room collecting := by
    rcases isFlush with rfl | rfl
    · cases collecting
    · cases collecting
  left leaving := by
    rcases isFlush with rfl | rfl
    · exact left leaving
    · exact left leaving
  empty returned := by
    rcases isFlush with rfl | rfl
    · cases returned
    · cases returned

lemma RowsOk.dropPending : SinkOk options (state.dropPending last) :=
  ok.flushed left rfl rfl rfl rfl rfl (by
    simp only [SinkState.dropPending]
    omega)

lemma RowsOk.flush (now : Int) : SinkOk options (state.flush now last) := by
  unfold SinkState.flush
  split_ifs with empty connected recent
  · exact ok.flushed left rfl (length_eq_zero_iff.1 empty) rfl rfl rfl (by simp only [empty]; omega)
  · exact ok.flushing left (.inr rfl) _ _
  · exact ok.dropPending left
  · exact ok.flushing left (.inl rfl) _ _

lemma RowsOk.finishInsert (succeeded : Bool) :
    SinkOk options (state.finishInsert last succeeded) := by
  unfold SinkState.finishInsert
  split_ifs
  · exact ok.flushed left rfl rfl rfl rfl rfl (by simp only; omega)
  · exact ok.flushed left rfl rfl rfl rfl rfl (by simp only; omega)

end

variable (ok : SinkOk options state)

include ok

lemma SinkOk.receive (selecting : state.phase = .selecting)
    (now : Int) {row : Row} (queued : state.queue = row :: rest) :
    SinkOk options (state.receive options now row rest) := by
  have room : state.pending.length < options.batch := ok.room (by rw [selecting]; rfl)
  have conserved := ok.conserved
  have bounded := ok.queue
  rw [queued, length_cons] at conserved bounded
  have rows : RowsOk options { state with queue := rest, pending := state.pending ++ [row] } := by
    refine ⟨?_, Nat.le_of_succ_le bounded, ?_⟩
    · simp only [length_append, length_singleton]
      omega
    · rw [length_append, length_singleton]
      exact room
  unfold SinkState.receive
  dsimp only
  split_ifs with full
  · exact rows.flush (fun last => by cases last) now
  · refine ⟨rows, fun _ => Nat.lt_of_not_le full, fun leaving => ?_, fun returned => ?_⟩
    · rw [selecting] at leaving
      cases leaving
    · rw [selecting] at returned
      cases returned

lemma SinkOk.enqueue (isOpen : state.closed = false) (row : Row) :
    SinkOk options (state.enqueue options row) := by
  have conserved := ok.conserved
  have staying : ¬ state.phase.leaving = true := by
    intro leaving
    rw [(ok.left leaving).1] at isOpen
    cases isOpen
  unfold SinkState.enqueue
  split_ifs with space
  · refine ⟨⟨?_, ?_, ok.pending⟩, ok.room, fun leaving => absurd leaving staying, ok.empty⟩
    · simp only [length_append, length_singleton]
      omega
    · rw [length_append, length_singleton]
      exact space
  · refine ⟨⟨?_, ok.queue, ok.pending⟩, ok.room, ok.left, ok.empty⟩
    dsimp only
    omega

lemma SinkOk.collect (before : state.phase.collecting = true)
    (after : phase.collecting = true) (connected : Bool) (lastAttempt : Option Int) :
    SinkOk options
      { state with
        phase := phase
        connected := connected
        lastAttempt := lastAttempt } where
  toRowsOk := ⟨ok.conserved, ok.queue, ok.pending⟩
  room _ := ok.room before
  left leaving := by
    cases phase with
    | starting => cases leaving
    | connecting => cases leaving
    | selecting => cases leaving
    | opening last => cases after
    | inserting last => cases after
    | returned => cases after
  empty returned := by
    dsimp only at returned
    rw [returned] at after
    cases after

lemma SinkOk.step {next : SinkState Row}
    (stepped : sinkStep options state event = some next) : SinkOk options next := by
  cases event with
  | enqueue row =>
    rw [sinkStep] at stepped
    split_ifs at stepped with closed
    cases stepped
    exact ok.enqueue (by simpa using closed) row
  | close =>
    rw [sinkStep] at stepped
    split_ifs at stepped with closed
    cases stepped
    exact ⟨⟨ok.conserved, ok.queue, ok.pending⟩, ok.room,
      fun leaving => ⟨rfl, (ok.left leaving).2⟩, ok.empty⟩
  | begin now =>
    rw [sinkStep] at stepped
    split at stepped
    · next starting =>
      have collecting : state.phase.collecting = true := by
        rw [starting]
        rfl
      split_ifs at stepped
      · cases stepped
        exact ok.collect collecting rfl _ _
      · cases stepped
        exact ok.collect collecting rfl _ _
    · cases stepped
  | opened succeeded =>
    rw [sinkStep] at stepped
    split at stepped
    · next connecting =>
      cases stepped
      exact ok.collect (by rw [connecting]; rfl) rfl _ _
    · next last opening =>
      have left : last = true → state.closed = true ∧ state.queue = [] := by
        rintro rfl
        exact ok.left (by rw [opening]; rfl)
      split_ifs at stepped
      · cases stepped
        exact ok.toRowsOk.flushing left (.inr rfl) _ _
      · cases stepped
        exact ok.toRowsOk.dropPending left
    · cases stepped
  | receive now =>
    rw [sinkStep] at stepped
    split at stepped
    · next selecting =>
      split at stepped
      · next row rest queued =>
        cases stepped
        exact ok.receive selecting now queued
      · next drained =>
        split_ifs at stepped with closed
        cases stepped
        exact ok.toRowsOk.flush (fun _ => ⟨closed, drained⟩) now
    · cases stepped
  | tick now =>
    rw [sinkStep] at stepped
    split at stepped
    · cases stepped
      exact ok.toRowsOk.flush (fun last => by cases last) now
    · cases stepped
  | inserted succeeded =>
    rw [sinkStep] at stepped
    split at stepped
    · next last inserting =>
      cases stepped
      refine ok.toRowsOk.finishInsert ?_ succeeded
      rintro rfl
      exact ok.left (by rw [inserting]; rfl)
    · cases stepped

end

/--
At every point of every run of a worker the rows offered are those inserted,
failed, dropped, queued and pending; the queue and the pending rows keep their
sizes; a row can be offered without waiting as long as the queue is not closed;
and once `run` has returned, which it does only after the close, no row is left.
No counter wraps around while fewer than `2 ^ 64` rows are offered.
-/
theorem sinkWorker_conserves {Row : Type} (options : SinkOptions)
    (events : List (SinkEvent Row)) (state : SinkState Row)
    (reached : runEvents (sinkStep options) newSinkWorker events = some state) :
    state.offered = state.inserted + state.failed + state.dropped +
        state.queue.length + state.pending.length ∧ state.queue.length ≤ options.queue ∧
      state.pending.length ≤ options.batch ∧
      (∀ row, state.closed = false → ∃ next, sinkStep options state (.enqueue row) = some next ∧
          next.offered = state.offered + 1) ∧
      (state.phase = .returned → state.closed = true ∧ state.queue = [] ∧ state.pending = []) ∧
      (state.offered < 2 ^ 64 →
        state.inserted < 2 ^ 64 ∧ state.failed < 2 ^ 64 ∧ state.dropped < 2 ^ 64) := by
  have ok : SinkOk options state :=
    runEvents_invariant (SinkOk options)
      (fun _ _ _ ok stepped => ok.step stepped) sinkOk_newSinkWorker reached
  have conserved := ok.conserved
  refine ⟨conserved, ok.queue, ok.pending, ?_, ?_, fun few => by omega⟩
  · intro row isOpen
    refine ⟨state.enqueue options row, ?_, ?_⟩
    · rw [sinkStep, isOpen]
      rfl
    · unfold SinkState.enqueue
      split_ifs
      · rfl
      · rfl
  · intro returned
    have left := ok.left (by rw [returned]; rfl)
    exact ⟨left.1, left.2, ok.empty returned⟩

/-- The events of a worker which inserts one row, fails one and drops one. -/
def sinkRun : List (SinkEvent Unit) :=
  [.enqueue (), .enqueue (), .enqueue (), .begin 0, .opened true,
    .receive 1, .inserted true, .receive 2, .inserted false, .close,
    .receive 3]

theorem sinkWorker_conserves_three_rows : ∃ state : SinkState Unit,
      runEvents (sinkStep ⟨2, 1, by decide, by decide⟩) newSinkWorker sinkRun = some state ∧
        state.phase = .returned ∧ state.offered = 3 ∧
        state.inserted = 1 ∧ state.failed = 1 ∧ state.dropped = 1 ∧
        state.queue = [] ∧ state.pending = [] := by
  refine ⟨_, rfl, rfl, rfl, rfl, rfl, rfl, ?_⟩
  have run := sinkWorker_conserves ⟨2, 1, by decide, by decide⟩ sinkRun _ rfl
  exact (run.2.2.2.2.1 rfl).2

end Unifabric.EbpfFlow
