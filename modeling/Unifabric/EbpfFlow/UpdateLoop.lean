import Unifabric.Lib.Transition

/-!
# The update loop

How the main loop of the component decides when the endpoint publisher runs.
The consumer of the callback events leaves at most one notification in
`qpChanges`; the loop takes it, and publishes or arms one timer.  The channel
is the only thing which both sides touch, so each branch of the loop is one
step up to the call which takes time.  The publisher is represented by the
time of its last run.
-/

namespace Unifabric.EbpfFlow

open Lib Option

/-! ## The loop -/

/-- `delayUntilAllowed`, in nanoseconds; the zero time is `none`. -/
def delayUntilAllowed (minInterval : Int) (lastRun : Option Int) (now : Int) : Int :=
  match lastRun with
  | none => 0
  | some last =>
    let remaining := minInterval - (now - last)
    if remaining ≤ 0 then 0 else remaining

/-- Why the publisher runs. -/
inductive RunCause where
  | startup
  | notification
  | removal
  | delayed
  | periodic
  deriving DecidableEq, Repr

/-- The run was asked for by an event, now or when the timer was armed. -/
def RunCause.eventDriven : RunCause → Bool
  | .startup | .periodic => false
  | .notification | .removal | .delayed => true

/-- A run of the publisher, with the time which `run` stores. -/
structure PublisherRun where
  cause : RunCause
  startedAt : Int
  deriving DecidableEq, Repr

/-- Where the main loop is. -/
inductive LoopPhase where
  | starting
  | selecting
  | requesting (cause : RunCause)
  | publishing
  | returned
  deriving DecidableEq, Repr

/--
The channel, the variables of the loop and the last reading of the clock.  The
last two fields record the past: whether a QP RTR event was consumed since the
last run began, and all runs, the last one first.
-/
structure LoopState where
  qpChanges : Bool
  endpointDue : Option Int
  lastRun : Option Int
  phase : LoopPhase
  clock : Int
  consumed : Bool
  runs : List PublisherRun
  deriving DecidableEq, Repr

/-- What happens, with the time where the loop reads it. -/
inductive LoopEvent where
  | qpRTR
  | started (now : Int)
  | notified
  | reported (removed : Bool)
  | requested (now later : Int)
  | due (now : Int)
  | ticked (now : Int)
  | scanned
  | published
  | returned
  deriving DecidableEq, Repr

/-- The component before its first run. -/
def loopStart (clock : Int) : LoopState :=
  { qpChanges := false, endpointDue := none, lastRun := none
    phase := .starting, clock := clock, consumed := false, runs := [] }

/-- `publisher.run` begins. -/
def LoopState.beginRun (state : LoopState) (cause : RunCause) (now : Int) :
    LoopState :=
  { state with
    lastRun := some now
    phase := .publishing
    clock := now
    consumed := false
    runs := ⟨cause, now⟩ :: state.runs }

/--
`requestEndpointUpdate`.  The clock is read for the delay, and later again by
the run or by the timer.
-/
def LoopState.requestEndpointUpdate (minInterval : Int) (state : LoopState)
    (cause : RunCause) (now later : Int) : LoopState :=
  if state.endpointDue.isSome then { state with phase := .selecting }
  else
    let wait := delayUntilAllowed minInterval state.lastRun now
    if wait = 0 then state.beginRun cause later
    else
      { state with endpointDue := some (later + wait), phase := .selecting, clock := later }

/-- One step of the consumer or of the main loop. -/
def loopStep (minInterval : Int) (state : LoopState) : LoopEvent → Option LoopState
  -- The nudge is dropped when one is pending.
  | .qpRTR => some { state with qpChanges := true, consumed := true }
  | .started now =>
    if state.phase = .starting ∧ state.clock ≤ now then
      some (state.beginRun .startup now)
    else none
  | .notified =>
    if state.phase = .selecting ∧ state.qpChanges then
      some
        { state with qpChanges := false, phase := .requesting .notification }
    else none
  | .reported removed =>
    if state.phase = .selecting then
      some (if removed then { state with phase := .requesting .removal }
        else state)
    else none
  | .requested now later =>
    match state.phase with
    | .requesting cause =>
      if state.clock ≤ now ∧ now ≤ later then
        some (state.requestEndpointUpdate minInterval cause now later)
      else none
    | _ => none
  | .due now =>
    match state.endpointDue with
    | none => none
    | some fires =>
      if state.phase = .selecting ∧ fires ≤ now ∧ state.clock ≤ now then
        some ({ state with endpointDue := none }.beginRun .delayed now)
      else none
  | .ticked now =>
    if state.phase = .selecting ∧ state.clock ≤ now then
      some (state.beginRun .periodic now)
    else none
  | .scanned => if state.phase = .selecting then some state else none
  | .published =>
    if state.phase = .publishing then
      some { state with phase := .selecting }
    else none
  | .returned =>
    if state.phase = .selecting then some { state with phase := .returned }
    else none

variable {minInterval clock : Int} {state next : LoopState}

/-! ## No update is lost -/

/-- An event which no run has seen yet will start one. -/
def LoopState.Remembers (state : LoopState) : Prop :=
  state.consumed → state.qpChanges ∨ state.endpointDue.isSome ∨
    state.phase = .requesting .notification

lemma remembers_beginRun (cause : RunCause) (now : Int) : (state.beginRun cause now).Remembers :=
  nofun

lemma remembers_requestEndpointUpdate (cause : RunCause) (now later : Int) :
    (state.requestEndpointUpdate minInterval cause now later).Remembers := by
  unfold LoopState.requestEndpointUpdate
  split_ifs with armed
  · exact fun _ => .inr (.inl armed)
  · simp only
    split_ifs with allowed
    · exact remembers_beginRun cause later
    · exact fun _ => .inr (.inl rfl)

/-- Away from the request, an event is in the channel or in the timer. -/
lemma LoopState.Remembers.moveTo (remembers : state.Remembers)
    (elsewhere : state.phase ≠ .requesting .notification)
    (phase : LoopPhase) : { state with phase := phase }.Remembers := by
  intro consumed
  rcases remembers consumed with pending | armed | requesting
  · exact .inl pending
  · exact .inr (.inl armed)
  · exact absurd requesting elsewhere

lemma LoopState.Remembers.step (remembers : state.Remembers)
    (stepped : loopStep minInterval state event = some next) : next.Remembers := by
  cases event with
  | qpRTR =>
    cases stepped
    exact fun _ => .inl rfl
  | started now | ticked now =>
    rw [loopStep, ite_none_right_eq_some] at stepped
    cases stepped.2
    exact remembers_beginRun _ _
  | notified =>
    rw [loopStep, ite_none_right_eq_some] at stepped
    cases stepped.2
    exact fun _ => .inr (.inr rfl)
  | reported removed =>
    rw [loopStep, ite_none_right_eq_some] at stepped
    cases stepped.2
    cases removed with
    | false => exact remembers
    | true => exact remembers.moveTo (by simp [stepped.1]) _
  | requested now later =>
    rw [loopStep] at stepped
    split at stepped
    · rw [ite_none_right_eq_some] at stepped
      cases stepped.2
      exact remembers_requestEndpointUpdate _ _ _
    · cases stepped
  | due now =>
    rw [loopStep] at stepped
    split at stepped
    · cases stepped
    · rw [ite_none_right_eq_some] at stepped
      cases stepped.2
      exact remembers_beginRun _ _
  | scanned =>
    rw [loopStep, ite_none_right_eq_some] at stepped
    cases stepped.2
    exact remembers
  | published | returned =>
    rw [loopStep, ite_none_right_eq_some] at stepped
    cases stepped.2
    exact remembers.moveTo (by simp [stepped.1]) _

/--
In every state which the component can reach, a QP RTR event consumed after
the last run began is pending in the channel, or the timer is armed, or the
loop is inside `requestEndpointUpdate` for it.
-/
theorem endpoint_update_not_lost (minInterval clock : Int)
    (events : List LoopEvent) (state : LoopState)
    (reached : runEvents (loopStep minInterval) (loopStart clock) events = some state)
    (consumed : state.consumed) :
    state.qpChanges ∨ state.endpointDue.isSome ∨ state.phase = .requesting .notification :=
  runEvents_invariant LoopState.Remembers (fun _ _ _ remembers stepped => remembers.step stepped)
    (fun consumed => absurd consumed Bool.false_ne_true) reached consumed

/-- Two events, of which the second finds the timer armed by the first. -/
def burst : List LoopEvent :=
  [.started 0, .published, .qpRTR, .notified, .requested 3 4, .qpRTR, .notified, .requested 5 5]

theorem endpoint_update_not_lost_burst :
    ∃ state, runEvents (loopStep 10) (loopStart 0) burst = some state ∧
      state.consumed ∧ (state.qpChanges ∨ state.endpointDue.isSome ∨
        state.phase = .requesting .notification) :=
  ⟨_, rfl, rfl, endpoint_update_not_lost 10 0 burst _ rfl rfl⟩

/-! ## The rate of the runs -/

/-- Each run for an event is away from the run before it. -/
def RateLimited (minInterval : Int) (runs : List PublisherRun) : Prop :=
  runs.IsChain fun run previous => run.cause.eventDriven →
    minInterval ≤ run.startedAt - previous.startedAt

instance (minInterval : Int) (runs : List PublisherRun) :
    Decidable (RateLimited minInterval runs) :=
  inferInstanceAs (Decidable (runs.IsChain _))

/-- The periodic tick does not find the timer armed. -/
def TickUnarmed (state : LoopState) (event : LoopEvent) : Prop :=
  ∀ now, event = .ticked now → state.endpointDue = none

/-- The timer has been set for a time at which the publisher may run. -/
structure Paced (minInterval : Int) (state : LoopState) : Prop where
  limited : RateLimited minInterval state.runs
  last : state.lastRun = state.runs.head?.map PublisherRun.startedAt
  armed : ∀ fires ∈ state.endpointDue, ∀ last ∈ state.lastRun, minInterval ≤ fires - last
  fresh : state.phase = .starting → state.endpointDue = none

lemma Paced.beginRun (paced : Paced minInterval state) (unarmed : state.endpointDue = none)
    (allowed : cause.eventDriven → ∀ last ∈ state.lastRun, minInterval ≤ now - last) :
    Paced minInterval (state.beginRun cause now) := by
  refine ⟨?_, rfl, fun fires due => ?_, nofun⟩
  · refine List.isChain_cons.2 ⟨fun previous first driven => ?_, paced.limited⟩
    refine allowed driven _ ?_
    rw [paced.last, mem_def, mem_def.1 first]
    rfl
  · rw [LoopState.beginRun, unarmed] at due
    cases due

/-- A run which need not wait is away from the last one. -/
lemma le_of_delayUntilAllowed_eq_zero (allowed : delayUntilAllowed minInterval last now = 0)
    (order : now ≤ later) : ∀ previous ∈ last, minInterval ≤ later - previous := by
  rintro previous ⟨⟩
  simp only [delayUntilAllowed] at allowed
  split_ifs at allowed <;> omega

/-- So is a run after the delay. -/
lemma le_of_delayUntilAllowed (last : Option Int) (order : now ≤ later) :
    ∀ previous ∈ last, minInterval ≤ later + delayUntilAllowed minInterval last now - previous := by
  rintro previous ⟨⟩
  simp only [delayUntilAllowed]
  split_ifs <;> omega

lemma Paced.requestEndpointUpdate (paced : Paced minInterval state) (cause : RunCause)
    (order : now ≤ later) :
    Paced minInterval (state.requestEndpointUpdate minInterval cause now later) := by
  unfold LoopState.requestEndpointUpdate
  split_ifs with armed
  · exact ⟨paced.limited, paced.last, paced.armed, nofun⟩
  · simp only
    split_ifs with allowed
    · exact paced.beginRun (not_isSome_iff_eq_none.1 armed)
        fun _ => le_of_delayUntilAllowed_eq_zero allowed order
    · refine ⟨paced.limited, paced.last, ?_, nofun⟩
      rintro fires ⟨⟩
      exact le_of_delayUntilAllowed _ order

lemma Paced.step (paced : Paced minInterval state) (unarmed : TickUnarmed state event)
    (stepped : loopStep minInterval state event = some next) : Paced minInterval next := by
  cases event with
  | qpRTR =>
    cases stepped
    exact ⟨paced.limited, paced.last, paced.armed, paced.fresh⟩
  | started now =>
    rw [loopStep, ite_none_right_eq_some] at stepped
    cases stepped.2
    exact paced.beginRun (paced.fresh stepped.1.1) nofun
  | requested now later =>
    rw [loopStep] at stepped
    split at stepped
    · rw [ite_none_right_eq_some] at stepped
      obtain ⟨⟨_, order⟩, stepped⟩ := stepped
      cases stepped
      exact paced.requestEndpointUpdate _ order
    · cases stepped
  | due now =>
    rw [loopStep] at stepped
    split at stepped
    · cases stepped
    · rename_i fires due
      rw [ite_none_right_eq_some] at stepped
      obtain ⟨⟨_, fired, _⟩, stepped⟩ := stepped
      cases stepped
      have disarmed : Paced minInterval { state with endpointDue := none } :=
        ⟨paced.limited, paced.last, nofun, fun _ => rfl⟩
      refine disarmed.beginRun rfl fun _ last ran => ?_
      have := paced.armed fires due last ran
      omega
  | ticked now =>
    rw [loopStep, ite_none_right_eq_some] at stepped
    cases stepped.2
    exact paced.beginRun (unarmed now rfl) nofun
  | reported removed =>
    rw [loopStep, ite_none_right_eq_some] at stepped
    cases stepped.2
    cases removed with
    | false => exact paced
    | true => exact ⟨paced.limited, paced.last, paced.armed, nofun⟩
  | scanned =>
    rw [loopStep, ite_none_right_eq_some] at stepped
    cases stepped.2
    exact paced
  | notified | published | returned =>
    rw [loopStep, ite_none_right_eq_some] at stepped
    cases stepped.2
    exact ⟨paced.limited, paced.last, paced.armed, nofun⟩

/--
If the periodic tick never finds the timer armed, then every run for an event
starts at least the minimum interval after the run before it.
-/
theorem runs_rateLimited (minInterval clock : Int) (events : List LoopEvent) (state : LoopState)
    (reached : runEvents (loopStep minInterval) (loopStart clock) events = some state)
    (unarmed : StepsMeet (loopStep minInterval) TickUnarmed (loopStart clock) events) :
    RateLimited minInterval state.runs :=
  (runEvents_invariant_of_meets (Paced minInterval)
    (fun _ _ _ paced unarmed stepped => paced.step unarmed stepped) unarmed
    ⟨.nil, rfl, nofun, fun _ => rfl⟩ reached).limited

/-- A periodic run, a notification and the delayed run for it. -/
def delayedUpdate : List LoopEvent :=
  [.started 0, .published, .ticked 7, .published, .qpRTR, .notified, .requested 9 9, .due 17]

theorem runs_rateLimited_delayedUpdate :
    ∃ state, runEvents (loopStep 10) (loopStart 0) delayedUpdate =
      some state ∧ RateLimited 10 state.runs := by
  refine ⟨_, rfl, runs_rateLimited 10 0 delayedUpdate _ rfl ?_⟩
  simp [delayedUpdate, StepsMeet, TickUnarmed, loopStep, loopStart, LoopState.beginRun]

/--
The timer is armed at 3 for 10, the periodic run begins at 9, and the timer
starts the next run one unit later.
-/
theorem runs_not_rateLimited : ¬ ∀ state, runEvents (loopStep 10) (loopStart 0)
        [.started 0, .published, .qpRTR, .notified, .requested 3 3,
          .ticked 9, .published, .due 10] = some state → RateLimited 10 state.runs :=
  fun always => absurd (always _ rfl) (by decide)

end Unifabric.EbpfFlow
