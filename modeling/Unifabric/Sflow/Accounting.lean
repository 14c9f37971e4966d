import Unifabric.Sflow.Collector

/-!
# Accounting of sFlow records

Every decoded record is dropped, written, in a failed batch, on its way, or
abandoned by the reader.  When `ServeUDP` returns, the records which are still
in the channel are lost as well: the writer may have left before the reader.
-/

namespace Unifabric.Sflow

open Lib

/-! ## Records on their way -/

section

variable {Record : Type}

/-- The records the reader still has to enqueue. -/
def ReaderPhase.remaining : ReaderPhase Record → List Record
  | .enqueuing record rest => record :: rest
  | _ => []

/-- The writer will not receive again. -/
def WriterPhase.leaving : WriterPhase → Bool
  | .selecting => false
  | .writing last => last
  | .returned => true

lemma remaining_nextRecord (records : List Record) : (nextRecord records).remaining = records := by
  cases records with
  | nil => rfl
  | cons record rest => rfl

@[simp]
lemma leaving_writing (last : Bool) : (WriterPhase.writing last).leaving = last := rfl

@[simp]
lemma leaving_afterWrite (last : Bool) : (afterWrite last).leaving = last := by
  cases last with
  | true => rfl
  | false => rfl

lemma nextRecord_ne_returned (records : List Record) : nextRecord records ≠ .returned := by
  intro returned
  cases records with
  | nil => cases returned
  | cons record rest => cases returned

/-- Every decoded record is accounted for or on its way. -/
structure CollectorOk (state : CollectorState Record) : Prop where
  conserved : state.metrics.recordsDecoded =
    state.metrics.recordsDropped + state.metrics.recordsWritten +
      state.failedRecords + state.abandoned + state.rows.length +
      state.batch.length + state.reader.remaining.length
  batch : state.writer = .returned → state.batch = []
  writer : state.reader = .returned → state.writer = .returned

variable {state : CollectorState Record}

lemma collectorOk_start (config : CollectorConfig) :
    CollectorOk (startCollector config : CollectorState Record) := by
  obtain ⟨hasWriter, batchSize, queueSize⟩ := config
  cases hasWriter with
  | true => exact ⟨rfl, fun _ => rfl, fun returned => by cases returned⟩
  | false => exact ⟨rfl, fun _ => rfl, fun _ => rfl⟩

section

variable (ok : CollectorOk state)

include ok

lemma CollectorOk.flush (reader : state.reader ≠ .returned) (last : Bool) :
    CollectorOk (state.flush last) := by
  unfold CollectorState.flush
  split_ifs with empty
  · exact ⟨ok.conserved, fun _ => List.length_eq_zero_iff.1 empty,
      fun returned => absurd returned reader⟩
  · exact ⟨ok.conserved, fun returned => (by cases returned),
      fun returned => absurd returned reader⟩

lemma CollectorOk.selecting (selecting : state.writer = .selecting) : state.reader ≠ .returned := by
  intro returned
  rw [ok.writer returned] at selecting
  cases selecting

lemma CollectorOk.take (selecting : state.writer = .selecting)
    (batchSize : Nat) (queued : state.rows = row :: rest) :
    CollectorOk (state.take batchSize row rest) := by
  have reader := ok.selecting selecting
  have conserved := ok.conserved
  rw [queued, List.length_cons] at conserved
  have taken : CollectorOk
      { state with
        rows := rest
        metrics := { state.metrics with queueDepth := state.metrics.queueDepth - 1 }
        batch := state.batch ++ [row] } := by
    refine ⟨?_, fun returned => ?_, fun returned => absurd returned reader⟩
    · simp only [List.length_append, List.length_singleton]
      omega
    · rw [selecting] at returned
      cases returned
  unfold CollectorState.take
  dsimp only
  split_ifs
  · exact taken.flush reader false
  · exact taken

lemma CollectorOk.finishWrite (writing : state.writer = .writing last)
    (succeeded : Bool) : CollectorOk (state.finishWrite last succeeded) := by
  have conserved := ok.conserved
  have reader : state.reader ≠ .returned := by
    intro returned
    rw [ok.writer returned] at writing
    cases writing
  unfold CollectorState.finishWrite
  split_ifs
  · refine ⟨?_, fun _ => rfl, fun returned => absurd returned reader⟩
    simp only [List.length_nil]
    omega
  · refine ⟨?_, fun _ => rfl, fun returned => absurd returned reader⟩
    simp only [List.length_nil]
    omega

lemma CollectorOk.goOn
    (enqueuing : state.reader = .enqueuing record rest) (reader : next.reader = nextRecord rest)
    (writer : next.writer = state.writer) (batch : next.batch = state.batch)
    (decoded : next.metrics.recordsDecoded = state.metrics.recordsDecoded)
    (counted : next.metrics.recordsDropped + next.metrics.recordsWritten +
        next.failedRecords + next.abandoned + next.rows.length =
      state.metrics.recordsDropped + state.metrics.recordsWritten +
        state.failedRecords + state.abandoned + state.rows.length + 1) : CollectorOk next := by
  have conserved := ok.conserved
  have remaining : state.reader.remaining.length = rest.length + 1 := by
    rw [enqueuing]
    rfl
  refine ⟨?_, fun returned => ?_, fun returned => ?_⟩
  · rw [decoded, reader, remaining_nextRecord, batch, counted]
    omega
  · rw [batch]
    exact ok.batch (writer.symm.trans returned)
  · exact absurd (reader.symm.trans returned) (nextRecord_ne_returned rest)

/-- The reader leaves its loop; what it had left counts as abandoned. -/
lemma CollectorOk.stopReading
    (counted : abandoned = state.abandoned + state.reader.remaining.length) :
    CollectorOk { state.stopReading with abandoned := abandoned } := by
  have conserved := ok.conserved
  have none : (ReaderPhase.draining : ReaderPhase Record).remaining.length =
    0 := rfl
  refine ⟨?_, ok.batch, fun returned => by cases returned⟩
  dsimp only [CollectorState.stopReading]
  omega

lemma CollectorOk.accept (reading : state.reader = .reading)
    (decoded : Option (List Record)) : CollectorOk (state.accept decoded) := by
  have conserved := ok.conserved
  have remaining : state.reader.remaining.length = 0 := by
    rw [reading]
    rfl
  cases decoded with
  | none => exact ⟨ok.conserved, ok.batch, ok.writer⟩
  | some records =>
    refine ⟨?_, ok.batch, fun returned => absurd returned (nextRecord_ne_returned records)⟩
    simp only [CollectorState.accept, remaining_nextRecord]
    omega

end

/-- What each event does, and where the reader or the writer is for it. -/
inductive CollectorMove (state : CollectorState Record) :
    CollectorEvent Record → CollectorState Record → Prop
  | cancel : CollectorMove state .cancel { state with cancelled := true }
  | datagram (reading : state.reader = .reading) (decoded : Option (List Record)) :
      CollectorMove state (.datagram decoded) (state.accept decoded)
  | retried : CollectorMove state .readError state
  | stopped (reading : state.reader = .reading) : CollectorMove state .readError state.stopReading
  | send (enqueuing : state.reader = .enqueuing record rest) (sent : Record) :
      CollectorMove state .send (state.send sent rest)
  | readerDone (enqueuing : state.reader = .enqueuing record rest) :
      CollectorMove state .readerDone
        { state.stopReading with abandoned := state.abandoned + (rest.length + 1) }
  | drop (enqueuing : state.reader = .enqueuing record rest) :
      CollectorMove state .drop (state.drop rest)
  | take (selecting : state.writer = .selecting) (queued : state.rows = row :: rest) (size : Nat) :
      CollectorMove state .take (state.take size row rest)
  | drained (selecting : state.writer = .selecting) (empty : state.rows = []) :
      CollectorMove state .drained (state.flush true)
  | tick (selecting : state.writer = .selecting) : CollectorMove state .tick (state.flush false)
  | writerDone (selecting : state.writer = .selecting) :
      CollectorMove state .writerDone (state.flush true)
  | written (writing : state.writer = .writing last) (succeeded : Bool) :
      CollectorMove state (.written succeeded) (state.finishWrite last succeeded)
  | finish (draining : state.reader = .draining) (returned : state.writer = .returned) :
      CollectorMove state .finish { state with reader := .returned }

lemma collectorStep_moves (stepped : collectorStep config enrich state event = some next) :
    CollectorMove state event next := by
  cases event <;> grind [collectorStep, CollectorMove]

lemma CollectorOk.step (ok : CollectorOk state) (moves : CollectorMove state event next) :
    CollectorOk next := by
  cases moves with
  | cancel => exact ⟨ok.conserved, ok.batch, ok.writer⟩
  | datagram reading decoded => exact ok.accept reading decoded
  | retried => exact ok
  | stopped reading => exact ok.stopReading (by rw [reading]; rfl)
  | send enqueuing sent =>
    refine ok.goOn enqueuing rfl rfl rfl rfl ?_
    simp only [CollectorState.send, List.length_append, List.length_singleton]
    omega
  | readerDone enqueuing => exact ok.stopReading (by rw [enqueuing]; rfl)
  | drop enqueuing =>
    refine ok.goOn enqueuing rfl rfl rfl rfl ?_
    simp only [CollectorState.drop]
    omega
  | take selecting queued size => exact ok.take selecting size queued
  | drained selecting empty => exact ok.flush (ok.selecting selecting) true
  | tick selecting => exact ok.flush (ok.selecting selecting) false
  | writerDone selecting => exact ok.flush (ok.selecting selecting) true
  | written writing succeeded => exact ok.finishWrite writing succeeded
  | finish draining returned =>
    have conserved := ok.conserved
    rw [draining] at conserved
    exact ⟨conserved, ok.batch, fun _ => returned⟩

end

/-! ## Lost records -/

section

variable {Record : Type} {config : CollectorConfig}
  {enrich : Record → Record} {state next : CollectorState Record}

section

variable (state : CollectorState Record)

/-- A record is lost: the reader or the writer has left it behind. -/
def Lossy : Prop :=
  0 < state.abandoned ∨ (state.writer.leaving = true ∧ state.rows ≠ [])

/--
The reader does not leave in the middle of a datagram, the writer leaves on the
context only if the channel is empty, and nothing is sent after it has left.
-/
def Covered : CollectorEvent Record → Prop
  | .readerDone => False
  | .writerDone => state.rows = []
  | .send => state.writer.leaving = false
  | _ => True

lemma leaving_flush (last : Bool) : (state.flush last).writer.leaving = last := by
  unfold CollectorState.flush
  split_ifs
  · exact leaving_afterWrite last
  · rfl

lemma lossy_flush (last : Bool) : Lossy (state.flush last) ↔
      0 < state.abandoned ∨ (last = true ∧ state.rows ≠ []) := by
  unfold Lossy
  rw [leaving_flush]
  unfold CollectorState.flush
  split_ifs
  · rfl
  · rfl

end

lemma lossy_staying (selecting : state.writer = .selecting) :
    Lossy state ↔ 0 < state.abandoned := by
  unfold Lossy
  rw [selecting]
  simp [WriterPhase.leaving]

/-- Records are lost in the steps which are not covered, and stay lost. -/
lemma lossy_step_iff (moves : CollectorMove state event next) :
    Lossy next ↔ Lossy state ∨ ¬ Covered state event := by
  cases moves with
  | cancel => simp [Lossy, Covered]
  | datagram reading decoded =>
    cases decoded with
    | none => simp [Lossy, Covered, CollectorState.accept]
    | some records => simp [Lossy, Covered, CollectorState.accept]
  | retried => simp [Covered]
  | stopped reading => simp [Lossy, Covered, CollectorState.stopReading]
  | send enqueuing sent =>
    simp [Lossy, Covered, CollectorState.send]
    tauto
  | readerDone enqueuing => simp [Lossy, Covered]
  | drop enqueuing => simp [Lossy, Covered, CollectorState.drop]
  | take selecting queued size =>
    rw [lossy_staying selecting]
    unfold CollectorState.take
    dsimp only
    split_ifs
    · rw [lossy_flush]
      simp [Covered]
    · rw [lossy_staying (by exact selecting)]
      simp [Covered]
  | drained selecting empty =>
    rw [lossy_staying selecting, lossy_flush]
    simp [Covered, empty]
  | tick selecting =>
    rw [lossy_staying selecting, lossy_flush]
    simp [Covered]
  | writerDone selecting =>
    rw [lossy_staying selecting, lossy_flush]
    simp [Covered]
  | written writing succeeded =>
    unfold CollectorState.finishWrite
    split_ifs
    · simp [Lossy, Covered, writing]
    · simp [Lossy, Covered, writing]
  | finish draining returned => simp [Lossy, Covered]

lemma not_lossy_start (config : CollectorConfig) :
    ¬ Lossy (startCollector config : CollectorState Record) := by
  simp [Lossy, startCollector]

end

/--
When `ServeUDP` returns, the decoded records are those counted as dropped,
those written and those in failed batches exactly if every step of the run was
covered.  No counter of 64 bits wraps around while fewer than `2 ^ 64` records
are decoded.
-/
theorem collector_accounts_iff {Record : Type} (config : CollectorConfig)
    (enrich : Record → Record) (events : List (CollectorEvent Record))
    (final : CollectorState Record)
    (reached : runEvents (collectorStep config enrich) (startCollector config) events = some final)
    (returned : final.reader = .returned) :
    (final.metrics.recordsDecoded = final.metrics.recordsDropped + final.metrics.recordsWritten +
          final.failedRecords ↔
      StepsMeet (collectorStep config enrich) Covered (startCollector config) events) ∧
    (final.metrics.recordsDecoded < 2 ^ 64 →
      final.metrics.recordsDropped < 2 ^ 64 ∧ final.metrics.recordsWritten < 2 ^ 64) := by
  have ok : CollectorOk final :=
    runEvents_invariant CollectorOk
      (fun _ _ _ ok stepped => ok.step (collectorStep_moves stepped)) (collectorOk_start config)
      reached
  have writer := ok.writer returned
  have conserved := ok.conserved
  rw [ok.batch writer, returned] at conserved
  have left : final.writer.leaving = true := by
    rw [writer]
    rfl
  have sound := unspoiled_iff_stepsMeet Lossy
    (fun _ _ _ stepped => lossy_step_iff (collectorStep_moves stepped)) reached
  rw [iff_true_intro (not_lossy_start config), true_and] at sound
  have none : (ReaderPhase.returned : ReaderPhase Record).remaining.length = 0 := rfl
  rw [none, List.length_nil] at conserved
  refine ⟨?_, fun few => by omega⟩
  rw [← sound]
  simp only [Lossy, left, true_and, not_or, ne_eq, not_not, ← List.length_eq_zero_iff]
  omega

/-- The writer waits for the closed channel before it leaves. -/
def coveredRun : List (CollectorEvent Unit) :=
  [.datagram (some [()]), .send, .cancel, .readError, .take, .drained, .written true, .finish]

theorem collector_accounts_patient_writer : ∃ final : CollectorState Unit,
      runEvents (collectorStep ⟨true, 10, 10⟩ id)
          (startCollector ⟨true, 10, 10⟩) coveredRun = some final ∧
        final.reader = .returned ∧ final.metrics.recordsDecoded = 1 ∧
        final.metrics.recordsDecoded = final.metrics.recordsDropped + final.metrics.recordsWritten +
            final.failedRecords := by
  refine ⟨_, rfl, rfl, rfl, ?_⟩
  refine (collector_accounts_iff ⟨true, 10, 10⟩ id coveredRun _ rfl rfl).1.mpr ?_
  exact stepsMeet_cons rfl trivial (stepsMeet_cons rfl rfl
    (stepsMeet_cons rfl trivial (stepsMeet_cons rfl trivial
      (stepsMeet_cons rfl trivial (stepsMeet_cons rfl trivial
        (stepsMeet_cons rfl trivial (stepsMeet_cons rfl trivial trivial)))))))

/--
The context is cancelled while a record is in the channel, and the writer
leaves at once: the record is decoded, but neither dropped nor written, and no
write has failed.
-/
theorem collector_loses_queued_record : ∃ final : CollectorState Unit,
      runEvents (collectorStep ⟨true, 10, 10⟩ id) (startCollector ⟨true, 10, 10⟩)
          [.datagram (some [()]), .send, .cancel, .writerDone, .readError, .finish] = some final ∧
        final.reader = .returned ∧ final.metrics.recordsDecoded = 1 ∧
        final.metrics.recordsDropped = 0 ∧
        final.metrics.recordsWritten = 0 ∧ final.failedRecords = 0 :=
  ⟨_, rfl, rfl, rfl, rfl, rfl, rfl⟩

end Unifabric.Sflow
