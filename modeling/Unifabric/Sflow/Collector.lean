import Unifabric.Lib.Transition

/-!
# The collector

`ServeUDP` and `writeLoop`: a reader which decodes datagrams and sends their
records to a bounded channel, and a writer which collects the records of the
channel in batches.  Both watch one context.  A step of either is what it does
between two points where the other can interfere.
-/

namespace Unifabric.Sflow

open Lib

/-! ## The two loops -/

/-- The configuration of a collector. -/
structure CollectorConfig where
  hasWriter : Bool
  batchSize : Int
  queueSize : Int

/-- A size of the configuration, at least one. -/
def atLeastOne (size : Int) : Nat := if size ≤ 0 then 1 else size.toNat

/-- The counters, of 64 bits in the source, as numbers which do not wrap around. -/
structure CollectorMetrics where
  datagramsAccepted : Nat
  decodeErrors : Nat
  recordsDecoded : Nat
  recordsDropped : Nat
  recordsWritten : Nat
  writeErrors : Nat
  queueDepth : Int
  deriving DecidableEq, Repr

/-- Where `ServeUDP` is: it enqueues a record before the rest of its datagram,
or waits for the writer after it has closed the channel. -/
inductive ReaderPhase (Record : Type) where
  | reading
  | enqueuing (record : Record) (rest : List Record)
  | draining
  | returned
  deriving DecidableEq, Repr

/-- Where `writeLoop` is; the flag says that it returns after the write. -/
inductive WriterPhase where
  | selecting
  | writing (last : Bool)
  | returned
  deriving DecidableEq, Repr

/--
The collector.  `failedRecords` are the records of the batches whose write
failed, which are logged, and `abandoned` the records which the reader has left
when it stopped.
-/
structure CollectorState (Record : Type) where
  cancelled : Bool
  rows : List Record
  rowsClosed : Bool
  reader : ReaderPhase Record
  writer : WriterPhase
  batch : List Record
  metrics : CollectorMetrics
  failedRecords : Nat
  abandoned : Nat

/--
What happens: the context is cancelled, a datagram or an error is read, one of
the cases of the reader's select is taken, one of the cases of the writer's, a
write returns, or `ServeUDP` returns.
-/
inductive CollectorEvent (Record : Type) where
  | cancel
  | datagram (decoded : Option (List Record))
  | readError
  | send
  | readerDone
  | drop
  | take
  | drained
  | tick
  | writerDone
  | written (succeeded : Bool)
  | finish

section

variable {Record : Type}

/-- `ServeUDP` starts; without a writer it returns at once. -/
def startCollector (config : CollectorConfig) : CollectorState Record :=
  { cancelled := false
    rows := []
    rowsClosed := false
    reader := if config.hasWriter then .reading else .returned
    writer := if config.hasWriter then .selecting else .returned
    batch := []
    metrics := ⟨0, 0, 0, 0, 0, 0, 0⟩
    failedRecords := 0
    abandoned := 0 }

/-- The reader goes on with the next record, or reads the next datagram. -/
def nextRecord : List Record → ReaderPhase Record
  | [] => .reading
  | record :: rest => .enqueuing record rest

/-- Where the writer is after a write. -/
def afterWrite (last : Bool) : WriterPhase := if last then .returned else .selecting

namespace CollectorState

variable (state : CollectorState Record)

/-- `flush`, up to the write. -/
def flush (last : Bool) : CollectorState Record :=
  if state.batch.length = 0 then { state with writer := afterWrite last }
  else { state with writer := .writing last }

/-- The reader closes the channel and waits for the writer. -/
def stopReading : CollectorState Record :=
  { state with rowsClosed := true, reader := .draining }

/-- A datagram has been read. -/
def accept (decoded : Option (List Record)) : CollectorState Record :=
  match decoded with
  | none =>
    { state with
      metrics :=
        { state.metrics with
          datagramsAccepted := state.metrics.datagramsAccepted + 1
          decodeErrors := state.metrics.decodeErrors + 1 } }
  | some records =>
    { state with
      metrics :=
        { state.metrics with
          datagramsAccepted := state.metrics.datagramsAccepted + 1
          recordsDecoded :=
            state.metrics.recordsDecoded + records.length }
      reader := nextRecord records }

/-- The reader sends a record. -/
def send (record : Record)
    (rest : List Record) : CollectorState Record :=
  { state with
    rows := state.rows ++ [record]
    metrics := { state.metrics with queueDepth := state.metrics.queueDepth + 1 }
    reader := nextRecord rest }

/-- The reader drops a record because the channel is full. -/
def drop (rest : List Record) : CollectorState Record :=
  { state with
    metrics :=
      { state.metrics with recordsDropped := state.metrics.recordsDropped + 1 }
    reader := nextRecord rest }

/-- The writer takes a record, and flushes a full batch. -/
def take (batchSize : Nat) (row : Record)
    (rest : List Record) : CollectorState Record :=
  let taken :=
    { state with
      rows := rest
      metrics := { state.metrics with queueDepth := state.metrics.queueDepth - 1 }
      batch := state.batch ++ [row] }
  if batchSize ≤ taken.batch.length then taken.flush false else taken

/-- The write has returned. -/
def finishWrite (last succeeded : Bool) : CollectorState Record :=
  if succeeded then
    { state with
      metrics :=
        { state.metrics with
          recordsWritten :=
            state.metrics.recordsWritten + state.batch.length }
      batch := []
      writer := afterWrite last }
  else
    { state with
      metrics := { state.metrics with writeErrors := state.metrics.writeErrors + 1 }
      failedRecords := state.failedRecords + state.batch.length
      batch := []
      writer := afterWrite last }

end CollectorState

/--
One step.  A select takes any case which is ready, and its default only if none
is; `enrich` is `EnrichRecord` with the lookup of the collector.
-/
def collectorStep (config : CollectorConfig) (enrich : Record → Record)
    (state : CollectorState Record) :
    CollectorEvent Record → Option (CollectorState Record)
  | .cancel => some { state with cancelled := true }
  | .datagram decoded =>
    match state.reader with
    | .reading => some (state.accept decoded)
    | _ => none
  | .readError =>
    match state.reader with
    | .reading => some (if state.cancelled then state.stopReading else state)
    | _ => none
  | .send =>
    match state.reader with
    | .enqueuing record rest =>
      if state.rows.length < atLeastOne config.queueSize then
        some (state.send (enrich record) rest)
      else none
    | _ => none
  | .readerDone =>
    match state.reader with
    | .enqueuing _ rest =>
      if state.cancelled then
        some { state.stopReading with abandoned := state.abandoned + (rest.length + 1) }
      else none
    | _ => none
  | .drop =>
    match state.reader with
    | .enqueuing _ rest =>
      if state.rows.length < atLeastOne config.queueSize ∨ state.cancelled then none
      else some (state.drop rest)
    | _ => none
  | .take =>
    match state.writer, state.rows with
    | .selecting, row :: rest => some (state.take (atLeastOne config.batchSize) row rest)
    | _, _ => none
  | .drained =>
    match state.writer, state.rows with
    | .selecting, [] => if state.rowsClosed then some (state.flush true) else none
    | _, _ => none
  | .tick =>
    match state.writer with
    | .selecting => some (state.flush false)
    | _ => none
  | .writerDone =>
    match state.writer with
    | .selecting => if state.cancelled then some (state.flush true) else none
    | _ => none
  | .written succeeded =>
    match state.writer with
    | .writing last => some (state.finishWrite last succeeded)
    | _ => none
  | .finish =>
    match state.reader, state.writer with
    | .draining, .returned => some { state with reader := .returned }
    | _, _ => none

end

end Unifabric.Sflow
