import Unifabric.EbpfFlow.Endpoint
import Unifabric.Lib.Loop
import Unifabric.Lib.Transition

/-!
# The endpoint publisher

`endpointPublisher.run`: adopt what an earlier agent left, apply the objects
which changed, delete the objects of Pods which disappeared.  The publisher
tracks objects by the UID of their Pod, while the API stores them by namespace
and name.
-/

namespace Unifabric.EbpfFlow

open Lib V1beta1 GoMap

/-! ## The API -/

/-- The stored objects, each under its own key. -/
structure EndpointStore where
  objects : GoMap ObjectKey RdmaEndpoint
  keyed : ∀ (key : ObjectKey) (object : RdmaEndpoint),
    objects[key]? = some object → object.key = key

namespace EndpointStore

section

variable (store : EndpointStore) (object : RdmaEndpoint)

/-- Create or replace an object. -/
def put : EndpointStore where
  objects := store.objects.insert object.key object
  keyed := by
    intro key found stored
    rw [getElem?_insert] at stored
    split_ifs at stored with same
    · cases stored
      exact same
    · exact store.keyed key found stored

/-- The first request of `apply`: labels and owners, the status is kept. -/
def patchMetadata :
    EndpointStore :=
  store.put
    { object with
      status :=
        ((store.objects[object.key]?).map RdmaEndpoint.status).getD
          { nodeName := "", hostNetwork := false, lastUpdateTime := 0, interfaces := [] } }

/-- The second request of `apply`: the status of a stored object. -/
def patchStatus : EndpointStore :=
  match store.objects[object.key]? with
  | none => store
  | some stored => store.put { stored with status := object.status }

def apply : EndpointStore :=
  (store.patchMetadata object).patchStatus object

/-- `delete`; a missing object is not an error. -/
def delete (key : ObjectKey) : EndpointStore where
  objects := store.objects.erase key
  keyed := by
    intro other found stored
    rw [getElem?_erase] at stored
    split_ifs at stored
    exact store.keyed other found stored

/-- The objects of a node, in the order of the answer. -/
def list (runtime : Runtime) (store : EndpointStore) (node : String) : List RdmaEndpoint :=
  ((runtime.range ["listEndpoints"] store.objects.keys).filterMap
    fun key => store.objects[key]?).filter
      fun object => object.labels[rdmaEndpointLabelNode]? = some node

lemma getElem?_apply (key : ObjectKey) :
    (store.apply object).objects[key]? =
      if object.key = key then some object else store.objects[key]? := by
  have metadata : (store.patchMetadata object).objects[object.key]? =
      some { object with
        status := ((store.objects[object.key]?).map RdmaEndpoint.status).getD
            { nodeName := "", hostNetwork := false, lastUpdateTime := 0, interfaces := [] } } :=
    (getElem?_insert _ _ _ _).trans (if_pos rfl)
  rw [apply, patchStatus, metadata]
  show ((store.patchMetadata object).objects.insert object.key object)[key]? = _
  rw [getElem?_insert]
  split_ifs with same
  · rfl
  · exact (getElem?_insert _ _ _ _).trans (if_neg same)

end

lemma getElem?_of_mem_list {runtime : Runtime} {store : EndpointStore} {node : String}
    {object : RdmaEndpoint} (listed : object ∈ store.list runtime node) :
    store.objects[object.key]? = some object := by
  obtain ⟨key, _, stored⟩ := List.mem_filterMap.1 (List.mem_filter.1 listed).1
  rwa [store.keyed key object stored]

end EndpointStore

/-! ## The publisher -/

/--
`endpointFingerprint`: the content without its timestamp.  The JSON text is
represented by the value it encodes.
-/
def endpointFingerprint (object : RdmaEndpoint) : RdmaEndpoint :=
  { object with status := { object.status with lastUpdateTime := 0 } }

/-- A tracked object; an adopted one has no fingerprint. -/
structure PublishedObject where
  namespaceName : String
  name : String
  fingerprint : Option RdmaEndpoint
  sentAt : Int
  deriving DecidableEq

/-- The key of a tracked object. -/
def PublishedObject.key (tracked : PublishedObject) : ObjectKey :=
  toLex (tracked.namespaceName, tracked.name)

/-- The tracked objects by Pod UID. -/
abbrev Published := GoMap String PublishedObject

/-- The state of the publisher. -/
structure EndpointPublisher where
  published : Published
  lastRun : Option Int
  synced : Bool

/-- The clock of one run, for each Pod when it is checked and when sent. -/
structure RunClock where
  startedAt : Int
  checkedAt : String → Int
  sentAt : String → Int

/-- `endpointResend`, in nanoseconds. -/
def endpointResend : Int := 5 * 60 * 1000000000

/-- Whether the Pod of an object is in the index. -/
def named (object : RdmaEndpoint) : Bool := object.namespaceName ≠ "" && object.name ≠ ""

section

variable (runtime : Runtime)

/-- Track one listed object unless its Pod is tracked already. -/
def adoptObject (published : Published) (item : RdmaEndpoint) :
    Published :=
  if podUIDOf item = "" ∨ published.contains (podUIDOf item) then published
  else
    published.insert (podUIDOf item)
      { namespaceName := item.namespaceName
        name := item.name
        fingerprint := none
        sentAt := 0 }

/-- `adoptExisting` with a list call which succeeds. -/
def adoptExisting (node : String) (store : EndpointStore) (published : Published) : Published :=
  (store.list runtime node).foldl adoptObject published

/-- What is tracked when the Pods are compared. -/
def trackedAtStart (node : String) (publisher : EndpointPublisher)
    (store : EndpointStore) : Published :=
  if publisher.synced then publisher.published
  else adoptExisting runtime node store publisher.published

/-- The tracked objects and the API during a run. -/
structure PublishState where
  published : Published
  store : EndpointStore

/-- Whether an object needs no request. -/
def upToDate (clock : RunClock) (published : Published) (object : RdmaEndpoint) : Bool :=
  match published[podUIDOf object]? with
  | none => false
  | some previous =>
    previous.fingerprint = some (endpointFingerprint object) &&
      clock.checkedAt (podUIDOf object) - previous.sentAt < endpointResend

/-- One round of the first loop. -/
def publishObject (clock : RunClock) (state : PublishState)
    (object : RdmaEndpoint) : PublishState :=
  if named object = false then state
  else if upToDate clock state.published object then state
  else
    { published :=
        state.published.insert (podUIDOf object)
          { namespaceName := object.namespaceName
            name := object.name
            fingerprint := some (endpointFingerprint object)
            sentAt := clock.sentAt (podUIDOf object) }
      store := state.store.apply object }

/-- One round of the second loop. -/
def removeDead (live : List String) (state : PublishState) (uid : String) : PublishState :=
  match state.published[uid]? with
  | none => state
  | some previous =>
    if uid ∈ live then state
    else
      { published := state.published.erase uid, store := state.store.delete previous.key }

/-- After the first loop. -/
def appliedState (node : String) (clock : RunClock)
    (objects : List RdmaEndpoint) (publisher : EndpointPublisher)
    (store : EndpointStore) : PublishState :=
  objects.foldl (publishObject clock)
    { published := trackedAtStart runtime node publisher store, store }

/-- After the second loop. -/
def cleanedState (objects : List RdmaEndpoint) (applied : PublishState) : PublishState :=
  (runtime.range ["run"] applied.published.keys).foldl (removeDead (objects.map podUIDOf)) applied

/-- `run` on the collected objects, every request succeeding. -/
def publishRun (node : String) (clock : RunClock)
    (objects : List RdmaEndpoint) (publisher : EndpointPublisher)
    (store : EndpointStore) : EndpointPublisher × EndpointStore :=
  let cleaned :=
    cleanedState runtime objects (appliedState runtime node clock objects publisher store)
  ({ published := cleaned.published, lastRun := some clock.startedAt, synced := true },
    cleaned.store)

end

end Unifabric.EbpfFlow
