import Unifabric.Lib.GoMap

/-!
# Pods

The fields of a Pod which the attribution of flows reads.
-/

namespace Unifabric.CoreV1

open Lib

/-- `PodPhase`; an object whose phase was stripped has none. -/
inductive PodPhase where
  | unset
  | pending
  | running
  | succeeded
  | failed
  | unknown
  deriving DecidableEq, Repr

/-- A Pod. -/
structure Pod where
  namespaceName : String
  name : String
  uid : String
  annotations : GoMap String String
  nodeName : String
  hostNetwork : Bool
  phase : PodPhase
  podIP : String
  podIPs : List String
  deriving DecidableEq

/-- The name the API knows a Pod by. -/
def Pod.key (pod : Pod) : String × String := (pod.namespaceName, pod.name)

/-- No two Pods of a list have one namespace and name. -/
def UniqueNames (pods : List Pod) : Prop := (pods.map Pod.key).Nodup

lemma UniqueNames.eq_of_key (unique : UniqueNames pods) (among : pod ∈ pods)
    (otherAmong : other ∈ pods) (same : pod.key = other.key) : pod = other :=
  List.inj_on_of_nodup_map unique among otherAmong same

end Unifabric.CoreV1
