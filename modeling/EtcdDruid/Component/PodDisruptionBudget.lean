import EtcdDruid.Api.Core
import EtcdDruid.Utils

/-!
# Pod disruption budget: `pkg/component/etcd/poddisruptionbudget`

`GenerateValues` labels the budget and selects the pods with the Etcd's default
labels, and asks for a quorum of available pods once the cluster has more than
one member.  `syncPodDisruptionBudget` writes the labels, the owner, the minimum
and the selector; the `policy/v1beta1` variant also writes the annotations.
-/

namespace EtcdDruid
namespace Poddisruptionbudget

/-- `poddisruptionbudget.Values`. -/
structure Values where
  name : String
  labels : StringMap
  selectorLabels : StringMap
  annotations : StringMap
  minAvailable : Int32
  ownerReference : OwnerReference

/-- `CalculatePDBMinAvailable`: no budget for a single member, else a quorum. -/
def calculatePDBMinAvailable (etcd : Etcd) : Int :=
  if etcd.spec.replicas ≤ 1 then 0
  else
    let clusterSize := etcd.spec.replicas.toInt
    clusterSize / 2 + 1

def generateValues (etcd : Etcd) : Values where
  name := etcd.name
  labels := etcd.getDefaultLabels
  selectorLabels := etcd.getDefaultLabels
  annotations := (∅ : StringMap).insert gardenerOwnedBy (etcd.namespace_ ++ "/" ++ etcd.name)
    |>.insert gardenerOwnerType "etcd"
  minAvailable := Int32.ofInt (calculatePDBMinAvailable etcd)
  ownerReference := etcd.getAsOwnerReference

/-- The fields of a `PodDisruptionBudget` the component writes. -/
structure PodDisruptionBudget where
  annotations : StringMap
  labels : StringMap
  ownerReferences : List OwnerReference
  minAvailable : Int32
  selector : StringMap

/-- The mutate function of `syncPodDisruptionBudget`, for the `policy/v1` object
or, with `v1beta1`, for the older one. -/
def syncPodDisruptionBudget (v : Values) (v1beta1 : Bool) (pdb : PodDisruptionBudget) :
    PodDisruptionBudget :=
  { annotations := if v1beta1 then v.annotations else pdb.annotations
    labels := v.labels
    ownerReferences := [v.ownerReference]
    minAvailable := v.minAvailable
    selector := v.selectorLabels }

end Poddisruptionbudget
end EtcdDruid
