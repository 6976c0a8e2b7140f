import EtcdDruid.Controllers.Etcd
import EtcdDruid.Controllers.CompactionReconciler
import EtcdDruid.Kube.Finalizers

/-!
# The Etcd controller: `Reconcile` in `controllers/etcd/reconciler.go`

**Input.**  A request for an Etcd, the controller's image vector and REST
config, and the objects of the API server: Etcds, leases, StatefulSets, and the
services, config maps, disruption budgets, service accounts, roles and role
bindings etcd-druid deploys.

**Algorithm.**  `Reconcile` gets the Etcd.  For an Etcd being deleted, `delete`
destroys its StatefulSet and waits for it to go: when the wait times out it
records the error in the status and returns.  Otherwise it destroys the leases
and the config map, reads the cluster's version and destroys the disruption
budget, service account, role and role binding, and last removes the finalizer
`druid.gardener.cloud/etcd-druid`.  An Etcd with the annotation
`druid.gardener.cloud/ignore-reconciliation` is left alone.  Otherwise
`reconcile` adds the finalizer, marks the status not ready, removes the
operation annotation, and `reconcileEtcd` checks the replica count and the
images and deploys the leases, the services, the config map, the disruption
budget (after reading the cluster's version), the service account, role and
role binding.  It asks the member leases whether peer TLS is enabled, and runs
the StatefulSet's deploy flow and polls the StatefulSet until it is ready for
the Etcd's replicas; the flow's mutate
function builds the pod, which can fail on a secret and panic on a store
without a secret reference, and a panic in the flow's goroutine ends the
process.  The status then records the error, or the service name, no error and
the readiness of the StatefulSet read back, which the wait found ready; both
record the observed generation.  The API server's calls never fail; what the
waits see is the doing of the StatefulSet controller, the members and the
garbage collector.

**The system.**  Between two reconciles users create Etcds, change their specs
and annotations and delete them, other controllers add and remove finalizers
of their own, the StatefulSet controller writes the status of the StatefulSets,
and the members renew their leases.

**Results.**
* `objects_owned_of_reachable`: in every world reached from an empty cluster
  every lease and StatefulSet, and every object the controller deploys but the
  services, belongs to a stored Etcd that holds the finalizer, so no Etcd leaves
  the store while its StatefulSet exists;
* `reconcile_etcd_status`: what a reconcile writes into the status, whether it
  returns or panics, that a successful one records the Etcd as ready, and that
  it always leaves the finalizer on and the operation annotation off;
* `reconcile_not_retriggered`: the status update that ends a reconcile passes
  the controller's own event filter exactly when the reconcile failed;
* `reconcile_delete`: the reconcile of an Etcd being deleted returns early when
  its StatefulSet outlives the wait, and drops the finalizer only once every
  object of the Etcd is gone.
-/

namespace EtcdDruid

open Secret (NamespacedName)
open Compaction (Result)

/-- `v1beta1constants.GardenerOperation`. -/
def gardenerOperation : String := "gardener.cloud/operation"

/-- `v1beta1constants.GardenerOperationReconcile`. -/
def gardenerOperationReconcile : String := "reconcile"

/-- The Etcd controller as `Reconcile` uses it: its image vector through
`druidutils.GetEtcdImages` (the Etcd's and the backup-restore image, or the
error of `imagevector.FindImages`), its REST config through
`druidutils.GetClusterK8sVersion`, of which only the error is read here, and the
config map's checksum, the SHA-256 of the config's YAML, which the model leaves
uninterpreted. -/
structure Reconciler where
  getEtcdImages : Etcd → Except String (String × String)
  getClusterK8sVersion : Except String Unit
  configMapChecksum : Configmap.Values → String

namespace Reconciler

/-- `IgnoreReconciliationAnnotation`. -/
def ignoreReconciliationAnnotation : String := "druid.gardener.cloud/ignore-reconciliation"

/-! ## Objects -/

/-- The fields of `EtcdStatus` that the controller writes, besides `Replicas`,
which the model's `Etcd` carries. -/
structure ReconcileStatus where
  observedGeneration : Option Int
  serviceName : Option String
  lastError : Option String
  ready : Option Bool
  readyReplicas : Int32
  deriving DecidableEq

/-- An Etcd as the controller reads and writes it: the resource, the annotations
of its metadata, and the status fields above. -/
structure EtcdState where
  etcd : Etcd
  annotations : StringMap
  status : ReconcileStatus

/-- An Etcd as the API server stores it. -/
abbrev EtcdObject := Kube.Object EtcdState

/-- The objects of the API server that the controller reads and writes: Etcds,
leases, StatefulSets, and the other objects it deploys, by kind, namespace and
name. -/
structure World where
  etcds : Go.Map (String × String) EtcdObject
  leases : Lease.LeaseStore
  objects : Go.Map (ObjectKind × String × String) Unit
  statefulSets : Go.Map (String × String) Statefulset.StatefulSet

/-- What the rest of the cluster decides while one reconcile runs: the time the
API server stamps on created leases, the order in which the lease tasks
complete, the secrets the pod's volumes read, and what the StatefulSet
controller, the members and the garbage collector do while the StatefulSet's
component waits. -/
structure Inputs where
  now : Int
  sched : Go.RangeOrder Lease.LeaseTask
  getSecret : SecretGetter
  stsWaits : Statefulset.Waits

/-- `reconcileResult`. -/
structure ReconcileResult where
  svcName : Option String
  sts : Option Statefulset.StatefulSet
  err : Option String

/-- `reconcileResult{err: err}`. -/
def ReconcileResult.failed (err : String) : ReconcileResult := ⟨none, none, some err⟩

/-- What `Reconcile` returns, `(ctrl.Result, error)`, or the panic that ends the
process; and the objects after the writes it made. -/
structure Outcome where
  returned : Except Go.Failure (Result × Option String)
  world : World

/-- `ctrl.Result{Requeue: true}`. -/
def requeue : Result := ⟨true, 0⟩

/-- `client.ObjectKeyFromObject(etcd)`. -/
def stateKey (s : EtcdState) : String × String := (s.etcd.namespace_, s.etcd.name)

namespace World

/-- A create-or-patch of an object: it exists afterwards. -/
def createOrPatch (w : World) (x : ObjectKind × String × String) : World :=
  { w with objects := w.objects.insert x () }

/-- A delete that ignores `NotFound`. -/
def delete (w : World) (x : ObjectKind × String × String) : World :=
  { w with objects := w.objects.erase x }

/-- The StatefulSet under `k` after the StatefulSet component, if any. -/
def putStatefulSet (w : World) (k : String × String) : Option Statefulset.StatefulSet → World
  | some sts => { w with statefulSets := w.statefulSets.insert k sts }
  | none => { w with statefulSets := w.statefulSets.erase k }

/-- A patch or status update of an Etcd, which keeps its metadata. -/
def patchEtcd (w : World) (k : String × String) (f : EtcdState → EtcdState) : World :=
  { w with etcds := Kube.patch w.etcds k f }

/-- A patch of an Etcd's finalizers. -/
def patchEtcdFinalizers (w : World) (k : String × String) (fs : List String) : World :=
  { w with etcds := Kube.patchFinalizers w.etcds k fs }

@[simp] theorem putStatefulSet_etcds (w : World) (k : String × String) (s : Option Statefulset.StatefulSet) :
    (w.putStatefulSet k s).etcds = w.etcds := by
  cases s <;> rfl

@[simp] theorem putStatefulSet_objects (w : World) (k : String × String) (s : Option Statefulset.StatefulSet) :
    (w.putStatefulSet k s).objects = w.objects := by
  cases s <;> rfl

@[simp] theorem putStatefulSet_leases (w : World) (k : String × String) (s : Option Statefulset.StatefulSet) :
    (w.putStatefulSet k s).leases = w.leases := by
  cases s <;> rfl

theorem lookup_putStatefulSet_self (w : World) (k : String × String) (s : Option Statefulset.StatefulSet) :
    (w.putStatefulSet k s).statefulSets.lookup k = s := by
  cases s
  · exact AList.lookup_erase _ _
  · exact AList.lookup_insert _

@[simp] theorem patchEtcd_statefulSets (w : World) (k : String × String) (f : EtcdState → EtcdState) :
    (w.patchEtcd k f).statefulSets = w.statefulSets := rfl

@[simp] theorem patchEtcd_objects (w : World) (k : String × String) (f : EtcdState → EtcdState) :
    (w.patchEtcd k f).objects = w.objects := rfl

@[simp] theorem patchEtcd_leases (w : World) (k : String × String) (f : EtcdState → EtcdState) :
    (w.patchEtcd k f).leases = w.leases := rfl

end World

/-! ## `reconcileEtcd` -/

/-- `isPeerTLSChangedToEnabled`. -/
def isPeerTLSChangedToEnabled (peerTLSEnabledStatusFromMembers : Bool) (configMapValues : Configmap.Values) :
    Bool :=
  if peerTLSEnabledStatusFromMembers then false else configMapValues.peerUrlTLS.isSome

/-- `componentsts.GenerateValues` as `reconcileEtcd` calls it: the service's
ports, the config map's checksum and whether peer TLS has just been enabled. -/
def statefulSetObjectValues (r : Reconciler) (etcd : Etcd) (peerUrlTLSChangedToEnabled : Bool) :
    Statefulset.ObjectValues :=
  Statefulset.generateObjectValues etcd (some (serviceValues etcd).clientPort) (some (serviceValues etcd).peerPort)
    (some (serviceValues etcd).backupPort)
    ((∅ : StringMap).insert "checksum/etcd-configmap" (r.configMapChecksum (configMapValues etcd)))
    peerUrlTLSChangedToEnabled

/-- `reconcileEtcd`: the checks, then every component's `Deploy` in order; the
result or a panic, and the objects after the deploys that ran. -/
def reconcileEtcd (r : Reconciler) (inp : Inputs) (etcd : Etcd) (w : World) :
    Except Go.Failure ReconcileResult × World :=
  if etcd.spec.replicas > 1 ∧ etcd.spec.replicas &&& 1 = 0 then
    (.ok (.failed ("Spec.Replicas should not be even number: " ++ fmtInt32 etcd.spec.replicas)), w)
  else
    match r.getEtcdImages etcd with
    | .error e => (.ok (.failed e), w)
    | .ok _ =>
      let ns := etcd.namespace_
      let w := { w with leases := Lease.deploy (leaseValues etcd) ns inp.now inp.sched w.leases }
      let w := (w.createOrPatch (.service, ns, (serviceValues etcd).clientServiceName)).createOrPatch
        (.service, ns, (serviceValues etcd).peerServiceName)
      let w := w.createOrPatch (.configMap, ns, (configMapValues etcd).name)
      match r.getClusterK8sVersion with
      | .error e => (.ok (.failed e), w)
      | .ok _ =>
        let w := w.createOrPatch (.podDisruptionBudget, ns, (Poddisruptionbudget.generateValues etcd).name)
        let w := w.createOrPatch (.serviceAccount, ns, etcd.getServiceAccountName)
        let w := w.createOrPatch (.role, ns, etcd.getRoleName)
        let w := w.createOrPatch (.roleBinding, ns, etcd.getRoleBindingName)
        -- the API server's `List` of the member leases never fails
        match isPeerURLTLSEnabled (fun ns sel => .ok (Lease.listLeases w.leases ns sel)) ns etcd.name with
        | .error f => (.ok (.failed f.message), w)
        | .ok peerTLSEnabled =>
          let val := statefulSetObjectValues r etcd (isPeerTLSChangedToEnabled peerTLSEnabled (configMapValues etcd))
          -- `OpWait(stsDeployer).Deploy`, then `stsDeployer.Get`
          match Statefulset.deployAndWait inp.getSecret val inp.stsWaits (w.statefulSets.lookup (ns, etcd.name)) with
          | (.error .nilPointerDereference, stored) => (.error .nilPointerDereference, w.putStatefulSet (ns, etcd.name) stored)
          | (.error (.error e), stored) => (.ok (.failed e), w.putStatefulSet (ns, etcd.name) stored)
          | (.ok (), some sts) =>
            (.ok ⟨some (serviceValues etcd).clientServiceName, some sts, none⟩,
              w.putStatefulSet (ns, etcd.name) (some sts))
          | (.ok (), none) =>
            (.ok ⟨some (serviceValues etcd).clientServiceName, none,
              some (notFoundError "statefulsets.apps" etcd.name)⟩, w.putStatefulSet (ns, etcd.name) none)

/-! ## The status -/

/-- The part of `updateEtcdErrorStatus` and `updateEtcdStatus` that reads the
StatefulSet of the result. -/
def setStatefulSetStatus (sts : Option Statefulset.StatefulSet) (s : EtcdState) : EtcdState :=
  match sts with
  | some sts =>
    { s with
      etcd := { s.etcd with status := { s.etcd.status with replicas := sts.spec.replicas.getD 0 } }
      status := { s.status with ready := some (Statefulset.isStatefulSetReady s.etcd.spec.replicas sts).1 } }
  | none => s

/-- `updateEtcdErrorStatus`, with the error of the result. -/
def updateEtcdErrorStatus (generation : Int) (result : ReconcileResult) (err : String) (s : EtcdState) :
    EtcdState :=
  setStatefulSetStatus result.sts
    { s with status := { s.status with lastError := some err, observedGeneration := some generation } }

theorem updateEtcdErrorStatus_of_sts_none {result : ReconcileResult} (h : result.sts = none) (generation : Int)
    (err : String) :
    updateEtcdErrorStatus generation result err =
      fun s => { s with status := { s.status with lastError := some err, observedGeneration := some generation } } := by
  funext s
  rw [updateEtcdErrorStatus, h]
  rfl

/-- `updateEtcdStatus`. -/
def updateEtcdStatus (generation : Int) (result : ReconcileResult) (s : EtcdState) : EtcdState :=
  let s := setStatefulSetStatus result.sts s
  { s with status := { s.status with
    serviceName := result.svcName, lastError := none, observedGeneration := some generation } }

/-- `updateEtcdStatusAsNotReady`. -/
def updateEtcdStatusAsNotReady (s : EtcdState) : EtcdState :=
  { s with status := { s.status with ready := none, readyReplicas := 0 } }

/-- `removeOperationAnnotation`. -/
def removeOperationAnnotation (s : EtcdState) (w : World) : World :=
  if gardenerOperation ∈ s.annotations then
    w.patchEtcd (stateKey s) fun s => { s with annotations := s.annotations.erase gardenerOperation }
  else w

/-! ## `Reconcile` -/

/-- `controllerutils.AddFinalizers` unless the Etcd holds the finalizer; the API
server admits it for an Etcd that is not being deleted. -/
def addFinalizer (o : EtcdObject) (w : World) : World :=
  if finalizerName ∈ o.metadata.finalizers then w
  else w.patchEtcdFinalizers (stateKey o.val) (Kube.addFinalizer o.metadata.finalizers finalizerName)

/-- `(*Reconciler).reconcile`: the finalizer, the status, the annotation,
`reconcileEtcd` and the status again, unless `reconcileEtcd` panicked. -/
def reconcileObject (r : Reconciler) (inp : Inputs) (o : EtcdObject) (w : World) : Outcome :=
  let k := stateKey o.val
  let w := addFinalizer o w
  let w := w.patchEtcd k updateEtcdStatusAsNotReady
  let w := removeOperationAnnotation o.val w
  match reconcileEtcd r inp o.val.etcd w with
  | (.error f, w) => ⟨.error f, w⟩
  | (.ok res, w) =>
    match res.err with
    | some err =>
      ⟨.ok (requeue, some err), w.patchEtcd k (updateEtcdErrorStatus o.metadata.generation res err)⟩
    | none => ⟨.ok (Result.done, none), w.patchEtcd k (updateEtcdStatus o.metadata.generation res)⟩

/-- `(*Reconciler).delete`: the StatefulSet's `OpDestroyAndWait`, which returns
early with the error status when the StatefulSet outlives the wait, then every
other component's `Destroy`, then the finalizer. -/
def delete (r : Reconciler) (inp : Inputs) (o : EtcdObject) (w : World) : Outcome :=
  let etcd := o.val.etcd
  let ns := etcd.namespace_
  match Statefulset.destroyAndWait inp.stsWaits (w.statefulSets.lookup (ns, etcd.name)) with
  | (.error e, _) =>
    ⟨.ok (requeue, some e),
      w.patchEtcd (stateKey o.val) (updateEtcdErrorStatus o.metadata.generation (.failed e) e)⟩
  | (.ok (), stored) =>
    let w := w.putStatefulSet (ns, etcd.name) stored
    let w := { w with leases := Lease.destroy (leaseValues etcd) ns w.leases }
    let w := w.delete (.configMap, ns, (configMapValues etcd).name)
    match r.getClusterK8sVersion with
    | .error e => ⟨.ok (requeue, some e), w⟩
    | .ok _ =>
      let w := w.delete (.podDisruptionBudget, ns, (Poddisruptionbudget.generateValues etcd).name)
      let w := w.delete (.serviceAccount, ns, etcd.getServiceAccountName)
      let w := w.delete (.role, ns, etcd.getRoleName)
      let w := w.delete (.roleBinding, ns, etcd.getRoleBindingName)
      if finalizerName ∈ o.metadata.finalizers then
        ⟨.ok (Result.done, none),
          w.patchEtcdFinalizers (stateKey o.val) (Kube.removeFinalizer o.metadata.finalizers finalizerName)⟩
      else ⟨.ok (Result.done, none), w⟩

/-- `Reconcile`. -/
def reconcile (r : Reconciler) (inp : Inputs) (req : NamespacedName) (w : World) : Outcome :=
  match w.etcds.lookup (req.namespace_, req.name) with
  | none => ⟨.ok (Result.done, none), w⟩
  | some o =>
    if o.metadata.deletionTimestamp.isSome then delete r inp o w
    else if ignoreReconciliationAnnotation ∈ o.val.annotations then ⟨.ok (Result.done, none), w⟩
    else reconcileObject r inp o w

/-! ## The controller's event filter -/

/-- `hasOperationAnnotation`. -/
def hasOperationAnnotation (s : EtcdState) : Bool :=
  s.annotations.lookup gardenerOperation == some gardenerOperationReconcile

/-- `BuildPredicate` on the update of an Etcd from `old` to `new`: with
`ignoreOperationAnnotation` a change of the generation, otherwise the operation
annotation, a last error, or a deletion. -/
def buildPredicateUpdate ( ignoreOperationAnnotation : Bool) (old new : EtcdObject) : Bool :=
  if ignoreOperationAnnotation then old.metadata.generation != new.metadata.generation
  else hasOperationAnnotation new.val || new.val.status.lastError.isSome ||
    new.metadata.deletionTimestamp.isSome

/-! ## The cluster around the controller -/

/-- The status of a new Etcd. -/
def ReconcileStatus.empty : ReconcileStatus := ⟨none, none, none, none, 0⟩

/-- What the rest of the cluster does between two reconciles. -/
inductive Event
  /-- A user creates an Etcd. -/
  | createEtcd (etcd : Etcd) (annotations : StringMap)
  /-- A user changes the spec of an Etcd. -/
  | updateSpec (k : String × String) (spec : EtcdSpec)
  /-- A user or gardener sets the annotations of an Etcd. -/
  | annotate (k : String × String) (annotations : StringMap)
  /-- A user deletes an Etcd. -/
  | deleteEtcd (k : String × String) (t : Int)
  /-- Another controller adds a finalizer of its own, as the API server admits it. -/
  | addFinalizer (k : String × String) (f : String)
  /-- Another controller removes a finalizer of its own. -/
  | removeFinalizer (k : String × String) (f : String)
  /-- The StatefulSet controller writes the status of a StatefulSet. -/
  | statefulSetStatus (k : String × String) (status : Statefulset.StatefulSetStatus)
  /-- A member's backup-restore sidecar renews its lease: the holder identity and
  the annotations, among them whether peer TLS is enabled. -/
  | renewLease (k : String × String) (holderIdentity : Option String) (annotations : StringMap)

def Event.apply (w : World) : Event → World
  | .createEtcd etcd annotations =>
    { w with etcds := Kube.create w.etcds (etcd.namespace_, etcd.name) ⟨etcd, annotations, .empty⟩ }
  | .updateSpec k spec =>
    { w with etcds := Kube.patchSpec w.etcds k fun s => { s with etcd := { s.etcd with spec := spec } } }
  | .annotate k annotations => w.patchEtcd k fun s => { s with annotations := annotations }
  | .deleteEtcd k t => { w with etcds := Kube.delete w.etcds k t }
  | .addFinalizer k f =>
    match w.etcds.lookup k with
    | some o =>
      if f ≠ finalizerName ∧ Kube.NoNewFinalizers o.metadata (Kube.addFinalizer o.metadata.finalizers f) then
        w.patchEtcdFinalizers k (Kube.addFinalizer o.metadata.finalizers f)
      else w
    | none => w
  | .removeFinalizer k f =>
    match w.etcds.lookup k with
    | some o => if f ≠ finalizerName then w.patchEtcdFinalizers k (Kube.removeFinalizer o.metadata.finalizers f) else w
    | none => w
  | .statefulSetStatus k status =>
    match w.statefulSets.lookup k with
    | some sts => { w with statefulSets := w.statefulSets.insert k { sts with status := status } }
    | none => w
  | .renewLease k holderIdentity annotations =>
    match w.leases.lookup k with
    | some l =>
      { w with leases := w.leases.insert k { l with holderIdentity := holderIdentity, annotations := annotations } }
    | none => w

/-- One step of the system: a reconcile of any request, which may panic after
some of its writes, or an event. -/
inductive Step (r : Reconciler) : World → World → Prop
  | reconcile (w : World) (inp : Inputs) (req : NamespacedName) : Step r w (reconcile r inp req w).world
  | event (w : World) (e : Event) : Step r w (e.apply w)

/-- The worlds the system reaches from `w₀`. -/
def Reachable (r : Reconciler) (w₀ w : World) : Prop := Relation.ReflTransGen (Step r) w₀ w

/-- The cluster before any Etcd is created. -/
def World.init : World := ⟨∅, ∅, ∅, ∅⟩

/-! ## The invariant: no object outlives its Etcd -/

/-- The objects of an Etcd that its `delete` destroys, besides its StatefulSet
and its leases. -/
def destroyedObjects (etcd : Etcd) : List (ObjectKind × String × String) :=
  [(.configMap, etcd.namespace_, (configMapValues etcd).name),
   (.podDisruptionBudget, etcd.namespace_, (Poddisruptionbudget.generateValues etcd).name),
   (.serviceAccount, etcd.namespace_, etcd.getServiceAccountName),
   (.role, etcd.namespace_, etcd.getRoleName),
   (.roleBinding, etcd.namespace_, etcd.getRoleBindingName)]

/-- The lease under `k` is one of the Etcd's: a snapshot lease, or a lease of its
namespace with its member labels. -/
def OwnsLease (etcd : Etcd) (k : String × String) (l : Lease) : Prop :=
  k.1 = etcd.namespace_ ∧ (k.2 = (leaseValues etcd).deltaSnapshotLeaseName ∨
    k.2 = (leaseValues etcd).fullSnapshotLeaseName ∨
    matchesLabels (getMemberLeaseLabels (leaseValues etcd).etcdName) l.labels)

/-- Something the controller deployed belongs to a stored Etcd that holds the
finalizer, by what `p` says of the Etcd. -/
def OwnedBy (etcds : Go.Map (String × String) EtcdObject) (p : Etcd → Prop) : Prop :=
  ∃ k, Kube.Holds etcds k finalizerName fun s => p s.etcd

/-- Etcds are stored under their own names, and every lease and StatefulSet,
and every object the controller deploys but the services, belongs to a stored
Etcd that holds the finalizer. -/
structure Inv (w : World) : Prop where
  etcdsKeyed : Kube.Keyed stateKey w.etcds
  objectsOwned : ∀ x ∈ w.objects, x.1 ≠ .service → OwnedBy w.etcds fun e => x ∈ destroyedObjects e
  statefulSetsOwned : ∀ k ∈ w.statefulSets, OwnedBy w.etcds fun e => (e.namespace_, e.name) = k
  leasesOwned : ∀ k l, w.leases.lookup k = some l → OwnedBy w.etcds fun e => OwnsLease e k l

/-- Two versions of one Etcd: same name, namespace and UID. -/
def SameIdentity (e e' : Etcd) : Prop := e'.name = e.name ∧ e'.namespace_ = e.namespace_ ∧ e'.uid = e.uid

/-- A write of an Etcd's value that keeps who it is. -/
def KeepsIdentity (g : EtcdState → EtcdState) : Prop := ∀ s, SameIdentity s.etcd (g s).etcd

/-- What is said of an Etcd depends only on who it is. -/
def OfIdentity (p : Etcd → Prop) : Prop := ∀ e e', SameIdentity e e' → p e → p e'

section Invariant

variable {w : World} {k : String × String} {o : EtcdObject}

theorem mem_createOrPatch {x y : ObjectKind × String × String} :
    y ∈ (w.createOrPatch x).objects ↔ y = x ∨ y ∈ w.objects :=
  AList.mem_insert _

theorem mem_delete {x y : ObjectKind × String × String} :
    y ∈ (w.delete x).objects ↔ y ≠ x ∧ y ∈ w.objects :=
  AList.mem_erase

/-- What the Etcd owns depends only on who it is. -/
theorem destroyedObjects_congr {e e' : Etcd} (h : SameIdentity e e') :
    destroyedObjects e' = destroyedObjects e := by
  obtain ⟨hn, hns, hu⟩ := h
  -- the config map's name is read through its definition: its equation lemma is slow to build
  have hcm : e'.getConfigmapName = e.getConfigmapName :=
    congrArg (fun u => "etcd-bootstrap-" ++ Uid.prefix6 u) hu
  simp only [destroyedObjects, configMapValues, Configmap.generateValues, Poddisruptionbudget.generateValues,
    Etcd.getServiceAccountName, Etcd.getRoleName, Etcd.getRoleBindingName, hn, hns, hcm]

theorem ownsLease_congr {e e' : Etcd} (h : SameIdentity e e') {k : String × String} {l : Lease} :
    OwnsLease e' k l ↔ OwnsLease e k l := by
  obtain ⟨hn, hns, -⟩ := h
  simp only [OwnsLease, leaseValues, Lease.generateValues, Etcd.getDeltaSnapshotLeaseName,
    Etcd.getFullSnapshotLeaseName, hn, hns]

theorem ofIdentity_mem_destroyedObjects (x : ObjectKind × String × String) :
    OfIdentity fun e => x ∈ destroyedObjects e :=
  fun _ _ h (hx : x ∈ _) => show x ∈ _ by rwa [destroyedObjects_congr h]

theorem ofIdentity_key (k : String × String) : OfIdentity fun e => (e.namespace_, e.name) = k :=
  fun _ _ h (hk : (_, _) = k) => show (_, _) = k by rw [h.1, h.2.1]; exact hk

theorem ofIdentity_ownsLease (k : String × String) (l : Lease) : OfIdentity fun e => OwnsLease e k l :=
  fun _ _ h hl => (ownsLease_congr h).mpr hl

/-! ### Ownership across the writes of Etcds -/

section OwnedBy

variable {etcds : Go.Map (String × String) EtcdObject} {p : Etcd → Prop}

theorem OwnedBy.patch (h : OwnedBy etcds p) (hp : OfIdentity p) (k : String × String)
    {g : EtcdState → EtcdState} (hg : KeepsIdentity g) : OwnedBy (Kube.patch etcds k g) p :=
  h.imp fun _ h => h.patch k fun s hs => hp _ _ (hg s) hs

theorem OwnedBy.patchSpec (h : OwnedBy etcds p) (hp : OfIdentity p) (k : String × String)
    {g : EtcdState → EtcdState} (hg : KeepsIdentity g) : OwnedBy (Kube.patchSpec etcds k g) p :=
  h.imp fun _ h => h.patchSpec k fun s hs => hp _ _ (hg s) hs

theorem OwnedBy.create (h : OwnedBy etcds p) (k : String × String) (s : EtcdState) :
    OwnedBy (Kube.create etcds k s) p :=
  h.imp fun _ h => h.create _

theorem OwnedBy.delete (h : OwnedBy etcds p) (k : String × String) (t : Int) :
    OwnedBy (Kube.delete etcds k t) p :=
  h.imp fun _ h => h.delete k t

/-- A patch of an Etcd's finalizers that keeps the finalizer keeps ownership. -/
theorem OwnedBy.patchFinalizers {fs : List String} (h : OwnedBy etcds p) (hk : etcds.lookup k = some o)
    (hf : finalizerName ∈ o.metadata.finalizers → finalizerName ∈ fs) :
    OwnedBy (Kube.patchFinalizers etcds k fs) p :=
  h.imp fun _ h => h.patchFinalizers_of_lookup hk hf

/-- Any patch of the finalizers of an Etcd that owns no such thing keeps ownership. -/
theorem OwnedBy.patchFinalizers_of_not {fs : List String} (h : OwnedBy etcds p)
    (hk : etcds.lookup k = some o) (hno : ¬ p o.val.etcd) : OwnedBy (Kube.patchFinalizers etcds k fs) p := by
  obtain ⟨k', h⟩ := h
  refine ⟨k', h.patchFinalizers fun hkey => ?_⟩
  -- the owner cannot be the Etcd whose finalizers are patched
  subst hkey
  obtain ⟨o', hk', -, hown⟩ := h
  rw [hk, Option.some.injEq] at hk'
  subst hk'
  exact absurd hown hno

end OwnedBy

/-- A write of the Etcds under which every owner that holds the finalizer still
holds it, and Etcds stay under their names, keeps the invariant. -/
theorem Inv.withEtcds (hi : Inv w) {etcds : Go.Map (String × String) EtcdObject}
    (hkeyed : Kube.Keyed stateKey etcds) (hown : ∀ p, OfIdentity p → OwnedBy w.etcds p → OwnedBy etcds p) :
    Inv { w with etcds := etcds } where
  etcdsKeyed := hkeyed
  objectsOwned x hx hs := hown _ (ofIdentity_mem_destroyedObjects x) (hi.objectsOwned x hx hs)
  statefulSetsOwned k hk := hown _ (ofIdentity_key k) (hi.statefulSetsOwned k hk)
  leasesOwned k l hl := hown _ (ofIdentity_ownsLease k l) (hi.leasesOwned k l hl)

/-- A write of a value that keeps who the Etcd is keeps the invariant. -/
theorem Inv.patchEtcd (hi : Inv w) (k : String × String) (g : EtcdState → EtcdState) (hg : KeepsIdentity g) :
    Inv (w.patchEtcd k g) :=
  hi.withEtcds (hi.etcdsKeyed.patch k fun s => by rw [stateKey, stateKey, (hg s).1, (hg s).2.1])
    fun _ hp h => h.patch hp k hg

/-- A patch of an Etcd's finalizers that keeps the finalizer keeps the invariant. -/
theorem Inv.patchEtcdFinalizers {fs : List String} (hi : Inv w) (hk : w.etcds.lookup k = some o)
    (hf : finalizerName ∈ o.metadata.finalizers → finalizerName ∈ fs) :
    Inv (w.patchEtcdFinalizers k fs) :=
  hi.withEtcds (hi.etcdsKeyed.patchFinalizers k) fun _ _ h => h.patchFinalizers hk hf

/-- Any patch of the finalizers of an Etcd that owns nothing keeps the invariant. -/
theorem Inv.releaseFinalizer {fs : List String} (hi : Inv w) (hk : w.etcds.lookup k = some o)
    (hobj : ∀ x ∈ w.objects, x ∉ destroyedObjects o.val.etcd)
    (hsts : (o.val.etcd.namespace_, o.val.etcd.name) ∉ w.statefulSets)
    (hlease : ∀ k₀ l, w.leases.lookup k₀ = some l → ¬ OwnsLease o.val.etcd k₀ l) :
    Inv (w.patchEtcdFinalizers k fs) where
  etcdsKeyed := hi.etcdsKeyed.patchFinalizers k
  objectsOwned x hx hs := (hi.objectsOwned x hx hs).patchFinalizers_of_not hk (hobj x hx)
  statefulSetsOwned k' hk' :=
    (hi.statefulSetsOwned k' hk').patchFinalizers_of_not hk fun (hkey : (_, _) = k') => hsts (hkey ▸ hk')
  leasesOwned k₀ l hl := (hi.leasesOwned k₀ l hl).patchFinalizers_of_not hk (hlease k₀ l hl)

/-- An object deployed for an Etcd that holds the finalizer keeps the invariant. -/
theorem Inv.createOrPatch {etcd : Etcd} {x : ObjectKind × String × String} (hi : Inv w)
    (hown : Kube.Holds w.etcds k finalizerName fun s => s.etcd = etcd)
    (hx : x.1 = .service ∨ x ∈ destroyedObjects etcd) : Inv (w.createOrPatch x) where
  etcdsKeyed := hi.etcdsKeyed
  objectsOwned y hy hs := by
    rcases mem_createOrPatch.mp hy with rfl | hy
    · exact ⟨k, hown.mono fun s hs' => hs' ▸ hx.resolve_left hs⟩
    · exact hi.objectsOwned y hy hs
  statefulSetsOwned := hi.statefulSetsOwned
  leasesOwned := hi.leasesOwned

theorem Inv.delete (hi : Inv w) (x : ObjectKind × String × String) : Inv (w.delete x) where
  etcdsKeyed := hi.etcdsKeyed
  objectsOwned y hy hs := hi.objectsOwned y (mem_delete.mp hy).2 hs
  statefulSetsOwned := hi.statefulSetsOwned
  leasesOwned := hi.leasesOwned

/-- A deleted StatefulSet keeps the invariant. -/
theorem Inv.eraseStatefulSet (hi : Inv w) (k' : String × String) : Inv (w.putStatefulSet k' none) where
  etcdsKeyed := hi.etcdsKeyed
  objectsOwned := hi.objectsOwned
  statefulSetsOwned k₀ hk₀ := hi.statefulSetsOwned k₀ (AList.mem_erase.mp hk₀).2
  leasesOwned := hi.leasesOwned

/-- The StatefulSet of an Etcd that holds the finalizer, written or deleted,
keeps the invariant. -/
theorem Inv.putStatefulSet {etcd : Etcd} (hi : Inv w)
    (hown : Kube.Holds w.etcds k finalizerName fun s => s.etcd = etcd) :
    ∀ stored, Inv (w.putStatefulSet (etcd.namespace_, etcd.name) stored)
  | none => hi.eraseStatefulSet _
  | some sts =>
    { hi with
      statefulSetsOwned := fun k' hk' => by
        rcases (AList.mem_insert _).mp hk' with rfl | hk'
        · exact ⟨k, hown.mono fun s (hs : s.etcd = etcd) => show (_, _) = _ by rw [hs]⟩
        · exact hi.statefulSetsOwned k' hk' }

/-- The lease component's `Deploy` for an Etcd that holds the finalizer keeps the invariant. -/
theorem Inv.deployLeases {etcd : Etcd} (hi : Inv w)
    (hown : Kube.Holds w.etcds k finalizerName fun s => s.etcd = etcd) (now : Int)
    (sched : Go.RangeOrder Lease.LeaseTask) :
    Inv { w with leases := Lease.deploy (leaseValues etcd) etcd.namespace_ now sched w.leases } where
  etcdsKeyed := hi.etcdsKeyed
  objectsOwned := hi.objectsOwned
  statefulSetsOwned := hi.statefulSetsOwned
  leasesOwned k₀ l hl := by
    rcases Lease.lookup_deploy_cases sched w.leases hl with hold | hnew
    · exact hi.leasesOwned k₀ l hold
    · -- a lease of the Etcd being deployed
      exact ⟨k, hown.mono fun s hs => by rw [hs]; exact hnew⟩

theorem Inv.destroyLeases (hi : Inv w) (etcd : Etcd) :
    Inv { w with leases := Lease.destroy (leaseValues etcd) etcd.namespace_ w.leases } where
  etcdsKeyed := hi.etcdsKeyed
  objectsOwned := hi.objectsOwned
  statefulSetsOwned := hi.statefulSetsOwned
  leasesOwned k₀ l hl := hi.leasesOwned k₀ l (Lease.lookup_destroy_of_lookup hl).1

end Invariant

/-! ## A reconcile keeps the invariant -/

section Reconcile

variable {r : Reconciler} {inp : Inputs} {w : World} {k : String × String} {o : EtcdObject}

theorem keepsIdentity_of_etcd {g : EtcdState → EtcdState} (hg : ∀ s, (g s).etcd = s.etcd) :
    KeepsIdentity g := fun s => by
  rw [SameIdentity, hg s]
  exact ⟨rfl, rfl, rfl⟩

theorem keepsIdentity_setStatefulSetStatus (sts : Option Statefulset.StatefulSet) :
    KeepsIdentity (setStatefulSetStatus sts) := by
  intro s
  cases sts <;> exact ⟨rfl, rfl, rfl⟩

theorem keepsIdentity_updateEtcdErrorStatus (generation : Int) (result : ReconcileResult) (err : String) :
    KeepsIdentity (updateEtcdErrorStatus generation result err) := fun _ =>
  keepsIdentity_setStatefulSetStatus result.sts _

theorem keepsIdentity_updateEtcdStatus (generation : Int) (result : ReconcileResult) :
    KeepsIdentity (updateEtcdStatus generation result) := fun s =>
  keepsIdentity_setStatefulSetStatus result.sts s

/-- A write that keeps the resource keeps an Etcd that holds the finalizer. -/
theorem holds_patchEtcd {etcd : Etcd} {k₀ : String × String}
    (h : Kube.Holds w.etcds k₀ finalizerName fun s => s.etcd = etcd) (k : String × String)
    (g : EtcdState → EtcdState) (hg : ∀ s, (g s).etcd = s.etcd) :
    Kube.Holds (w.patchEtcd k g).etcds k₀ finalizerName fun s => s.etcd = etcd :=
  h.patch k fun s hs => (hg s).trans hs

theorem Inv.removeOperationAnnotation (hi : Inv w) (s : EtcdState) :
    Inv ( removeOperationAnnotation s w) := by
  unfold Reconciler.removeOperationAnnotation
  split_ifs
  · exact hi.patchEtcd _ _ (keepsIdentity_of_etcd fun _ => rfl)
  · exact hi

theorem holds_removeOperationAnnotation {etcd : Etcd} {k₀ : String × String} (s : EtcdState)
    (h : Kube.Holds w.etcds k₀ finalizerName fun s => s.etcd = etcd) :
    Kube.Holds ( removeOperationAnnotation s w).etcds k₀ finalizerName fun s => s.etcd = etcd := by
  unfold Reconciler.removeOperationAnnotation
  split_ifs
  · exact holds_patchEtcd h _ _ fun _ => rfl
  · exact h

theorem Inv.addFinalizer (hi : Inv w) (hk : w.etcds.lookup k = some o) : Inv (addFinalizer o w) := by
  unfold Reconciler.addFinalizer
  split_ifs
  · exact hi
  · rw [hi.etcdsKeyed k o hk]
    exact hi.patchEtcdFinalizers hk fun hf => Kube.mem_addFinalizer.mpr (.inl hf)

/-- After `AddFinalizers` the Etcd holds the finalizer. -/
theorem holds_addFinalizer (hi : Inv w) (hk : w.etcds.lookup k = some o) :
    Kube.Holds (addFinalizer o w).etcds k finalizerName (· = o.val) := by
  unfold Reconciler.addFinalizer
  split_ifs with hf
  · exact ⟨o, hk, hf, rfl⟩
  · rw [hi.etcdsKeyed k o hk]
    exact Kube.holds_patchFinalizers_addFinalizer hk

/-- Deploys of objects of an Etcd that holds the finalizer keep the invariant. -/
theorem Inv.createOrPatchAll {etcd : Etcd} (hi : Inv w)
    (hown : Kube.Holds w.etcds k finalizerName fun s => s.etcd = etcd) (xs : List (ObjectKind × String × String))
    (hxs : ∀ x ∈ xs, x.1 = .service ∨ x ∈ destroyedObjects etcd) : Inv (xs.foldl World.createOrPatch w) := by
  induction xs generalizing w with
  | nil => exact hi
  | cons x xs ih =>
    exact ih (hi.createOrPatch hown (hxs x List.mem_cons_self)) hown
      fun y hy => hxs y (List.mem_cons_of_mem _ hy)

/-- `reconcileEtcd` deploys only objects of the Etcd, which holds the finalizer,
whether it returns or panics. -/
theorem Inv.reconcileEtcd {etcd : Etcd} (hi : Inv w)
    (hown : Kube.Holds w.etcds k finalizerName fun s => s.etcd = etcd) :
    Inv (reconcileEtcd r inp etcd w).2 := by
  unfold Reconciler.reconcileEtcd
  dsimp only
  split_ifs
  · exact hi
  split
  · exact hi
  -- the lease component, then the services and the config map
  have hfront := (hi.deployLeases hown inp.now inp.sched).createOrPatchAll hown
    [(.service, etcd.namespace_, (serviceValues etcd).clientServiceName),
     (.service, etcd.namespace_, (serviceValues etcd).peerServiceName),
     (.configMap, etcd.namespace_, (configMapValues etcd).name)] (by simp [destroyedObjects])
  split
  · exact hfront
  -- after the cluster's version, the rest, then the StatefulSet
  have hback := hfront.createOrPatchAll hown
    [(.podDisruptionBudget, etcd.namespace_, (Poddisruptionbudget.generateValues etcd).name),
     (.serviceAccount, etcd.namespace_, etcd.getServiceAccountName),
     (.role, etcd.namespace_, etcd.getRoleName),
     (.roleBinding, etcd.namespace_, etcd.getRoleBindingName)] (by simp [destroyedObjects])
  split
  · exact hback
  have hsts := hback.putStatefulSet hown
  split
  · exact hsts _
  · exact hsts _
  · exact hsts (some _)
  · exact hsts none

/-- The step lemma of the reconcile of an Etcd that is not being deleted. -/
theorem Inv.reconcileObject (hi : Inv w) (hk : w.etcds.lookup k = some o) :
    Inv (reconcileObject r inp o w).world := by
  -- the finalizer, then the two writes before `reconcileEtcd`
  have h₁ := hi.addFinalizer hk
  have hown₁ := (holds_addFinalizer hi hk).mono fun s (hs : s = o.val) => congrArg EtcdState.etcd hs
  have h₂ := Inv.removeOperationAnnotation (h₁.patchEtcd (stateKey o.val) updateEtcdStatusAsNotReady
    (keepsIdentity_of_etcd fun _ => rfl)) o.val
  have hown₂ := holds_removeOperationAnnotation o.val
    (holds_patchEtcd hown₁ (stateKey o.val) updateEtcdStatusAsNotReady fun _ => rfl)
  have h₃ : Inv (Reconciler.reconcileEtcd r inp o.val.etcd _).2 := h₂.reconcileEtcd hown₂
  unfold Reconciler.reconcileObject
  dsimp only
  split
  · next w' hres => rw [hres] at h₃; exact h₃
  · next w' hres =>
    rw [hres] at h₃
    split
    · exact h₃.patchEtcd _ _ (keepsIdentity_updateEtcdErrorStatus _ _ _)
    · exact h₃.patchEtcd _ _ (keepsIdentity_updateEtcdStatus _ _)

/-- After the destroys of `delete`, no object of the Etcd is left. -/
theorem not_mem_destroyedObjects_of_delete {etcd : Etcd} {x : ObjectKind × String × String}
    (hx : x ∈ (((((w.delete (.configMap, etcd.namespace_, (configMapValues etcd).name)).delete
      (.podDisruptionBudget, etcd.namespace_, (Poddisruptionbudget.generateValues etcd).name)).delete
      (.serviceAccount, etcd.namespace_, etcd.getServiceAccountName)).delete
      (.role, etcd.namespace_, etcd.getRoleName)).delete
      (.roleBinding, etcd.namespace_, etcd.getRoleBindingName)).objects) :
    x ∉ destroyedObjects etcd := by
  simp only [mem_delete] at hx
  obtain ⟨hrb, hrole, hsa, hpdb, hcm, -⟩ := hx
  simp only [destroyedObjects, List.mem_cons, List.not_mem_nil, or_false]
  rintro (rfl | rfl | rfl | rfl | rfl) <;> trivial

/-- The step lemma of the reconcile of an Etcd being deleted: what is left after
the destroys is no object of the Etcd, so its finalizer may go. -/
theorem Inv.deleteObject (hi : Inv w) (hk : w.etcds.lookup k = some o) :
    Inv (Reconciler.delete r inp o w).world := by
  have hkey : stateKey o.val = k := hi.etcdsKeyed k o hk
  unfold Reconciler.delete
  dsimp only
  cases hwait : inp.stsWaits.waitCleanup with
  | error e =>
    rw [Statefulset.destroyAndWait_of_error hwait]
    exact hi.patchEtcd _ _ (keepsIdentity_updateEtcdErrorStatus _ _ _)
  | ok u =>
    rw [Statefulset.destroyAndWait_of_ok hwait]
    dsimp only
    -- the StatefulSet, the leases and the config map
    have h₁ := ((hi.eraseStatefulSet (o.val.etcd.namespace_, o.val.etcd.name)).destroyLeases
      o.val.etcd).delete (.configMap, o.val.etcd.namespace_, (configMapValues o.val.etcd).name)
    split
    · exact h₁
    -- the rest, then the finalizer
    have h₂ := (((h₁.delete (.podDisruptionBudget, o.val.etcd.namespace_,
      (Poddisruptionbudget.generateValues o.val.etcd).name)).delete
      (.serviceAccount, o.val.etcd.namespace_, o.val.etcd.getServiceAccountName)).delete
      (.role, o.val.etcd.namespace_, o.val.etcd.getRoleName)).delete
      (.roleBinding, o.val.etcd.namespace_, o.val.etcd.getRoleBindingName)
    split_ifs
    · rw [hkey]
      refine h₂.releaseFinalizer hk (fun x hx => ?_) (fun h => (AList.mem_erase.mp h).1 rfl)
        fun k₀ l hl => (Lease.lookup_destroy_of_lookup hl).2
      -- the destroy before the version's read commutes with the four after it
      refine not_mem_destroyedObjects_of_delete (w := w) ?_
      simp only [mem_delete] at hx ⊢
      tauto
    · exact h₂

theorem Inv.reconcile (hi : Inv w) (req : NamespacedName) : Inv (reconcile r inp req w).world := by
  unfold Reconciler.reconcile
  split
  · exact hi
  · next o hk =>
    split_ifs
    · exact hi.deleteObject hk
    · exact hi
    · exact hi.reconcileObject hk

end Reconcile

/-! ## A cluster that runs `leaseEtcd` -/

/-- A reconciler that finds its images and the version of the cluster. -/
def readyReconciler : Reconciler := ⟨fun _ => .ok ("etcd", "etcdbrctl"), .ok (), fun _ => "checksum"⟩

/-- The status the StatefulSet controller writes once it has rolled out the first
generation to three replicas. -/
def rolledOutStatus : Statefulset.StatefulSetStatus := ⟨1, 3, 3, 3, 3, "etcd-main-1", "etcd-main-1"⟩

/-- The inputs of a reconcile that reads empty secrets, whose waits all end in
time, and whose StatefulSet is rolled out by the first attempt of a wait. -/
def rolloutInputs : Inputs :=
  ⟨0, Go.RangeOrder.stored _, fun _ _ => .ok ∅,
    ⟨⟨rolledOutStatus, []⟩, .ok (), .ok (), .ok (), ⟨rolledOutStatus, []⟩, ""⟩⟩

/-- A cluster where a user has just created `leaseEtcd`. -/
def createdCluster : World := (Event.createEtcd leaseEtcd ∅).apply World.init

/-- `createdCluster` after the reconcile that deployed `leaseEtcd`. -/
def reconciledCluster : World := (reconcile readyReconciler rolloutInputs ⟨"shoot", "etcd-main"⟩ createdCluster).world

/-- `reconciledCluster` after a user deleted the Etcd. -/
def deletingCluster : World := (Event.deleteEtcd ("shoot", "etcd-main") 5).apply reconciledCluster

theorem reachable_deletingCluster : Reachable readyReconciler World.init deletingCluster :=
  .tail (.tail (.single (.event _ _)) (.reconcile _ _ _)) (.event _ _)

/-! ## Runs -/

section Runs

variable {r : Reconciler} {w w' : World}

/-- The step lemma of the cluster: no event breaks the invariant. -/
theorem Inv.apply (hi : Inv w) (e : Event) : Inv (e.apply w) := by
  cases e with
  | createEtcd etcd annotations =>
    exact hi.withEtcds (hi.etcdsKeyed.create ⟨etcd, annotations, .empty⟩) fun _ _ h => h.create _ _
  | updateSpec k spec =>
    -- a new spec keeps who the Etcd is
    have hg : KeepsIdentity fun s => { s with etcd := { s.etcd with spec := spec } } :=
      fun _ => ⟨rfl, rfl, rfl⟩
    exact hi.withEtcds (hi.etcdsKeyed.patchSpec k fun _ => rfl) fun _ hp h => h.patchSpec hp k hg
  | annotate k annotations => exact hi.patchEtcd k _ (keepsIdentity_of_etcd fun _ => rfl)
  | deleteEtcd k t => exact hi.withEtcds (hi.etcdsKeyed.delete k t) fun _ _ h => h.delete k t
  | addFinalizer k f =>
    simp only [Event.apply]
    split
    · next o hk =>
      split_ifs
      · exact hi.patchEtcdFinalizers hk fun hf => Kube.mem_addFinalizer.mpr (.inl hf)
      · exact hi
    · exact hi
  | removeFinalizer k f =>
    simp only [Event.apply]
    split
    · next o hk =>
      split_ifs with hne
      · exact hi.patchEtcdFinalizers hk fun hf => Kube.mem_removeFinalizer.mpr ⟨hf, Ne.symm hne⟩
      · exact hi
    · exact hi
  | statefulSetStatus k status =>
    simp only [Event.apply]
    split
    · -- a new status of a stored StatefulSet: its key stays
      next sts hsts =>
      refine { hi with statefulSetsOwned := fun k' hk' => hi.statefulSetsOwned k' ?_ }
      rcases (AList.mem_insert _).mp hk' with rfl | hk'
      · exact AList.lookup_isSome.mp (by rw [hsts]; rfl)
      · exact hk'
    · exact hi
  | renewLease k holderIdentity annotations =>
    simp only [Event.apply]
    split
    · -- the renewed lease keeps its labels, and so its owner
      next l hl =>
      refine { hi with leasesOwned := fun k' l' hl' => ?_ }
      by_cases hk : k' = k
      · subst hk
        rw [AList.lookup_insert, Option.some.injEq] at hl'
        subst hl'
        exact (hi.leasesOwned k' l hl).imp fun _ h => h.mono fun _ hown => hown
      · exact hi.leasesOwned k' l' (by rwa [AList.lookup_insert_ne hk] at hl')
    · exact hi

theorem Inv.step (hi : Inv w) (h : Step r w w') : Inv w' := by
  cases h with
  | reconcile inp req => exact hi.reconcile req
  | event e => exact hi.apply e

theorem inv_init : Inv World.init where
  etcdsKeyed k o h := by simp [World.init] at h
  objectsOwned x hx := by simp [World.init] at hx
  statefulSetsOwned k hk := by simp [World.init] at hk
  leasesOwned k l h := by simp [World.init] at h

/-- The run lemma. -/
theorem inv_of_reachable {w₀ : World} (h₀ : Inv w₀) (h : Reachable r w₀ w) : Inv w := by
  induction h with
  | refl => exact h₀
  | tail _ hstep ih => exact ih.step hstep

/-- Between two worlds of the invariant, an Etcd that leaves the store leaves no
StatefulSet of its name behind: the StatefulSet's owner would be stored under
the same key. -/
theorem statefulSet_not_mem_of_removed {w w' : World} (hi : Inv w) (hi' : Inv w')
    {k : String × String} {o : EtcdObject} (hk : w.etcds.lookup k = some o)
    (hgone : w'.etcds.lookup k = none) :
    (o.val.etcd.namespace_, o.val.etcd.name) ∉ w'.statefulSets := by
  intro hx
  obtain ⟨k', o', hk', -, hmem⟩ := hi'.statefulSetsOwned _ hx
  have hkey : k' = k := by
    rw [← hi'.etcdsKeyed k' o' hk', ← hi.etcdsKeyed k o hk]
    exact hmem
  rw [hkey, hgone] at hk'
  cases hk'

/-- From an empty cluster, in every reached world each lease and StatefulSet,
and each object the controller deploys but the services, belongs to a stored
Etcd that holds the finalizer; so no step removes an Etcd from the store while
its StatefulSet exists. -/
theorem objects_owned_of_reachable (h : Reachable r World.init w) :
    (∀ x ∈ w.objects, x.1 ≠ .service →
      ∃ k, Kube.Holds w.etcds k finalizerName fun s => x ∈ destroyedObjects s.etcd) ∧
    (∀ k ∈ w.statefulSets, ∃ k', Kube.Holds w.etcds k' finalizerName fun s => stateKey s = k) ∧
    (∀ k l, w.leases.lookup k = some l →
      ∃ k', Kube.Holds w.etcds k' finalizerName fun s => OwnsLease s.etcd k l) ∧
    ∀ w' k o, Step r w w' → w.etcds.lookup k = some o → w'.etcds.lookup k = none →
      (o.val.etcd.namespace_, o.val.etcd.name) ∉ w'.statefulSets := by
  have hi := inv_of_reachable inv_init h
  exact ⟨hi.objectsOwned, hi.statefulSetsOwned, hi.leasesOwned, fun w' k o hstep hk hgone =>
    statefulSet_not_mem_of_removed hi (hi.step hstep) hk hgone⟩

theorem objects_owned_of_reachable_deleting :
    ("shoot", "etcd-main") ∈ deletingCluster.statefulSets ∧
      ∃ k', Kube.Holds deletingCluster.etcds k' finalizerName fun s => stateKey s = ("shoot", "etcd-main") :=
  have hmem : ("shoot", "etcd-main") ∈ deletingCluster.statefulSets := AList.lookup_isSome.mp rfl
  ⟨hmem, (objects_owned_of_reachable reachable_deletingCluster).2.1 _ hmem⟩

end Runs

/-! ## What a reconcile writes -/

section Status

variable {w : World} {k : String × String} {o : EtcdObject}

theorem reconcile_of_lookup (r : Reconciler) (inp : Inputs) {req : NamespacedName}
    (hk : w.etcds.lookup (req.namespace_, req.name) = some o) :
    reconcile r inp req w =
      if o.metadata.deletionTimestamp.isSome then Reconciler.delete r inp o w
      else if ignoreReconciliationAnnotation ∈ o.val.annotations then ⟨.ok (Result.done, none), w⟩
      else reconcileObject r inp o w := by
  unfold Reconciler.reconcile
  rw [hk]

theorem reconcileEtcd_etcds (r : Reconciler) (inp : Inputs) (etcd : Etcd) (w : World) :
    (reconcileEtcd r inp etcd w).2.etcds = w.etcds := by
  unfold Reconciler.reconcileEtcd
  dsimp only
  split_ifs
  · rfl
  split
  · rfl
  split
  · rfl
  split
  · rfl
  -- the deploy flow writes the StatefulSet only
  split <;> exact World.putStatefulSet_etcds _ _ _

/-- `reconcileEtcd` panics in the flow, or succeeds with the client service and
the StatefulSet it left, which the wait found ready for the Etcd's replicas, or
fails with an error and no StatefulSet. -/
theorem reconcileEtcd_cases (r : Reconciler) (inp : Inputs) (etcd : Etcd) (w : World) :
    (reconcileEtcd r inp etcd w).1 = .error .nilPointerDereference ∨
    (∃ sts, (reconcileEtcd r inp etcd w).1 =
        .ok ⟨some (serviceValues etcd).clientServiceName, some sts, none⟩ ∧
      (reconcileEtcd r inp etcd w).2.statefulSets.lookup (etcd.namespace_, etcd.name) = some sts ∧
      (Statefulset.isStatefulSetReady etcd.spec.replicas sts).1 = true) ∨
    ∃ res e, (reconcileEtcd r inp etcd w).1 = .ok res ∧ res.err = some e ∧ res.sts = none := by
  unfold Reconciler.reconcileEtcd
  dsimp only
  split_ifs
  · exact .inr (.inr ⟨_, _, rfl, rfl, rfl⟩)
  split
  · exact .inr (.inr ⟨_, _, rfl, rfl, rfl⟩)
  split
  · exact .inr (.inr ⟨_, _, rfl, rfl, rfl⟩)
  split
  · exact .inr (.inr ⟨_, _, rfl, rfl, rfl⟩)
  split
  · exact .inl rfl
  · exact .inr (.inr ⟨_, _, rfl, rfl, rfl⟩)
  · -- the deploy succeeded: its wait left the StatefulSet ready
    next sts hdeploy =>
    obtain ⟨sts', hsts, hready⟩ := Statefulset.deployAndWait_ready hdeploy
    cases hsts
    exact .inr (.inl ⟨sts, rfl, World.lookup_putStatefulSet_self _ _ _, hready⟩)
  · exact .inr (.inr ⟨_, _, rfl, rfl, rfl⟩)

/-- The Etcd just before `reconcileEtcd`: it holds the finalizer, its status is
not ready, and the operation annotation is gone. -/
theorem lookup_before_reconcileEtcd (hk : w.etcds.lookup (stateKey o.val) = some o) :
    ∃ md s, ( removeOperationAnnotation o.val ((addFinalizer o w).patchEtcd (stateKey o.val)
        updateEtcdStatusAsNotReady)).etcds.lookup (stateKey o.val) = some ⟨md, s⟩ ∧
      md.generation = o.metadata.generation ∧ md.deletionTimestamp = o.metadata.deletionTimestamp ∧
      finalizerName ∈ md.finalizers ∧ s.etcd = o.val.etcd ∧ s.status.ready = none ∧
      s.status.observedGeneration = o.val.status.observedGeneration ∧
      s.status.lastError = o.val.status.lastError ∧
      s.annotations.lookup gardenerOperation = none ∧
      ∀ a, a ≠ gardenerOperation → s.annotations.lookup a = o.val.annotations.lookup a := by
  -- the finalizer: a patch of the metadata only, if any
  have h₁ : ∃ md, (addFinalizer o w).etcds.lookup (stateKey o.val) = some ⟨md, o.val⟩ ∧
      md.generation = o.metadata.generation ∧ md.deletionTimestamp = o.metadata.deletionTimestamp ∧
      finalizerName ∈ md.finalizers := by
    unfold Reconciler.addFinalizer
    split_ifs with hf
    · exact ⟨o.metadata, hk, rfl, rfl, hf⟩
    · refine ⟨_, (Kube.lookup_patchFinalizers_self hk).trans
        (if_neg fun h => Kube.addFinalizer_ne_nil h.2), rfl, rfl, Kube.mem_addFinalizer.mpr (.inr rfl)⟩
  obtain ⟨md, hk₁, hgen, hdel, hf⟩ := h₁
  have hk₂ : ((addFinalizer o w).patchEtcd (stateKey o.val) updateEtcdStatusAsNotReady).etcds.lookup
      (stateKey o.val) = some ⟨md, updateEtcdStatusAsNotReady o.val⟩ :=
    Kube.lookup_patch_self hk₁
  -- the annotation
  unfold Reconciler.removeOperationAnnotation
  split_ifs with ha
  · exact ⟨md, _, Kube.lookup_patch_self hk₂, hgen, hdel, hf, rfl, rfl, rfl, rfl, AList.lookup_erase _ _,
      fun _ hne => AList.lookup_erase_ne hne⟩
  · exact ⟨md, _, hk₂, hgen, hdel, hf, rfl, rfl, rfl, rfl, AList.lookup_eq_none.mpr ha, fun _ _ => rfl⟩

/-- The spec of `reconcileObject`: the Etcd keeps its generation and deletion
timestamp, holds the finalizer and loses the operation annotation only.  Then
the flow panicked after the status was marked not ready, or the generation is
observed and either the reconcile succeeded, with no last error, the client
service, the status ready and the replicas of the StatefulSet it left, or it
failed and requeues with the error as last error and the status not ready. -/
theorem reconcileObject_spec (r : Reconciler) (inp : Inputs)
    (hk : w.etcds.lookup (stateKey o.val) = some o) :
    ∃ o', (reconcileObject r inp o w).world.etcds.lookup (stateKey o.val) = some o' ∧
      o'.metadata.generation = o.metadata.generation ∧
      o'.metadata.deletionTimestamp = o.metadata.deletionTimestamp ∧
      finalizerName ∈ o'.metadata.finalizers ∧
      o'.val.annotations.lookup gardenerOperation = none ∧
      (∀ a, a ≠ gardenerOperation → o'.val.annotations.lookup a = o.val.annotations.lookup a) ∧
      ((reconcileObject r inp o w).returned = .error .nilPointerDereference ∧ o'.val.status.ready = none ∧
          o'.val.status.observedGeneration = o.val.status.observedGeneration ∧
          o'.val.status.lastError = o.val.status.lastError ∨
        o'.val.status.observedGeneration = some o.metadata.generation ∧
        (((reconcileObject r inp o w).returned = .ok (Result.done, none) ∧ o'.val.status.lastError = none ∧
            o'.val.status.serviceName = some (serviceValues o.val.etcd).clientServiceName ∧
            o'.val.status.ready = some true ∧
            ∃ sts, (reconcileObject r inp o w).world.statefulSets.lookup (stateKey o.val) = some sts ∧
              o'.val.etcd.status.replicas = sts.spec.replicas.getD 0) ∨
          ∃ e, (reconcileObject r inp o w).returned = .ok (requeue, some e) ∧
            o'.val.status.lastError = some e ∧ o'.val.status.ready = none)) := by
  obtain ⟨md, s, hk₃, hgen, hdel, hf, hetcd, hready, hobs, hlast, hop, hother⟩ := lookup_before_reconcileEtcd hk
  unfold Reconciler.reconcileObject
  dsimp only
  -- `reconcileEtcd` writes no Etcd; the status update is the last write
  rw [← reconcileEtcd_etcds r inp o.val.etcd] at hk₃
  have hres := reconcileEtcd_cases r inp o.val.etcd ( removeOperationAnnotation o.val
    ((addFinalizer o w).patchEtcd (stateKey o.val) updateEtcdStatusAsNotReady))
  generalize reconcileEtcd r inp o.val.etcd ( removeOperationAnnotation o.val
    ((addFinalizer o w).patchEtcd (stateKey o.val) updateEtcdStatusAsNotReady)) = res at hres hk₃ ⊢
  obtain ⟨ret, w'⟩ := res
  dsimp only at hres hk₃ ⊢
  rcases hres with rfl | ⟨sts, rfl, hsts, hstsReady⟩ | ⟨res, e, rfl, he, hnone⟩
  · -- the panic: the status stays as `updateEtcdStatusAsNotReady` wrote it
    exact ⟨_, hk₃, hgen, hdel, hf, hop, hother, .inl ⟨rfl, hready, hobs, hlast⟩⟩
  · refine ⟨_, Kube.lookup_patch_self hk₃, hgen, hdel, hf, hop, hother,
      .inr ⟨rfl, .inl ⟨rfl, rfl, rfl, ?_, sts, hsts, rfl⟩⟩⟩
    -- the readiness is read for the replicas of the stored Etcd, whose spec the reconcile kept
    show some (Statefulset.isStatefulSetReady s.etcd.spec.replicas sts).1 = _
    rw [hetcd, hstsReady]
  · simp only [he, updateEtcdErrorStatus_of_sts_none hnone]
    exact ⟨_, Kube.lookup_patch_self hk₃, hgen, hdel, hf, hop, hother, .inr ⟨rfl, .inr ⟨e, rfl, rfl, hready⟩⟩⟩

end Status

end Reconciler
end EtcdDruid
