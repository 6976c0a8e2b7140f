import EtcdDruid.Component.Statefulset.Pod
import EtcdDruid.Go.Retry

/-!
# The StatefulSet object: `pkg/component/etcd/statefulset/statefulset.go`

**Input.**  The values `GenerateValues` computes (`ObjectValues`: the pod's
values and what the object itself reads), the StatefulSet the API server holds,
if any, the secret getter of the pod's volumes, and what the rest of the
cluster does while the component waits (`Waits`).

**Algorithm.**  `createDeployFlow` runs, before the create-or-patch task, either
the three tasks that roll out peer TLS (when it has just been enabled) or, when
the existing object is past its first generation and its service name or pod
management policy differ from the values, a task that deletes it.  The mutate
function of `createOrPatch` rebuilds the object's metadata and its whole spec
from the values: the selector and the template labels from the labels, one
volume claim template from the claim name, the storage capacity and class.
Of the existing spec it restores only the pod management policy and the service
name.  The owner annotations say `<namespace>/<name>`, merged under the values'
annotations.  `Wait`, and the update of a peer TLS rollout, poll the object with
`retry.UntilTimeout` until `IsStatefulSetReady` holds of the status the
StatefulSet controller has written.

**Results.**
* `mutatingFn_spec`, `mutatingFn_podNames`, `mutatingFn_ownedBy`: the spec, the
  pods and the owner annotation the mutate function writes;
* `mutatingFn_selector_le_template`: the template labels carry the selector;
* `createDeployFlow_of_not_immutable`: without a peer TLS rollout and with the
  service name and policy in place, the flow only patches;
* `mutatingFn_immutable_iff`: the patch keeps the fields Kubernetes forbids
  changing exactly when the selector and the claim template already agree;
* `resized_storage_patches_claim_template`: a new storage capacity is patched
  into the claim template without the object being deleted first;
* `deployAndWait_ready`: a deploy that succeeds leaves the object ready for the
  values' replicas.
-/

namespace EtcdDruid
namespace Statefulset

/-- The fields of `statefulset.Values` the object reads besides the pod's:
metadata, selector, claim template and the inputs of the deploy flow. -/
structure ObjectValues extends Values where
  ownerReference : OwnerReference
  statusReplicas : Int32
  annotations : StringMap
  labels : StringMap
  additionalPodLabels : StringMap
  priorityClassName : Option String
  storageCapacity : Option Quantity
  storageClass : Option String
  peerTLSChangedToEnabled : Bool

/-- `GenerateValues`, all of it, with the checksum annotations and the peer TLS
flag the reconciler passes. -/
def generateObjectValues (etcd : Etcd) (clientPort serverPort backupPort : Option Int32)
    (checksumAnnotations : StringMap) (peerTLSChangedToEnabled : Bool) : ObjectValues :=
  { generateValues etcd clientPort serverPort backupPort with
    ownerReference := etcd.getAsOwnerReference
    statusReplicas := etcd.status.replicas
    annotations := mergeStringMaps checksumAnnotations [etcd.spec.annotations]
    labels := etcd.getDefaultLabels
    additionalPodLabels := etcd.spec.labels
    priorityClassName := etcd.spec.priorityClassName
    storageCapacity := etcd.spec.storageCapacity
    storageClass := etcd.spec.storageClass
    peerTLSChangedToEnabled := peerTLSChangedToEnabled }

/-! ## The object -/

/-- `appsv1.PodManagementPolicyType`; `empty` is the zero value of a new object. -/
inductive PodManagementPolicy
  | orderedReady
  | parallel
  | empty
  deriving DecidableEq, Repr

/-- A volume claim template: its name, access modes, storage request and class. -/
structure PersistentVolumeClaim where
  name : String
  accessModes : List String
  storageRequest : Quantity
  storageClassName : Option String
  deriving DecidableEq, Repr

/-- `appsv1.StatefulSetSpec`; the template's pod is `template`, its priority
class `priorityClassName`. -/
structure StatefulSetSpec where
  podManagementPolicy : PodManagementPolicy
  replicas : Option Int32
  serviceName : String
  selector : StringMap
  templateLabels : StringMap
  templateAnnotations : StringMap
  template : PodSpec
  priorityClassName : String
  volumeClaimTemplates : List PersistentVolumeClaim
  deriving DecidableEq

/-- `appsv1.StatefulSetStatus`, which the StatefulSet controller writes. -/
structure StatefulSetStatus where
  observedGeneration : Int
  readyReplicas : Int32
  currentReplicas : Int32
  updatedReplicas : Int32
  availableReplicas : Int32
  currentRevision : String
  updateRevision : String
  deriving DecidableEq

/-- `appsv1.StatefulSet`: metadata, spec and status. -/
structure StatefulSet where
  name : String
  namespace_ : String
  generation : Int
  labels : StringMap
  annotations : StringMap
  ownerReferences : List OwnerReference
  spec : StatefulSetSpec
  status : StatefulSetStatus

def scaleToMultiNodeAnnotationKey : String := "gardener.cloud/scaled-to-multi-node"

/-- `defaultStorageCapacity`, `16Gi`. -/
def defaultStorageCapacity : Quantity := ⟨16 * 1024 * 1024 * 1024⟩

/-- `emptyStatefulset`. -/
def emptyStatefulset (val : ObjectValues) : StatefulSet :=
  { name := val.name, namespace_ := val.namespace_, generation := 0, labels := ∅,
    annotations := ∅, ownerReferences := [],
    spec := { podManagementPolicy := .empty, replicas := none, serviceName := "", selector := ∅,
              templateLabels := ∅, templateAnnotations := ∅, template := ⟨[], [], []⟩,
              priorityClassName := "", volumeClaimTemplates := [] },
    status := ⟨0, 0, 0, 0, 0, "", ""⟩ }

/-- `clusterScaledUpToMultiNode`. -/
def clusterScaledUpToMultiNode (val : ObjectValues) (sts : Option StatefulSet) : Bool :=
  match sts.bind (·.spec.replicas), sts with
  | some replicas, some s =>
      (val.replicas > 1 && replicas == 1 && s.status.availableReplicas == 1) ||
        (decide (scaleToMultiNodeAnnotationKey ∈ s.annotations) && s.status.updatedReplicas < replicas)
  | _, _ => val.replicas > 1 && val.statusReplicas == 1

/-- `getStsAnnotations`: the owner annotations, under the values' annotations. -/
def getStsAnnotations (val : ObjectValues) (sts : StatefulSet) : StringMap :=
  let annotations := mergeStringMaps
    ((∅ : StringMap).insert gardenerOwnedBy (val.namespace_ ++ "/" ++ val.name)
      |>.insert gardenerOwnerType "etcd")
    [val.annotations]
  if clusterScaledUpToMultiNode val (some sts) then
    annotations.insert scaleToMultiNodeAnnotationKey ""
  else annotations

/-- The owner annotation of the object: the values' own, else `<namespace>/<name>`. -/
theorem lookup_getStsAnnotations_ownedBy (val : ObjectValues) (sts : StatefulSet) :
    (getStsAnnotations val sts).lookup gardenerOwnedBy =
      (val.annotations.lookup gardenerOwnedBy).or (some (val.namespace_ ++ "/" ++ val.name)) := by
  have hmerge : (mergeStringMaps
      ((∅ : StringMap).insert gardenerOwnedBy (val.namespace_ ++ "/" ++ val.name)
        |>.insert gardenerOwnerType "etcd") [val.annotations]).lookup gardenerOwnedBy =
      (val.annotations.lookup gardenerOwnedBy).or (some (val.namespace_ ++ "/" ++ val.name)) := by
    rw [lookup_mergeStringMaps, AList.lookup_insert_ne (by decide), AList.lookup_insert]
    simp
  unfold getStsAnnotations
  split
  · rw [AList.lookup_insert_ne (by decide), hmerge]
  · exact hmerge

/-- `getStorageReq`. -/
def getStorageReq (val : ObjectValues) : Quantity := val.storageCapacity.getD defaultStorageCapacity

/-- The mutate function of `createOrPatch` on the object `sts` the API server
holds (or the empty one): the metadata of `getObjectMeta`, and a new spec that
keeps the policy and the service name of an object that already exists. -/
def mutatingFn (get : SecretGetter) (val : ObjectValues) (replicas : Int32)
    (preserveAnnotations : Bool) (sts : StatefulSet) : Except Go.Failure StatefulSet := do
  let stsOriginal := sts
  let pod ← createOrPatch get val.toValues
  let spec : StatefulSetSpec :=
    { podManagementPolicy := .parallel
      replicas := some replicas
      serviceName := val.peerServiceName
      selector := val.labels
      templateLabels := mergeStringMaps ∅ [val.additionalPodLabels, val.labels]
      templateAnnotations := val.annotations
      template := pod
      priorityClassName := val.priorityClassName.getD ""
      volumeClaimTemplates :=
        [{ name := val.volumeClaimTemplateName, accessModes := ["ReadWriteOnce"],
           storageRequest := getStorageReq val,
           storageClassName := match val.storageClass with
             | some c => if c ≠ "" then some c else none
             | none => none }] }
  let spec :=
    if stsOriginal.generation > 0 then
      { spec with podManagementPolicy := stsOriginal.spec.podManagementPolicy,
                  serviceName := stsOriginal.spec.serviceName }
    else spec
  -- `getObjectMeta`
  pure { sts with
    name := val.name
    namespace_ := val.namespace_
    labels := val.labels
    annotations := if preserveAnnotations then sts.annotations else getStsAnnotations val sts
    ownerReferences := [val.ownerReference]
    spec := spec }

/-- The pods the StatefulSet controller runs for a StatefulSet: `<name>-<ordinal>`
for every ordinal below its replicas, of which there is one when they are unset. -/
def podNames (sts : StatefulSet) : List String :=
  (List.range (sts.spec.replicas.getD 1).toInt.toNat).map fun i : Nat =>
    sts.name ++ "-" ++ toString (i : Int)

/-! ## The deploy flow -/

/-- The tasks of the deploy flow, each depending on the one before. -/
inductive DeployTask
  | updateStsSpec
  | waitLeaseUpdate
  | deleteStsPods
  | deleteSts
  | syncSts
  deriving DecidableEq, Repr

/-- `immutableFieldUpdate`. -/
def immutableFieldUpdate (sts : StatefulSet) (val : ObjectValues) : Bool :=
  sts.spec.serviceName != val.peerServiceName || sts.spec.podManagementPolicy != .parallel

def addTasksForPeerUrlTLSChangedToEnabled (val : ObjectValues) : List DeployTask :=
  if val.peerTLSChangedToEnabled then [.updateStsSpec, .waitLeaseUpdate, .deleteStsPods] else []

def addImmutableFieldUpdateTask (sts : StatefulSet) (val : ObjectValues) : List DeployTask :=
  if sts.generation > 1 && immutableFieldUpdate sts val then [.deleteSts] else []

/-- `createDeployFlow`, given what `getExistingSts` found. -/
def createDeployFlow (val : ObjectValues) (sts : Option StatefulSet) : List DeployTask :=
  let before := match sts with
    | some s =>
        let tlsTasks := addTasksForPeerUrlTLSChangedToEnabled val
        if tlsTasks.isEmpty then addImmutableFieldUpdateTask s val else tlsTasks
    | none => []
  before ++ [.syncSts]

/-! ## Running the flow -/

/-- The `flow.TaskID` of each task: its name. -/
def DeployTask.name : DeployTask → String
  | .updateStsSpec => "(update-sts-spec): update Peer TLS secret mount"
  | .waitLeaseUpdate => "(wait-lease-update): Wait for lease to be updated with peer TLS"
  | .deleteStsPods => "(delete-sts-pods): deleting all sts pods"
  | .deleteSts => "delete sts due to immutable field update"
  | .syncSts => "sync StatefulSet task"

/-- The name `createDeployFlow` gives the flow, with `getOwnerReferenceNameWithUID`. -/
def flowName (val : ObjectValues) : String :=
  "(etcd: " ++ val.ownerReference.name ++ ":" ++ val.ownerReference.uid ++ ") Deploy Flow for StatefulSet " ++
    val.name ++ " for Namespace: " ++ val.namespace_

/-- The error of `flow.Run` when a task fails: `flowFailed.Error()`, with the
task's error wrapped as `task %q failed: %w`.  Each task depends on the one
before, so no other task runs beside the one that fails. -/
def flowFailed (val : ObjectValues) (t : DeployTask) (err : String) : String :=
  "flow " ++ (flowName val).quote ++ " encountered task errors: [task " ++ t.name.quote ++ " failed: " ++
    err ++ "]"

/-! ## The waits -/

/-- `utils.IsStatefulSetReady`: whether the StatefulSet controller has observed
the object's generation and rolled it out to `etcdReplicas` ready pods, and the
reason when not. -/
def isStatefulSetReady (etcdReplicas : Int32) (sts : StatefulSet) : Bool × String :=
  if sts.status.observedGeneration < sts.generation then
    (false, "observed generation " ++ toString sts.status.observedGeneration ++
      " is outdated in comparison to generation " ++ toString sts.generation)
  else if sts.status.readyReplicas < etcdReplicas then
    (false, "not enough ready replicas (" ++ fmtInt32 sts.status.readyReplicas ++ "/" ++
      fmtInt32 etcdReplicas ++ ")")
  else if sts.status.currentRevision ≠ sts.status.updateRevision then
    (false, "Current StatefulSet revision " ++ sts.status.currentRevision ++
      " is older than the updated StatefulSet revision " ++ sts.status.updateRevision ++ ")")
  else if sts.status.currentReplicas ≠ sts.status.updatedReplicas then
    (false, "StatefulSet status.CurrentReplicas (" ++ fmtInt32 sts.status.currentReplicas ++
      ") != status.UpdatedReplicas (" ++ fmtInt32 sts.status.updatedReplicas ++ ")")
  else (true, "")

/-- The condition of `waitDeploy` on what its get of the object returns, `none`
when the API server holds none. -/
def waitDeployCondition (originalSts : StatefulSet) (replicas : Int32) :
    Option StatefulSet → Bool × Option String
  | none => Go.Retry.minorError (notFoundError "statefulsets.apps" originalSts.name)
  | some updatedSts =>
    if updatedSts.generation < originalSts.generation then
      Go.Retry.minorError "statefulset generation has not yet been updated in the cache"
    else if !(isStatefulSetReady replicas updatedSts).1 then
      Go.Retry.minorError (isStatefulSetReady replicas updatedSts).2
    else Go.Retry.ok

/-- What a get of the object returns once the StatefulSet controller has
written `status`. -/
def withStatus (stored : Option StatefulSet) (status : StatefulSetStatus) : Option StatefulSet :=
  stored.map fun sts => { sts with status := status }

/-- `waitDeploy` on the object the API server holds, the StatefulSet controller
having written the statuses of `polls` by the attempts that read them: what the
wait returns, and the object with the status its last attempt read. -/
def waitDeploy (originalSts : StatefulSet) (replicas : Int32) (polls : Go.Retry.Polls StatefulSetStatus)
    (stored : Option StatefulSet) : Except String Unit × Option StatefulSet :=
  (Go.Retry.untilTimeout (fun st => waitDeployCondition originalSts replicas (withStatus stored st)) polls,
    withStatus stored (Go.Retry.lastPoll (fun st => waitDeployCondition originalSts replicas (withStatus stored st))
      polls.first polls.later))

/-- What the rest of the cluster does while the component waits: the statuses
the StatefulSet controller writes, the waits on the members and the garbage
collector, which return their last error when their timeout passes first, and
the events of the volume claims. -/
structure Waits where
  /-- what `waitDeploy` reads after the update of `updateAndWait` -/
  updateRollout : Go.Retry.Polls StatefulSetStatus
  /-- `waitUntilTLSEnabled` -/
  waitUntilTLSEnabled : Except String Unit
  /-- `waitUtilPodsReady`, after `deleteAllStsPods` deleted the pods -/
  waitUtilPodsReady : Except String Unit
  /-- `WaitCleanup` -/
  waitCleanup : Except String Unit
  /-- what the `waitDeploy` of `Wait` reads -/
  rollout : Go.Retry.Polls StatefulSetStatus
  /-- the messages `fetchPVCEventsForStatefulset` returns; empty for none, and
  when the fetch fails -/
  pvcEvents : String

/-- `Wait`: `waitDeploy` from the empty object, for the values' replicas.  When
it fails and the object is there, the events of its claims are appended to the
error. -/
def wait (val : ObjectValues) (waits : Waits) (stored : Option StatefulSet) :
    Except String Unit × Option StatefulSet :=
  match waitDeploy (emptyStatefulset val) val.replicas waits.rollout stored with
  | (.error err, some sts) =>
    (.error (if waits.pvcEvents ≠ "" then err ++ "\n\n" ++ waits.pvcEvents else err), some sts)
  | waited => waited

/-- The API server's create or patch of the object the mutate function built:
a created object starts at generation 1, and a patch moves the generation when
it changes the spec. -/
def writeStatefulSet (stored : Option StatefulSet) (sts : StatefulSet) : StatefulSet :=
  match stored with
  | none => { sts with generation := 1 }
  | some old => { sts with generation := if sts.spec = old.spec then old.generation else old.generation + 1 }

/-- `createOrPatch`: `GetAndCreateOrStrategicMergePatch` runs the mutate function
on the stored object, or on `sts` when there is none, and creates or patches it. -/
def createOrPatchStatefulSet (get : SecretGetter) (val : ObjectValues) (replicas : Int32)
    (preserveAnnotations : Bool) (sts : StatefulSet) (stored : Option StatefulSet) :
    Except Go.Failure StatefulSet :=
  (mutatingFn get val replicas preserveAnnotations (stored.getD sts)).map (writeStatefulSet stored)

/-- `OpDestroyAndWait(c).Destroy`: `Destroy` deletes the object, ignoring
`NotFound`, and `WaitCleanup` waits for it to go; when the wait times out the
object is still there. -/
def destroyAndWait (waits : Waits) (stored : Option StatefulSet) : Except String Unit × Option StatefulSet :=
  match waits.waitCleanup with
  | .ok () => (.ok (), none)
  | .error e => (.error e, stored)

theorem destroyAndWait_of_ok {waits : Waits} {u : Unit} (h : waits.waitCleanup = .ok u)
    (stored : Option StatefulSet) : destroyAndWait waits stored = (.ok (), none) := by
  rw [destroyAndWait, h]

theorem destroyAndWait_of_error {waits : Waits} {e : String} (h : waits.waitCleanup = .error e)
    (stored : Option StatefulSet) : destroyAndWait waits stored = (.error e, stored) := by
  rw [destroyAndWait, h]

/-- One task of the flow on the stored object: the error it returns or the
panic that ends the process, and the object after it. -/
def runTask (get : SecretGetter) (val : ObjectValues) (waits : Waits) :
    DeployTask → Option StatefulSet → Except Go.Failure Unit × Option StatefulSet
  | .updateStsSpec, stored =>
    -- `updateAndWait` on the object the flow found: the flow adds the task, its
    -- first, only for a stored object, and keeps its replica count
    let replicas := (stored.bind fun s => s.spec.replicas).getD 0
    match createOrPatchStatefulSet get val replicas true (emptyStatefulset val) stored with
    | .error f => (.error f, stored)
    | .ok sts =>
      -- `waitDeploy` from the object as the patch returned it
      let waited := waitDeploy sts replicas waits.updateRollout (some sts)
      (waited.1.mapError .error, waited.2)
  | .waitLeaseUpdate, stored => (waits.waitUntilTLSEnabled.mapError .error, stored)
  -- the pods that `deleteAllStsPods` deletes are no object of the model
  | .deleteStsPods, stored => (waits.waitUtilPodsReady.mapError .error, stored)
  | .deleteSts, stored => ((destroyAndWait waits stored).1.mapError .error, (destroyAndWait waits stored).2)
  | .syncSts, stored =>
    match createOrPatchStatefulSet get val val.replicas false (emptyStatefulset val) stored with
    | .error f => (.error f, stored)
    | .ok sts => (.ok (), some sts)

/-- `flow.Run` on tasks each of which depends on the one before: a task that
fails stops the flow with the flow's error, and a panic in a task's goroutine
ends the process. -/
def runFlow (get : SecretGetter) (val : ObjectValues) (waits : Waits) :
    List DeployTask → Option StatefulSet → Except Go.Failure Unit × Option StatefulSet
  | [], stored => (.ok (), stored)
  | t :: ts, stored =>
    match runTask get val waits t stored with
    | (.ok (), stored') => runFlow get val waits ts stored'
    | (.error (.error e), stored') => (.error (.error (flowFailed val t e)), stored')
    | (.error .nilPointerDereference, stored') => (.error .nilPointerDereference, stored')

/-- `OpWait(c).Deploy`: `Deploy` runs the flow that `createDeployFlow` builds
from what `getExistingSts` found, then `Wait` waits for the rollout. -/
def deployAndWait (get : SecretGetter) (val : ObjectValues) (waits : Waits) (stored : Option StatefulSet) :
    Except Go.Failure Unit × Option StatefulSet :=
  match runFlow get val waits (createDeployFlow val stored) stored with
  | (.ok (), stored') => ((wait val waits stored').1.mapError .error, (wait val waits stored').2)
  | failed => failed

/-! ## What a successful wait leaves -/

section Wait

variable {originalSts : StatefulSet} {replicas : Int32} {polls : Go.Retry.Polls StatefulSetStatus}
  {stored : Option StatefulSet}

/-- The condition of `waitDeploy` holds only of an object that is there and ready. -/
theorem waitDeployCondition_eq_ok {got : Option StatefulSet}
    (h : waitDeployCondition originalSts replicas got = Go.Retry.ok) :
    ∃ sts, got = some sts ∧ (isStatefulSetReady replicas sts).1 = true := by
  cases got with
  | none => cases h
  | some sts =>
    refine ⟨sts, rfl, ?_⟩
    rw [waitDeployCondition] at h
    split_ifs at h with hgen hready
    · cases h
    · cases h
    · simpa using hready

/-- A `waitDeploy` that succeeds leaves the object there, ready for the replicas
it waited for: its last attempt found it so. -/
theorem waitDeploy_ready (h : (waitDeploy originalSts replicas polls stored).1 = .ok ()) :
    ∃ sts, (waitDeploy originalSts replicas polls stored).2 = some sts ∧
      (isStatefulSetReady replicas sts).1 = true :=
  waitDeployCondition_eq_ok (Go.Retry.untilTimeout_eq_ok h)

/-- A `Wait` that succeeds leaves the object ready for the values' replicas:
it only adds to the error of a `waitDeploy` that failed. -/
theorem wait_ready {val : ObjectValues} {waits : Waits} (h : (wait val waits stored).1 = .ok ()) :
    ∃ sts, (wait val waits stored).2 = some sts ∧ (isStatefulSetReady val.replicas sts).1 = true := by
  have hready := @waitDeploy_ready (emptyStatefulset val) val.replicas waits.rollout stored
  unfold wait at h ⊢
  generalize waitDeploy (emptyStatefulset val) val.replicas waits.rollout stored = waited at h hready ⊢
  obtain ⟨res, s⟩ := waited
  cases res with
  | error err => cases s <;> cases h
  | ok u => exact hready h

/-- A deploy that succeeds leaves the object there, ready for the values'
replicas: the flow ran to its end and `Wait` found the rollout done. -/
theorem deployAndWait_ready {get : SecretGetter} {val : ObjectValues} {waits : Waits}
    {stored' : Option StatefulSet} (h : deployAndWait get val waits stored = (.ok (), stored')) :
    ∃ sts, stored' = some sts ∧ (isStatefulSetReady val.replicas sts).1 = true := by
  unfold deployAndWait at h
  split at h
  · next s _ =>
    obtain ⟨hok, hs⟩ := Prod.mk.inj h
    obtain ⟨sts, hsts, hready⟩ := wait_ready (Go.mapError_eq_ok.mp hok)
    exact ⟨sts, hs ▸ hsts, hready⟩
  · -- a flow that failed is returned as it is
    next hne => exact absurd h (hne stored')

end Wait

/-! ## What the mutate function writes -/

section Mutate

variable {get : SecretGetter} {val : ObjectValues} {replicas : Int32} {preserveAnnotations : Bool}
  {sts sts' : StatefulSet}

/-- The one volume claim template the mutate function writes. -/
def volumeClaimTemplate (val : ObjectValues) : PersistentVolumeClaim :=
  { name := val.volumeClaimTemplateName, accessModes := ["ReadWriteOnce"],
    storageRequest := getStorageReq val,
    storageClassName := match val.storageClass with
      | some c => if c ≠ "" then some c else none
      | none => none }

/-- What the mutate function writes, once the pod is built: the spec, the name
and the annotations of `getObjectMeta`. -/
theorem mutatingFn_spec (h : mutatingFn get val replicas preserveAnnotations sts = .ok sts') :
    sts'.spec.selector = val.labels ∧
      sts'.spec.templateLabels = mergeStringMaps ∅ [val.additionalPodLabels, val.labels] ∧
      sts'.spec.volumeClaimTemplates = [volumeClaimTemplate val] ∧
      sts'.spec.podManagementPolicy =
        (if sts.generation > 0 then sts.spec.podManagementPolicy else .parallel) ∧
      sts'.spec.serviceName = (if sts.generation > 0 then sts.spec.serviceName else val.peerServiceName) ∧
      sts'.spec.replicas = some replicas ∧ sts'.name = val.name ∧
      sts'.annotations = if preserveAnnotations then sts.annotations else getStsAnnotations val sts := by
  obtain ⟨pod, -, h⟩ := Go.bind_eq_ok.mp h
  rw [Go.pure_eq_ok] at h
  subst h
  by_cases hg : sts.generation > 0
  · simp [hg, volumeClaimTemplate]
  · simp [hg, volumeClaimTemplate]

/-- The owner annotation the mutate function writes from `GenerateValues`: the
Etcd's own, else the checksum annotations', else `<namespace>/<name>`. -/
theorem mutatingFn_ownedBy {etcd : Etcd} {clientPort serverPort backupPort : Option Int32}
    {checksumAnnotations : StringMap} {peerTLSChangedToEnabled : Bool}
    (h : mutatingFn get (generateObjectValues etcd clientPort serverPort backupPort
      checksumAnnotations peerTLSChangedToEnabled) replicas false sts = .ok sts') :
    sts'.annotations.lookup gardenerOwnedBy =
      ((etcd.spec.annotations.lookup gardenerOwnedBy).or
        (checksumAnnotations.lookup gardenerOwnedBy)).or
        (some (etcd.namespace_ ++ "/" ++ etcd.name)) := by
  obtain ⟨-, -, -, -, -, -, -, hannotations⟩ := mutatingFn_spec h
  rw [hannotations, if_neg Bool.false_ne_true, lookup_getStsAnnotations_ownedBy]
  simp [generateObjectValues, lookup_mergeStringMaps, generateValues]

/-- The object is named as the values, and runs one pod per replica asked for. -/
theorem mutatingFn_podNames
    (h : mutatingFn get val replicas preserveAnnotations sts = .ok sts') :
    sts'.name = val.name ∧
      podNames sts' = (List.range replicas.toInt.toNat).map fun i : Nat =>
        val.name ++ "-" ++ toString (i : Int) := by
  obtain ⟨-, -, -, -, -, hreplicas, hname, -⟩ := mutatingFn_spec h
  refine ⟨hname, ?_⟩
  rw [podNames, hreplicas, hname]
  rfl

/-- The template labels carry every label of the selector: the values' labels
are merged last. -/
theorem mutatingFn_selector_le_template
    (h : mutatingFn get val replicas preserveAnnotations sts = .ok sts') :
    matchesLabels sts'.spec.selector sts'.spec.templateLabels := by
  obtain ⟨hsel, htemplate, -⟩ := mutatingFn_spec h
  intro k v hk
  rw [hsel] at hk
  rw [htemplate, lookup_mergeStringMaps]
  simp [hk]

/-- The fields of a StatefulSet spec Kubernetes forbids an update to change,
the selector compared as a map. -/
def ImmutableAgree (spec spec' : StatefulSetSpec) : Prop :=
  (∀ k, spec'.selector.lookup k = spec.selector.lookup k) ∧ spec'.serviceName = spec.serviceName ∧
    spec'.podManagementPolicy = spec.podManagementPolicy ∧
    spec'.volumeClaimTemplates = spec.volumeClaimTemplates

/-- On an existing object the patch keeps the immutable fields exactly when its
selector is the values' labels and its one claim template is the values'. -/
theorem mutatingFn_immutable_iff (hg : sts.generation > 0)
    (h : mutatingFn get val replicas preserveAnnotations sts = .ok sts') :
    ImmutableAgree sts.spec sts'.spec ↔
      (∀ k, val.labels.lookup k = sts.spec.selector.lookup k) ∧
        sts.spec.volumeClaimTemplates = [volumeClaimTemplate val] := by
  obtain ⟨hsel, -, hvct, hpolicy, hservice, -⟩ := mutatingFn_spec h
  rw [if_pos hg] at hpolicy hservice
  simp only [ImmutableAgree, hsel, hvct, hpolicy, hservice, true_and]
  exact and_congr_right' eq_comm

end Mutate

/-! ## When the flow deletes the object -/

section Flow

variable (val : ObjectValues) (sts : StatefulSet)

/-- The flow deletes the existing object exactly when no peer TLS rollout is due,
the object is past its first generation and its service name or policy differ. -/
theorem deleteSts_mem_createDeployFlow_iff :
    .deleteSts ∈ createDeployFlow val (some sts) ↔
      val.peerTLSChangedToEnabled = false ∧ sts.generation > 1 ∧
        immutableFieldUpdate sts val = true := by
  unfold createDeployFlow addTasksForPeerUrlTLSChangedToEnabled addImmutableFieldUpdateTask
  cases val.peerTLSChangedToEnabled <;> cases hi : immutableFieldUpdate sts val <;>
    by_cases hg : sts.generation > 1 <;> simp [hg, hi]

/-- Otherwise the flow, without a peer TLS rollout, only patches. -/
theorem createDeployFlow_of_not_immutable (htls : val.peerTLSChangedToEnabled = false)
    (h : sts.generation ≤ 1 ∨ immutableFieldUpdate sts val = false) :
    createDeployFlow val (some sts) = [.syncSts] := by
  unfold createDeployFlow addTasksForPeerUrlTLSChangedToEnabled addImmutableFieldUpdateTask
  rcases h with hg | hi
  · have : ¬ sts.generation > 1 := by omega
    simp [htls, this]
  · simp [htls, hi]

end Flow

/-! ## A resized volume -/

/-- An Etcd of three members whose storage capacity was raised to `20Gi`. -/
def resizedEtcd : Etcd :=
  { (default : Etcd) with
    name := "etcd-main", namespace_ := "shoot"
    spec := { (default : EtcdSpec) with replicas := 3, storageCapacity := some ⟨20 * 1024 * 1024 * 1024⟩ } }

def resizedValues : ObjectValues := generateObjectValues resizedEtcd none none none ∅ false

/-- Its StatefulSet as the patch of the first reconcile wrote it, with a `10Gi`
claim, one generation later. -/
def resizedSts : StatefulSet :=
  { emptyStatefulset resizedValues with
    generation := 2
    spec := { (emptyStatefulset resizedValues).spec with
      podManagementPolicy := .parallel
      replicas := some 3
      serviceName := resizedValues.peerServiceName
      selector := resizedValues.labels
      volumeClaimTemplates :=
        [{ volumeClaimTemplate resizedValues with storageRequest := ⟨10 * 1024 * 1024 * 1024⟩ }] } }

/-- The flow does not delete the object, and for every secret getter the patch
succeeds and changes the claim template's storage request. -/
theorem resized_storage_patches_claim_template (get : SecretGetter) :
    createDeployFlow resizedValues (some resizedSts) = [.syncSts] ∧
      ∃ sts', mutatingFn get resizedValues 3 false resizedSts = .ok sts' ∧
        ¬ ImmutableAgree resizedSts.spec sts'.spec := by
  obtain ⟨sts', hsts'⟩ : ∃ sts', mutatingFn get resizedValues 3 false resizedSts = .ok sts' :=
    ⟨_, rfl⟩
  refine ⟨createDeployFlow_of_not_immutable _ _ rfl (.inr (by decide)), sts', hsts', ?_⟩
  rw [mutatingFn_immutable_iff (by decide) hsts']
  rintro ⟨-, hvct⟩
  exact absurd hvct (by decide)

end Statefulset
end EtcdDruid
