import EtcdDruid.Go.Runtime
import Mathlib.Data.String.Basic

/-!
# The `druid.gardener.cloud/v1alpha1` API

The data model of `api/v1alpha1` (`types_common.go`, `types_etcd.go`,
`types_etcdcopybackupstask.go`) and the Kubernetes objects etcd-druid reads
(leases, pods): the fields that some modelled function reads, with Go pointers
as `Option`, Go maps as `Go.Map`, times (`metav1.Time`) and durations
(`time.Duration`, `metav1.Duration`) as `Int` nanoseconds.

String types with named constants (`ConditionType`, `StorageProvider`,
`MetricsLevel`, ...) stay `String` where the API admits any value; the statuses
that etcd-druid itself writes are enumerations.

The object-name helpers of `types_etcd.go` close the module.  The UID of an
object is assigned by the API server: a UUID, ASCII and longer than the six
bytes that `GetConfigmapName` and `GetCompactionJobName` cut from it.  `Uid`
carries both facts, so the slice `UID[:6]` cannot go out of range.
-/

namespace EtcdDruid

/-- `map[string]string`: labels and annotations. -/
abbrev StringMap := Go.Map String String

/-- `resource.Quantity`, through the one method the code calls, `Value()`. -/
structure Quantity where
  value : Int
  deriving DecidableEq, Repr, Inhabited

/-- A `types.UID` as assigned by the API server. -/
structure Uid where
  val : String
  six_le_length : 6 ≤ val.length
  ascii : ∀ c ∈ val.toList, c.toNat < 128

instance : DecidableEq Uid := fun a b =>
  decidable_of_iff (a.val = b.val) (by cases a; cases b; simp)

instance : Inhabited Uid := ⟨⟨"000000", by decide, by simp⟩⟩

/-- `string(uid[:6])`: the first six bytes, which are the first six characters
of an ASCII string. -/
def Uid.prefix6 (uid : Uid) : String := String.ofList (uid.val.toList.take 6)

/-! ## References and TLS -/

/-- `SecretReference`: a `corev1.SecretReference` with an optional data key. -/
structure SecretReference where
  name : String
  dataKey : Option String
  deriving DecidableEq, Repr, Inhabited

/-- `TLSConfig`.  `ServerTLSSecretRef` and `ClientTLSSecretRef` are plain
`corev1.SecretReference`s, of which the code reads the name. -/
structure TLSConfig where
  tlsCASecretRef : SecretReference
  serverTLSSecretRefName : String
  clientTLSSecretRefName : String
  deriving DecidableEq, Repr, Inhabited

/-- `StoreSpec`; `prefixPath` is its `Prefix`.  `SecretRef` is a
`corev1.SecretReference`, read by name. -/
structure StoreSpec where
  container : Option String
  prefixPath : String
  provider : Option String
  secretRefName : Option String
  deriving DecidableEq, Repr, Inhabited

/-! ## The Etcd resource -/

/-- `CompressionSpec`. -/
structure CompressionSpec where
  enabled : Option Bool
  policy : Option String
  deriving DecidableEq, Repr, Inhabited

/-- `LeaderElectionSpec`. -/
structure LeaderElectionSpec where
  reelectionPeriod : Option Int
  etcdConnectionTimeout : Option Int
  deriving DecidableEq, Repr, Inhabited

/-- `BackupSpec`, less the resource requirements and the image. -/
structure BackupSpec where
  port : Option Int32
  tls : Option TLSConfig
  store : Option StoreSpec
  fullSnapshotSchedule : Option String
  garbageCollectionPolicy : Option String
  garbageCollectionPeriod : Option Int
  deltaSnapshotPeriod : Option Int
  deltaSnapshotMemoryLimit : Option Quantity
  snapshotCompression : Option CompressionSpec
  enableProfiling : Option Bool
  etcdSnapshotTimeout : Option Int
  leaderElection : Option LeaderElectionSpec
  deriving DecidableEq, Inhabited

/-- `ClientService`. -/
structure ClientService where
  annotations : StringMap
  labels : StringMap
  deriving DecidableEq, Inhabited

/-- `EtcdConfig`, less the resource requirements and the image. -/
structure EtcdConfig where
  quota : Option Quantity
  defragmentationSchedule : Option String
  serverPort : Option Int32
  clientPort : Option Int32
  metrics : Option String
  clientUrlTLS : Option TLSConfig
  peerUrlTLS : Option TLSConfig
  etcdDefragTimeout : Option Int
  heartbeatDuration : Option Int
  clientService : Option ClientService
  deriving DecidableEq, Inhabited

/-- `SharedConfig`. -/
structure SharedConfig where
  autoCompactionMode : Option String
  autoCompactionRetention : Option String
  deriving DecidableEq, Repr, Inhabited

/-- `EtcdSpec`, less the selector and the scheduling constraints, which no
modelled function inspects. -/
structure EtcdSpec where
  labels : StringMap
  annotations : StringMap
  etcd : EtcdConfig
  backup : BackupSpec
  common : SharedConfig
  replicas : Int32
  priorityClassName : Option String
  storageClass : Option String
  storageCapacity : Option Quantity
  volumeClaimTemplate : Option String
  deriving DecidableEq, Inhabited

/-! ## Status -/

/-- `ConditionStatus`; `empty` is the zero value `""` of a fresh `Condition`. -/
inductive ConditionStatus
  | conditionTrue
  | conditionFalse
  | conditionUnknown
  | conditionProgressing
  | conditionCheckError
  | empty
  deriving DecidableEq, Repr, Inhabited

/-- `Condition`; its `Type` is a `ConditionType`, any string. -/
structure Condition where
  type : String
  status : ConditionStatus
  lastTransitionTime : Int
  lastUpdateTime : Int
  reason : String
  message : String
  deriving DecidableEq, Repr, Inhabited

/-- The condition types written by the health checks. -/
def conditionTypeReady : String := "Ready"
def conditionTypeAllMembersReady : String := "AllMembersReady"
def conditionTypeBackupReady : String := "BackupReady"

/-- `EtcdMemberConditionStatus`. -/
inductive EtcdMemberConditionStatus
  | etcdMemberStatusReady
  | etcdMemberStatusNotReady
  | etcdMemberStatusUnknown
  deriving DecidableEq, Repr, Inhabited

/-- `EtcdRole`. -/
inductive EtcdRole
  | etcdRoleLeader
  | etcdRoleMember
  deriving DecidableEq, Repr, Inhabited

/-- `EtcdMemberStatus`. -/
structure EtcdMemberStatus where
  name : String
  id : Option String
  role : Option EtcdRole
  status : EtcdMemberConditionStatus
  reason : String
  lastTransitionTime : Int
  deriving DecidableEq, Repr, Inhabited

/-- `EtcdStatus`, the fields the health checks and values read and write. -/
structure EtcdStatus where
  conditions : List Condition
  members : List EtcdMemberStatus
  replicas : Int32
  deriving DecidableEq, Inhabited

/-- `Etcd`: object metadata, spec and status. -/
structure Etcd where
  name : String
  namespace_ : String
  uid : Uid
  spec : EtcdSpec
  status : EtcdStatus
  deriving DecidableEq, Inhabited

/-! ## The EtcdCopyBackupsTask resource -/

/-- `WaitForFinalSnapshotSpec`. -/
structure WaitForFinalSnapshotSpec where
  enabled : Bool
  timeout : Option Int
  deriving DecidableEq, Inhabited

/-- `EtcdCopyBackupsTaskSpec`. -/
structure EtcdCopyBackupsTaskSpec where
  sourceStore : StoreSpec
  targetStore : StoreSpec
  maxBackupAge : Option UInt32
  maxBackups : Option UInt32
  waitForFinalSnapshot : Option WaitForFinalSnapshotSpec
  deriving DecidableEq, Inhabited

/-- `EtcdCopyBackupsTask`, less its status. -/
structure EtcdCopyBackupsTask where
  name : String
  namespace_ : String
  spec : EtcdCopyBackupsTaskSpec
  deriving DecidableEq, Inhabited

def EtcdCopyBackupsTask.getJobName (e : EtcdCopyBackupsTask) : String := e.name ++ "-worker"

/-! ## Objects of other APIs -/

/-- `metav1.OwnerReference`. -/
structure OwnerReference where
  apiVersion : String
  kind : String
  name : String
  uid : String
  controller : Option Bool
  blockOwnerDeletion : Option Bool
  deriving DecidableEq, Repr, Inhabited

/-- `coordinationv1.Lease`: metadata and spec. -/
structure Lease where
  name : String
  namespace_ : String
  labels : StringMap
  annotations : StringMap := ∅
  ownerReferences : List OwnerReference
  creationTimestamp : Int
  holderIdentity : Option String
  renewTime : Option Int
  deriving DecidableEq, Inhabited

/-- A condition of `corev1.PodStatus`: type and status. -/
structure PodCondition where
  type : String
  status : ConditionStatus
  deriving DecidableEq, Repr, Inhabited

/-! ## Object names (`types_etcd.go`) -/

/-- `GroupVersion.Group`. -/
def groupName : String := "druid.gardener.cloud"

/-- `GroupVersion.String()`. -/
def groupVersionString : String := "druid.gardener.cloud/v1alpha1"

namespace Etcd

variable (e : Etcd)

def getPeerServiceName : String := e.name ++ "-peer"

def getClientServiceName : String := e.name ++ "-client"

def getServiceAccountName : String := e.name

def getConfigmapName : String := "etcd-bootstrap-" ++ e.uid.prefix6

def getCompactionJobName : String := e.uid.prefix6 ++ "-compact-job"

def getOrdinalPodName (ordinal : Int) : String := e.name ++ "-" ++ toString ordinal

def getDeltaSnapshotLeaseName : String := e.name ++ "-delta-snap"

def getFullSnapshotLeaseName : String := e.name ++ "-full-snap"

def getRoleName : String := groupName ++ ":etcd:" ++ e.name

def getRoleBindingName : String := groupName ++ ":etcd:" ++ e.name

/-- `GetDefaultLabels`. -/
def getDefaultLabels : StringMap :=
  (∅ : StringMap).insert "name" "etcd" |>.insert "instance" e.name

/-- `GetAsOwnerReference`. -/
def getAsOwnerReference : OwnerReference where
  apiVersion := groupVersionString
  kind := "Etcd"
  name := e.name
  uid := e.uid.val
  controller := some true
  blockOwnerDeletion := some true

end Etcd

end EtcdDruid
