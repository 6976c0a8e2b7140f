import EtcdDruid.Api.Core
import EtcdDruid.Utils

/-!
# The compaction job: `controllers/compaction`

`createCompactionJob` builds a job with one `compact-backup` container.  Its
arguments name the snapshot leases and the store; its volumes and mounts give
the object stores' credentials; its environment names the container and the
credentials.  `getCompactionJobEnvVar` dereferences `Store.Container` without a
`nil` check (the model returns the panic), and has no case for `Local`: the
compaction job never mounts a host directory.
-/

namespace EtcdDruid
namespace Compaction

def defaultETCDQuota : Int := 8 * 1024 * 1024 * 1024

def getCompactionJobArgs (etcd : Etcd) : List String :=
  ["compact",
   "--data-dir=/var/etcd/data/compaction.etcd",
   "--restoration-temp-snapshots-dir=/var/etcd/data/compaction.restoration.temp",
   "--snapstore-temp-directory=/var/etcd/data/tmp",
   "--enable-snapshot-lease-renewal=true",
   "--full-snapshot-lease-name=" ++ etcd.getFullSnapshotLeaseName,
   "--delta-snapshot-lease-name=" ++ etcd.getDeltaSnapshotLeaseName,
   "--embedded-etcd-quota-bytes=" ++
     toString ((etcd.spec.etcd.quota.map (·.value)).getD defaultETCDQuota)] ++
  (match etcd.spec.etcd.etcdDefragTimeout with
    | some t => ["--etcd-defrag-timeout=" ++ Go.durationString t]
    | none => []) ++
  (match etcd.spec.backup.etcdSnapshotTimeout with
    | some t => ["--etcd-snapshot-timeout=" ++ Go.durationString t]
    | none => []) ++
  (match etcd.spec.backup.store with
    | some store =>
        (match storageProviderFromInfraProvider store.provider with
          | .ok p => ["--storage-provider=" ++ providerString p]
          | .error _ => []) ++
        (if store.prefixPath ≠ "" then ["--store-prefix=" ++ store.prefixPath] else []) ++
        (match store.container with
          | some c => ["--store-container=" ++ c]
          | none => [])
    | none => [])

def getCompactionJobVolumeMounts (etcd : Etcd) : List VolumeMount :=
  let vms := [(⟨"etcd-workspace-dir", "/var/etcd/data"⟩ : VolumeMount)]
  match etcd.spec.backup.store with
  | none => vms
  | some store =>
      match storageProviderFromInfraProvider store.provider with
      | .error _ => vms
      | .ok (some .GCS) => vms ++ [⟨"etcd-backup", "/var/.gcp/"⟩]
      | .ok (some .S3) | .ok (some .ABS) | .ok (some .OSS) | .ok (some .Swift)
      | .ok (some .OCS) => vms ++ [⟨"etcd-backup", "/var/etcd-backup/"⟩]
      | .ok _ => vms

def getCompactionJobVolumes (etcd : Etcd) : List Volume :=
  let vs := [(⟨"etcd-workspace-dir", .emptyDir⟩ : Volume)]
  match etcd.spec.backup.store with
  | none => vs
  | some store =>
      match storageProviderFromInfraProvider store.provider with
      | .error _ => vs
      | .ok (some .GCS) | .ok (some .S3) | .ok (some .OSS) | .ok (some .ABS)
      | .ok (some .Swift) | .ok (some .OCS) =>
          -- without a `SecretRef` the job gets no credentials
          match store.secretRefName with
          | none => vs
          | some name => vs ++ [⟨"etcd-backup", .secret name⟩]
      | .ok _ => vs

/-- The credentials of the compaction job, by provider. -/
def storeEnvVars (store : StoreSpec) : Option Provider → List EnvVar
  | some .S3 => [getEnvVarFromValue "AWS_APPLICATION_CREDENTIALS" "/var/etcd-backup"]
  | some .ABS => [getEnvVarFromValue "AZURE_APPLICATION_CREDENTIALS" "/var/etcd-backup"]
  | some .GCS =>
      [getEnvVarFromValue "GOOGLE_APPLICATION_CREDENTIALS" "/var/.gcp/serviceaccount.json"]
  | some .Swift => [getEnvVarFromValue "OPENSTACK_APPLICATION_CREDENTIALS" "/var/etcd-backup"]
  | some .OSS => [getEnvVarFromValue "ALICLOUD_APPLICATION_CREDENTIALS" "/var/etcd-backup"]
  | some .ECS =>
      match store.secretRefName with
      | none => []
      | some name =>
          [getEnvVarFromSecrets "ECS_ENDPOINT" name "endpoint",
           getEnvVarFromSecrets "ECS_ACCESS_KEY_ID" name "accessKeyID",
           getEnvVarFromSecrets "ECS_SECRET_ACCESS_KEY" name "secretAccessKey"]
  | some .OCS => [getEnvVarFromValue "OPENSHIFT_APPLICATION_CREDENTIALS" "/var/etcd-backup"]
  | some .Local | none => []

def getCompactionJobEnvVar (etcd : Etcd) : Except Go.Failure (List EnvVar) :=
  match etcd.spec.backup.store with
  | none => pure []
  | some store => do
      -- `*storeValues.Container`, with no `nil` check
      let container ← Go.deref store.container
      let env := [getEnvVarFromValue "STORAGE_CONTAINER" container,
        getEnvVarFromField "POD_NAMESPACE" "metadata.namespace"]
      match storageProviderFromInfraProvider store.provider with
      | .error _ => pure env
      | .ok provider => pure (env ++ storeEnvVars store provider)

/-- The environment panics exactly for a store without a container. -/
theorem getCompactionJobEnvVar_eq_error_iff (etcd : Etcd) (f : Go.Failure) :
    getCompactionJobEnvVar etcd = .error f ↔
      ∃ store, etcd.spec.backup.store = some store ∧ store.container = none ∧
        f = .nilPointerDereference := by
  unfold getCompactionJobEnvVar
  cases etcd.spec.backup.store with
  | none => simp
  | some store =>
      cases hc : store.container with
      | none => simp [hc, eq_comm]
      | some c => cases hp : storageProviderFromInfraProvider store.provider <;> simp [hc, hp]

/-- The pod of the job `createCompactionJob` creates. -/
def createCompactionJob (etcd : Etcd) : Except Go.Failure PodSpec := do
  let env ← getCompactionJobEnvVar etcd
  pure
    { initContainers := []
      containers :=
        [{ name := "compact-backup", args := getCompactionJobArgs etcd, ports := [], env := env,
           volumeMounts := getCompactionJobVolumeMounts etcd, readinessProbe := none }]
      volumes := getCompactionJobVolumes etcd }

/-- The job panics exactly when its environment does. -/
theorem createCompactionJob_eq_error_iff (etcd : Etcd) (f : Go.Failure) :
    createCompactionJob etcd = .error f ↔
      ∃ store, etcd.spec.backup.store = some store ∧ store.container = none ∧
        f = .nilPointerDereference := by
  rw [← getCompactionJobEnvVar_eq_error_iff, createCompactionJob, Go.bind_eq_error]
  simp

end Compaction
end EtcdDruid
