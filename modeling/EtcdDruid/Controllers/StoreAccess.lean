import EtcdDruid.Controllers.Etcd
import EtcdDruid.Controllers.CopyBackupsTask

/-!
# Access to a backup store from its three consumers

**Input.**  A backup store, as the Etcd's StatefulSet, its compaction job and a
copy-backups job see it.

**Algorithm.**  Each consumer gives etcd-backup-restore the store's credentials
by provider: a file in a mounted secret for the object stores, three secret keys
for `ECS`, a host directory for `Local`.  The three switches are written out
separately in the source, and they differ in two cases:
* `ECS`: the StatefulSet and the compaction job read the secret's keys into the
  environment; the copy job has no `ECS` case, and its environment is literal
  values only (`createEnvVarsFromStore_no_secret`);
* `Local`: the StatefulSet and the copy job mount the host directory; the
  compaction job mounts no host directory for any store.

**Results.**
* `getBackupRestoreEnvVars_ecs`, `getCompactionJobEnvVar_ecs`: the `ECS` keys of
  the two Etcd consumers;
* `getCompactionJobVolumes_no_hostPath`, `getVolumes_local`,
  `createVolumesFromStore_local`: the host directory of a `Local` store;
* `store_access_disagrees`: an `ECS` store and a `Local` store, each with its
  secret reference and its container, on which the consumers disagree.
-/

namespace EtcdDruid
namespace StoreAccess

/-- The variables an `ECS` secret `name` gives etcd-backup-restore. -/
def ecsSecretEnvVars (name : String) : List EnvVar :=
  [getEnvVarFromSecrets "ECS_ENDPOINT" name "endpoint",
   getEnvVarFromSecrets "ECS_ACCESS_KEY_ID" name "accessKeyID",
   getEnvVarFromSecrets "ECS_SECRET_ACCESS_KEY" name "secretAccessKey"]

section Ecs

variable {store : StoreSpec} {name : String}

theorem getBackupRestoreEnvVars_ecs {val : Statefulset.Values} (hs : val.backupStore = some store)
    (hp : storageProviderFromInfraProvider store.provider = .ok (some .ECS))
    (hr : store.secretRefName = some name) :
    ∃ env, Statefulset.getBackupRestoreEnvVars val = .ok env ∧ ∀ e ∈ ecsSecretEnvVars name, e ∈ env := by
  -- the sidecar's three fixed variables, then the secret's keys
  have henv : Statefulset.getBackupRestoreEnvVars val =
      .ok ([getEnvVarFromValue "STORAGE_CONTAINER" (store.container.getD ""),
        getEnvVarFromField "POD_NAME" "metadata.name",
        getEnvVarFromField "POD_NAMESPACE" "metadata.namespace"] ++ ecsSecretEnvVars name) := by
    simp [Statefulset.getBackupRestoreEnvVars, hs, hp, Statefulset.storeEnvVars, hr, ecsSecretEnvVars]
  exact ⟨_, henv, fun e he => List.mem_append_right _ he⟩

theorem getCompactionJobEnvVar_ecs {etcd : Etcd} {container : String}
    (hs : etcd.spec.backup.store = some store) (hc : store.container = some container)
    (hp : storageProviderFromInfraProvider store.provider = .ok (some .ECS))
    (hr : store.secretRefName = some name) :
    ∃ env, Compaction.getCompactionJobEnvVar etcd = .ok env ∧ ∀ e ∈ ecsSecretEnvVars name, e ∈ env := by
  have henv : Compaction.getCompactionJobEnvVar etcd =
      .ok ([getEnvVarFromValue "STORAGE_CONTAINER" container,
        getEnvVarFromField "POD_NAMESPACE" "metadata.namespace"] ++ ecsSecretEnvVars name) := by
    simp [Compaction.getCompactionJobEnvVar, hs, hc, hp, Compaction.storeEnvVars, hr, ecsSecretEnvVars]
  exact ⟨_, henv, fun e he => List.mem_append_right _ he⟩

end Ecs

section Local

/-- The compaction job mounts no host directory, whatever the store. -/
theorem getCompactionJobVolumes_no_hostPath (etcd : Etcd) :
    ∀ v ∈ Compaction.getCompactionJobVolumes etcd, ∀ path, v.source ≠ .hostPath path := by
  intro v hv path
  -- the job's volumes are its workspace and, for an object store, the secret
  have hshape : v = ⟨"etcd-workspace-dir", .emptyDir⟩ ∨ ∃ name, v = ⟨"etcd-backup", .secret name⟩ := by
    unfold Compaction.getCompactionJobVolumes at hv
    split at hv
    · simp_all
    · split at hv <;> (try split at hv) <;>
        simp only [List.mem_cons, List.mem_append, List.not_mem_nil, or_false] at hv
      all_goals first
        | exact .inl hv
        | rcases hv with h | h
          · exact .inl h
          · exact .inr ⟨_, h⟩
  rcases hshape with rfl | ⟨name, rfl⟩ <;> simp

theorem getVolumes_local {get : SecretGetter} {val : Statefulset.Values} {store : StoreSpec}
    {vs : List Volume} (hs : val.backupStore = some store)
    (hp : storageProviderFromInfraProvider store.provider = .ok (some .Local))
    (hv : Statefulset.getVolumes get val = .ok vs) :
    ∃ path, (⟨"host-storage", .hostPath path⟩ : Volume) ∈ vs := by
  simp only [Statefulset.getVolumes, hs, hp] at hv
  obtain ⟨local_, hlocal, rfl⟩ := Go.map_eq_ok.mp hv
  obtain ⟨hostPath, -, hlocal⟩ := Go.bind_eq_ok.mp hlocal
  cases Go.pure_eq_ok.mp hlocal
  exact ⟨_, List.mem_append_right _ List.mem_cons_self⟩

theorem createVolumesFromStore_local {get : SecretGetter} {store : StoreSpec}
    {namespace_ prefix_ : String} {vs : List Volume}
    (hv : CopyBackupsTask.createVolumesFromStore get store namespace_ (some .Local) prefix_ = .ok vs) :
    ∃ path, (⟨prefix_ ++ "host-storage", .hostPath path⟩ : Volume) ∈ vs := by
  obtain ⟨hostPath, -, hv⟩ := Go.bind_eq_ok.mp hv
  obtain ⟨container, -, hv⟩ := Go.bind_eq_ok.mp hv
  cases Go.pure_eq_ok.mp hv
  exact ⟨_, List.mem_cons_self⟩

end Local

/-! ## Stores on which the consumers disagree -/

/-- A secret getter whose secrets name no host directory. -/
def emptySecrets : SecretGetter := fun _ _ => .ok ∅

/-- An `ECS` store with its secret reference and its container. -/
def ecsStore : StoreSpec := ⟨some "bucket", "shoot--etcd-main", some "ECS", some "etcd-backup-secret"⟩

/-- A `Local` store with its secret reference and its container. -/
def localStore : StoreSpec :=
  ⟨some "backups", "shoot--etcd-main", some "Local", some "etcd-backup-secret"⟩

/-- An Etcd backed up to `store`. -/
def backedEtcd (store : StoreSpec) : Etcd :=
  { (default : Etcd) with
    name := "etcd-main"
    namespace_ := "shoot"
    uid := Etcd.mainUid
    spec := { (default : EtcdSpec) with
      replicas := 1
      backup := { (default : BackupSpec) with store := some store } } }

/-- A task that copies `store` to itself. -/
def copyTask (store : StoreSpec) : EtcdCopyBackupsTask :=
  { name := "copy", namespace_ := "shoot",
    spec := { sourceStore := store, targetStore := store, maxBackupAge := none, maxBackups := none,
              waitForFinalSnapshot := none } }

theorem store_access_disagrees :
    (∃ env, Statefulset.getBackupRestoreEnvVars (Reconciler.statefulSetValues (backedEtcd ecsStore)) =
        .ok env ∧ ∀ e ∈ ecsSecretEnvVars "etcd-backup-secret", e ∈ env) ∧
      (∃ env, Compaction.getCompactionJobEnvVar (backedEtcd ecsStore) = .ok env ∧
        ∀ e ∈ ecsSecretEnvVars "etcd-backup-secret", e ∈ env) ∧
      (∃ job, CopyBackupsTask.createJobObject emptySecrets (copyTask ecsStore) = .ok job ∧
        ∀ c ∈ job.containers, ∀ e ∈ c.env, e.source.secretName? = none) ∧
      (∃ vs, Statefulset.getVolumes emptySecrets (Reconciler.statefulSetValues (backedEtcd localStore)) =
        .ok vs ∧ ∃ path, (⟨"host-storage", .hostPath path⟩ : Volume) ∈ vs) ∧
      (∃ job, CopyBackupsTask.createJobObject emptySecrets (copyTask localStore) = .ok job ∧
        ∃ path, (⟨"target-host-storage", .hostPath path⟩ : Volume) ∈ job.volumes) ∧
      ∀ v ∈ Compaction.getCompactionJobVolumes (backedEtcd localStore), ∀ path,
        v.source ≠ .hostPath path := by
  have hecs : storageProviderFromInfraProvider ecsStore.provider = .ok (some .ECS) := rfl
  have hlocal : storageProviderFromInfraProvider localStore.provider = .ok (some .Local) := rfl
  obtain ⟨vs, hvs⟩ : ∃ vs, Statefulset.getVolumes emptySecrets
      (Reconciler.statefulSetValues (backedEtcd localStore)) = .ok vs := ⟨_, rfl⟩
  obtain ⟨job, hjob⟩ : ∃ job,
      CopyBackupsTask.createJobObject emptySecrets (copyTask ecsStore) = .ok job := ⟨_, rfl⟩
  refine ⟨getBackupRestoreEnvVars_ecs rfl hecs rfl, getCompactionJobEnvVar_ecs rfl rfl hecs rfl,
    ⟨job, hjob, CopyBackupsTask.createJobObject_env_no_secret hjob⟩,
    ⟨vs, hvs, getVolumes_local rfl hlocal hvs⟩,
    ⟨_, rfl, ?_⟩, getCompactionJobVolumes_no_hostPath _⟩
  -- the target's host directory, under the default path of a secret without one
  exact ⟨_, List.mem_append_right _ List.mem_cons_self⟩

end StoreAccess
end EtcdDruid
