import EtcdDruid.Api.Core
import EtcdDruid.Utils
import EtcdDruid.Go.Sprintf
import EtcdDruid.Api.Validation

/-!
# The copy-backups job: `controllers/etcdcopybackupstask`

**Input.**  An `EtcdCopyBackupsTask`, with a source and a target store, and the
secret that may name a `Local` store's host directory.

**Algorithm.**  `createJobObject` resolves both providers, then builds one
container `copy-backups`: its arguments, the environment of the source store
(names prefixed `SOURCE_`, paths `source-`) and of the target store (no prefix),
the mounts and the volumes of both stores.  A `Local` store is a host directory
mounted at its container's name; an object store is the secret of its
`SecretRef`, mounted at a path that `getVolumeNamePrefix` prefixes on the source
side only.  `createEnvVarsFromStore` and the `Local` cases dereference
`Container` without a `nil` check: the model returns the panic.

**Results.**
* `storeMounts_of_ok`: what one store adds to the mounts and the volumes;
* `createJobObject_eq_ok`: how a successful job is assembled;
* `createJobObject_closure`: volume names are distinct, mounts name volumes,
  only `Local` containers can share a mount path, every credentials variable
  points into a mount of its own store, and the source variables are exactly the
  `SOURCE_` ones;
* `local_mount_paths_collide`: two `Local` stores with one container share a
  mount path.
-/

namespace EtcdDruid
namespace CopyBackupsTask

def sourcePrefix : String := "source-"
def targetPrefix : String := "target-"

def getVolumeNamePrefix (prefix_ : String) : String :=
  if prefix_ = sourcePrefix then prefix_ else ""

def createVolumesFromStore (get : SecretGetter) (store : StoreSpec) (namespace_ : String)
    (provider : Option Provider) (prefix_ : String) : Except Go.Failure (List Volume) :=
  match provider with
  | some .Local => do
      let hostPathPrefix ← getHostMountPathFromSecretRef get store namespace_
      -- `*store.Container`, with no `nil` check
      let container ← Go.deref store.container
      pure [⟨prefix_ ++ "host-storage", .hostPath (hostPathPrefix ++ "/" ++ container)⟩]
  | some .GCS | some .S3 | some .ABS | some .Swift | some .OCS | some .OSS =>
      match store.secretRefName with
      | none => .error (.error ("no secretRef is configured for backup " ++ prefix_ ++ "store"))
      | some name => pure [⟨getVolumeNamePrefix prefix_ ++ "etcd-backup", .secret name⟩]
  | some .ECS | none => pure []

def createVolumeMountsFromStore (store : StoreSpec) (provider : Option Provider)
    (volumeMountPrefix : String) : Except Go.Failure (List VolumeMount) :=
  match provider with
  | some .Local => do
      let container ← Go.deref store.container
      pure [⟨volumeMountPrefix ++ "host-storage", container⟩]
  | some .GCS =>
      pure [⟨getVolumeNamePrefix volumeMountPrefix ++ "etcd-backup",
        "/var/." ++ getVolumeNamePrefix volumeMountPrefix ++ "gcp/"⟩]
  | some .S3 | some .ABS | some .Swift | some .OCS | some .OSS =>
      pure [⟨getVolumeNamePrefix volumeMountPrefix ++ "etcd-backup",
        "/var/" ++ getVolumeNamePrefix volumeMountPrefix ++ "etcd-backup/"⟩]
  | some .ECS | none => pure []

def mapToEnvVar (name value : String) : EnvVar := getEnvVarFromValue name value

/-- The `switch` of `createEnvVarsFromStore`: the credentials of an object store. -/
def credentialEnvVars (storeProvider : Option Provider) (envKeyPrefix volumePrefix : String) :
    List EnvVar :=
  match storeProvider with
  | some .S3 =>
      [mapToEnvVar (envKeyPrefix ++ "AWS_APPLICATION_CREDENTIALS") ("/var/" ++ volumePrefix ++ "etcd-backup")]
  | some .ABS =>
      [mapToEnvVar (envKeyPrefix ++ "AZURE_APPLICATION_CREDENTIALS") ("/var/" ++ volumePrefix ++ "etcd-backup")]
  | some .GCS =>
      [mapToEnvVar (envKeyPrefix ++ "GOOGLE_APPLICATION_CREDENTIALS")
        ("/var/." ++ volumePrefix ++ "gcp/serviceaccount.json")]
  | some .Swift =>
      [mapToEnvVar (envKeyPrefix ++ "OPENSTACK_APPLICATION_CREDENTIALS") ("/var/" ++ volumePrefix ++ "etcd-backup")]
  | some .OCS =>
      [mapToEnvVar (envKeyPrefix ++ "OPENSHIFT_APPLICATION_CREDENTIALS") ("/var/" ++ volumePrefix ++ "etcd-backup")]
  | some .OSS =>
      [mapToEnvVar (envKeyPrefix ++ "ALICLOUD_APPLICATION_CREDENTIALS") ("/var/" ++ volumePrefix ++ "etcd-backup")]
  | some .Local | some .ECS | none => []

def createEnvVarsFromStore (store : StoreSpec) (storeProvider : Option Provider)
    (envKeyPrefix volumePrefix : String) : Except Go.Failure (List EnvVar) := do
  -- `*store.Container`, with no `nil` check
  let container ← Go.deref store.container
  pure (mapToEnvVar (envKeyPrefix ++ "STORAGE_CONTAINER") container ::
    credentialEnvVars storeProvider envKeyPrefix volumePrefix)

def createJobArgumentFromStore (store : StoreSpec) (provider : Option Provider) (prefix_ : String) :
    List String :=
  if (providerString provider).length = 0 then []
  else
    let argPrefix := "--" ++ prefix_
    [argPrefix ++ "storage-provider=" ++ providerString provider] ++
      (if store.prefixPath.length > 0 then [argPrefix ++ "store-prefix=" ++ store.prefixPath]
        else []) ++
      (match store.container with
        | some c => if c.length > 0 then [argPrefix ++ "store-container=" ++ c] else []
        | none => [])

def createJobArgs (task : EtcdCopyBackupsTask) (sourceObjStoreProvider targetObjStoreProvider : Option Provider) :
    List String :=
  ["copy", "--snapstore-temp-directory=/var/etcd/data/tmp"] ++
    createJobArgumentFromStore task.spec.targetStore targetObjStoreProvider "" ++
    createJobArgumentFromStore task.spec.sourceStore sourceObjStoreProvider sourcePrefix ++
    (match task.spec.maxBackupAge with
      | some age => ["--max-backup-age=" ++ toString age.toNat]
      | none => []) ++
    (match task.spec.maxBackups with
      | some n => ["--max-backups-to-copy=" ++ toString n.toNat]
      | none => []) ++
    (match task.spec.waitForFinalSnapshot with
      | some w =>
          ["--wait-for-final-snapshot=" ++ toString w.enabled] ++
            (match w.timeout with
              | some t => ["--wait-for-final-snapshot-timeout=" ++ Go.durationString t]
              | none => [])
      | none => [])

/-- The pod of the job `createJobObject` builds. -/
def createJobObject (get : SecretGetter) (task : EtcdCopyBackupsTask) : Except Go.Failure PodSpec := do
  let targetStore := task.spec.targetStore
  let targetProvider ← storageProviderFromInfraProvider targetStore.provider
  let sourceStore := task.spec.sourceStore
  let sourceProvider ← storageProviderFromInfraProvider sourceStore.provider
  let args := createJobArgs task sourceProvider targetProvider
  let sourceEnv ← createEnvVarsFromStore sourceStore sourceProvider "SOURCE_" sourcePrefix
  let targetEnv ← createEnvVarsFromStore targetStore targetProvider "" ""
  let sourceMounts ← createVolumeMountsFromStore sourceStore sourceProvider sourcePrefix
  let targetMounts ← createVolumeMountsFromStore targetStore targetProvider targetPrefix
  let sourceVolumes ← createVolumesFromStore get sourceStore task.namespace_ sourceProvider sourcePrefix
  let targetVolumes ← createVolumesFromStore get targetStore task.namespace_ targetProvider targetPrefix
  pure
    { initContainers := []
      containers :=
        [{ name := "copy-backups", args := args, ports := [], env := sourceEnv ++ targetEnv,
           volumeMounts := sourceMounts ++ targetMounts, readinessProbe := none }]
      volumes := sourceVolumes ++ targetVolumes }

/-! ## How a job is assembled -/

/-- What the steps of `createJobObject` compute from the two stores. -/
structure JobParts where
  sourceProvider : Option Provider
  targetProvider : Option Provider
  sourceEnv : List EnvVar
  targetEnv : List EnvVar
  sourceMounts : List VolumeMount
  targetMounts : List VolumeMount
  sourceVolumes : List Volume
  targetVolumes : List Volume

/-- The pod `createJobObject` assembles from its parts. -/
def JobParts.pod (task : EtcdCopyBackupsTask) (parts : JobParts) : PodSpec :=
  { initContainers := []
    containers :=
      [{ name := "copy-backups", args := createJobArgs task parts.sourceProvider parts.targetProvider,
         ports := [], env := parts.sourceEnv ++ parts.targetEnv,
         volumeMounts := parts.sourceMounts ++ parts.targetMounts, readinessProbe := none }]
    volumes := parts.sourceVolumes ++ parts.targetVolumes }

/-- The parts are what each step of `createJobObject` returns for the task. -/
structure JobParts.Computed (get : SecretGetter) (task : EtcdCopyBackupsTask) (parts : JobParts) :
    Prop where
  sourceProvider :
    storageProviderFromInfraProvider task.spec.sourceStore.provider = .ok parts.sourceProvider
  targetProvider :
    storageProviderFromInfraProvider task.spec.targetStore.provider = .ok parts.targetProvider
  sourceEnv :
    createEnvVarsFromStore task.spec.sourceStore parts.sourceProvider "SOURCE_" sourcePrefix =
      .ok parts.sourceEnv
  targetEnv : createEnvVarsFromStore task.spec.targetStore parts.targetProvider "" "" = .ok parts.targetEnv
  sourceMounts :
    createVolumeMountsFromStore task.spec.sourceStore parts.sourceProvider sourcePrefix =
      .ok parts.sourceMounts
  targetMounts :
    createVolumeMountsFromStore task.spec.targetStore parts.targetProvider targetPrefix =
      .ok parts.targetMounts
  sourceVolumes :
    createVolumesFromStore get task.spec.sourceStore task.namespace_ parts.sourceProvider
      sourcePrefix = .ok parts.sourceVolumes
  targetVolumes :
    createVolumesFromStore get task.spec.targetStore task.namespace_ parts.targetProvider
      targetPrefix = .ok parts.targetVolumes

theorem createJobObject_eq_ok {get : SecretGetter} {task : EtcdCopyBackupsTask} {job : PodSpec}
    (h : createJobObject get task = .ok job) :
    ∃ parts : JobParts, parts.Computed get task ∧ job = parts.pod task := by
  -- one step per `←` of the source, in its order
  obtain ⟨targetProvider, htp, h⟩ := Go.bind_eq_ok.mp h
  obtain ⟨sourceProvider, hsp, h⟩ := Go.bind_eq_ok.mp h
  obtain ⟨sourceEnv, hse, h⟩ := Go.bind_eq_ok.mp h
  obtain ⟨targetEnv, hte, h⟩ := Go.bind_eq_ok.mp h
  obtain ⟨sourceMounts, hsm, h⟩ := Go.bind_eq_ok.mp h
  obtain ⟨targetMounts, htm, h⟩ := Go.bind_eq_ok.mp h
  obtain ⟨sourceVolumes, hsv, h⟩ := Go.bind_eq_ok.mp h
  obtain ⟨targetVolumes, htv, h⟩ := Go.bind_eq_ok.mp h
  exact ⟨⟨sourceProvider, targetProvider, sourceEnv, targetEnv, sourceMounts, targetMounts,
    sourceVolumes, targetVolumes⟩, ⟨hsp, htp, hse, hte, hsm, htm, hsv, htv⟩,
    (Go.pure_eq_ok.mp h).symm⟩

/-! ## What one store adds -/

/-- What one store adds to the job's mounts and volumes under the prefix of its
side: nothing, the host directory of a `Local` store mounted at its container, or
the secret of an object store mounted at one of the two credentials paths. -/
inductive StoreMounts (store : StoreSpec) (prefix_ : String) :
    Option Provider → List VolumeMount → List Volume → Prop
  | nothing {provider : Option Provider} (h : provider = some .ECS ∨ provider = none) :
      StoreMounts store prefix_ provider [] []
  | hostStorage (container hostPath : String) (hc : store.container = some container) :
      StoreMounts store prefix_ (some .Local) [⟨prefix_ ++ "host-storage", container⟩]
        [⟨prefix_ ++ "host-storage", .hostPath (hostPath ++ "/" ++ container)⟩]
  | objectStore {p : Provider} (path secretName : String) (hp : p ≠ .Local ∧ p ≠ .ECS)
      (hpath : path = "/var/." ++ getVolumeNamePrefix prefix_ ++ "gcp/" ∨
        path = "/var/" ++ getVolumeNamePrefix prefix_ ++ "etcd-backup/")
      (hs : store.secretRefName = some secretName) :
      StoreMounts store prefix_ (some p) [⟨getVolumeNamePrefix prefix_ ++ "etcd-backup", path⟩]
        [⟨getVolumeNamePrefix prefix_ ++ "etcd-backup", .secret secretName⟩]

theorem storeMounts_of_ok {get : SecretGetter} {store : StoreSpec} {namespace_ prefix_ : String}
    {provider : Option Provider} {ms : List VolumeMount} {vs : List Volume}
    (hm : createVolumeMountsFromStore store provider prefix_ = .ok ms)
    (hv : createVolumesFromStore get store namespace_ provider prefix_ = .ok vs) :
    StoreMounts store prefix_ provider ms vs := by
  rcases provider with _ | p
  · simp only [createVolumeMountsFromStore, createVolumesFromStore, Go.pure_eq_ok] at hm hv
    subst hm hv
    exact .nothing (.inr rfl)
  cases p
  case ECS =>
    simp only [createVolumeMountsFromStore, createVolumesFromStore, Go.pure_eq_ok] at hm hv
    subst hm hv
    exact .nothing (.inl rfl)
  case Local =>
    -- both read the container; the volume also reads the host directory
    obtain ⟨c, hc, hm⟩ := Go.bind_eq_ok.mp hm
    obtain ⟨hostPath, -, hv⟩ := Go.bind_eq_ok.mp hv
    obtain ⟨c', hc', hv⟩ := Go.bind_eq_ok.mp hv
    rw [hc] at hc'
    cases hc'
    cases Go.pure_eq_ok.mp hm
    cases Go.pure_eq_ok.mp hv
    exact .hostStorage c hostPath (Go.deref_eq_ok.mp hc)
  -- the object stores: the volume needs the secret, the mount does not
  all_goals
    simp only [createVolumeMountsFromStore, createVolumesFromStore, Go.pure_eq_ok] at hm hv
    subst hm
    rcases hs : store.secretRefName with _ | secretName
    · simp [hs] at hv
    · simp only [hs, Go.pure_eq_ok] at hv
      subst hv
      exact .objectStore _ secretName (by decide) (by simp) hs

namespace StoreMounts

variable {store : StoreSpec} {prefix_ : String} {provider : Option Provider}
  {ms : List VolumeMount} {vs : List Volume}

/-- Each mount is named after the volume it mounts. -/
theorem mount_names (h : StoreMounts store prefix_ provider ms vs) :
    ms.map (·.name) = vs.map (·.name) := by
  cases h <;> rfl

theorem mounts_length_le (h : StoreMounts store prefix_ provider ms vs) : ms.length ≤ 1 := by
  cases h <;> simp

theorem volume_names_nodup (h : StoreMounts store prefix_ provider ms vs) :
    (vs.map (·.name)).Nodup := by
  cases h <;> simp

theorem mem_volume_names (h : StoreMounts store prefix_ provider ms vs) {n : String}
    (hn : n ∈ vs.map (·.name)) :
    n = prefix_ ++ "host-storage" ∨ n = getVolumeNamePrefix prefix_ ++ "etcd-backup" := by
  cases h <;> simp_all

/-- A mount path is a `Local` store's container or one of the credentials paths. -/
theorem mem_mount_paths (h : StoreMounts store prefix_ provider ms vs) {path : String}
    (hp : path ∈ ms.map (·.mountPath)) :
    (provider = some .Local ∧ store.container = some path) ∨
      path = "/var/." ++ getVolumeNamePrefix prefix_ ++ "gcp/" ∨
      path = "/var/" ++ getVolumeNamePrefix prefix_ ++ "etcd-backup/" := by
  cases h with
  | nothing => simp at hp
  | hostStorage c hostPath hc =>
      simp only [List.map_cons, List.map_nil, List.mem_singleton] at hp
      subst hp
      exact .inl ⟨rfl, hc⟩
  | objectStore path' secretName _ hpath _ =>
      simp only [List.map_cons, List.map_nil, List.mem_singleton] at hp
      subst hp
      exact .inr hpath

end StoreMounts

/-! ## The environment of one store -/

/-- A `*_APPLICATION_CREDENTIALS` variable. -/
def IsCredentialEnv (e : EnvVar) : Prop := "_APPLICATION_CREDENTIALS".toList <:+ e.name.toList

/-- A variable named for the source store. -/
def IsSourceEnv (e : EnvVar) : Prop := "SOURCE_".toList <+: e.name.toList

/-- Every credentials variable points into a mount of one of the volumes. -/
def CredentialsMounted (env : List EnvVar) (mounts : List VolumeMount) (volumes : List Volume) :
    Prop :=
  ∀ e ∈ env, IsCredentialEnv e → ∃ v m, e.source = .value v ∧ m ∈ mounts ∧
    m.name ∈ volumes.map (·.name) ∧ Path.IsUnder v m.mountPath

theorem mem_createEnvVarsFromStore {store : StoreSpec} {provider : Option Provider}
    {envKeyPrefix volumePrefix : String} {env : List EnvVar} {e : EnvVar}
    (h : createEnvVarsFromStore store provider envKeyPrefix volumePrefix = .ok env) (he : e ∈ env) :
    (∃ c, e = mapToEnvVar (envKeyPrefix ++ "STORAGE_CONTAINER") c) ∨
      e ∈ credentialEnvVars provider envKeyPrefix volumePrefix := by
  obtain ⟨c, -, h⟩ := Go.bind_eq_ok.mp h
  rw [← Go.pure_eq_ok.mp h, List.mem_cons] at he
  rcases he with rfl | he
  · exact .inl ⟨c, rfl⟩
  · exact .inr he

/-- `STORAGE_CONTAINER` is not a credentials variable, whatever its prefix. -/
theorem storageContainer_not_credential (envKeyPrefix c : String) :
    ¬ IsCredentialEnv (mapToEnvVar (envKeyPrefix ++ "STORAGE_CONTAINER") c) := by
  rintro ⟨t, ht⟩
  simp only [mapToEnvVar, getEnvVarFromValue, String.toList_append] at ht
  -- both names end in a literal, and neither literal ends the other
  rcases Go.append_suffix_or_suffix ht with h | h
  · exact absurd h (by decide)
  · exact absurd h (by decide)

/-- The credentials of an object store point into its mount, on either side. -/
theorem credentialEnvVars_under {store : StoreSpec} {provider : Option Provider}
    {envKeyPrefix prefix_ : String} {ms : List VolumeMount} {e : EnvVar}
    (hm : createVolumeMountsFromStore store provider prefix_ = .ok ms)
    (he : e ∈ credentialEnvVars provider envKeyPrefix (getVolumeNamePrefix prefix_)) :
    ∃ v m, e.source = .value v ∧ m ∈ ms ∧ Path.IsUnder v m.mountPath := by
  rcases provider with _ | p
  · simp [credentialEnvVars] at he
  cases p
  case Local | ECS => simp [credentialEnvVars] at he
  case GCS =>
    simp only [credentialEnvVars, List.mem_singleton] at he
    simp only [createVolumeMountsFromStore, Go.pure_eq_ok] at hm
    subst he hm
    refine ⟨_, _, rfl, List.mem_singleton_self _, ?_⟩
    -- the key file lies below the mounted directory
    have hunder := Path.isUnder_below (s := "/var/." ++ getVolumeNamePrefix prefix_ ++ "gcp")
      (Path.getLast?_append (c := 'p') rfl) (by decide) "serviceaccount.json"
    simpa [String.append_assoc] using hunder
  all_goals
    simp only [credentialEnvVars, List.mem_singleton] at he
    simp only [createVolumeMountsFromStore, Go.pure_eq_ok] at hm
    subst he hm
    refine ⟨_, _, rfl, List.mem_singleton_self _, ?_⟩
    -- the credentials directory is the mount without its trailing slash
    have hunder := Path.isUnder_append_slash
      (s := "/var/" ++ getVolumeNamePrefix prefix_ ++ "etcd-backup")
      (Path.getLast?_append (c := 'p') rfl) (by decide)
    simpa [String.append_assoc] using hunder

theorem credentialsMounted_of_ok {get : SecretGetter} {store : StoreSpec}
    {namespace_ envKeyPrefix prefix_ : String} {provider : Option Provider} {env : List EnvVar}
    {ms : List VolumeMount} {vs : List Volume}
    (he : createEnvVarsFromStore store provider envKeyPrefix (getVolumeNamePrefix prefix_) = .ok env)
    (hm : createVolumeMountsFromStore store provider prefix_ = .ok ms)
    (hv : createVolumesFromStore get store namespace_ provider prefix_ = .ok vs) :
    CredentialsMounted env ms vs := by
  intro e hmem hcred
  rcases mem_createEnvVarsFromStore he hmem with ⟨c, rfl⟩ | hcreds
  · exact absurd hcred (storageContainer_not_credential _ _)
  · obtain ⟨v, m, hv', hm', hunder⟩ := credentialEnvVars_under hm hcreds
    have hname : m.name ∈ ms.map (·.name) := List.mem_map_of_mem hm'
    rw [(storeMounts_of_ok hm hv).mount_names] at hname
    exact ⟨v, m, hv', hm', hname, hunder⟩

/-- The copy job passes no secret through its environment: every variable is a
literal value, for every provider. -/
theorem createEnvVarsFromStore_no_secret {store : StoreSpec} {provider : Option Provider}
    {envKeyPrefix volumePrefix : String} {env : List EnvVar}
    (h : createEnvVarsFromStore store provider envKeyPrefix volumePrefix = .ok env) :
    ∀ e ∈ env, e.source.secretName? = none := by
  intro e hmem
  rcases mem_createEnvVarsFromStore h hmem with ⟨c, rfl⟩ | hcreds
  · rfl
  · rcases provider with _ | p
    · simp [credentialEnvVars] at hcreds
    cases p <;> simp only [credentialEnvVars, List.mem_singleton, List.not_mem_nil] at hcreds <;>
      subst hcreds <;> rfl

/-- Every variable carries the key prefix of its side. -/
theorem envKeyPrefix_isPrefix {store : StoreSpec} {provider : Option Provider}
    {envKeyPrefix volumePrefix : String} {env : List EnvVar}
    (h : createEnvVarsFromStore store provider envKeyPrefix volumePrefix = .ok env) :
    ∀ e ∈ env, ∃ name, e.name = envKeyPrefix ++ name ∧
      name ∈ ["STORAGE_CONTAINER", "AWS_APPLICATION_CREDENTIALS", "AZURE_APPLICATION_CREDENTIALS",
        "GOOGLE_APPLICATION_CREDENTIALS", "OPENSTACK_APPLICATION_CREDENTIALS",
        "OPENSHIFT_APPLICATION_CREDENTIALS", "ALICLOUD_APPLICATION_CREDENTIALS"] := by
  intro e hmem
  rcases mem_createEnvVarsFromStore h hmem with ⟨c, rfl⟩ | hcreds
  · exact ⟨_, rfl, by simp⟩
  · rcases provider with _ | p
    · simp [credentialEnvVars] at hcreds
    cases p <;> simp only [credentialEnvVars, List.mem_singleton, List.not_mem_nil] at hcreds <;>
      subst hcreds <;> exact ⟨_, rfl, by simp⟩

/-! ## The job -/

theorem getVolumeNamePrefix_sourcePrefix : getVolumeNamePrefix sourcePrefix = sourcePrefix := by
  simp [getVolumeNamePrefix]

theorem getVolumeNamePrefix_targetPrefix : getVolumeNamePrefix targetPrefix = "" := by
  decide

/-- What the claim on the copy job's pod states, over the parts it is built from:
distinct volume names, mounts that name volumes, shared mount paths only where a
`Local` container is mounted, credentials that point into a mount of their own
store, and source variables that are exactly the `SOURCE_` ones. -/
structure JobParts.Closure (task : EtcdCopyBackupsTask) (parts : JobParts) : Prop where
  volume_names_nodup : ((parts.pod task).volumes.map (·.name)).Nodup
  mounts_name_volumes : ∀ c ∈ (parts.pod task).containers, ∀ m ∈ c.volumeMounts,
    m.name ∈ (parts.pod task).volumes.map (·.name)
  shared_mount_path_local : ∀ c ∈ (parts.pod task).containers, ∀ path,
    2 ≤ (c.volumeMounts.map (·.mountPath)).count path →
      ∃ store ∈ [task.spec.sourceStore, task.spec.targetStore],
        storageProviderFromInfraProvider store.provider = .ok (some .Local) ∧
          store.container = some path
  source_credentials_mounted : CredentialsMounted parts.sourceEnv parts.sourceMounts parts.sourceVolumes
  target_credentials_mounted : CredentialsMounted parts.targetEnv parts.targetMounts parts.targetVolumes
  source_env_prefixed : ∀ e ∈ parts.sourceEnv, IsSourceEnv e
  target_env_unprefixed : ∀ e ∈ parts.targetEnv, ¬ IsSourceEnv e

namespace JobParts.Computed

variable {get : SecretGetter} {task : EtcdCopyBackupsTask} {parts : JobParts}

theorem sourceShape (h : parts.Computed get task) :
    StoreMounts task.spec.sourceStore sourcePrefix parts.sourceProvider parts.sourceMounts
      parts.sourceVolumes :=
  storeMounts_of_ok h.sourceMounts h.sourceVolumes

theorem targetShape (h : parts.Computed get task) :
    StoreMounts task.spec.targetStore targetPrefix parts.targetProvider parts.targetMounts
      parts.targetVolumes :=
  storeMounts_of_ok h.targetMounts h.targetVolumes

/-- The two sides' volume names: `source-...` against `target-host-storage` and
`etcd-backup`. -/
theorem job_volume_names_nodup (h : parts.Computed get task) :
    ((parts.sourceVolumes ++ parts.targetVolumes).map (·.name)).Nodup := by
  rw [List.map_append, List.nodup_append]
  refine ⟨h.sourceShape.volume_names_nodup, h.targetShape.volume_names_nodup, ?_⟩
  intro a ha b hb
  rcases h.sourceShape.mem_volume_names ha with rfl | rfl <;>
    rcases h.targetShape.mem_volume_names hb with rfl | rfl <;> decide

theorem job_mounts_name_volumes (h : parts.Computed get task) :
    ∀ m ∈ parts.sourceMounts ++ parts.targetMounts,
      m.name ∈ (parts.sourceVolumes ++ parts.targetVolumes).map (·.name) := by
  intro m hm
  rw [List.map_append, ← h.sourceShape.mount_names, ← h.targetShape.mount_names, ← List.map_append]
  exact List.mem_map_of_mem hm

theorem job_shared_mount_path_local (h : parts.Computed get task) {path : String}
    (hcount : 2 ≤ ((parts.sourceMounts ++ parts.targetMounts).map (·.mountPath)).count path) :
    ∃ store ∈ [task.spec.sourceStore, task.spec.targetStore],
      storageProviderFromInfraProvider store.provider = .ok (some .Local) ∧
        store.container = some path := by
  -- each store adds at most one mount, so both sides mount the path
  rw [List.map_append, List.count_append] at hcount
  have hs : (parts.sourceMounts.map (·.mountPath)).count path ≤ 1 :=
    List.count_le_length.trans (by simpa using h.sourceShape.mounts_length_le)
  have ht : (parts.targetMounts.map (·.mountPath)).count path ≤ 1 :=
    List.count_le_length.trans (by simpa using h.targetShape.mounts_length_le)
  have hms : path ∈ parts.sourceMounts.map (·.mountPath) := List.count_pos_iff.mp (by omega)
  have hmt : path ∈ parts.targetMounts.map (·.mountPath) := List.count_pos_iff.mp (by omega)
  rcases h.sourceShape.mem_mount_paths hms with ⟨hp, hc⟩ | hfixed
  · exact ⟨_, List.mem_cons_self, hp ▸ h.sourceProvider, hc⟩
  rcases h.targetShape.mem_mount_paths hmt with ⟨hp, hc⟩ | hfixed'
  · exact ⟨_, List.mem_cons_of_mem _ List.mem_cons_self, hp ▸ h.targetProvider, hc⟩
  -- the credentials paths of the two sides differ
  exfalso
  rcases hfixed with rfl | rfl <;> rcases hfixed' with h' | h' <;> exact absurd h' (by decide)

theorem sourceCredentials (h : parts.Computed get task) :
    CredentialsMounted parts.sourceEnv parts.sourceMounts parts.sourceVolumes :=
  credentialsMounted_of_ok (getVolumeNamePrefix_sourcePrefix ▸ h.sourceEnv) h.sourceMounts
    h.sourceVolumes

theorem targetCredentials (h : parts.Computed get task) :
    CredentialsMounted parts.targetEnv parts.targetMounts parts.targetVolumes :=
  credentialsMounted_of_ok (getVolumeNamePrefix_targetPrefix ▸ h.targetEnv) h.targetMounts
    h.targetVolumes

theorem sourceEnv_prefixed (h : parts.Computed get task) : ∀ e ∈ parts.sourceEnv, IsSourceEnv e := by
  intro e he
  obtain ⟨name, hname, -⟩ := envKeyPrefix_isPrefix h.sourceEnv e he
  rw [IsSourceEnv, hname, String.toList_append]
  exact List.prefix_append _ _

theorem targetEnv_unprefixed (h : parts.Computed get task) :
    ∀ e ∈ parts.targetEnv, ¬ IsSourceEnv e := by
  intro e he
  obtain ⟨name, hname, hmem⟩ := envKeyPrefix_isPrefix h.targetEnv e he
  rw [IsSourceEnv, hname, String.empty_append]
  -- none of the seven names starts with `SOURCE_`
  clear hname
  revert name
  decide

end JobParts.Computed

theorem createJobObject_closure {get : SecretGetter} {task : EtcdCopyBackupsTask} {job : PodSpec}
    (h : createJobObject get task = .ok job) :
    ∃ parts : JobParts, parts.Computed get task ∧ job = parts.pod task ∧ parts.Closure task := by
  obtain ⟨parts, hparts, rfl⟩ := createJobObject_eq_ok h
  refine ⟨parts, hparts, rfl, ⟨hparts.job_volume_names_nodup, ?_, ?_, hparts.sourceCredentials,
    hparts.targetCredentials, hparts.sourceEnv_prefixed, hparts.targetEnv_unprefixed⟩⟩
  · -- the job has the one container `copy-backups`
    intro c hc
    simp only [JobParts.pod, List.mem_singleton] at hc
    subst hc
    exact hparts.job_mounts_name_volumes
  · intro c hc path
    simp only [JobParts.pod, List.mem_singleton] at hc
    subst hc
    exact hparts.job_shared_mount_path_local

/-- The copy job's container reads no secret through its environment. -/
theorem createJobObject_env_no_secret {get : SecretGetter} {task : EtcdCopyBackupsTask}
    {job : PodSpec} (h : createJobObject get task = .ok job) :
    ∀ c ∈ job.containers, ∀ e ∈ c.env, e.source.secretName? = none := by
  obtain ⟨parts, hparts, rfl⟩ := createJobObject_eq_ok h
  intro c hc e he
  simp only [JobParts.pod, List.mem_singleton] at hc
  subst hc
  rcases List.mem_append.mp he with he | he
  · exact createEnvVarsFromStore_no_secret hparts.sourceEnv e he
  · exact createEnvVarsFromStore_no_secret hparts.targetEnv e he

/-- A secret getter for a namespace without secrets. -/
def noSecrets : SecretGetter := fun _ _ => .error (.error "not found")

/-- A task that copies an `S3` store to a `GCS` store. -/
def s3ToGcsTask : EtcdCopyBackupsTask :=
  { name := "copy", namespace_ := "shoot",
    spec := { sourceStore := ⟨some "bucket", "shoot--etcd-main", some "S3", some "source-secret"⟩,
              targetStore := ⟨some "bucket", "shoot--etcd-main", some "GCS", some "target-secret"⟩,
              maxBackupAge := none, maxBackups := none, waitForFinalSnapshot := none } }

theorem createJobObject_closure_sample :
    ∃ parts : JobParts, parts.Computed noSecrets s3ToGcsTask ∧
      JobParts.pod s3ToGcsTask
          ⟨some .S3, some .GCS,
           [mapToEnvVar "SOURCE_STORAGE_CONTAINER" "bucket",
            mapToEnvVar "SOURCE_AWS_APPLICATION_CREDENTIALS" "/var/source-etcd-backup"],
           [mapToEnvVar "STORAGE_CONTAINER" "bucket",
            mapToEnvVar "GOOGLE_APPLICATION_CREDENTIALS" "/var/.gcp/serviceaccount.json"],
           [⟨"source-etcd-backup", "/var/source-etcd-backup/"⟩], [⟨"etcd-backup", "/var/.gcp/"⟩],
           [⟨"source-etcd-backup", .secret "source-secret"⟩], [⟨"etcd-backup", .secret "target-secret"⟩]⟩ =
        parts.pod s3ToGcsTask ∧ parts.Closure s3ToGcsTask :=
  createJobObject_closure (by decide +kernel)

/-- Two `Local` stores with the same container. -/
def localTask : EtcdCopyBackupsTask :=
  { name := "copy", namespace_ := "shoot",
    spec := { sourceStore := ⟨some "backups", "shoot--etcd-main", some "Local", none⟩,
              targetStore := ⟨some "backups", "shoot--etcd-main-copy", some "Local", none⟩,
              maxBackupAge := none, maxBackups := none, waitForFinalSnapshot := none } }

theorem local_mount_paths_collide :
    ∃ job, createJobObject noSecrets localTask = .ok job ∧
      ∃ c ∈ job.containers, ¬ (c.volumeMounts.map (·.mountPath)).Nodup := by
  refine ⟨_, rfl, ?_⟩
  -- both stores are mounted at `backups`
  exact ⟨_, List.mem_singleton_self _, by decide +kernel⟩

/-! ## Panics -/

theorem createEnvVarsFromStore_of_container {store : StoreSpec} {c : String}
    (h : store.container = some c) (provider : Option Provider) (envKeyPrefix volumePrefix : String) :
    createEnvVarsFromStore store provider envKeyPrefix volumePrefix =
      .ok (mapToEnvVar (envKeyPrefix ++ "STORAGE_CONTAINER") c ::
        credentialEnvVars provider envKeyPrefix volumePrefix) := by
  simp [createEnvVarsFromStore, h]

theorem createEnvVarsFromStore_of_none {store : StoreSpec} (h : store.container = none)
    (provider : Option Provider) (envKeyPrefix volumePrefix : String) :
    createEnvVarsFromStore store provider envKeyPrefix volumePrefix =
      .error .nilPointerDereference := by
  simp [createEnvVarsFromStore, h]

theorem createVolumeMountsFromStore_ne_panic {store : StoreSpec} (h : store.container.isSome)
    (provider : Option Provider) (volumeMountPrefix : String) :
    createVolumeMountsFromStore store provider volumeMountPrefix ≠ .error .nilPointerDereference := by
  obtain ⟨c, hc⟩ := Option.isSome_iff_exists.mp h
  unfold createVolumeMountsFromStore
  split <;> simp [hc]

/-- With a container, the volumes fail only as the secret lookup does. -/
theorem createVolumesFromStore_ne_panic {get : SecretGetter}
    (hget : ∀ namespace_ name, get namespace_ name ≠ .error .nilPointerDereference)
    {store : StoreSpec} (h : store.container.isSome) (namespace_ : String)
    (provider : Option Provider) (prefix_ : String) :
    createVolumesFromStore get store namespace_ provider prefix_ ≠ .error .nilPointerDereference := by
  obtain ⟨c, hc⟩ := Option.isSome_iff_exists.mp h
  unfold createVolumesFromStore
  split
  · refine Go.bind_ne_error ?_ fun _ _ => by simp [hc]
    unfold getHostMountPathFromSecretRef
    split
    · simp
    · exact Go.bind_ne_error (hget _ _) fun _ _ => Go.pure_ne_error
  -- an object store fails only without its secret reference
  all_goals
    try split
    all_goals simp

/-- When both providers resolve and the secret lookups do not panic, the job
construction panics exactly when a store has no container. -/
theorem createJobObject_panics_iff {get : SecretGetter} {task : EtcdCopyBackupsTask}
    (hget : ∀ namespace_ name, get namespace_ name ≠ .error .nilPointerDereference)
    (hsource : ∃ p, storageProviderFromInfraProvider task.spec.sourceStore.provider = .ok p)
    (htarget : ∃ p, storageProviderFromInfraProvider task.spec.targetStore.provider = .ok p) :
    createJobObject get task = .error .nilPointerDereference ↔
      task.spec.sourceStore.container = none ∨ task.spec.targetStore.container = none := by
  obtain ⟨sp, hsp⟩ := hsource
  obtain ⟨tp, htp⟩ := htarget
  unfold createJobObject
  simp only [htp, hsp, Go.ok_bind]
  cases hs : task.spec.sourceStore.container with
  | none => simp [createEnvVarsFromStore_of_none hs]
  | some c =>
      rw [createEnvVarsFromStore_of_container hs, Go.ok_bind]
      cases ht : task.spec.targetStore.container with
      | none => simp [createEnvVarsFromStore_of_none ht]
      | some c' =>
          rw [createEnvVarsFromStore_of_container ht, Go.ok_bind]
          simp only [reduceCtorEq, or_self, iff_false]
          refine Go.bind_ne_error (createVolumeMountsFromStore_ne_panic (by simp [hs]) _ _)
            fun _ _ => ?_
          refine Go.bind_ne_error (createVolumeMountsFromStore_ne_panic (by simp [ht]) _ _)
            fun _ _ => ?_
          refine Go.bind_ne_error (createVolumesFromStore_ne_panic hget (by simp [hs]) _ _ _)
            fun _ _ => ?_
          exact Go.bind_ne_error (createVolumesFromStore_ne_panic hget (by simp [ht]) _ _ _)
            fun _ _ => Go.pure_ne_error

/-- A task whose source store names no container. -/
def noContainerTask : EtcdCopyBackupsTask :=
  { name := "copy", namespace_ := "shoot",
    spec := { sourceStore := ⟨none, "shoot--copy", some "S3", some "source-secret"⟩,
              targetStore := ⟨some "bucket", "shoot--copy", some "GCS", some "target-secret"⟩,
              maxBackupAge := none, maxBackups := none, waitForFinalSnapshot := none } }

theorem createJobObject_panics_noContainer :
    createJobObject (fun _ _ => .ok ∅) noContainerTask = .error .nilPointerDereference :=
  (createJobObject_panics_iff (fun _ _ h => by cases h) ⟨_, rfl⟩ ⟨_, rfl⟩).mpr (.inl rfl)

/-- The task passes validation, and building its job panics whatever the
secrets hold. -/
theorem validated_task_dereferences_nil :
    Validation.validateEtcdCopyBackupsTask [] noContainerTask = [] ∧
      ∀ get, createJobObject get noContainerTask = .error .nilPointerDereference :=
  ⟨by decide +kernel, fun _ => rfl⟩

end CopyBackupsTask
end EtcdDruid
