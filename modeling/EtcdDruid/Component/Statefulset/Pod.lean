import EtcdDruid.Component.Statefulset.Values

/-!
# The StatefulSet's pod: `pkg/component/etcd/statefulset/statefulset.go`

**Input.**  The StatefulSet values and, for a `Local` store, the secret that may
name the host directory.

**Algorithm.**  `createOrPatch` computes the pod volumes first (`getVolumes`,
which fails without a `SecretRef` for the object stores), then the pod: an init
container, the etcd container and the backup-restore sidecar, each with its
arguments, ports, environment and mounts.  The sidecar's environment
dereferences `BackupStore.SecretRef` for `ECS` without a `nil` check: the model
returns the panic.

**Results.**
* `createOrPatch_ecs_eq_error`: an `ECS` store without a `SecretRef` panics;
* `createOrPatch_volumes_closed`: the pod's volume names are distinct, and every
  mount of its three containers names a pod volume or the volume claim template;
* `readsSecret_of_getVolumes`, `readsSecret_of_getBackupRestoreEnvVars`: every
  secret the pod reads is one the values name.
-/

namespace EtcdDruid
namespace Statefulset

def getEtcdPorts (val : Values) : List ContainerPort :=
  [⟨"server", "TCP", val.serverPort.getD defaultServerPort⟩,
   ⟨"client", "TCP", val.clientPort.getD defaultClientPort⟩]

def getEtcdEnvVars (val : Values) : List EnvVar :=
  let protocol := if val.backupTLS.isSome then "https" else "http"
  let endpoint := protocol ++ "://" ++ val.name ++ "-local:" ++
    fmtInt32 (val.backupPort.getD defaultBackupPort)
  [getEnvVarFromValue "ENABLE_TLS" (toString val.backupTLS.isSome),
   getEnvVarFromValue "BACKUP_ENDPOINT" endpoint]

def getSecretVolumeMounts (clientUrlTLS peerUrlTLS : Option TLSConfig) : List VolumeMount :=
  (if clientUrlTLS.isSome then
    [⟨"client-url-ca-etcd", "/var/etcd/ssl/client/ca"⟩,
     ⟨"client-url-etcd-server-tls", "/var/etcd/ssl/client/server"⟩,
     ⟨"client-url-etcd-client-tls", "/var/etcd/ssl/client/client"⟩] else []) ++
  (if peerUrlTLS.isSome then
    [⟨"peer-url-ca-etcd", "/var/etcd/ssl/peer/ca"⟩,
     ⟨"peer-url-etcd-server-tls", "/var/etcd/ssl/peer/server"⟩] else [])

def getEtcdVolumeMounts (val : Values) : List VolumeMount :=
  ⟨val.volumeClaimTemplateName, "/var/etcd/data/"⟩ ::
    getSecretVolumeMounts val.clientUrlTLS val.peerUrlTLS

/-- The mounts the backup store adds to the sidecar, by provider. -/
def storeVolumeMounts (store : StoreSpec) : Option Provider → List VolumeMount
  | some .Local =>
      match store.container with
      | some c => [⟨"host-storage", c⟩]
      | none => []
  | some .GCS => [⟨"etcd-backup", "/var/.gcp/"⟩]
  | some .S3 | some .ABS | some .OSS | some .Swift | some .OCS =>
      [⟨"etcd-backup", "/var/etcd-backup/"⟩]
  | some .ECS | none => []

def getBackupRestoreVolumeMounts (val : Values) : List VolumeMount :=
  let vms := [⟨val.volumeClaimTemplateName, "/var/etcd/data"⟩,
    ⟨"etcd-config-file", "/var/etcd/config/"⟩] ++
    getSecretVolumeMounts val.clientUrlTLS val.peerUrlTLS
  match val.backupStore with
  | none => vms
  | some store =>
      match storageProviderFromInfraProvider store.provider with
      | .error _ => vms
      | .ok provider => vms ++ storeVolumeMounts store provider

def getBackupPorts (val : Values) : List ContainerPort :=
  [⟨"server", "TCP", val.backupPort.getD defaultBackupPort⟩]

def tlsVolumes (clientUrlTLS peerUrlTLS : Option TLSConfig) : List Volume :=
  (match clientUrlTLS with
    | some tls =>
        [⟨"client-url-ca-etcd", .secret tls.tlsCASecretRef.name⟩,
         ⟨"client-url-etcd-server-tls", .secret tls.serverTLSSecretRefName⟩,
         ⟨"client-url-etcd-client-tls", .secret tls.clientTLSSecretRefName⟩]
    | none => []) ++
  (match peerUrlTLS with
    | some tls =>
        [⟨"peer-url-ca-etcd", .secret tls.tlsCASecretRef.name⟩,
         ⟨"peer-url-etcd-server-tls", .secret tls.serverTLSSecretRefName⟩]
    | none => [])

/-- The volume the backup store adds to the pod, by provider. -/
def storeVolumes (get : SecretGetter) (namespace_ : String) (store : StoreSpec) :
    Option Provider → Except Go.Failure (List Volume)
  | some .Local => do
      let hostPath ← getHostMountPathFromSecretRef get store namespace_
      pure [⟨"host-storage", .hostPath (hostPath ++ "/" ++ store.container.getD "")⟩]
  | some .GCS | some .S3 | some .OSS | some .ABS | some .Swift | some .OCS =>
      match store.secretRefName with
      | none => .error (.error "no secretRef configured for backup store")
      | some name => pure [⟨"etcd-backup", .secret name⟩]
  | some .ECS | none => pure []

def getVolumes (get : SecretGetter) (val : Values) : Except Go.Failure (List Volume) :=
  let vs : List Volume :=
    ⟨"etcd-config-file", .configMap val.configMapName [("etcd.conf.yaml", "etcd.conf.yaml")] 0o644⟩ ::
      tlsVolumes val.clientUrlTLS val.peerUrlTLS
  match val.backupStore with
  | none => pure vs
  | some store =>
      match storageProviderFromInfraProvider store.provider with
      | .error _ => pure vs
      | .ok provider => (vs ++ ·) <$> storeVolumes get val.namespace_ store provider

def credentialsMountPath : String := "/var/etcd-backup"

/-- The credentials the sidecar is given for the store, by provider. -/
def storeEnvVars (store : StoreSpec) : Option Provider → Except Go.Failure (List EnvVar)
  | some .S3 => pure [getEnvVarFromValue "AWS_APPLICATION_CREDENTIALS" credentialsMountPath]
  | some .ABS => pure [getEnvVarFromValue "AZURE_APPLICATION_CREDENTIALS" credentialsMountPath]
  | some .GCS =>
      pure [getEnvVarFromValue "GOOGLE_APPLICATION_CREDENTIALS" "/var/.gcp/serviceaccount.json"]
  | some .Swift =>
      pure [getEnvVarFromValue "OPENSTACK_APPLICATION_CREDENTIALS" credentialsMountPath]
  | some .OSS => pure [getEnvVarFromValue "ALICLOUD_APPLICATION_CREDENTIALS" credentialsMountPath]
  | some .ECS => do
      -- `storeValues.SecretRef.Name`, with no `nil` check
      let name ← Go.deref store.secretRefName
      pure [getEnvVarFromSecrets "ECS_ENDPOINT" name "endpoint",
        getEnvVarFromSecrets "ECS_ACCESS_KEY_ID" name "accessKeyID",
        getEnvVarFromSecrets "ECS_SECRET_ACCESS_KEY" name "secretAccessKey"]
  | some .OCS =>
      pure [getEnvVarFromValue "OPENSHIFT_APPLICATION_CREDENTIALS" credentialsMountPath]
  | some .Local | none => pure []

def getBackupRestoreEnvVars (val : Values) : Except Go.Failure (List EnvVar) :=
  let storageContainer := (val.backupStore.bind (·.container)).getD ""
  let env := [getEnvVarFromValue "STORAGE_CONTAINER" storageContainer,
    getEnvVarFromField "POD_NAME" "metadata.name",
    getEnvVarFromField "POD_NAMESPACE" "metadata.namespace"]
  match val.backupStore with
  | none => pure env
  | some store =>
      match storageProviderFromInfraProvider store.provider with
      | .error _ => pure env
      | .ok provider => (env ++ ·) <$> storeEnvVars store provider

/-- The sidecar's credentials panic exactly for `ECS` without a `SecretRef`. -/
theorem storeEnvVars_eq_error_iff (store : StoreSpec) (provider : Option Provider) (f : Go.Failure) :
    storeEnvVars store provider = .error f ↔
      provider = some .ECS ∧ store.secretRefName = none ∧ f = .nilPointerDereference := by
  cases provider with
  | none => simp [storeEnvVars]
  | some p =>
      cases p <;> simp only [storeEnvVars, Go.pure_ne_error, reduceCtorEq, false_and, Option.some.injEq, true_and]
      -- ECS
      cases store.secretRefName <;> simp [eq_comm]

/-- The sidecar's environment panics exactly for an `ECS` store without a `SecretRef`. -/
theorem getBackupRestoreEnvVars_eq_error_iff (val : Values) (f : Go.Failure) :
    getBackupRestoreEnvVars val = .error f ↔
      ∃ store, val.backupStore = some store ∧
        storageProviderFromInfraProvider store.provider = .ok (some .ECS) ∧
        store.secretRefName = none ∧ f = .nilPointerDereference := by
  unfold getBackupRestoreEnvVars
  cases val.backupStore with
  | none => simp
  | some store =>
      cases hp : storageProviderFromInfraProvider store.provider with
      | error e => simp [hp]
      | ok provider => simp [hp, Go.map_eq_error, storeEnvVars_eq_error_iff]

def getReadinessHandlerForSingleNode (val : Values) : HTTPGetAction :=
  ⟨"/healthz", (val.backupPort.getD defaultBackupPort).toInt,
    if val.backupTLS.isNone then .HTTP else .HTTPS⟩

def getReadinessHandlerForMultiNode (val : Values) : HTTPGetAction :=
  ⟨"/readyz", (val.wrapperPort.getD defaultWrapperPort).toInt,
    if val.backupTLS.isNone then .HTTP else .HTTPS⟩

def getReadinessHandler (val : Values) : HTTPGetAction :=
  if val.replicas > 1 then getReadinessHandlerForMultiNode val
  else getReadinessHandlerForSingleNode val

/-- The pod template that the mutate function of `createOrPatch` writes. -/
def createOrPatch (get : SecretGetter) (val : Values) : Except Go.Failure PodSpec := do
  let podVolumes ← getVolumes get val
  let backupEnv ← getBackupRestoreEnvVars val
  pure
    { initContainers :=
        [{ name := "change-permissions", args := ["chown -R 65532:65532 /var/etcd/data"],
           ports := [], env := [], volumeMounts := getEtcdVolumeMounts val,
           readinessProbe := none }]
      containers :=
        [{ name := "etcd", args := val.etcdCommand, ports := getEtcdPorts val,
           env := getEtcdEnvVars val, volumeMounts := getEtcdVolumeMounts val,
           readinessProbe := some (getReadinessHandler val) },
         { name := "backup-restore", args := val.etcdBackupCommand, ports := getBackupPorts val,
           env := backupEnv, volumeMounts := getBackupRestoreVolumeMounts val,
           readinessProbe := none }]
      volumes := podVolumes }

/-- For every `ECS` store without a `SecretRef`, `createOrPatch` panics: the
volumes are built (`ECS` adds none), then the sidecar's environment reads the
missing reference. -/
theorem createOrPatch_ecs_eq_error (get : SecretGetter) (val : Values) (store : StoreSpec)
    (hs : val.backupStore = some store)
    (hp : storageProviderFromInfraProvider store.provider = .ok (some .ECS))
    (hr : store.secretRefName = none) :
    createOrPatch get val = .error .nilPointerDereference := by
  have hv : getVolumes get val =
      .ok ((⟨"etcd-config-file", .configMap val.configMapName
        [("etcd.conf.yaml", "etcd.conf.yaml")] 0o644⟩ :: tlsVolumes val.clientUrlTLS val.peerUrlTLS) ++
        []) := by
    simp only [getVolumes, hs, hp, storeVolumes]
    rfl
  have he : getBackupRestoreEnvVars val = .error .nilPointerDereference :=
    (getBackupRestoreEnvVars_eq_error_iff val _).mpr ⟨store, hs, hp, hr, rfl⟩
  simp only [createOrPatch, hv, he, Go.ok_bind, Go.error_bind]

/-! ## Volume closure -/

section Closure

variable {get : SecretGetter} {val : Values}

/-- The TLS secrets are mounted under the names of their volumes. -/
theorem tlsVolumes_names (clientUrlTLS peerUrlTLS : Option TLSConfig) :
    (tlsVolumes clientUrlTLS peerUrlTLS).map (·.name) =
      (getSecretVolumeMounts clientUrlTLS peerUrlTLS).map (·.name) := by
  unfold tlsVolumes getSecretVolumeMounts
  cases clientUrlTLS <;> cases peerUrlTLS <;> rfl

theorem mem_tlsVolumes_names {clientUrlTLS peerUrlTLS : Option TLSConfig} {m : VolumeMount}
    (hm : m ∈ getSecretVolumeMounts clientUrlTLS peerUrlTLS) :
    m.name ∈ (tlsVolumes clientUrlTLS peerUrlTLS).map (·.name) := by
  rw [tlsVolumes_names]
  exact List.mem_map_of_mem hm

/-- A store adds at most one volume, and the sidecar mounts only that one. -/
theorem storeVolumes_eq_ok {namespace_ : String} {store : StoreSpec} {provider : Option Provider}
    {vs : List Volume} (h : storeVolumes get namespace_ store provider = .ok vs) :
    (storeVolumeMounts store provider).map (·.name) ⊆ vs.map (·.name) ∧
      (vs.map (·.name) = [] ∨ vs.map (·.name) = ["host-storage"] ∨
        vs.map (·.name) = ["etcd-backup"]) := by
  rcases provider with _ | p
  · simp only [storeVolumes, Go.pure_eq_ok] at h
    subst h
    simp [storeVolumeMounts]
  cases p
  case Local =>
    obtain ⟨hostPath, -, hv⟩ := Go.bind_eq_ok.mp h
    cases Go.pure_eq_ok.mp hv
    -- the mount needs the container, the volume does not
    cases hc : store.container <;> simp [storeVolumeMounts, hc]
  case ECS =>
    simp only [storeVolumes, Go.pure_eq_ok] at h
    subst h
    simp [storeVolumeMounts]
  -- the object stores: one secret volume, when the store names the secret
  all_goals
    simp only [storeVolumes] at h
    rcases hs : store.secretRefName with _ | name
    · simp [hs] at h
    · simp only [hs, Go.pure_eq_ok] at h
      subst h
      simp [storeVolumeMounts]

/-- The pod's volumes are the config map, the TLS secrets and what the store
adds; the sidecar mounts the config map, the TLS secrets and some of what the
store adds. -/
theorem getVolumes_eq_ok {vs : List Volume} (h : getVolumes get val = .ok vs) :
    ∃ storeVs storeMounts,
      vs = (⟨"etcd-config-file", .configMap val.configMapName
          [("etcd.conf.yaml", "etcd.conf.yaml")] 0o644⟩ ::
        tlsVolumes val.clientUrlTLS val.peerUrlTLS) ++ storeVs ∧
      getBackupRestoreVolumeMounts val = [⟨val.volumeClaimTemplateName, "/var/etcd/data"⟩,
          ⟨"etcd-config-file", "/var/etcd/config/"⟩] ++
        getSecretVolumeMounts val.clientUrlTLS val.peerUrlTLS ++ storeMounts ∧
      storeMounts.map (·.name) ⊆ storeVs.map (·.name) ∧
      (storeVs.map (·.name) = [] ∨ storeVs.map (·.name) = ["host-storage"] ∨
        storeVs.map (·.name) = ["etcd-backup"]) := by
  unfold getVolumes at h
  unfold getBackupRestoreVolumeMounts
  rcases hs : val.backupStore with _ | store
  · simp only [hs, Go.pure_eq_ok] at h
    exact ⟨[], [], by simp [h], by simp, by simp, .inl rfl⟩
  dsimp only
  rcases hp : storageProviderFromInfraProvider store.provider with e | provider
  · -- an unknown provider adds neither volumes nor mounts
    simp only [hs, hp, Go.pure_eq_ok] at h
    exact ⟨[], [], by simp [h], by simp, by simp, .inl rfl⟩
  · simp only [hs, hp] at h
    obtain ⟨storeVs, hv, rfl⟩ := Go.map_eq_ok.mp h
    obtain ⟨hsub, hnames⟩ := storeVolumes_eq_ok hv
    exact ⟨storeVs, storeVolumeMounts store provider, rfl, rfl, hsub, hnames⟩

theorem createOrPatch_volumes_closed {pod : PodSpec} (h : createOrPatch get val = .ok pod) :
    (pod.volumes.map (·.name)).Nodup ∧
      ∀ c ∈ pod.initContainers ++ pod.containers, ∀ m ∈ c.volumeMounts,
        m.name ∈ pod.volumes.map (·.name) ∨ m.name = val.volumeClaimTemplateName := by
  obtain ⟨vs, hvs, h⟩ := Go.bind_eq_ok.mp h
  obtain ⟨env, -, h⟩ := Go.bind_eq_ok.mp h
  cases Go.pure_eq_ok.mp h
  dsimp only
  obtain ⟨storeVs, storeMounts, hvs', hmounts, hsub, hstore⟩ := getVolumes_eq_ok hvs
  have hnames : vs.map (·.name) = "etcd-config-file" ::
      ((tlsVolumes val.clientUrlTLS val.peerUrlTLS).map (·.name) ++ storeVs.map (·.name)) := by
    simp [hvs']
  refine ⟨?_, ?_⟩
  · -- the names are literals: one list per TLS configuration and store
    rw [hnames]
    rcases hstore with hn | hn | hn <;> rw [hn] <;>
      cases val.clientUrlTLS <;> cases val.peerUrlTLS <;> simp [tlsVolumes]
  -- the data volume is the claim template; every other mount has its volume
  have htls : ∀ {m : VolumeMount}, m ∈ getSecretVolumeMounts val.clientUrlTLS val.peerUrlTLS →
      m.name ∈ vs.map (·.name) := fun hm => by
    rw [hnames]
    exact List.mem_cons_of_mem _ (List.mem_append_left _ (mem_tlsVolumes_names hm))
  have hetcd : ∀ m ∈ getEtcdVolumeMounts val,
      m.name ∈ vs.map (·.name) ∨ m.name = val.volumeClaimTemplateName := by
    intro m hm
    rcases List.mem_cons.mp hm with rfl | hm
    · exact .inr rfl
    · exact .inl (htls hm)
  intro c hc m hm
  simp only [List.cons_append, List.nil_append, List.mem_cons, List.not_mem_nil, or_false] at hc
  rcases hc with rfl | rfl | rfl
  · exact hetcd m hm
  · exact hetcd m hm
  · -- the sidecar also mounts the config map and what the store adds
    rw [hmounts] at hm
    rcases List.mem_append.mp hm with hm | hm
    · rcases List.mem_append.mp hm with hm | hm
      · simp only [List.mem_cons, List.not_mem_nil, or_false] at hm
        rcases hm with rfl | rfl
        · exact .inr rfl
        · exact .inl (hnames ▸ List.mem_cons_self)
      · exact .inl (htls hm)
    · rw [hnames]
      exact .inl (List.mem_cons_of_mem _ (List.mem_append_right _ (hsub (List.mem_map_of_mem hm))))

/-- An Etcd with client TLS and an `S3` store. -/
def tlsS3Etcd : Etcd :=
  { (default : Etcd) with
    spec := { (default : EtcdSpec) with
      etcd := { (default : EtcdConfig) with
        clientUrlTLS := some ⟨⟨"ca-etcd", none⟩, "etcd-server-cert", "etcd-client-tls"⟩ }
      backup := { (default : BackupSpec) with
        store := some ⟨some "bucket", "shoot--etcd-main", some "S3", some "etcd-backup-secret"⟩ } } }

theorem createOrPatch_volumes_closed_sample :
    ∃ pod, createOrPatch (fun _ _ => .ok ∅) (generateValues tlsS3Etcd none none none) = .ok pod ∧
      (pod.volumes.map (·.name)).Nodup := by
  obtain ⟨pod, hpod⟩ : ∃ pod,
      createOrPatch (fun _ _ => .ok ∅) (generateValues tlsS3Etcd none none none) = .ok pod :=
    ⟨_, rfl⟩
  exact ⟨pod, hpod, (createOrPatch_volumes_closed hpod).1⟩

end Closure

/-! ## The secrets the pod reads -/

/-- `s` is one of the secrets the values name: a TLS secret of either side or
the store's reference. -/
def ReadsSecret (val : Values) (s : String) : Prop :=
  (∃ tls, val.clientUrlTLS = some tls ∧
      (tls.tlsCASecretRef.name = s ∨ tls.serverTLSSecretRefName = s ∨ tls.clientTLSSecretRefName = s)) ∨
    (∃ tls, val.peerUrlTLS = some tls ∧
      (tls.tlsCASecretRef.name = s ∨ tls.serverTLSSecretRefName = s)) ∨
    ∃ store, val.backupStore = some store ∧ store.secretRefName = some s

theorem readsSecret_of_tlsVolumes {val : Values} {v : Volume} {s : String}
    (hv : v ∈ tlsVolumes val.clientUrlTLS val.peerUrlTLS) (hs : v.source.secretName? = some s) :
    ReadsSecret val s := by
  unfold tlsVolumes at hv
  rcases List.mem_append.mp hv with hv | hv
  · -- a client TLS volume
    rcases hc : val.clientUrlTLS with _ | tls
    · simp [hc] at hv
    · simp only [hc, List.mem_cons, List.not_mem_nil, or_false] at hv
      refine .inl ⟨tls, hc, ?_⟩
      rcases hv with rfl | rfl | rfl <;> simp_all [VolumeSource.secretName?]
  · rcases hp : val.peerUrlTLS with _ | tls
    · simp [hp] at hv
    · simp only [hp, List.mem_cons, List.not_mem_nil, or_false] at hv
      refine .inr (.inl ⟨tls, hp, ?_⟩)
      rcases hv with rfl | rfl <;> simp_all [VolumeSource.secretName?]

/-- Every secret volume of the pod is a TLS secret or the store's secret. -/
theorem readsSecret_of_getVolumes {get : SecretGetter} {val : Values} {vs : List Volume} {v : Volume}
    {s : String} (h : getVolumes get val = .ok vs) (hv : v ∈ vs) (hs : v.source.secretName? = some s) :
    ReadsSecret val s := by
  -- the config map reads no secret
  have hbase : ∀ v ∈ (⟨"etcd-config-file", .configMap val.configMapName
      [("etcd.conf.yaml", "etcd.conf.yaml")] 0o644⟩ :: tlsVolumes val.clientUrlTLS val.peerUrlTLS : List Volume),
      v.source.secretName? = some s → ReadsSecret val s := by
    intro v hv hs
    rcases List.mem_cons.mp hv with rfl | hv
    · simp [VolumeSource.secretName?] at hs
    · exact readsSecret_of_tlsVolumes hv hs
  unfold getVolumes at h
  rcases hstore : val.backupStore with _ | store
  · simp only [hstore, Go.pure_eq_ok] at h
    subst h
    exact hbase v hv hs
  rcases hp : storageProviderFromInfraProvider store.provider with e | provider
  · simp only [hstore, hp, Go.pure_eq_ok] at h
    subst h
    exact hbase v hv hs
  simp only [hstore, hp] at h
  obtain ⟨storeVs, hstoreVs, rfl⟩ := Go.map_eq_ok.mp h
  rcases List.mem_append.mp hv with hv | hv
  · exact hbase v hv hs
  -- the store's volume: a host path, or the secret of its reference
  refine .inr (.inr ⟨store, hstore, ?_⟩)
  rcases provider with _ | p
  · simp only [storeVolumes, Go.pure_eq_ok] at hstoreVs
    subst hstoreVs
    simp at hv
  cases p
  case Local =>
    obtain ⟨hostPath, -, hstoreVs⟩ := Go.bind_eq_ok.mp hstoreVs
    cases Go.pure_eq_ok.mp hstoreVs
    simp only [List.mem_singleton] at hv
    subst hv
    simp [VolumeSource.secretName?] at hs
  case ECS =>
    simp only [storeVolumes, Go.pure_eq_ok] at hstoreVs
    simp [← hstoreVs] at hv
  all_goals
    simp only [storeVolumes] at hstoreVs
    rcases hr : store.secretRefName with _ | name
    · simp [hr] at hstoreVs
    · simp only [hr, Go.pure_eq_ok] at hstoreVs
      subst hstoreVs
      simp only [List.mem_singleton] at hv
      subst hv
      simpa [VolumeSource.secretName?] using hs

/-- Every secret the sidecar's environment reads is the store's secret. -/
theorem readsSecret_of_getBackupRestoreEnvVars {val : Values} {env : List EnvVar} {e : EnvVar}
    {s : String} (h : getBackupRestoreEnvVars val = .ok env) (he : e ∈ env)
    (hs : e.source.secretName? = some s) : ReadsSecret val s := by
  unfold getBackupRestoreEnvVars at h
  -- the three fixed variables read no secret
  have hfixed : ∀ e ∈ [getEnvVarFromValue "STORAGE_CONTAINER" ((val.backupStore.bind (·.container)).getD ""),
      getEnvVarFromField "POD_NAME" "metadata.name",
      getEnvVarFromField "POD_NAMESPACE" "metadata.namespace"], e.source.secretName? = none := by
    simp [getEnvVarFromValue, getEnvVarFromField, EnvVarSource.secretName?]
  rcases hstore : val.backupStore with _ | store
  · simp only [hstore, Go.pure_eq_ok] at h
    subst h
    simp [hfixed e (by simpa [hstore] using he)] at hs
  rcases hp : storageProviderFromInfraProvider store.provider with err | provider
  · simp only [hstore, hp, Go.pure_eq_ok] at h
    subst h
    simp [hfixed e (by simpa [hstore] using he)] at hs
  simp only [hstore, hp] at h
  obtain ⟨storeEnv, hstoreEnv, rfl⟩ := Go.map_eq_ok.mp h
  rcases List.mem_append.mp he with he | he
  · simp [hfixed e (by simpa [hstore] using he)] at hs
  refine .inr (.inr ⟨store, hstore, ?_⟩)
  -- only `ECS` reads its secret, by the name of the reference
  rcases provider with _ | p
  · simp only [storeEnvVars, Go.pure_eq_ok] at hstoreEnv
    subst hstoreEnv
    simp at he
  cases p
  case ECS =>
    obtain ⟨name, hname, hstoreEnv⟩ := Go.bind_eq_ok.mp hstoreEnv
    cases Go.pure_eq_ok.mp hstoreEnv
    rw [Go.deref_eq_ok.mp hname]
    simp only [List.mem_cons, List.not_mem_nil, or_false] at he
    rcases he with rfl | rfl | rfl <;> simpa [getEnvVarFromSecrets, EnvVarSource.secretName?] using hs
  case Local =>
    simp only [storeEnvVars, Go.pure_eq_ok] at hstoreEnv
    subst hstoreEnv
    simp at he
  -- the other providers name a mounted file
  all_goals
    simp only [storeEnvVars, Go.pure_eq_ok] at hstoreEnv
    subst hstoreEnv
    simp only [List.mem_singleton] at he
    subst he
    simp [getEnvVarFromValue, EnvVarSource.secretName?] at hs

end Statefulset
end EtcdDruid
