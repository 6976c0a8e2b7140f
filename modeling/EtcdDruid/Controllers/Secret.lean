import EtcdDruid.Controllers.Etcd

/-!
# Secret protection: `controllers/secret` and `pkg/mapper/etcd_to_secret.go`

**Input.**  A secret's name and the Etcds of its namespace; for the mapper, one
Etcd.

**Algorithm.**  `isFinalizerNeeded` walks the Etcds and stops at the first whose
client TLS (CA, server, client), peer TLS (CA, server) or backup store reference
names the secret.  The mapper turns an Etcd into one reconcile request per
secret it names, in the Etcd's namespace, with the same three checks.

**Results.**
* `referencesSecret_iff_mem_map`: one Etcd's check in `isFinalizerNeeded` holds
  exactly when the mapper requests the secret;
* `isFinalizerNeeded_fst_iff`: the finalizer is needed exactly when some Etcd of
  the list maps to the secret;
* `referencesSecret_of_readsSecret`: every secret the StatefulSet's pod reads is
  one its Etcd references;
* `secret_protection_agrees`: the three together.
-/

namespace EtcdDruid
namespace Secret

/-- The checks of one iteration of `isFinalizerNeeded`. -/
def referencesSecret (secretName : String) (etcd : Etcd) : Bool :=
  (match etcd.spec.etcd.clientUrlTLS with
    | some tls =>
        tls.tlsCASecretRef.name == secretName || tls.serverTLSSecretRefName == secretName ||
          tls.clientTLSSecretRefName == secretName
    | none => false) ||
  (match etcd.spec.etcd.peerUrlTLS with
    | some tls => tls.tlsCASecretRef.name == secretName || tls.serverTLSSecretRefName == secretName
    | none => false) ||
  (match etcd.spec.backup.store with
    | some store =>
        match store.secretRefName with
        | some name => name == secretName
        | none => false
    | none => false)

/-- `isFinalizerNeeded`: whether some Etcd references the secret, and the first one. -/
def isFinalizerNeeded (secretName : String) : List Etcd → Bool × Option Etcd
  | [] => (false, none)
  | etcd :: etcds =>
      if referencesSecret secretName etcd then (true, some etcd)
      else isFinalizerNeeded secretName etcds

/-- `types.NamespacedName` of a reconcile request. -/
structure NamespacedName where
  namespace_ : String
  name : String
  deriving DecidableEq, Repr

/-- `etcdToSecretMapper.Map`. -/
def EtcdToSecretMapper.map (etcd : Etcd) : List NamespacedName :=
  (match etcd.spec.etcd.clientUrlTLS with
    | some tls =>
        [⟨etcd.namespace_, tls.tlsCASecretRef.name⟩, ⟨etcd.namespace_, tls.serverTLSSecretRefName⟩,
         ⟨etcd.namespace_, tls.clientTLSSecretRefName⟩]
    | none => []) ++
  (match etcd.spec.etcd.peerUrlTLS with
    | some tls =>
        [⟨etcd.namespace_, tls.tlsCASecretRef.name⟩, ⟨etcd.namespace_, tls.serverTLSSecretRefName⟩]
    | none => []) ++
  (match etcd.spec.backup.store with
    | some store =>
        match store.secretRefName with
        | some name => [⟨etcd.namespace_, name⟩]
        | none => []
    | none => [])

/-! ## The check and the mapper agree -/

theorem referencesSecret_iff_mem_map (secretName : String) (etcd : Etcd) :
    referencesSecret secretName etcd = true ↔
      (⟨etcd.namespace_, secretName⟩ : NamespacedName) ∈ EtcdToSecretMapper.map etcd := by
  unfold referencesSecret EtcdToSecretMapper.map
  -- the three checks, one block of requests each
  rw [Bool.or_eq_true, Bool.or_eq_true, List.mem_append, List.mem_append]
  refine or_congr (or_congr ?_ ?_) ?_
  · rcases etcd.spec.etcd.clientUrlTLS with _ | tls
    · simp
    · simp only [Bool.or_eq_true, beq_iff_eq, or_assoc, List.mem_cons, NamespacedName.mk.injEq,
        true_and, List.not_mem_nil, or_false]
      exact or_congr eq_comm (or_congr eq_comm eq_comm)
  · rcases etcd.spec.etcd.peerUrlTLS with _ | tls
    · simp
    · simp only [Bool.or_eq_true, beq_iff_eq, List.mem_cons, NamespacedName.mk.injEq, true_and,
        List.not_mem_nil, or_false]
      exact or_congr eq_comm eq_comm
  · rcases etcd.spec.backup.store with _ | store
    · simp
    · rcases hr : store.secretRefName with _ | name
      · simp [hr]
      · simp only [hr, beq_iff_eq, List.mem_singleton, NamespacedName.mk.injEq, true_and]
        exact eq_comm

/-- What the first component of `isFinalizerNeeded` says. -/
theorem isFinalizerNeeded_fst_iff (secretName : String) (etcds : List Etcd) :
    (isFinalizerNeeded secretName etcds).1 = true ↔
      ∃ etcd ∈ etcds, referencesSecret secretName etcd = true := by
  induction etcds with
  | nil => simp [isFinalizerNeeded]
  | cons etcd etcds ih =>
      by_cases h : referencesSecret secretName etcd = true
      · simp [isFinalizerNeeded, h]
      · simp [isFinalizerNeeded, h, ih]

/-- The Etcd it returns is the first one that references the secret. -/
theorem isFinalizerNeeded_snd {secretName : String} {etcds : List Etcd} {etcd : Etcd}
    (h : (isFinalizerNeeded secretName etcds).2 = some etcd) :
    etcd ∈ etcds ∧ referencesSecret secretName etcd = true := by
  induction etcds with
  | nil => simp [isFinalizerNeeded] at h
  | cons e etcds ih =>
      by_cases hr : referencesSecret secretName e = true
      · simp only [isFinalizerNeeded, hr, if_true, Option.some.injEq] at h
        subst h
        exact ⟨List.mem_cons_self, hr⟩
      · simp only [isFinalizerNeeded, hr] at h
        obtain ⟨hmem, href⟩ := ih h
        exact ⟨List.mem_cons_of_mem _ hmem, href⟩

/-! ## The secrets the pod reads are protected -/

/-- The StatefulSet's values name the Etcd's own TLS and store secrets. -/
theorem referencesSecret_of_readsSecret {etcd : Etcd} {secretName : String}
    (h : Statefulset.ReadsSecret (Reconciler.statefulSetValues etcd) secretName) :
    referencesSecret secretName etcd = true := by
  unfold referencesSecret
  rcases h with ⟨tls, htls, hname⟩ | ⟨tls, htls, hname⟩ | ⟨store, hstore, hname⟩
  · -- `statefulSetValues` copies the client TLS configuration
    have htls' : etcd.spec.etcd.clientUrlTLS = some tls := htls
    rcases hname with h | h | h <;> simp [htls', h]
  · have htls' : etcd.spec.etcd.peerUrlTLS = some tls := htls
    rcases hname with h | h <;> simp [htls', h]
  · have hstore' : etcd.spec.backup.store = some store := hstore
    simp [hstore', hname]

theorem secret_protection_agrees (etcd : Etcd) (get : SecretGetter) :
    (∀ vs, Statefulset.getVolumes get (Reconciler.statefulSetValues etcd) = .ok vs →
      ∀ v ∈ vs, ∀ s, v.source.secretName? = some s →
        (∀ etcds, etcd ∈ etcds → (isFinalizerNeeded s etcds).1 = true) ∧
          (⟨etcd.namespace_, s⟩ : NamespacedName) ∈ EtcdToSecretMapper.map etcd) ∧
    (∀ env, Statefulset.getBackupRestoreEnvVars (Reconciler.statefulSetValues etcd) = .ok env →
      ∀ e ∈ env, ∀ s, e.source.secretName? = some s →
        (∀ etcds, etcd ∈ etcds → (isFinalizerNeeded s etcds).1 = true) ∧
          (⟨etcd.namespace_, s⟩ : NamespacedName) ∈ EtcdToSecretMapper.map etcd) ∧
    ∀ s etcds, (isFinalizerNeeded s etcds).1 = true ↔
      ∃ e ∈ etcds, (⟨e.namespace_, s⟩ : NamespacedName) ∈ EtcdToSecretMapper.map e := by
  -- a secret the Etcd references is protected in every list and requested by the mapper
  have hprotected : ∀ s, referencesSecret s etcd = true →
      (∀ etcds, etcd ∈ etcds → (isFinalizerNeeded s etcds).1 = true) ∧
        (⟨etcd.namespace_, s⟩ : NamespacedName) ∈ EtcdToSecretMapper.map etcd := by
    intro s hs
    exact ⟨fun etcds hmem => (isFinalizerNeeded_fst_iff s etcds).mpr ⟨etcd, hmem, hs⟩,
      (referencesSecret_iff_mem_map s etcd).mp hs⟩
  refine ⟨?_, ?_, ?_⟩
  · intro vs hvs v hv s hs
    exact hprotected s (referencesSecret_of_readsSecret (Statefulset.readsSecret_of_getVolumes hvs hv hs))
  · intro env henv e he s hs
    exact hprotected s
      (referencesSecret_of_readsSecret (Statefulset.readsSecret_of_getBackupRestoreEnvVars henv he hs))
  · intro s etcds
    rw [isFinalizerNeeded_fst_iff]
    exact exists_congr fun e => and_congr_right fun _ => referencesSecret_iff_mem_map s e

/-- An Etcd backed up to an `S3` store through the secret `etcd-backup-secret`. -/
def s3Etcd : Etcd :=
  { (default : Etcd) with
    name := "etcd-main"
    namespace_ := "shoot"
    uid := Etcd.mainUid
    spec := { (default : EtcdSpec) with
      replicas := 1
      backup := { (default : BackupSpec) with
        store := some ⟨some "bucket", "shoot--etcd-main", some "S3", some "etcd-backup-secret"⟩ } } }

theorem secret_protection_agrees_sample :
    (isFinalizerNeeded "etcd-backup-secret" [s3Etcd]).1 = true ∧
      (⟨"shoot", "etcd-backup-secret"⟩ : NamespacedName) ∈ EtcdToSecretMapper.map s3Etcd := by
  -- the pod mounts the store's secret next to the config map
  have hvs : Statefulset.getVolumes (fun _ _ => .ok ∅) (Reconciler.statefulSetValues s3Etcd) =
      .ok [⟨"etcd-config-file", .configMap "etcd-bootstrap-3a5f2c"
            [("etcd.conf.yaml", "etcd.conf.yaml")] 0o644⟩,
          ⟨"etcd-backup", .secret "etcd-backup-secret"⟩] := by
    decide +kernel
  have h := (secret_protection_agrees s3Etcd (fun _ _ => .ok ∅)).1 _ hvs _
    (List.mem_cons_of_mem _ List.mem_cons_self) "etcd-backup-secret" rfl
  exact ⟨h.1 [s3Etcd] List.mem_cons_self, h.2⟩

end Secret
end EtcdDruid
