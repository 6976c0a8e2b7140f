import EtcdDruid.Api.Validation
import EtcdDruid.Component.Service
import EtcdDruid.Component.Configmap
import EtcdDruid.Component.Statefulset.Deploy
import EtcdDruid.Component.PodDisruptionBudget
import EtcdDruid.Controllers.Compaction
import EtcdDruid.Health.Condition
import EtcdDruid.Component.Names

/-!
# The Etcd reconciler: `controllers/etcd/reconciler.go`

**Input.**  The Etcd.

**Algorithm.**  `reconcileEtcd` generates the values of every component from
the Etcd.  The StatefulSet takes its three ports from the service values, so
the pods and the services default them alike; the etcd wrapper's flag for the
backup-restore server is the exception, a literal `8080`.

**Results.**
* `backupPort_consumers`: the sidecar's container port, the wrapper's
  `BACKUP_ENDPOINT`, the single-node readiness probe and the client service all
  use the service's backup port, for every Etcd;
* `etcdCommand_backupRestoreHostPort`: the wrapper's flag says `8080`, for
  every Etcd;
* `ports_and_schemes_agree`: the peer and client ports, and the schemes of both
  sides, agree across the config map, the pods and the services;
* `deploy_leases`: after the lease component's `Deploy`, for every store and
  every order of the parallel tasks, the member leases are exactly the
  ordinals below the replica count, each snapshot lease exists, owned, when
  backup is enabled and it did not carry the member labels before, and every
  other lease is unchanged;
* `initialCluster_member_names`: the members of the initial cluster are the
  member leases and the pods of the StatefulSet, by ordinal;
* `selectors_match_labels`: the pod template carries every selector of the
  StatefulSet, the services and the disruption budget, and the member leases
  carry the labels they are listed by;
* `validated_etcd_dereferences_nil`, `backup_port_disagrees`,
  `labelled_snapshot_lease_deleted`: Etcds on which these fail.
-/

namespace EtcdDruid
namespace Reconciler

def serviceValues (etcd : Etcd) : Service.Values := Service.generateValues etcd

def configMapValues (etcd : Etcd) : Configmap.Values := Configmap.generateValues etcd

/-- `statefulSetValues`, with the ports of the service values. -/
def statefulSetValues (etcd : Etcd) : Statefulset.Values :=
  let serviceValues := serviceValues etcd
  Statefulset.generateValues etcd (some serviceValues.clientPort) (some serviceValues.peerPort)
    (some serviceValues.backupPort)

/-- `componentlease.GenerateValues(etcd)`, deployed in the Etcd's namespace. -/
def leaseValues (etcd : Etcd) : Lease.Values := Lease.generateValues etcd

section Wiring

variable (etcd : Etcd)

@[simp] theorem statefulSetValues_name : (statefulSetValues etcd).name = etcd.name := rfl

@[simp] theorem statefulSetValues_replicas :
    (statefulSetValues etcd).replicas = etcd.spec.replicas := rfl

@[simp] theorem statefulSetValues_backupTLS :
    (statefulSetValues etcd).backupTLS = etcd.spec.backup.tls := rfl

@[simp] theorem statefulSetValues_clientUrlTLS :
    (statefulSetValues etcd).clientUrlTLS = etcd.spec.etcd.clientUrlTLS := rfl

@[simp] theorem statefulSetValues_backupStore :
    (statefulSetValues etcd).backupStore = etcd.spec.backup.store := rfl

@[simp] theorem statefulSetValues_backupPort :
    (statefulSetValues etcd).backupPort = some (serviceValues etcd).backupPort := rfl

@[simp] theorem statefulSetValues_etcdCommand :
    (statefulSetValues etcd).etcdCommand = Statefulset.getEtcdCommand (statefulSetValues etcd) :=
  rfl

/-- Every consumer of the backup-restore port but the etcd wrapper's flag uses
the port of the service values. -/
theorem backupPort_consumers :
    let port := (serviceValues etcd).backupPort
    getEnvVarFromValue "BACKUP_ENDPOINT"
        ((if etcd.spec.backup.tls.isSome then "https" else "http") ++ "://" ++ etcd.name ++
          "-local:" ++ fmtInt32 port) ∈ Statefulset.getEtcdEnvVars (statefulSetValues etcd) ∧
      Statefulset.getBackupPorts (statefulSetValues etcd) = [⟨"server", "TCP", port⟩] ∧
      (Statefulset.getReadinessHandlerForSingleNode (statefulSetValues etcd)).port = port.toInt ∧
      ⟨"backuprestore", port, port.toInt⟩ ∈ Service.clientServicePorts (serviceValues etcd) := by
  intro port
  refine ⟨?_, rfl, rfl, ?_⟩
  · -- the second of the wrapper's two variables
    exact .tail _ (.head _)
  · simp [Service.clientServicePorts, port]

/-- The etcd wrapper is told that the backup-restore server listens on `8080`,
whatever the backup port. -/
theorem etcdCommand_backupRestoreHostPort :
    "--backup-restore-host-port=" ++ etcd.name ++ "-local:8080" ∈
      (statefulSetValues etcd).etcdCommand := by
  rw [statefulSetValues_etcdCommand, Statefulset.getEtcdCommand]
  split <;> simp

/-- The wrapper's flag on the sidecar's TLS follows `ClientUrlTLS`. -/
theorem etcdCommand_tlsEnabled :
    "--backup-restore-tls-enabled=" ++ toString etcd.spec.etcd.clientUrlTLS.isSome ∈
      (statefulSetValues etcd).etcdCommand := by
  rw [statefulSetValues_etcdCommand, Statefulset.getEtcdCommand, statefulSetValues_clientUrlTLS]
  -- the second flag in either branch
  cases etcd.spec.etcd.clientUrlTLS <;> exact .tail _ (.head _)

/-- The wrapper's `ENABLE_TLS`, the scheme of its readiness probe and the
sidecar's server certificate follow `Backup.TLS`. -/
theorem backupTLS_consumers :
    getEnvVarFromValue "ENABLE_TLS" (toString etcd.spec.backup.tls.isSome) ∈
        Statefulset.getEtcdEnvVars (statefulSetValues etcd) ∧
      (Statefulset.getReadinessHandler (statefulSetValues etcd)).scheme =
        (if etcd.spec.backup.tls.isSome then .HTTPS else .HTTP) ∧
      (etcd.spec.backup.tls.isSome →
        "--server-cert=/var/etcd/ssl/client/server/tls.crt" ∈
          (statefulSetValues etcd).etcdBackupCommand) := by
  refine ⟨.head _, ?_, fun htls => ?_⟩
  · -- both probes take their scheme from `Backup.TLS`
    simp only [Statefulset.getReadinessHandler, Statefulset.getReadinessHandlerForMultiNode,
      Statefulset.getReadinessHandlerForSingleNode, statefulSetValues_backupTLS]
    have hscheme : ∀ t : Option TLSConfig,
        (if t.isNone then URIScheme.HTTP else .HTTPS) = if t.isSome then .HTTPS else .HTTP := by
      intro t
      cases t <;> rfl
    split <;> exact hscheme _
  · show _ ∈ Statefulset.getBackupRestoreCommand _
    unfold Statefulset.getBackupRestoreCommand
    split
    -- the certificate flags are one block of the concatenation: no other flag is compared
    simp only [List.mem_append, htls, if_true, List.mem_cons, true_or, or_true]

/-- The peer and client ports and schemes agree across the config map, the etcd
container, the services and the sidecar's endpoints. -/
theorem ports_and_schemes_agree :
    ((Configmap.syncConfigmap (configMapValues etcd) etcd.namespace_).listenPeerUrls =
        (if etcd.spec.etcd.peerUrlTLS.isSome then "https" else "http") ++ "://0.0.0.0:" ++
          fmtInt32 (serviceValues etcd).peerPort ∧
      (Configmap.syncConfigmap (configMapValues etcd) etcd.namespace_).advertisePeerUrls =
        (if etcd.spec.etcd.peerUrlTLS.isSome then "https" else "http") ++ "@" ++
          etcd.getPeerServiceName ++ "@" ++ etcd.namespace_ ++ "@" ++
          fmtInt32 (serviceValues etcd).peerPort ∧
      ⟨"server", "TCP", (serviceValues etcd).peerPort⟩ ∈
        Statefulset.getEtcdPorts (statefulSetValues etcd) ∧
      ⟨"peer", (serviceValues etcd).peerPort, (serviceValues etcd).peerPort.toInt⟩ ∈
        Service.peerServicePorts (serviceValues etcd) ∧
      ⟨"server", (serviceValues etcd).peerPort, (serviceValues etcd).peerPort.toInt⟩ ∈
        Service.clientServicePorts (serviceValues etcd)) ∧
    ((Configmap.syncConfigmap (configMapValues etcd) etcd.namespace_).listenClientUrls =
        (if etcd.spec.etcd.clientUrlTLS.isSome then "https" else "http") ++ "://0.0.0.0:" ++
          fmtInt32 (serviceValues etcd).clientPort ∧
      (Configmap.syncConfigmap (configMapValues etcd) etcd.namespace_).advertiseClientUrls =
        (if etcd.spec.etcd.clientUrlTLS.isSome then "https" else "http") ++ "@" ++
          etcd.getPeerServiceName ++ "@" ++ etcd.namespace_ ++ "@" ++
          fmtInt32 (serviceValues etcd).clientPort ∧
      ⟨"client", "TCP", (serviceValues etcd).clientPort⟩ ∈
        Statefulset.getEtcdPorts (statefulSetValues etcd) ∧
      ⟨"client", (serviceValues etcd).clientPort, (serviceValues etcd).clientPort.toInt⟩ ∈
        Service.clientServicePorts (serviceValues etcd) ∧
      "--endpoints=" ++ (if etcd.spec.etcd.clientUrlTLS.isSome then "https" else "http") ++
          "://" ++ etcd.name ++ "-local:" ++ fmtInt32 (serviceValues etcd).clientPort ∈
        (statefulSetValues etcd).etcdBackupCommand ∧
      "--service-endpoints=" ++ (if etcd.spec.etcd.clientUrlTLS.isSome then "https" else "http") ++
          "://" ++ etcd.getClientServiceName ++ ":" ++ fmtInt32 (serviceValues etcd).clientPort ∈
        (statefulSetValues etcd).etcdBackupCommand) := by
  -- the config map and the services default the ports alike; the pods take the services'
  obtain ⟨hlp, hap, hlc, hac⟩ := Configmap.syncConfigmap_urls (configMapValues etcd) etcd.namespace_
  obtain ⟨hendpoints, hservice⟩ := Statefulset.clientFlags_endpoints
    { statefulSetValues etcd with etcdBackupCommand := [] }
  have hsidecar := Statefulset.clientFlags_subset { statefulSetValues etcd with etcdBackupCommand := [] }
  exact ⟨⟨hlp, hap, .head _, .head _, .tail _ (.head _)⟩,
    ⟨hlc, hac, .tail _ (.head _), .head _, hsidecar hendpoints, hsidecar hservice⟩⟩

end Wiring

/-! ## Nil pointers on validated input -/

/-- An `ECS` store with neither a secret reference nor a container. -/
def ecsStore : StoreSpec := ⟨none, "shoot--etcd-main", some "ECS", none⟩

/-- An Etcd with the store `ecsStore` and no delta snapshot period. -/
def ecsEtcd : Etcd :=
  { (default : Etcd) with
    name := "etcd-main"
    namespace_ := "shoot"
    uid := Etcd.mainUid
    spec := { (default : EtcdSpec) with
      replicas := 1
      backup := { (default : BackupSpec) with
        store := some ecsStore } } }

/-- Both snapshot leases exist; only the delta snapshot lease was renewed. -/
def snapshotLeases : Condition.LeaseGetter := fun ns name =>
  .ok ⟨name, ns, ∅, ∅, [], 0, none, if name = "etcd-main-delta-snap" then some 0 else none⟩

theorem validated_etcd_dereferences_nil :
    Validation.validateEtcd [] ecsEtcd = [] ∧
      Statefulset.createOrPatch (fun _ _ => .ok ∅) (statefulSetValues ecsEtcd) =
        .error .nilPointerDereference ∧
      Compaction.createCompactionJob ecsEtcd = .error .nilPointerDereference ∧
      Condition.backupReadyCheck snapshotLeases 0 ecsEtcd = .error .nilPointerDereference := by
  have hstore : ecsEtcd.spec.backup.store = some ecsStore := rfl
  have hecs : storageProviderFromInfraProvider ecsStore.provider = .ok (some .ECS) := rfl
  refine ⟨?_, ?_, ?_, ?_⟩
  · -- the prefix names the Etcd and its namespace, and `ECS` is a provider
    refine (Validation.validateEtcd_eq_nil_iff [] ecsEtcd).mpr ⟨rfl, fun store hs => ?_⟩
    cases hstore.symm.trans hs
    exact ⟨⟨[], "--etcd-main".toList, rfl⟩, ⟨"shoot--".toList, [], rfl⟩, _, hecs⟩
  · exact Statefulset.createOrPatch_ecs_eq_error _ _ ecsStore hstore hecs rfl
  · exact (Compaction.createCompactionJob_eq_error_iff _ _).mpr ⟨ecsStore, hstore, rfl, rfl⟩
  · -- the delta snapshot lease was renewed, so the check reads the missing period
    exact Condition.backupReadyCheck_eq_error_of_renewed (p := "ECS") rfl (by decide) rfl rfl
      (.inr rfl) rfl

/-! ## The backup port -/

/-- An Etcd whose backup-restore server listens on port `9090`. -/
def backupPortEtcd : Etcd :=
  { (default : Etcd) with
    name := "etcd-main"
    namespace_ := "shoot"
    uid := Etcd.mainUid
    spec := { (default : EtcdSpec) with
      replicas := 1
      backup := { (default : BackupSpec) with port := some 9090 } } }

theorem backup_port_disagrees :
    "--backup-restore-host-port=etcd-main-local:8080" ∈ (statefulSetValues backupPortEtcd).etcdCommand ∧
      getEnvVarFromValue "BACKUP_ENDPOINT" "http://etcd-main-local:9090" ∈
        Statefulset.getEtcdEnvVars (statefulSetValues backupPortEtcd) ∧
      Statefulset.getBackupPorts (statefulSetValues backupPortEtcd) = [⟨"server", "TCP", 9090⟩] ∧
      Statefulset.getReadinessHandler (statefulSetValues backupPortEtcd) = ⟨"/healthz", 9090, .HTTP⟩ ∧
      ⟨"backuprestore", 9090, 9090⟩ ∈ Service.clientServicePorts (serviceValues backupPortEtcd) := by
  obtain ⟨hendpoint, hports, -, hservice⟩ := backupPort_consumers backupPortEtcd
  -- one replica: the probe is the single-node one
  have hsingle : ¬ (statefulSetValues backupPortEtcd).replicas > 1 := by decide
  refine ⟨etcdCommand_backupRestoreHostPort backupPortEtcd, hendpoint, hports, ?_, hservice⟩
  rw [Statefulset.getReadinessHandler, if_neg hsingle]
  rfl

/-! ## TLS modes -/

/-- A TLS configuration, as the tests build for both sides. -/
def sampleTLS : TLSConfig := ⟨⟨"ca-etcd", none⟩, "etcd-server-cert", "etcd-client-tls"⟩

/-- An Etcd with client TLS and no backup TLS. -/
def clientTLSEtcd : Etcd :=
  { (default : Etcd) with
    name := "etcd-main"
    namespace_ := "shoot"
    uid := Etcd.mainUid
    spec := { (default : EtcdSpec) with
      replicas := 1
      etcd := { (default : EtcdConfig) with clientUrlTLS := some sampleTLS } } }

theorem client_tls_without_backup_tls :
    "--backup-restore-tls-enabled=true" ∈ (statefulSetValues clientTLSEtcd).etcdCommand ∧
      getEnvVarFromValue "ENABLE_TLS" "false" ∈
        Statefulset.getEtcdEnvVars (statefulSetValues clientTLSEtcd) ∧
      getEnvVarFromValue "BACKUP_ENDPOINT" "http://etcd-main-local:8080" ∈
        Statefulset.getEtcdEnvVars (statefulSetValues clientTLSEtcd) ∧
      (Statefulset.getReadinessHandler (statefulSetValues clientTLSEtcd)).scheme = .HTTP ∧
      "--server-cert=/var/etcd/ssl/client/server/tls.crt" ∉
        (statefulSetValues clientTLSEtcd).etcdBackupCommand := by
  obtain ⟨henable, hscheme, -⟩ := backupTLS_consumers clientTLSEtcd
  refine ⟨etcdCommand_tlsEnabled clientTLSEtcd, henable, (backupPort_consumers clientTLSEtcd).1,
    hscheme, ?_⟩
  -- the sidecar's arguments at this Etcd, evaluated
  decide +kernel

/-- An Etcd with backup TLS and no client TLS. -/
def backupTLSEtcd : Etcd :=
  { (default : Etcd) with
    name := "etcd-main"
    namespace_ := "shoot"
    uid := Etcd.mainUid
    spec := { (default : EtcdSpec) with
      replicas := 1
      backup := { (default : BackupSpec) with tls := some sampleTLS } } }

theorem backup_tls_cert_unmounted (get : SecretGetter) :
    (∃ vs, Statefulset.getVolumes get (statefulSetValues backupTLSEtcd) = .ok vs) ∧
      "--server-cert=/var/etcd/ssl/client/server/tls.crt" ∈
        (statefulSetValues backupTLSEtcd).etcdBackupCommand ∧
      ∀ m ∈ Statefulset.getBackupRestoreVolumeMounts (statefulSetValues backupTLSEtcd),
        ¬ Path.IsUnder "/var/etcd/ssl/client/server/tls.crt" m.mountPath := by
  refine ⟨⟨_, rfl⟩, (backupTLS_consumers backupTLSEtcd).2.2 rfl, ?_⟩
  -- without client TLS the sidecar mounts only its data and its configuration
  decide +kernel

/-! ## Leases -/

theorem deploy_leases (etcd : Etcd) (now : Int) (sched : Go.RangeOrder Lease.LeaseTask)
    (store : Lease.LeaseStore) :
    let store' := Lease.deploy (leaseValues etcd) etcd.namespace_ now sched store
    let memberLabels := getMemberLeaseLabels etcd.name
    (∀ n, (∃ l, store'.lookup (etcd.namespace_, n) = some l ∧ matchesLabels memberLabels l.labels) ↔
        ∃ i : Nat, (i : Int) < etcd.spec.replicas.toInt ∧ Lease.memberLeaseName etcd.name i = n) ∧
    (∀ i : Nat, (i : Int) < etcd.spec.replicas.toInt → ∃ l,
        store'.lookup (etcd.namespace_, Lease.memberLeaseName etcd.name i) = some l ∧
          l.ownerReferences = [etcd.getAsOwnerReference]) ∧
    (∀ n ∈ [etcd.getDeltaSnapshotLeaseName, etcd.getFullSnapshotLeaseName],
      ((store'.lookup (etcd.namespace_, n)).isSome = true ↔
          etcd.spec.backup.store.isSome = true ∧
            ∀ l, store.lookup (etcd.namespace_, n) = some l → ¬ matchesLabels memberLabels l.labels) ∧
        ∀ l, store'.lookup (etcd.namespace_, n) = some l →
          l.ownerReferences = [etcd.getAsOwnerReference]) ∧
    ∀ k : String × String, (k.1 ≠ etcd.namespace_ ∨
        ((∀ i : Nat, (i : Int) < etcd.spec.replicas.toInt → Lease.memberLeaseName etcd.name i ≠ k.2) ∧
          k.2 ≠ etcd.getDeltaSnapshotLeaseName ∧ k.2 ≠ etcd.getFullSnapshotLeaseName ∧
          ∀ l, store.lookup k = some l → ¬ matchesLabels memberLabels l.labels)) →
      store'.lookup k = store.lookup k := by
  intro store' memberLabels
  have hv : (leaseValues etcd).Distinct := Etcd.generateValues_distinct etcd
  -- the member names are those of the ordinals below the replica count
  have hnames : ∀ n, n ∈ Lease.memberLeaseNames (leaseValues etcd) ↔
      ∃ i : Nat, (i : Int) < etcd.spec.replicas.toInt ∧ Lease.memberLeaseName etcd.name i = n := by
    intro n
    rw [Lease.mem_memberLeaseNames]
    simp only [leaseValues, Lease.generateValues, Int.lt_toNat]
  refine ⟨fun n => (Lease.deploy_labelled_iff sched store n).trans (hnames n), ?_, ?_, ?_⟩
  · intro i hi
    obtain ⟨l, hl, -, howner⟩ := Lease.deploy_member sched store ((hnames _).mpr ⟨i, hi, rfl⟩)
    exact ⟨l, hl, howner⟩
  · intro n hn
    have hsnapshot : n = (leaseValues etcd).deltaSnapshotLeaseName ∨
        n = (leaseValues etcd).fullSnapshotLeaseName := by
      simpa [leaseValues, Lease.generateValues] using hn
    exact ⟨Lease.deploy_snapshot_isSome_iff sched store hv hsnapshot,
      fun l hl => Lease.deploy_snapshot_owner sched store hv hsnapshot hl⟩
  · intro k hk
    apply Lease.lookup_deploy_of_notMem sched store
    rcases hk with h | ⟨hmem, hdelta, hfull, hlabels⟩
    · exact .inl h
    · refine .inr ⟨fun h => ?_, hdelta, hfull, hlabels⟩
      obtain ⟨i, hi, hname⟩ := (hnames _).mp h
      exact hmem i hi hname

/-- An Etcd of three members, backed up to an `S3` store. -/
def leaseEtcd : Etcd :=
  { (default : Etcd) with
    name := "etcd-main"
    namespace_ := "shoot"
    uid := Etcd.mainUid
    spec := { (default : EtcdSpec) with
      replicas := 3
      backup := { (default : BackupSpec) with
        store := some ⟨some "bucket", "shoot--etcd-main", some "S3", some "etcd-backup-secret"⟩ } } }

/-- The full snapshot lease of `leaseEtcd`, labelled as one of its member leases. -/
def staleLeases : Lease.LeaseStore :=
  (∅ : Lease.LeaseStore).insert ("shoot", "etcd-main-full-snap")
    { (default : Lease) with
      name := "etcd-main-full-snap"
      namespace_ := "shoot"
      labels := getMemberLeaseLabels "etcd-main" }

theorem deploy_leases_sample :
    ∃ l, (Lease.deploy (leaseValues leaseEtcd) "shoot" 0 (Go.RangeOrder.stored _) staleLeases).lookup
        ("shoot", Lease.memberLeaseName "etcd-main" 2) = some l ∧
      l.ownerReferences = [leaseEtcd.getAsOwnerReference] :=
  (deploy_leases leaseEtcd 0 (Go.RangeOrder.stored _) staleLeases).2.1 2 (by decide)

/-- Backup is enabled, yet the full snapshot lease is gone after `Deploy`: its
sync keeps the member labels, so `syncMemberLeases` lists it and deletes it. -/
theorem labelled_snapshot_lease_deleted :
    leaseEtcd.spec.backup.store.isSome = true ∧
      (Lease.deploy (leaseValues leaseEtcd) "shoot" 0 (Go.RangeOrder.stored _) staleLeases).lookup
        ("shoot", leaseEtcd.getFullSnapshotLeaseName) = none := by
  refine ⟨rfl, ?_⟩
  rw [Lease.lookup_deploy_snapshot (v := leaseValues leaseEtcd) (n := leaseEtcd.getFullSnapshotLeaseName)
    _ _ (Etcd.generateValues_distinct leaseEtcd) (.inr rfl)]
  decide +kernel

/-! ## Member names -/

/-- Whatever labels the Etcd adds, the pod template of its StatefulSet carries
the labels that its own selector, both services and the disruption budget select
by; and every member lease `syncMemberLeases` leaves carries the member labels
that the member check and `IsPeerURLTLSEnabled` list by, so their `List` returns it. -/
theorem selectors_match_labels (etcd : Etcd) :
    (∀ (clientPort serverPort backupPort : Option Int32) (checksumAnnotations : StringMap)
        (peerTLSChangedToEnabled : Bool) (get : SecretGetter) (replicas : Int32)
        (preserveAnnotations : Bool) (sts sts' : Statefulset.StatefulSet),
      Statefulset.mutatingFn get (Statefulset.generateObjectValues etcd clientPort serverPort
          backupPort checksumAnnotations peerTLSChangedToEnabled) replicas preserveAnnotations sts =
        .ok sts' →
      matchesLabels sts'.spec.selector sts'.spec.templateLabels ∧
        matchesLabels (Service.peerServiceSelector (serviceValues etcd)) sts'.spec.templateLabels ∧
        matchesLabels (Service.clientServiceSelector (serviceValues etcd)) sts'.spec.templateLabels ∧
        ∀ v1beta1 pdb, matchesLabels (Poddisruptionbudget.syncPodDisruptionBudget
          (Poddisruptionbudget.generateValues etcd) v1beta1 pdb).selector sts'.spec.templateLabels) ∧
    ∀ now sched store, ∀ n ∈ Lease.memberLeaseNames (leaseValues etcd), ∃ l,
      (Lease.syncMemberLeases (leaseValues etcd) etcd.namespace_ now sched store).lookup
          (etcd.namespace_, n) = some l ∧
        matchesLabels (getMemberLeaseLabels etcd.name) l.labels ∧
        l ∈ Lease.listLeases (Lease.syncMemberLeases (leaseValues etcd) etcd.namespace_ now sched store)
          etcd.namespace_ (getMemberLeaseLabels etcd.name) := by
  refine ⟨fun _ _ _ _ _ _ _ _ _ sts' h => ?_, fun now sched store n hn => ?_⟩
  · obtain ⟨-, htemplate, -⟩ := Statefulset.mutatingFn_spec h
    -- every selector is the default labels, which the template merges last
    have hdefault : matchesLabels etcd.getDefaultLabels sts'.spec.templateLabels := by
      rw [htemplate]
      exact matchesLabels_mergeStringMaps_last ∅ [_] _
    exact ⟨Statefulset.mutatingFn_selector_le_template h, hdefault, hdefault, fun _ _ => hdefault⟩
  · obtain ⟨l, hl, hsel, -⟩ := Lease.syncMemberLeases_member sched store hn
    exact ⟨l, hl, hsel, Lease.mem_listLeases_of_lookup hl hsel⟩

end Reconciler
end EtcdDruid
