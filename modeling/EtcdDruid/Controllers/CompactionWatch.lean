import EtcdDruid.Controllers.CompactionReconciler

/-!
# The compaction controller's lease watch: `RegisterWithManager` in `controllers/compaction/register.go`

**Input.**  The events of the lease informer: a lease created, updated or
deleted, and the leases of the API server before it.

**Algorithm.**  The compaction controller watches nothing but leases.  An
event passes two filters: `LeaseHolderIdentityChange`, which passes every
create and delete and an update that changes the holder identity, and
`IsSnapshotLease`, which passes a lease whose name ends in `full-snap` or
`delta-snap`.  `EnqueueRequestForOwner` then enqueues the Etcd that controls
the lease, of the old and of the new lease for an update.  The backup sidecar
writes the revision of the last snapshot into the holder identity of the
snapshot leases, and every member renews a lease of its own.

**Results.**
* `leaseWatchFilter_sound`: an event the filters drop changes nothing a
  compaction reconcile of any Etcd does;
* `leaseWatch_complete`: while the snapshot leases of the stored Etcds name
  their Etcd as controller, an event changes what a reconcile of an Etcd does
  only when the watch enqueues that Etcd;
* `leaseWatchFilter_druid_leases`: of the leases etcd-druid deploys, the
  filters pass exactly the revision changes, creates and deletes of the
  snapshot leases, and no event of a member lease.
-/

namespace EtcdDruid
namespace Compaction

open Secret (NamespacedName)

/-! ## The predicates and the handler -/

/-- `IsSnapshotLease`. -/
def isSnapshotLease (l : Lease) : Bool :=
  Go.hasSuffix l.name "full-snap" || Go.hasSuffix l.name "delta-snap"

/-- The update filter of `LeaseHolderIdentityChange`: `reflect.DeepEqual` of
two `*string` compares what they point to. -/
def leaseHolderIdentityChange (old new : Lease) : Bool := old.holderIdentity != new.holderIdentity

/-- An event of the lease informer. -/
inductive LeaseEvent
  | create (l : Lease)
  | update (old new : Lease)
  | delete (l : Lease)

/-- The lease an event carries: the new one of an update. -/
def LeaseEvent.lease : LeaseEvent → Lease
  | .create l => l
  | .update _ new => new
  | .delete l => l

/-- The leases after the event. -/
def LeaseEvent.apply (store : Lease.LeaseStore) : LeaseEvent → Lease.LeaseStore
  | .create l => store.insert (l.namespace_, l.name) l
  | .update _ new => store.insert (new.namespace_, new.name) new
  | .delete l => store.erase (l.namespace_, l.name)

/-- The informer reports what the API server did: a create of a lease that was
not there, an update or a delete of the lease that was. -/
def LeaseEvent.Stored (store : Lease.LeaseStore) : LeaseEvent → Prop
  | .create l => store.lookup (l.namespace_, l.name) = none
  | .update old new => store.lookup (new.namespace_, new.name) = some old
  | .delete l => store.lookup (l.namespace_, l.name) = some l

instance (store : Lease.LeaseStore) : (e : LeaseEvent) → Decidable (e.Stored store)
  | .create l => inferInstanceAs (Decidable (store.lookup (l.namespace_, l.name) = none))
  | .update old new => inferInstanceAs (Decidable (store.lookup (new.namespace_, new.name) = some old))
  | .delete l => inferInstanceAs (Decidable (store.lookup (l.namespace_, l.name) = some l))

/-- The watch's two filters together. -/
def leaseWatchFilter : LeaseEvent → Bool
  -- `LeaseHolderIdentityChange` passes every create and delete
  | .create l => isSnapshotLease l
  | .update old new => leaseHolderIdentityChange old new && isSnapshotLease new
  | .delete l => isSnapshotLease l

/-- `schema.ParseGroupVersion`: the group and the version, none for a string
with more than one slash.  Its special case of the empty string and of a
lone slash gives the empty group and version here too. -/
def parseGroupVersion (gv : String) : Option (String × String) :=
  match gv.toList.splitOn '/' with
  | [version] => some ("", String.ofList version)
  | [group, version] => some (String.ofList group, String.ofList version)
  | _ => none

/-- Whether the manager's REST mapper maps the Etcd kind at a version: the Etcd
CRD serves `v1alpha1`, and an empty version takes the served one. -/
def etcdRestMapping (version : String) : Bool := version == "" || version == "v1alpha1"

/-- `metav1.GetControllerOf`. -/
def getControllerOf (refs : List OwnerReference) : Option OwnerReference :=
  refs.find? fun ref => ref.controller == some true

/-- `getOwnerReconcileRequest` of
`handler.EnqueueRequestForOwner{OwnerType: &druidv1alpha1.Etcd{}, IsController: true}`:
the Etcd that controls the lease, in the lease's namespace. -/
def getOwnerReconcileRequest (l : Lease) : List NamespacedName :=
  match getControllerOf l.ownerReferences with
  | none => []
  | some ref =>
    match parseGroupVersion ref.apiVersion with
    | none => []
    | some (group, version) =>
      if ref.kind = "Etcd" ∧ group = groupName then
        -- the Etcd kind is namespaced: the request takes the lease's namespace
        if etcdRestMapping version then [⟨l.namespace_, ref.name⟩] else []
      else []

/-- The requests of `EnqueueRequestForOwner`: of the old and the new lease for an update. -/
def LeaseEvent.ownerRequests : LeaseEvent → List NamespacedName
  | .create l => getOwnerReconcileRequest l
  | .update old new => getOwnerReconcileRequest old ++ getOwnerReconcileRequest new
  | .delete l => getOwnerReconcileRequest l

/-- What the watch enqueues for an event. -/
def leaseWatchRequests (e : LeaseEvent) : List NamespacedName :=
  if leaseWatchFilter e then e.ownerRequests else []

/-- The snapshot leases of every stored Etcd name the Etcd as their controller,
as the lease component writes them. -/
def SnapshotLeasesOwned (etcds : Go.Map (String × String) EtcdObject) (leases : Lease.LeaseStore) : Prop :=
  ∀ s ∈ etcds.entries, ∀ n ∈ [s.2.etcd.getFullSnapshotLeaseName, s.2.etcd.getDeltaSnapshotLeaseName],
    ∀ l ∈ leases.lookup (s.2.etcd.namespace_, n), ⟨s.1.1, s.1.2⟩ ∈ getOwnerReconcileRequest l

instance (etcds : Go.Map (String × String) EtcdObject) (leases : Lease.LeaseStore) :
    Decidable (SnapshotLeasesOwned etcds leases) := by
  unfold SnapshotLeasesOwned
  infer_instance

/-! ## What the filters and the handler read -/

section Names

theorem isSnapshotLease_of_full {l : Lease} {etcd : Etcd} (h : l.name = etcd.getFullSnapshotLeaseName) :
    isSnapshotLease l = true := by
  rw [isSnapshotLease, h, Etcd.getFullSnapshotLeaseName, show "-full-snap" = "-" ++ "full-snap" from rfl,
    ← String.append_assoc, Go.hasSuffix_append, Bool.true_or]

theorem isSnapshotLease_of_delta {l : Lease} {etcd : Etcd} (h : l.name = etcd.getDeltaSnapshotLeaseName) :
    isSnapshotLease l = true := by
  rw [isSnapshotLease, h, Etcd.getDeltaSnapshotLeaseName, show "-delta-snap" = "-" ++ "delta-snap" from rfl,
    ← String.append_assoc, Go.hasSuffix_append, Bool.or_true]

theorem isSnapshotLease_of_name {l : Lease} {etcd : Etcd}
    (h : l.name = etcd.getFullSnapshotLeaseName ∨ l.name = etcd.getDeltaSnapshotLeaseName) :
    isSnapshotLease l = true :=
  h.elim isSnapshotLease_of_full isSnapshotLease_of_delta

/-- A member lease's name ends in a digit, so it is no snapshot lease. -/
theorem isSnapshotLease_of_member {l : Lease} {n : String} {i : Nat} (h : l.name = Lease.memberLeaseName n i) :
    isSnapshotLease l = false := by
  obtain ⟨c, hc, hdigit⟩ := Go.getLast_repr_isDigit i
  have hlast : l.name.toList.getLast? = some c := by
    rw [h, Lease.memberLeaseName, Go.toString_natCast, String.toList_append,
      List.getLast?_append_of_ne_nil _ (by simp [Nat.toList_repr]), hc]
  have hp : c ≠ 'p' := by
    rintro rfl
    exact absurd hdigit (by decide)
  rw [isSnapshotLease, Go.hasSuffix_eq_false_of_getLast hlast (by decide) hp,
    Go.hasSuffix_eq_false_of_getLast hlast (by decide) hp]
  rfl

end Names

/-! ## What an event changes -/

section Apply

variable {store : Lease.LeaseStore}

theorem lookup_apply_of_ne (e : LeaseEvent) {k : String × String}
    (hk : k ≠ (e.lease.namespace_, e.lease.name)) : (e.apply store).lookup k = store.lookup k := by
  cases e with
  | create l => exact AList.lookup_insert_ne hk
  | update old new => exact AList.lookup_insert_ne hk
  | delete l => exact AList.lookup_erase_ne hk

/-- An update that keeps the holder identity keeps the holder identity under every name. -/
theorem holderIdentity_apply_update {old new : Lease} (he : (LeaseEvent.update old new).Stored store)
    (hid : old.holderIdentity = new.holderIdentity) (k : String × String) :
    (((LeaseEvent.update old new).apply store).lookup k).map Lease.holderIdentity =
      (store.lookup k).map Lease.holderIdentity := by
  by_cases hk : k = (new.namespace_, new.name)
  · subst hk
    rw [LeaseEvent.apply, AList.lookup_insert, show store.lookup _ = some old from he]
    simp [hid]
  · rw [LeaseEvent.apply, AList.lookup_insert_ne hk]

/-- The snapshot leases' names are snapshot-lease names: an event on another
lease leaves them as they were. -/
theorem lookup_apply_of_not_snapshot (e : LeaseEvent) (hs : isSnapshotLease e.lease = false) (etcd : Etcd)
    {n : String} (hn : n = etcd.getFullSnapshotLeaseName ∨ n = etcd.getDeltaSnapshotLeaseName) :
    (e.apply store).lookup (etcd.namespace_, n) = store.lookup (etcd.namespace_, n) := by
  refine lookup_apply_of_ne e fun h => ?_
  have hname : e.lease.name = n := (Prod.mk.inj h).2.symm
  rw [isSnapshotLease_of_name (hname ▸ hn)] at hs
  cases hs

end Apply

/-! ## What a reconcile reads of the leases -/

section Leases

/-- `readRevisions` reads of the snapshot leases whether they exist and their
holder identities. -/
theorem readRevisions_congr {s s' : Lease.LeaseStore} (etcd : Etcd)
    (hfull : (s.lookup (etcd.namespace_, etcd.getFullSnapshotLeaseName)).map Lease.holderIdentity =
      (s'.lookup (etcd.namespace_, etcd.getFullSnapshotLeaseName)).map Lease.holderIdentity)
    (hdelta : (s.lookup (etcd.namespace_, etcd.getDeltaSnapshotLeaseName)).map Lease.holderIdentity =
      (s'.lookup (etcd.namespace_, etcd.getDeltaSnapshotLeaseName)).map Lease.holderIdentity) :
    readRevisions s etcd = readRevisions s' etcd := by
  unfold readRevisions
  -- the rewrite closes the cases with both leases missing, and the hypothesis those with one
  cases hf : s.lookup (etcd.namespace_, etcd.getFullSnapshotLeaseName) <;>
    cases hf' : s'.lookup (etcd.namespace_, etcd.getFullSnapshotLeaseName) <;>
    rw [hf, hf'] at hfull <;> simp only [Option.map_none, Option.map_some, reduceCtorEq,
      Option.some.injEq] at hfull
  cases hd : s.lookup (etcd.namespace_, etcd.getDeltaSnapshotLeaseName) <;>
    cases hd' : s'.lookup (etcd.namespace_, etcd.getDeltaSnapshotLeaseName) <;>
    rw [hd, hd'] at hdelta <;> simp only [Option.map_none, Option.map_some, reduceCtorEq,
      Option.some.injEq] at hdelta
  dsimp only
  rw [hfull, hdelta]

variable (now : Int) (etcd : Etcd) (L : Lease.LeaseStore)

/-- Deleting the job reads and writes no lease. -/
theorem delete_leases (w : World) :
    delete now etcd { w with leases := L } =
      { delete now etcd w with world := { (delete now etcd w).world with leases := L } } := by
  unfold delete
  dsimp only
  split
  · rfl
  · split <;> rfl

theorem reconcileFetchedJob_leases (job : Job) (w : World) :
    reconcileFetchedJob now etcd job { w with leases := L } =
      (reconcileFetchedJob now etcd job w).map fun o => { o with world := { o.world with leases := L } } := by
  unfold reconcileFetchedJob
  split_ifs
  · rfl
  · rfl
  · cases Go.deref job.startTime
    · rfl
    · exact congrArg Except.ok (delete_leases now etcd L w)
  · exact congrArg Except.ok (delete_leases now etcd L w)
  · rfl

theorem reconcileJob_leases (r : Reconciler) (w : World) :
    reconcileJob r now etcd { w with leases := L } =
      (reconcileJob r now etcd w).map fun o => { o with world := { o.world with leases := L } } := by
  unfold reconcileJob
  dsimp only
  split
  · exact reconcileFetchedJob_leases now etcd L _ w
  split_ifs
  · cases createJob r etcd with
    | error f => rfl
    | ok created =>
      cases created with
      | error e => rfl
      | ok job => exact reconcileFetchedJob_leases now etcd L job (w.createJob job)
  · exact reconcileFetchedJob_leases now etcd L default w

/-- A reconcile reads the leases only through the revisions of the requested Etcd. -/
theorem reconcile_leases (r : Reconciler) (req : NamespacedName) (w : World)
    (hrev : ∀ obj, w.etcds.lookup (req.namespace_, req.name) = some obj →
      readRevisions L obj.etcd = readRevisions w.leases obj.etcd) :
    reconcile r now req { w with leases := L } =
      (reconcile r now req w).map fun o => { o with world := { o.world with leases := L } } := by
  unfold reconcile
  dsimp only
  split
  · rfl
  next obj hobj =>
    split_ifs
    · exact congrArg Except.ok (delete_leases now obj.etcd L w)
    · rfl
    rw [hrev obj hobj]
    split
    · rfl
    · rfl
    · split_ifs
      · exact reconcileJob_leases now obj.etcd L r w
      · rfl

end Leases

/-! ## The watch loses no work -/

section Watch

/-- A dropped event leaves what `readRevisions` reads of every Etcd as it was. -/
theorem readRevisions_apply_of_filter {store : Lease.LeaseStore} {e : LeaseEvent} (he : e.Stored store)
    (hf : leaseWatchFilter e = false) (etcd : Etcd) :
    readRevisions (e.apply store) etcd = readRevisions store etcd := by
  by_cases hs : isSnapshotLease e.lease = false
  · exact readRevisions_congr etcd
      (by rw [lookup_apply_of_not_snapshot e hs etcd (.inl rfl)])
      (by rw [lookup_apply_of_not_snapshot e hs etcd (.inr rfl)])
  -- a snapshot lease: only an update that keeps the holder identity is dropped
  cases e with
  | create l => simp_all [leaseWatchFilter, LeaseEvent.lease]
  | delete l => simp_all [leaseWatchFilter, LeaseEvent.lease]
  | update old new =>
    have hs' : isSnapshotLease new = true := by simpa [LeaseEvent.lease] using hs
    have hid : old.holderIdentity = new.holderIdentity := by
      simpa [leaseWatchFilter, leaseHolderIdentityChange, hs'] using hf
    exact readRevisions_congr etcd (holderIdentity_apply_update he hid _) (holderIdentity_apply_update he hid _)

/-- The filters lose no work: a lease event that they drop changes nothing a
compaction reconcile of any Etcd does.  The reconcile returns the same result
and error and makes the same writes, over the new leases. -/
theorem leaseWatchFilter_sound (r : Reconciler) (now : Int) (req : NamespacedName) (w : World)
    (e : LeaseEvent) (he : e.Stored w.leases) (hf : leaseWatchFilter e = false) :
    reconcile r now req { w with leases := e.apply w.leases } =
      (reconcile r now req w).map fun o => { o with world := { o.world with leases := e.apply w.leases } } :=
  reconcile_leases now (e.apply w.leases) r req w fun obj _ => readRevisions_apply_of_filter he hf obj.etcd

/-- A snapshot lease as the lease component deploys it and the backup sidecar renewed it. -/
def ownedLease (etcd : Etcd) (name : String) (revision : Int) : Lease :=
  { renewedLease etcd name revision with ownerReferences := [etcd.getAsOwnerReference] }

/-- The Etcd of `thresholdWorld`, with snapshot leases that name it as controller. -/
def watchedWorld : World :=
  { thresholdWorld (bucketEtcd (some "bucket")) with
    leases := ((∅ : Lease.LeaseStore).insert ("shoot", "etcd-main-full-snap")
        (ownedLease (bucketEtcd (some "bucket")) "etcd-main-full-snap" 0)).insert
      ("shoot", "etcd-main-delta-snap") (ownedLease (bucketEtcd (some "bucket")) "etcd-main-delta-snap" 1000000) }

/-- The full snapshot lease renewed a minute later with the same revision. -/
def sameRevisionRenewal : LeaseEvent :=
  .update (ownedLease (bucketEtcd (some "bucket")) "etcd-main-full-snap" 0)
    { ownedLease (bucketEtcd (some "bucket")) "etcd-main-full-snap" 0 with renewTime := some 60 }

theorem leaseWatchFilter_sound_renewal :
    sameRevisionRenewal.Stored watchedWorld.leases ∧ leaseWatchFilter sameRevisionRenewal = false ∧
      reconcile enabledReconciler 0 ⟨"shoot", "etcd-main"⟩
          { watchedWorld with leases := sameRevisionRenewal.apply watchedWorld.leases } =
        (reconcile enabledReconciler 0 ⟨"shoot", "etcd-main"⟩ watchedWorld).map fun o =>
          { o with world := { o.world with leases := sameRevisionRenewal.apply watchedWorld.leases } } :=
  ⟨rfl, by decide, leaseWatchFilter_sound enabledReconciler 0 ⟨"shoot", "etcd-main"⟩ watchedWorld
    sameRevisionRenewal rfl (by decide)⟩

/-- `SnapshotLeasesOwned` at one stored Etcd. -/
theorem SnapshotLeasesOwned.mem {etcds : Go.Map (String × String) EtcdObject} {leases : Lease.LeaseStore}
    (h : SnapshotLeasesOwned etcds leases) {req : NamespacedName} {obj : EtcdObject}
    (hobj : etcds.lookup (req.namespace_, req.name) = some obj) {n : String}
    (hn : n = obj.etcd.getFullSnapshotLeaseName ∨ n = obj.etcd.getDeltaSnapshotLeaseName) {l : Lease}
    (hl : leases.lookup (obj.etcd.namespace_, n) = some l) : req ∈ getOwnerReconcileRequest l :=
  h _ (AList.mem_lookup_iff.mp hobj) n (by rcases hn with rfl | rfl <;> simp) l hl

/-- An event on a snapshot lease of a stored Etcd that the watch does not
enqueue that Etcd for keeps the lease's holder identity. -/
theorem holderIdentity_apply_of_not_mem {w : World} {e : LeaseEvent}
    (hw : SnapshotLeasesOwned w.etcds w.leases) (hw' : SnapshotLeasesOwned w.etcds (e.apply w.leases))
    (he : e.Stored w.leases) {req : NamespacedName} (hreq : req ∉ leaseWatchRequests e) {obj : EtcdObject}
    (hobj : w.etcds.lookup (req.namespace_, req.name) = some obj) {n : String}
    (hn : n = obj.etcd.getFullSnapshotLeaseName ∨ n = obj.etcd.getDeltaSnapshotLeaseName) :
    ((e.apply w.leases).lookup (obj.etcd.namespace_, n)).map Lease.holderIdentity =
      (w.leases.lookup (obj.etcd.namespace_, n)).map Lease.holderIdentity := by
  by_cases hk : (obj.etcd.namespace_, n) = (e.lease.namespace_, e.lease.name)
  swap
  · rw [lookup_apply_of_ne e hk]
  -- the event is on the snapshot lease: the filters pass it unless it keeps the holder identity
  have hs : isSnapshotLease e.lease = true := isSnapshotLease_of_name ((Prod.mk.inj hk).2 ▸ hn)
  cases e with
  | create l =>
    have hl : (LeaseEvent.apply w.leases (.create l)).lookup (obj.etcd.namespace_, n) = some l := by
      rw [hk]
      exact AList.lookup_insert _
    have hmem := hw'.mem hobj hn hl
    simp_all [leaseWatchRequests, leaseWatchFilter, LeaseEvent.ownerRequests, LeaseEvent.lease]
  | delete l =>
    have hl : w.leases.lookup (obj.etcd.namespace_, n) = some l := by
      rw [hk]
      exact he
    have hmem := hw.mem hobj hn hl
    simp_all [leaseWatchRequests, leaseWatchFilter, LeaseEvent.ownerRequests, LeaseEvent.lease]
  | update old new =>
    have hl : (LeaseEvent.apply w.leases (.update old new)).lookup (obj.etcd.namespace_, n) = some new := by
      rw [hk]
      exact AList.lookup_insert _
    have hmem := hw'.mem hobj hn hl
    have hid : old.holderIdentity = new.holderIdentity := by
      by_contra hne
      apply hreq
      simp_all [leaseWatchRequests, leaseWatchFilter, LeaseEvent.ownerRequests, LeaseEvent.lease,
        leaseHolderIdentityChange]
    exact holderIdentity_apply_update he hid _

/-- The watch loses no work: while the snapshot leases of the stored Etcds name
their Etcd as controller, before and after a lease event, the event changes
nothing a compaction reconcile of an Etcd does unless the watch enqueues that
Etcd. -/
theorem leaseWatch_complete (r : Reconciler) (now : Int) (req : NamespacedName) (w : World)
    (e : LeaseEvent) (hw : SnapshotLeasesOwned w.etcds w.leases)
    (hw' : SnapshotLeasesOwned w.etcds (e.apply w.leases)) (he : e.Stored w.leases)
    (hreq : req ∉ leaseWatchRequests e) :
    reconcile r now req { w with leases := e.apply w.leases } =
      (reconcile r now req w).map fun o => { o with world := { o.world with leases := e.apply w.leases } } := by
  refine reconcile_leases now (e.apply w.leases) r req w fun obj hobj => ?_
  exact readRevisions_congr obj.etcd (holderIdentity_apply_of_not_mem hw hw' he hreq hobj (.inl rfl))
    (holderIdentity_apply_of_not_mem hw hw' he hreq hobj (.inr rfl))

/-- The full snapshot lease of another Etcd in the namespace, as the lease component creates it. -/
def eventsLeaseCreated : LeaseEvent :=
  .create (ownedLease { bucketEtcd (some "bucket") with name := "etcd-events" } "etcd-events-full-snap" 0)

theorem leaseWatch_complete_other_etcd :
    SnapshotLeasesOwned watchedWorld.etcds watchedWorld.leases ∧
      SnapshotLeasesOwned watchedWorld.etcds (eventsLeaseCreated.apply watchedWorld.leases) ∧
      eventsLeaseCreated.Stored watchedWorld.leases ∧
      leaseWatchRequests eventsLeaseCreated = [⟨"shoot", "etcd-events"⟩] ∧
      reconcile enabledReconciler 0 ⟨"shoot", "etcd-main"⟩
          { watchedWorld with leases := eventsLeaseCreated.apply watchedWorld.leases } =
        (reconcile enabledReconciler 0 ⟨"shoot", "etcd-main"⟩ watchedWorld).map fun o =>
          { o with world := { o.world with leases := eventsLeaseCreated.apply watchedWorld.leases } } :=
  ⟨by decide, by decide, by decide, by decide,
    leaseWatch_complete enabledReconciler 0 ⟨"shoot", "etcd-main"⟩ watchedWorld eventsLeaseCreated
      (by decide) (by decide) (by decide) (by decide)⟩

/-- Of the leases etcd-druid deploys for an Etcd, the filters pass every create
and delete of a snapshot lease and an update of one exactly when the revision
in its holder identity changes, and no event of a member lease. -/
theorem leaseWatchFilter_druid_leases (etcd : Etcd) (old l : Lease) :
    ((l.name = etcd.getFullSnapshotLeaseName ∨ l.name = etcd.getDeltaSnapshotLeaseName) →
      leaseWatchFilter (.create l) = true ∧ leaseWatchFilter (.delete l) = true ∧
        leaseWatchFilter (.update old l) = (old.holderIdentity != l.holderIdentity)) ∧
    (∀ i : Nat, l.name = Lease.memberLeaseName etcd.name i →
      leaseWatchFilter (.create l) = false ∧ leaseWatchFilter (.delete l) = false ∧
        leaseWatchFilter (.update old l) = false) := by
  constructor
  · intro hn
    have hs := isSnapshotLease_of_name hn
    simp [leaseWatchFilter, leaseHolderIdentityChange, hs]
  · intro i hi
    have hs := isSnapshotLease_of_member hi
    simp [leaseWatchFilter, hs]

end Watch

end Compaction
end EtcdDruid
