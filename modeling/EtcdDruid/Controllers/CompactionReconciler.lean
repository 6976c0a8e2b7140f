import EtcdDruid.Controllers.Compaction
import EtcdDruid.Controllers.Secret
import EtcdDruid.Component.Names
import Mathlib.Logic.Relation

/-!
# The compaction controller: `Reconcile` in `controllers/compaction/reconciler.go`

**Input.**  A request for an Etcd, the controller's configuration and image
vector, and the objects of the API server: Etcds, leases and jobs, by namespace
and name.

**Algorithm.**  `Reconcile` gets the Etcd; if it is being deleted, `delete`
marks its compaction job for deletion.  Otherwise, for an Etcd with a backup
store, it reads the revisions that the backup sidecar writes as the holder
identities of the full and the delta snapshot lease, and when the delta
revision exceeds the full one by the events threshold, `reconcileJob` gets the
compaction job or creates it, then requeues while the job is being deleted,
deletes it and requeues when it failed, and deletes it when it succeeded.  A
`Get` that finds no job leaves `&batchv1.Job{}` as it was.  The client is the
API server's store and none of its calls fails; deleting a job (foreground
propagation) marks it, and the garbage collector removes it later.

**The system.**  Between two reconciles the rest of the cluster acts: anyone
may change an Etcd or a lease (the backup sidecar renews the snapshot leases),
the job controller starts a job and records that it completed or failed, users
delete jobs, and the garbage collector removes a job marked for deletion.

**Results.**
* `reconcile_writes`: a reconcile leaves the objects as they are, marks the
  compaction job of the requested Etcd for deletion, or creates it;
* `Writes.lookup_of_ne`, `Writes.keeps_job`: it touches no other job, and an
  existing job is kept or only marked;
* `inv_of_reachable`: in every reachable world a completed job has a start
  time, and every job is stored under its own name;
* `reachable_reconcile_panics_iff`: there, a reconcile panics exactly when it
  creates the job of an Etcd whose store has no container;
* `reconcile_creates_job_iff`, `readRevisions_renewed`: the job is created
  exactly when the revisions the sidecar wrote differ by the threshold;
* `reconcile_after_deploy`: snapshot leases that the lease component has just
  created carry no revisions, so a reconcile writes nothing.
-/

namespace EtcdDruid
namespace Compaction

open Secret (NamespacedName)

/-! ## Objects and configuration -/

/-- `compaction.Config`, less `Workers`, which only the manager reads, and
`ActiveDeadlineDuration`, which only the job's deadline does. -/
structure Config where
  enableBackupCompaction : Bool
  eventsThreshold : Int64
  deriving DecidableEq, Repr

/-- The reconciler: its configuration, and its image vector through the one
thing `Reconcile` learns from it, whether `utils.GetEtcdImages` finds the
images of an Etcd (the backup image, or the error of `imagevector.FindImages`). -/
structure Reconciler where
  config : Config
  getEtcdImages : Etcd → Except String String

/-- `batchv1.Job`: name, namespace, deletion timestamp, pod template, and the
status fields that `reconcileJob` reads. -/
structure Job where
  name : String
  namespace_ : String
  deletionTimestamp : Option Int
  template : PodSpec
  startTime : Option Int
  completionTime : Option Int
  succeeded : Int32
  failed : Int32
  deriving DecidableEq

/-- `&batchv1.Job{}`. -/
instance : Inhabited Job := ⟨⟨"", "", none, ⟨[], [], []⟩, none, none, 0, 0⟩⟩

/-- An Etcd as the API server stores it, with the deletion timestamp of its metadata. -/
structure EtcdObject where
  etcd : Etcd
  deletionTimestamp : Option Int
  deriving DecidableEq

/-- The objects of the API server that the controller reads and writes. -/
structure World where
  etcds : Go.Map (String × String) EtcdObject
  leases : Lease.LeaseStore
  jobs : Go.Map (String × String) Job

/-- `ctrl.Result`; `requeueAfter` is a `time.Duration`, in nanoseconds. -/
structure Result where
  requeue : Bool
  requeueAfter : Int
  deriving DecidableEq, Repr

/-- `ctrl.Result{}`, also written `ctrl.Result{Requeue: false}`. -/
def Result.done : Result := ⟨false, 0⟩

/-- `ctrl.Result{RequeueAfter: 10 * time.Second}`. -/
def Result.requeueAfterTenSeconds : Result := ⟨false, 10 * 1000000000⟩

/-- What `Reconcile` returns, and the objects after its writes. -/
structure Outcome where
  result : Result
  err : Option String
  world : World

/-- `types.NamespacedName{Name: etcd.GetCompactionJobName(), Namespace: etcd.Namespace}`. -/
def jobKey (etcd : Etcd) : String × String := (etcd.namespace_, etcd.getCompactionJobName)

/-- The job that `createCompactionJob` builds, less its labels, owner reference
and deadlines: the API server stores it with an empty status. -/
def newJob (etcd : Etcd) (template : PodSpec) : Job where
  name := etcd.getCompactionJobName
  namespace_ := etcd.namespace_
  deletionTimestamp := none
  template := template
  startTime := none
  completionTime := none
  succeeded := 0
  failed := 0

namespace World

/-- `r.Create(ctx, job)`. -/
def createJob (w : World) (job : Job) : World :=
  { w with jobs := w.jobs.insert (job.namespace_, job.name) job }

/-- `r.Delete(ctx, job, client.PropagationPolicy(metav1.DeletePropagationForeground))`:
the API server marks the job, and the garbage collector removes it once its
pods are gone. -/
def deleteJob (w : World) (job : Job) (now : Int) : World :=
  { w with jobs := w.jobs.insert (job.namespace_, job.name) { job with deletionTimestamp := some now } }

@[simp] theorem createJob_etcds (w : World) (job : Job) : (w.createJob job).etcds = w.etcds := rfl
@[simp] theorem createJob_leases (w : World) (job : Job) : (w.createJob job).leases = w.leases := rfl
@[simp] theorem deleteJob_etcds (w : World) (job : Job) (now : Int) :
    (w.deleteJob job now).etcds = w.etcds := rfl
@[simp] theorem deleteJob_leases (w : World) (job : Job) (now : Int) :
    (w.deleteJob job now).leases = w.leases := rfl

end World

/-! ## `Reconcile` -/

/-- `r.delete`. -/
def delete (now : Int) (etcd : Etcd) (w : World) : Outcome :=
  match w.jobs.lookup (jobKey etcd) with
  | none => ⟨.done, none, w⟩
  | some job =>
    match job.deletionTimestamp with
    | none => ⟨.done, none, w.deleteJob job now⟩
    | some _ => ⟨.done, none, w⟩

/-- `r.createCompactionJob`: the images, the pod (whose environment may panic),
then the `Create`. -/
def createJob (r : Reconciler) (etcd : Etcd) : Except Go.Failure (Except String Job) :=
  match r.getEtcdImages etcd with
  | .error e => pure (.error ("couldn't fetch etcd backup image: " ++ e))
  | .ok _ => do
    let template ← createCompactionJob etcd
    pure (.ok (newJob etcd template))

/-- `reconcileJob` from the check of the deletion timestamp on, for the job it
fetched or created. -/
def reconcileFetchedJob (now : Int) (etcd : Etcd) (job : Job) (w : World) :
    Except Go.Failure Outcome :=
  if job.deletionTimestamp.isSome then pure ⟨.requeueAfterTenSeconds, none, w⟩
  else if 0 < job.failed then pure ⟨.requeueAfterTenSeconds, none, w.deleteJob job now⟩
  else if 0 < job.succeeded then
    if job.completionTime.isSome then do
      -- `CompletionTime.Time.Sub(StartTime.Time)`, with no `nil` check of `StartTime`
      let _ ← Go.deref job.startTime
      pure (delete now etcd w)
    else pure (delete now etcd w)
  else pure ⟨.done, none, w⟩

/-- `reconcileJob`. -/
def reconcileJob (r : Reconciler) (now : Int) (etcd : Etcd) (w : World) :
    Except Go.Failure Outcome :=
  match w.jobs.lookup (jobKey etcd) with
  | some job => reconcileFetchedJob now etcd job w
  | none =>
    if r.config.enableBackupCompaction then do
      let created ← createJob r etcd
      match created with
      | .error e =>
        pure ⟨.requeueAfterTenSeconds, some ("error during compaction job creation: " ++ e), w⟩
      | .ok job => reconcileFetchedJob now etcd job (w.createJob job)
    else
      -- `job` is still `&batchv1.Job{}`
      reconcileFetchedJob now etcd default w

/-- What `Reconcile` reads from the snapshot leases. -/
inductive Revisions
  /-- A `Get` or a `strconv.ParseInt` failed, with its error. -/
  | failed (err : String)
  /-- The backup sidecar has not set the revisions yet. -/
  | unset
  /-- `delta - full`: the events since the last full snapshot. -/
  | diff (d : Int64)
  deriving DecidableEq, Repr

/-- The part of `Reconcile` from the `Get` of the full snapshot lease to `diff`. -/
def readRevisions (leases : Lease.LeaseStore) (etcd : Etcd) : Revisions :=
  match leases.lookup (etcd.namespace_, etcd.getFullSnapshotLeaseName) with
  | none => .failed (notFoundError "leases.coordination.k8s.io" etcd.getFullSnapshotLeaseName)
  | some fullLease =>
    match leases.lookup (etcd.namespace_, etcd.getDeltaSnapshotLeaseName) with
    | none => .failed (notFoundError "leases.coordination.k8s.io" etcd.getDeltaSnapshotLeaseName)
    | some deltaLease =>
      match fullLease.holderIdentity, deltaLease.holderIdentity with
      | some fullId, some deltaId =>
        match Go.parseInt fullId, Go.parseInt deltaId with
        | .error e, _ => .failed e
        | .ok _, .error e => .failed e
        -- `diff := delta - full`, an `int64` subtraction that wraps
        | .ok full, .ok delta => .diff (Int64.ofInt delta - Int64.ofInt full)
      | _, _ => .unset

/-- `Reconcile`. -/
def reconcile (r : Reconciler) (now : Int) (req : NamespacedName) (w : World) :
    Except Go.Failure Outcome :=
  match w.etcds.lookup (req.namespace_, req.name) with
  | none => pure ⟨.done, none, w⟩
  | some obj =>
    if obj.deletionTimestamp.isSome then pure (delete now obj.etcd w)
    else if obj.etcd.spec.backup.store.isNone then pure ⟨.done, none, w⟩
    else
      match readRevisions w.leases obj.etcd with
      | .failed e => pure ⟨.requeueAfterTenSeconds, some e, w⟩
      | .unset => pure ⟨.done, none, w⟩
      | .diff d =>
        if r.config.eventsThreshold ≤ d then reconcileJob r now obj.etcd w
        else pure ⟨.done, none, w⟩

/-! ## What a reconcile writes -/

/-- What a reconcile of `etcd` may do to the objects: nothing, mark the job
under the compaction job's key for deletion, or create the compaction job. -/
inductive Writes (now : Int) (etcd : Etcd) (w : World) : World → Prop
  | keep : Writes now etcd w w
  | delete {job : Job} (h : w.jobs.lookup (jobKey etcd) = some job)
      (hd : job.deletionTimestamp = none) : Writes now etcd w (w.deleteJob job now)
  | create {template : PodSpec} (h : w.jobs.lookup (jobKey etcd) = none)
      (ht : createCompactionJob etcd = .ok template) :
      Writes now etcd w (w.createJob (newJob etcd template))

section Spec

variable {r : Reconciler} {now : Int} {etcd : Etcd} {w : World} {o : Outcome} {f : Go.Failure}

theorem delete_writes (now : Int) (etcd : Etcd) (w : World) :
    Writes now etcd w (delete now etcd w).world := by
  unfold delete
  split
  · exact .keep
  · next job hjob =>
    split
    · next hd => exact .delete hjob hd
    · exact .keep

/-- A branch that returns `o'` writes what `o'` holds. -/
theorem Writes.of_pure {o' : Outcome} (hw : Writes now etcd w o'.world)
    (h : (pure o' : Except Go.Failure Outcome) = .ok o) : Writes now etcd w o.world := by
  rw [Go.pure_eq_ok] at h
  exact h ▸ hw

theorem delete_of_lookup_none (h : w.jobs.lookup (jobKey etcd) = none) :
    delete now etcd w = ⟨.done, none, w⟩ := by
  simp [delete, h]

/-- A job that is not being deleted and has neither failed nor succeeded is left alone. -/
theorem reconcileFetchedJob_of_idle {job : Job} (hd : job.deletionTimestamp = none)
    (hf : job.failed = 0) (hs : job.succeeded = 0) :
    reconcileFetchedJob now etcd job w = pure ⟨.done, none, w⟩ := by
  simp [reconcileFetchedJob, hd, hf, hs]

theorem reconcileFetchedJob_writes {job : Job} (hjob : w.jobs.lookup (jobKey etcd) = some job)
    (h : reconcileFetchedJob now etcd job w = .ok o) : Writes now etcd w o.world := by
  unfold reconcileFetchedJob at h
  split_ifs at h with hd hf hs hc
  · exact .of_pure .keep h
  · exact .of_pure (.delete hjob (Option.not_isSome_iff_eq_none.mp hd)) h
  · obtain ⟨-, -, h⟩ := Go.bind_eq_ok.mp h
    exact .of_pure (delete_writes now etcd w) h
  · exact .of_pure (delete_writes now etcd w) h
  · exact .of_pure .keep h

/-- The fetched job panics only where it completed without a start time. -/
theorem reconcileFetchedJob_eq_error {job : Job}
    (h : reconcileFetchedJob now etcd job w = .error f) :
    job.completionTime.isSome ∧ job.startTime = none ∧ f = .nilPointerDereference := by
  unfold reconcileFetchedJob at h
  split_ifs at h with hd hf hs hc
  · exact absurd h Go.pure_ne_error
  · exact absurd h Go.pure_ne_error
  · rcases Go.bind_eq_error.mp h with h | ⟨_, -, h⟩
    · cases hstart : job.startTime with
      | none =>
        rw [hstart, Go.deref_none] at h
        exact ⟨hc, rfl, (Except.error.inj h).symm⟩
      | some t => rw [hstart, Go.deref_some] at h; cases h
    · exact absurd h Go.pure_ne_error
  · exact absurd h Go.pure_ne_error
  · exact absurd h Go.pure_ne_error

theorem createJob_eq_ok {job : Job} :
    createJob r etcd = .ok (.ok job) ↔
      (∃ image, r.getEtcdImages etcd = .ok image) ∧
        ∃ template, createCompactionJob etcd = .ok template ∧ job = newJob etcd template := by
  unfold createJob
  cases hi : r.getEtcdImages etcd with
  | error e => simp
  | ok image =>
    simp only [Go.bind_eq_ok, Go.pure_eq_ok, Except.ok.injEq, exists_eq', true_and]
    constructor
    · rintro ⟨template, ht, hjob⟩
      exact ⟨template, ht, hjob.symm⟩
    · rintro ⟨template, ht, hjob⟩
      exact ⟨template, ht, hjob.symm⟩

theorem createJob_eq_error :
    createJob r etcd = .error f ↔
      (∃ image, r.getEtcdImages etcd = .ok image) ∧ createCompactionJob etcd = .error f := by
  unfold createJob
  cases hi : r.getEtcdImages etcd with
  | error e => simp
  | ok image => simp [Go.map_eq_error]

/-- With no job stored and compaction enabled, `reconcileJob` is the creation. -/
theorem reconcileJob_of_lookup_none (hnone : w.jobs.lookup (jobKey etcd) = none)
    (he : r.config.enableBackupCompaction = true) :
    reconcileJob r now etcd w = createJob r etcd >>= fun created =>
      match created with
      | .error e =>
        pure ⟨.requeueAfterTenSeconds, some ("error during compaction job creation: " ++ e), w⟩
      | .ok job => reconcileFetchedJob now etcd job (w.createJob job) := by
  simp only [reconcileJob, hnone, he, if_true]

theorem reconcileJob_writes (h : reconcileJob r now etcd w = .ok o) :
    Writes now etcd w o.world := by
  unfold reconcileJob at h
  split at h
  · next job hjob => exact reconcileFetchedJob_writes hjob h
  · next hnone =>
    split_ifs at h with he
    · obtain ⟨created, hc, h⟩ := Go.bind_eq_ok.mp h
      cases created with
      | error e => exact .of_pure .keep h
      | ok job =>
        obtain ⟨-, template, ht, rfl⟩ := createJob_eq_ok.mp hc
        dsimp only at h
        rw [reconcileFetchedJob_of_idle rfl rfl rfl] at h
        exact .of_pure (.create hnone ht) h
    · rw [reconcileFetchedJob_of_idle rfl rfl rfl] at h
      exact .of_pure .keep h

theorem reconcileJob_eq_error (h : reconcileJob r now etcd w = .error f) :
    (∃ job, w.jobs.lookup (jobKey etcd) = some job ∧ job.completionTime.isSome ∧
        job.startTime = none ∧ f = .nilPointerDereference) ∨
      (w.jobs.lookup (jobKey etcd) = none ∧ r.config.enableBackupCompaction = true ∧
        createJob r etcd = .error f) := by
  unfold reconcileJob at h
  split at h
  · next job hjob => exact .inl ⟨job, hjob, reconcileFetchedJob_eq_error h⟩
  · next hnone =>
    split_ifs at h with he
    · rcases Go.bind_eq_error.mp h with hc | ⟨created, hc, h⟩
      · exact .inr ⟨hnone, he, hc⟩
      · cases created with
        | error e => exact absurd h Go.pure_ne_error
        | ok job =>
          obtain ⟨-, template, -, rfl⟩ := createJob_eq_ok.mp hc
          dsimp only at h
          rw [reconcileFetchedJob_of_idle rfl rfl rfl] at h
          exact absurd h Go.pure_ne_error
    · rw [reconcileFetchedJob_of_idle rfl rfl rfl] at h
      exact absurd h Go.pure_ne_error

variable {req : NamespacedName}

/-- An Etcd that is not being deleted, with a store and revisions `threshold`
apart, is reconciled by `reconcileJob`. -/
theorem reconcile_of_diff {obj : EtcdObject} {d : Int64}
    (hobj : w.etcds.lookup (req.namespace_, req.name) = some obj)
    (hd : obj.deletionTimestamp = none) (hs : obj.etcd.spec.backup.store.isSome)
    (hrev : readRevisions w.leases obj.etcd = .diff d) (ht : r.config.eventsThreshold ≤ d) :
    reconcile r now req w = reconcileJob r now obj.etcd w := by
  simp [reconcile, hobj, hd, Option.isSome_iff_ne_none.mp hs, hrev, ht]

/-- The objects after a reconcile that returns. -/
theorem reconcile_writes (h : reconcile r now req w = .ok o) :
    o.world = w ∨
      ∃ obj, w.etcds.lookup (req.namespace_, req.name) = some obj ∧ Writes now obj.etcd w o.world := by
  unfold reconcile at h
  split at h
  · rw [Go.pure_eq_ok] at h
    subst h
    exact .inl rfl
  · next obj hobj =>
    refine .inr ⟨obj, hobj, ?_⟩
    split_ifs at h
    · exact .of_pure (delete_writes now obj.etcd w) h
    · exact .of_pure .keep h
    · split at h
      · exact .of_pure .keep h
      · exact .of_pure .keep h
      · split_ifs at h
        · exact reconcileJob_writes h
        · exact .of_pure .keep h

/-- A reconcile that panics has reached `reconcileJob`, which panicked. -/
theorem reconcile_eq_error (h : reconcile r now req w = .error f) :
    ∃ obj d, w.etcds.lookup (req.namespace_, req.name) = some obj ∧ obj.deletionTimestamp = none ∧
      obj.etcd.spec.backup.store.isSome ∧ readRevisions w.leases obj.etcd = .diff d ∧
      r.config.eventsThreshold ≤ d ∧ reconcileJob r now obj.etcd w = .error f := by
  unfold reconcile at h
  split at h
  · exact absurd h Go.pure_ne_error
  · next obj hobj =>
    split_ifs at h with hd hs
    · exact absurd h Go.pure_ne_error
    · exact absurd h Go.pure_ne_error
    · split at h
      · exact absurd h Go.pure_ne_error
      · exact absurd h Go.pure_ne_error
      · next d hrev =>
        split_ifs at h with ht
        · exact ⟨obj, d, hobj, Option.not_isSome_iff_eq_none.mp hd,
            Option.isSome_iff_ne_none.mpr (by simpa using hs), hrev, ht, h⟩
        · exact absurd h Go.pure_ne_error

end Spec

/-! ## The invariant of the jobs -/

/-- A job as the job controller keeps it, under its own key: it completes only
once it has started. -/
structure Job.Consistent (key : String × String) (job : Job) : Prop where
  keyed : (job.namespace_, job.name) = key
  started : job.completionTime.isSome → job.startTime.isSome

/-- Every stored job is consistent. -/
def Inv (w : World) : Prop := ∀ k job, w.jobs.lookup k = some job → job.Consistent k

section Invariant

variable {w : World} {k : String × String} {job : Job}

theorem Job.Consistent.markDeleted (h : job.Consistent k) (t : Int) :
    ({ job with deletionTimestamp := some t } : Job).Consistent k :=
  ⟨h.keyed, h.started⟩

theorem newJob_consistent (etcd : Etcd) (template : PodSpec) :
    (newJob etcd template).Consistent (jobKey etcd) :=
  ⟨rfl, by simp [newJob]⟩

theorem Inv.insert (hw : Inv w) (hj : job.Consistent k) :
    Inv { w with jobs := w.jobs.insert k job } := by
  intro k' job' h
  by_cases hk : k' = k
  · subst hk
    rw [AList.lookup_insert, Option.some.injEq] at h
    exact h ▸ hj
  · rw [AList.lookup_insert_ne hk] at h
    exact hw k' job' h

theorem Inv.erase (hw : Inv w) (k : String × String) : Inv { w with jobs := w.jobs.erase k } := by
  intro k' job' h
  by_cases hk : k' = k
  · subst hk
    rw [AList.lookup_erase] at h
    cases h
  · rw [AList.lookup_erase_ne hk] at h
    exact hw k' job' h

/-- A job marked for deletion stays under the key it had. -/
theorem deleteJob_eq_insert (hw : Inv w) (hk : w.jobs.lookup k = some job) (now : Int) :
    w.deleteJob job now = { w with jobs := w.jobs.insert k { job with deletionTimestamp := some now } } := by
  rw [World.deleteJob, (hw k job hk).keyed]

variable {now : Int} {etcd : Etcd} {w' : World}

/-- The step lemma of the reconcile: its writes keep every job consistent. -/
theorem Writes.inv (h : Writes now etcd w w') (hw : Inv w) : Inv w' := by
  cases h with
  | keep => exact hw
  | delete hjob hd =>
    rw [deleteJob_eq_insert hw hjob]
    exact hw.insert ((hw _ _ hjob).markDeleted now)
  | create hnone ht => exact hw.insert (newJob_consistent etcd _)

/-- A reconcile writes no job but the compaction job of its Etcd. -/
theorem Writes.lookup_of_ne (h : Writes now etcd w w') (hw : Inv w) (hk : k ≠ jobKey etcd) :
    w'.jobs.lookup k = w.jobs.lookup k := by
  cases h with
  | keep => rfl
  | delete hjob hd =>
    rw [deleteJob_eq_insert hw hjob]
    exact AList.lookup_insert_ne hk
  | create hnone ht => exact AList.lookup_insert_ne hk

/-- An existing job is kept, or only marked for deletion at `now`. -/
theorem Writes.keeps_job (h : Writes now etcd w w') (hw : Inv w) (hk : w.jobs.lookup k = some job) :
    w'.jobs.lookup k = some job ∨
      job.deletionTimestamp = none ∧
        w'.jobs.lookup k = some { job with deletionTimestamp := some now } := by
  by_cases hkey : k = jobKey etcd
  · subst hkey
    cases h with
    | keep => exact .inl hk
    | delete hjob hd =>
      rw [hk, Option.some.injEq] at hjob
      subst hjob
      rw [deleteJob_eq_insert hw hk]
      exact .inr ⟨hd, AList.lookup_insert _⟩
    | create hnone ht => rw [hk] at hnone; cases hnone
  · exact .inl ((h.lookup_of_ne hw hkey).trans hk)

end Invariant

/-! ## The cluster around the controller -/

/-- Writes one object, or removes it. -/
def putOrRemove {α : Type} (m : Go.Map (String × String) α) (k : String × String) :
    Option α → Go.Map (String × String) α
  | some a => m.insert k a
  | none => m.erase k

/-- The job under `k`, changed by `f` where `f` applies to it. -/
def World.updateJob (w : World) (k : String × String) (f : Job → Option Job) : World :=
  match w.jobs.lookup k with
  | none => w
  | some job =>
    match f job with
    | none => w
    | some job' => { w with jobs := w.jobs.insert k job' }

/-- What the rest of the cluster does between two reconciles. -/
inductive Event
  /-- An Etcd is created, changed, marked for deletion or removed. -/
  | setEtcd (k : String × String) (obj : Option EtcdObject)
  /-- A lease is created, changed or removed; the backup sidecar renews the
  snapshot leases with the revisions of the snapshots it took. -/
  | setLease (k : String × String) (lease : Option Lease)
  /-- The job controller starts a job and stamps its start time. -/
  | startJob (k : String × String) (t : Int)
  /-- The pod of a started job succeeds: the job controller counts it and
  stamps the completion time. -/
  | completeJob (k : String × String) (t : Int)
  /-- The pod of a job fails. -/
  | failJob (k : String × String)
  /-- Someone deletes a job. -/
  | deleteJob (k : String × String) (t : Int)
  /-- The garbage collector removes a job marked for deletion. -/
  | collectJob (k : String × String)

def Event.apply (w : World) : Event → World
  | .setEtcd k obj => { w with etcds := putOrRemove w.etcds k obj }
  | .setLease k lease => { w with leases := putOrRemove w.leases k lease }
  | .startJob k t => w.updateJob k fun job =>
      if job.startTime.isNone then some { job with startTime := some t } else none
  | .completeJob k t => w.updateJob k fun job =>
      if job.startTime.isSome then
        some { job with succeeded := job.succeeded + 1, completionTime := some t }
      else none
  | .failJob k => w.updateJob k fun job => some { job with failed := job.failed + 1 }
  | .deleteJob k t => w.updateJob k fun job =>
      if job.deletionTimestamp.isNone then some { job with deletionTimestamp := some t } else none
  | .collectJob k =>
    match w.jobs.lookup k with
    | some job => if job.deletionTimestamp.isSome then { w with jobs := w.jobs.erase k } else w
    | none => w

/-- One step of the system: a reconcile that returns, or an event. -/
inductive Step (r : Reconciler) : World → World → Prop
  | reconcile {w : World} {o : Outcome} (now : Int) (req : NamespacedName)
      (h : reconcile r now req w = .ok o) : Step r w o.world
  | event (w : World) (e : Event) : Step r w (e.apply w)

/-- The worlds the system reaches from `w₀`. -/
def Reachable (r : Reconciler) (w₀ w : World) : Prop := Relation.ReflTransGen (Step r) w₀ w

section Runs

variable {r : Reconciler} {w w' : World}

theorem Inv.updateJob {k : String × String} {f : Job → Option Job} (hw : Inv w)
    (hf : ∀ job job', job.Consistent k → f job = some job' → job'.Consistent k) :
    Inv (w.updateJob k f) := by
  unfold World.updateJob
  split
  · exact hw
  · next job hjob =>
    split
    · exact hw
    · next job' hf' => exact hw.insert (hf job job' (hw k job hjob) hf')

/-- The step lemma of the cluster: no event breaks a job's consistency. -/
theorem Inv.apply (hw : Inv w) (e : Event) : Inv (e.apply w) := by
  cases e with
  | setEtcd k obj => exact hw
  | setLease k lease => exact hw
  | startJob k t =>
    refine hw.updateJob fun job job' hj hf => ?_
    split_ifs at hf
    cases hf
    exact ⟨hj.keyed, fun _ => rfl⟩
  | completeJob k t =>
    refine hw.updateJob fun job job' hj hf => ?_
    split_ifs at hf with hs
    cases hf
    exact ⟨hj.keyed, fun _ => hs⟩
  | failJob k =>
    refine hw.updateJob fun job job' hj hf => ?_
    cases hf
    exact ⟨hj.keyed, hj.started⟩
  | deleteJob k t =>
    refine hw.updateJob fun job job' hj hf => ?_
    split_ifs at hf
    cases hf
    exact hj.markDeleted t
  | collectJob k =>
    simp only [Event.apply]
    split
    · split_ifs
      · exact hw.erase k
      · exact hw
    · exact hw

theorem Inv.step (hw : Inv w) (h : Step r w w') : Inv w' := by
  cases h with
  | reconcile now req h =>
    rcases reconcile_writes h with heq | ⟨obj, -, hwrites⟩
    · exact heq ▸ hw
    · exact hwrites.inv hw
  | event e => exact hw.apply e

/-- The run lemma: every world reached from a consistent one is consistent. -/
theorem inv_of_reachable {w₀ : World} (h₀ : Inv w₀) (h : Reachable r w₀ w) : Inv w := by
  induction h with
  | refl => exact h₀
  | tail _ hstep ih => exact ih.step hstep

end Runs

/-! ## When the job is created -/

section Create

variable {r : Reconciler} {now : Int} {req : NamespacedName} {w : World} {o : Outcome}
  {etcd : Etcd} {obj : EtcdObject}

theorem createJob_ne_ok_of_error {e : String} (h : createJob r etcd = .ok (.error e))
    (image : String) : r.getEtcdImages etcd ≠ .ok image := by
  intro hi
  rw [createJob, hi] at h
  obtain ⟨_, -, h⟩ := Go.map_eq_ok.mp h
  cases h

/-- With no job stored, `reconcileJob` leaves one exactly when compaction is
enabled and the images are found. -/
theorem reconcileJob_lookup_isSome (hnone : w.jobs.lookup (jobKey etcd) = none)
    (h : reconcileJob r now etcd w = .ok o) :
    (o.world.jobs.lookup (jobKey etcd)).isSome ↔
      r.config.enableBackupCompaction = true ∧ ∃ image, r.getEtcdImages etcd = .ok image := by
  unfold reconcileJob at h
  rw [hnone] at h
  dsimp only at h
  split_ifs at h with he
  · obtain ⟨created, hc, h⟩ := Go.bind_eq_ok.mp h
    cases created with
    | error e =>
      rw [Go.pure_eq_ok] at h
      subst h
      simp only [hnone, Option.isSome_none, Bool.false_eq_true, false_iff, not_and, not_exists]
      exact fun _ => createJob_ne_ok_of_error hc
    | ok job =>
      obtain ⟨himage, template, -, rfl⟩ := createJob_eq_ok.mp hc
      dsimp only at h
      rw [reconcileFetchedJob_of_idle rfl rfl rfl, Go.pure_eq_ok] at h
      subst h
      simp only [World.createJob, newJob, jobKey, AList.lookup_insert, Option.isSome_some]
      exact ⟨fun _ => ⟨he, himage⟩, fun _ => trivial⟩
  · rw [reconcileFetchedJob_of_idle rfl rfl rfl, Go.pure_eq_ok] at h
    subst h
    simp [hnone, he]

/-- A reconcile after which the missing job exists went through `reconcileJob`. -/
theorem reconcile_reaches_job (hobj : w.etcds.lookup (req.namespace_, req.name) = some obj)
    (hnone : w.jobs.lookup (jobKey obj.etcd) = none) (h : reconcile r now req w = .ok o)
    (hsome : (o.world.jobs.lookup (jobKey obj.etcd)).isSome) :
    obj.deletionTimestamp = none ∧ obj.etcd.spec.backup.store.isSome ∧
      ∃ d, readRevisions w.leases obj.etcd = .diff d ∧ r.config.eventsThreshold ≤ d ∧
        reconcileJob r now obj.etcd w = .ok o := by
  -- every other branch returns the objects unchanged, which have no job there
  have hkept : ∀ o' : Outcome, o'.world = w → (pure o' : Except Go.Failure Outcome) ≠ .ok o := by
    intro o' hw' h
    rw [Go.pure_eq_ok] at h
    subst h
    rw [hw', hnone] at hsome
    cases hsome
  unfold reconcile at h
  rw [hobj] at h
  dsimp only at h
  split_ifs at h with hd hs
  · exact absurd h (hkept _ (by rw [delete_of_lookup_none hnone]))
  · exact absurd h (hkept _ rfl)
  · have hd : obj.deletionTimestamp = none := Option.not_isSome_iff_eq_none.mp hd
    have hs : obj.etcd.spec.backup.store.isSome := Option.isSome_iff_ne_none.mpr (by simpa using hs)
    split at h
    · exact absurd h (hkept _ rfl)
    · exact absurd h (hkept _ rfl)
    · next d hrev =>
      split_ifs at h with ht
      · exact ⟨hd, hs, d, hrev, ht, h⟩
      · exact absurd h (hkept _ rfl)

/-- Revisions that the backup sidecar wrote in decimal, as `strconv.FormatInt`
does, are read back, and their difference does not wrap. -/
theorem readRevisions_renewed {leases : Lease.LeaseStore} {fullLease deltaLease : Lease}
    {full delta : Int}
    (hfull : leases.lookup (etcd.namespace_, etcd.getFullSnapshotLeaseName) = some fullLease)
    (hdelta : leases.lookup (etcd.namespace_, etcd.getDeltaSnapshotLeaseName) = some deltaLease)
    (hf : fullLease.holderIdentity = some (toString full))
    (hd : deltaLease.holderIdentity = some (toString delta))
    (hf0 : 0 ≤ full) (hf1 : full < 2 ^ 63) (hd0 : 0 ≤ delta) (hd1 : delta < 2 ^ 63) :
    readRevisions leases etcd = .diff (Int64.ofInt (delta - full)) ∧
      (Int64.ofInt (delta - full)).toInt = delta - full := by
  constructor
  · simp only [readRevisions, hfull, hdelta, hf, hd, Go.parseInt_toString (by omega) hf1,
      Go.parseInt_toString (by omega) hd1, Int64.ofInt_sub]
  · exact Int64.toInt_ofInt_of_le (by omega) (by omega)

/-- For an Etcd with no compaction job and renewed snapshot leases, a reconcile
creates the job exactly when the Etcd is not being deleted, has a store, the
delta revision exceeds the full one by the events threshold, compaction is
enabled and the images are found. -/
theorem reconcile_creates_job_iff {fullLease deltaLease : Lease} {full delta : Int}
    (hobj : w.etcds.lookup (req.namespace_, req.name) = some obj)
    (hnone : w.jobs.lookup (jobKey obj.etcd) = none)
    (hfull : w.leases.lookup (obj.etcd.namespace_, obj.etcd.getFullSnapshotLeaseName) = some fullLease)
    (hdelta : w.leases.lookup (obj.etcd.namespace_, obj.etcd.getDeltaSnapshotLeaseName) =
      some deltaLease)
    (hf : fullLease.holderIdentity = some (toString full))
    (hd : deltaLease.holderIdentity = some (toString delta))
    (hf0 : 0 ≤ full) (hf1 : full < 2 ^ 63) (hd0 : 0 ≤ delta) (hd1 : delta < 2 ^ 63)
    (h : reconcile r now req w = .ok o) :
    (o.world.jobs.lookup (jobKey obj.etcd)).isSome ↔
      obj.deletionTimestamp = none ∧ obj.etcd.spec.backup.store.isSome ∧
        r.config.eventsThreshold.toInt ≤ delta - full ∧ r.config.enableBackupCompaction = true ∧
        ∃ image, r.getEtcdImages obj.etcd = .ok image := by
  obtain ⟨hrev, hdiff⟩ := readRevisions_renewed hfull hdelta hf hd hf0 hf1 hd0 hd1
  have hle : r.config.eventsThreshold ≤ Int64.ofInt (delta - full) ↔
      r.config.eventsThreshold.toInt ≤ delta - full := by
    rw [Int64.le_iff_toInt_le, hdiff]
  constructor
  · intro hsome
    obtain ⟨hdel, hs, d, hrev', ht, hj⟩ := reconcile_reaches_job hobj hnone h hsome
    rw [hrev, Revisions.diff.injEq] at hrev'
    subst hrev'
    obtain ⟨he, himage⟩ := (reconcileJob_lookup_isSome hnone hj).mp hsome
    exact ⟨hdel, hs, hle.mp ht, he, himage⟩
  · rintro ⟨hdel, hs, ht, he, himage⟩
    rw [reconcile_of_diff hobj hdel hs hrev (hle.mpr ht)] at h
    exact (reconcileJob_lookup_isSome hnone h).mpr ⟨he, himage⟩

/-- An Etcd with a backup store in a bucket, and a container or none. -/
def bucketEtcd (container : Option String) : Etcd :=
  { (default : Etcd) with
    name := "etcd-main", namespace_ := "shoot"
    spec := { (default : EtcdSpec) with
      backup := { (default : BackupSpec) with
        store := some ⟨container, "shoot--etcd-main", some "aws", some "etcd-backup"⟩ } } }

/-- A snapshot lease that the backup sidecar renewed with `revision`. -/
def renewedLease (etcd : Etcd) (name : String) (revision : Int) : Lease :=
  { name := name, namespace_ := etcd.namespace_, labels := ∅, ownerReferences := [],
    creationTimestamp := 0, holderIdentity := some (toString revision), renewTime := none }

/-- The Etcd, its snapshot leases one million events apart, and no job. -/
def thresholdWorld (etcd : Etcd) : World where
  etcds := (∅ : Go.Map (String × String) EtcdObject).insert (etcd.namespace_, etcd.name) ⟨etcd, none⟩
  leases := ((∅ : Lease.LeaseStore).insert (etcd.namespace_, etcd.getFullSnapshotLeaseName)
      (renewedLease etcd etcd.getFullSnapshotLeaseName 0)).insert
    (etcd.namespace_, etcd.getDeltaSnapshotLeaseName)
    (renewedLease etcd etcd.getDeltaSnapshotLeaseName 1000000)
  jobs := ∅

/-- The default threshold of `InitFromFlags` with compaction enabled, and an
image vector that has the images. -/
def enabledReconciler : Reconciler := ⟨⟨true, 1000000⟩, fun _ => .ok "etcd-backup-restore"⟩

theorem reconcile_creates_job_threshold :
    ∃ o, reconcile enabledReconciler 0 ⟨"shoot", "etcd-main"⟩
        (thresholdWorld (bucketEtcd (some "bucket"))) = .ok o ∧
      (o.world.jobs.lookup (jobKey (bucketEtcd (some "bucket")))).isSome = true := by
  obtain ⟨o, h⟩ : ∃ o, reconcile enabledReconciler 0 ⟨"shoot", "etcd-main"⟩
      (thresholdWorld (bucketEtcd (some "bucket"))) = .ok o := ⟨_, rfl⟩
  have hobj : (thresholdWorld (bucketEtcd (some "bucket"))).etcds.lookup ("shoot", "etcd-main") =
      some ⟨bucketEtcd (some "bucket"), none⟩ := rfl
  have hfull : (thresholdWorld (bucketEtcd (some "bucket"))).leases.lookup
      ("shoot", (bucketEtcd (some "bucket")).getFullSnapshotLeaseName) =
      some (renewedLease (bucketEtcd (some "bucket")) "etcd-main-full-snap" 0) := rfl
  have hdelta : (thresholdWorld (bucketEtcd (some "bucket"))).leases.lookup
      ("shoot", (bucketEtcd (some "bucket")).getDeltaSnapshotLeaseName) =
      some (renewedLease (bucketEtcd (some "bucket")) "etcd-main-delta-snap" 1000000) := rfl
  exact ⟨o, h, (reconcile_creates_job_iff hobj rfl hfull hdelta rfl rfl (by decide) (by decide)
    (by decide) (by decide) h).mpr ⟨rfl, rfl, by decide, rfl, _, rfl⟩⟩

end Create

/-! ## Panics -/

/-- In every world the system reaches from consistent jobs, a reconcile panics
exactly when it creates the compaction job of an Etcd whose store has no
container: the `StartTime` of a completed job is never `nil` there. -/
theorem reachable_reconcile_panics_iff {r : Reconciler} {w₀ w : World} (h₀ : Inv w₀)
    (hw : Reachable r w₀ w) (now : Int) (req : NamespacedName) (f : Go.Failure) :
    reconcile r now req w = .error f ↔
      f = .nilPointerDereference ∧ ∃ obj store d,
        w.etcds.lookup (req.namespace_, req.name) = some obj ∧ obj.deletionTimestamp = none ∧
        obj.etcd.spec.backup.store = some store ∧ store.container = none ∧
        readRevisions w.leases obj.etcd = .diff d ∧ r.config.eventsThreshold ≤ d ∧
        w.jobs.lookup (jobKey obj.etcd) = none ∧ r.config.enableBackupCompaction = true ∧
        ∃ image, r.getEtcdImages obj.etcd = .ok image := by
  have hinv := inv_of_reachable h₀ hw
  constructor
  · intro h
    obtain ⟨obj, d, hobj, hd, -, hrev, ht, hj⟩ := reconcile_eq_error h
    rcases reconcileJob_eq_error hj with ⟨job, hjob, hc, hs, -⟩ | ⟨hnone, he, hc⟩
    · have hstarted := (hinv _ _ hjob).started hc
      rw [hs] at hstarted
      cases hstarted
    · obtain ⟨himage, hcc⟩ := createJob_eq_error.mp hc
      obtain ⟨store, hstore, hcont, rfl⟩ := (createCompactionJob_eq_error_iff _ _).mp hcc
      exact ⟨rfl, obj, store, d, hobj, hd, hstore, hcont, hrev, ht, hnone, he, himage⟩
  · rintro ⟨rfl, obj, store, d, hobj, hd, hstore, hcont, hrev, ht, hnone, he, himage⟩
    have hcc : createCompactionJob obj.etcd = .error .nilPointerDereference :=
      (createCompactionJob_eq_error_iff _ _).mpr ⟨store, hstore, hcont, rfl⟩
    rw [reconcile_of_diff hobj hd (by simp [hstore]) hrev ht, reconcileJob_of_lookup_none hnone he,
      createJob_eq_error.mpr ⟨himage, hcc⟩]
    rfl

theorem reachable_reconcile_panics_noContainer :
    Inv (thresholdWorld (bucketEtcd none)) ∧
      Reachable enabledReconciler (thresholdWorld (bucketEtcd none)) (thresholdWorld (bucketEtcd none)) ∧
      reconcile enabledReconciler 0 ⟨"shoot", "etcd-main"⟩ (thresholdWorld (bucketEtcd none)) =
        .error .nilPointerDereference := by
  have h₀ : Inv (thresholdWorld (bucketEtcd none)) := fun k job h => by
    simp [thresholdWorld] at h
  have hrev : readRevisions (thresholdWorld (bucketEtcd none)).leases (bucketEtcd none) =
      .diff (Int64.ofInt 1000000 - Int64.ofInt 0) := rfl
  exact ⟨h₀, .refl, (reachable_reconcile_panics_iff h₀ .refl 0 ⟨"shoot", "etcd-main"⟩ _).mpr
    ⟨rfl, ⟨bucketEtcd none, none⟩, _, _, rfl, rfl, rfl, rfl, hrev, by decide, rfl, rfl, _, rfl⟩⟩

/-! ## Before the sidecar renews the leases -/

/-- Without revisions in the full snapshot lease there is no difference to act on. -/
theorem readRevisions_ne_diff {leases : Lease.LeaseStore} {etcd : Etcd}
    (h : ∀ l, leases.lookup (etcd.namespace_, etcd.getFullSnapshotLeaseName) = some l →
      l.holderIdentity = none) (d : Int64) :
    readRevisions leases etcd ≠ .diff d := by
  unfold readRevisions
  split
  · simp
  · next fullLease hfull =>
    split
    · simp
    · rw [h fullLease hfull]
      simp

/-- After the lease component deployed the leases of an Etcd whose full snapshot
lease did not exist, that lease has no holder identity: a reconcile of the Etcd,
unless it is being deleted, returns and writes nothing. -/
theorem reconcile_after_deploy {r : Reconciler} {now t : Int} {req : NamespacedName} {w : World}
    {obj : EtcdObject} {sched : Go.RangeOrder Lease.LeaseTask} {store : Lease.LeaseStore}
    (hobj : w.etcds.lookup (req.namespace_, req.name) = some obj)
    (hd : obj.deletionTimestamp = none)
    (hleases : w.leases = Lease.deploy (Lease.generateValues obj.etcd) obj.etcd.namespace_ t sched store)
    (hfresh : store.lookup (obj.etcd.namespace_, obj.etcd.getFullSnapshotLeaseName) = none) :
    ∃ result err, reconcile r now req w = .ok ⟨result, err, w⟩ := by
  -- the lease the lease component created, if the member labels did not remove it
  have hsnap : (Lease.deploy (Lease.generateValues obj.etcd) obj.etcd.namespace_ t sched store).lookup
      (obj.etcd.namespace_, obj.etcd.getFullSnapshotLeaseName) =
      (Lease.syncSnapshotLease (Lease.generateValues obj.etcd) obj.etcd.namespace_ t
        obj.etcd.getFullSnapshotLeaseName none).filter
        fun l => !decide (matchesLabels (getMemberLeaseLabels obj.etcd.name) l.labels) := by
    refine (Lease.lookup_deploy_snapshot sched store (Etcd.generateValues_distinct obj.etcd)
      (.inr rfl)).trans ?_
    rw [show (Lease.generateValues obj.etcd).fullSnapshotLeaseName = obj.etcd.getFullSnapshotLeaseName
      from rfl, hfresh]
    rfl
  have hrev : ∀ d, readRevisions w.leases obj.etcd ≠ .diff d := by
    refine readRevisions_ne_diff fun l hl => ?_
    rw [hleases, hsnap] at hl
    exact (Lease.syncSnapshotLease_eq_some (Option.filter_eq_some_iff.mp hl).1).2.2
  unfold reconcile
  rw [hobj]
  dsimp only
  rw [if_neg (by simp [hd])]
  split_ifs
  · exact ⟨_, _, rfl⟩
  · cases hr : readRevisions w.leases obj.etcd with
    | failed e => exact ⟨_, _, rfl⟩
    | unset => exact ⟨_, _, rfl⟩
    | diff d => exact absurd hr (hrev d)

theorem reconcile_after_deploy_fresh :
    ∃ result err, reconcile enabledReconciler 0 ⟨"shoot", "etcd-main"⟩
      { etcds := (thresholdWorld (bucketEtcd (some "bucket"))).etcds
        leases := Lease.deploy (Lease.generateValues (bucketEtcd (some "bucket"))) "shoot" 0
          (Go.RangeOrder.stored _) ∅
        jobs := ∅ } = .ok ⟨result, err,
      { etcds := (thresholdWorld (bucketEtcd (some "bucket"))).etcds
        leases := Lease.deploy (Lease.generateValues (bucketEtcd (some "bucket"))) "shoot" 0
          (Go.RangeOrder.stored _) ∅
        jobs := ∅ }⟩ := by
  have hobj : (thresholdWorld (bucketEtcd (some "bucket"))).etcds.lookup ("shoot", "etcd-main") =
      some ⟨bucketEtcd (some "bucket"), none⟩ := rfl
  exact reconcile_after_deploy hobj rfl rfl rfl

end Compaction
end EtcdDruid
