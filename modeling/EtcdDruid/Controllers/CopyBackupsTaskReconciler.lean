import EtcdDruid.Controllers.CopyBackupsTask
import EtcdDruid.Controllers.Secret
import EtcdDruid.Kube.Finalizers
import Mathlib.Logic.Relation

/-!
# The copy-backups-task controller: `Reconcile` in `controllers/etcdcopybackupstask`

**Input.**  A request for an `EtcdCopyBackupsTask`, the secrets the job may
read and the image vector, and the tasks and jobs of the API server.

**Algorithm.**  For a task that is not being deleted, `reconcile` adds the
finalizer `druid.gardener.cloud/etcd-druid`, then `doReconcile` gets the job
`<name>-worker`, or builds it with `createJobObject` and creates it, and the
deferred `setStatusDetails` and `updateStatus` write the generation, the job's
`Complete` and `Failed` conditions (as `Succeeded` and `Failed`) and the error.
For a task being deleted that holds the finalizer, `doDelete` deletes the job
(foreground propagation marks it) and writes the status; once the job is gone
it removes the finalizer, and the API server removes the task when no other
finalizer holds it.  A panic in `createJobObject` unwinds past the status
update, after the finalizer was added.

**The system.**  Between two reconciles users create tasks, change their
specs and delete them, other controllers add and remove finalizers of their
own, the job controller writes the job's conditions, users delete jobs, and the
garbage collector removes a job marked for deletion.

**Results.**
* `inv_of_reachable`: in every reachable world every job belongs to a stored
  task that holds the finalizer;
* `task_removed_without_job`: so no step removes a task whose job still exists;
  `jobs_owned_of_reachable` states both for the runs from an empty cluster;
* `exists_run_finalizer_removed`: from every such world, the controller and the
  garbage collector can always release the finalizer of a task being deleted;
* `reconcile_status`: the status a reconcile writes is the job's conditions,
  the generation and the error.
-/

namespace EtcdDruid

/-- `EtcdCopyBackupsTaskStatus`. -/
structure EtcdCopyBackupsTaskStatus where
  conditions : List Condition
  observedGeneration : Option Int
  lastError : Option String
  deriving DecidableEq

namespace CopyBackupsTask

open Secret (NamespacedName)

/-! ## Objects -/

/-- `batchv1.JobComplete`. -/
def jobComplete : String := "Complete"

/-- `batchv1.JobFailed`. -/
def jobFailed : String := "Failed"

/-- `druidv1alpha1.EtcdCopyBackupsTaskSucceeded`. -/
def etcdCopyBackupsTaskSucceeded : String := "Succeeded"

/-- `druidv1alpha1.EtcdCopyBackupsTaskFailed`. -/
def etcdCopyBackupsTaskFailed : String := "Failed"

/-- `batchv1.JobCondition`; its `Type` is any `JobConditionType`. -/
structure JobCondition where
  type : String
  status : ConditionStatus
  lastProbeTime : Int
  lastTransitionTime : Int
  reason : String
  message : String
  deriving DecidableEq, Repr

/-- `batchv1.Job`: name, namespace, deletion timestamp, pod template and the
conditions of its status. -/
structure Job where
  name : String
  namespace_ : String
  deletionTimestamp : Option Int
  template : PodSpec
  conditions : List JobCondition
  deriving DecidableEq

/-- A task as the controller reads and writes it. -/
structure TaskState where
  task : EtcdCopyBackupsTask
  status : EtcdCopyBackupsTaskStatus

/-- A task as the API server stores it. -/
abbrev TaskObject := Kube.Object TaskState

/-- The tasks and jobs of the API server, by namespace and name. -/
structure World where
  tasks : Go.Map (String × String) TaskObject
  jobs : Go.Map (String × String) Job

/-- The reconciler: the secrets `createJobObject` reads, and its image vector
through `utils.GetEtcdBackupRestoreImage` (the image, or why there is none). -/
structure Reconciler where
  getSecret : SecretGetter
  getEtcdBackupRestoreImage : Except String String

/-- What `Reconcile` returns, always with `ctrl.Result{}`: its error, or the
panic; and the objects after its writes. -/
structure Outcome where
  ret : Except Go.Failure (Option String)
  world : World

/-- `client.ObjectKeyFromObject(task)`. -/
def taskKey (o : TaskObject) : String × String := (o.val.task.namespace_, o.val.task.name)

/-- `kutil.Key(task.Namespace, task.GetJobName())`. -/
def jobKey (task : EtcdCopyBackupsTask) : String × String := (task.namespace_, task.getJobName)

/-! ## The status -/

/-- `getConditionType`. -/
def getConditionType (jobConditionType : String) : String :=
  if jobConditionType = jobComplete then etcdCopyBackupsTaskSucceeded
  else if jobConditionType = jobFailed then etcdCopyBackupsTaskFailed
  else ""

/-- `getConditions`: the job's conditions of a known type, renamed. -/
def getConditions (jobConditions : List JobCondition) : List Condition :=
  jobConditions.filterMap fun jobCondition =>
    if getConditionType jobCondition.type ≠ "" then
      some { type := getConditionType jobCondition.type, status := jobCondition.status,
             lastTransitionTime := jobCondition.lastTransitionTime,
             lastUpdateTime := jobCondition.lastProbeTime,
             reason := jobCondition.reason, message := jobCondition.message }
    else none

/-- `setStatusDetails`. -/
def setStatusDetails (status : EtcdCopyBackupsTaskStatus) (generation : Int) (job : Option Job)
    (err : Option String) : EtcdCopyBackupsTaskStatus :=
  { status with
    observedGeneration := some generation
    conditions := match job with
      | some job => getConditions job.conditions
      | none => []
    lastError := err }

/-! ## `Reconcile` -/

/-- The job that `createJobObject` builds: the API server stores it with no conditions. -/
def newJob (task : EtcdCopyBackupsTask) (template : PodSpec) : Job where
  name := task.getJobName
  namespace_ := task.namespace_
  deletionTimestamp := none
  template := template
  conditions := []

/-- `(*Reconciler).createJobObject`: the image, then the pod. -/
def jobObject (r : Reconciler) (task : EtcdCopyBackupsTask) : Except Go.Failure Job :=
  match r.getEtcdBackupRestoreImage with
  | .error e => .error (.error e)
  | .ok _ => do
    let template ← createJobObject r.getSecret task
    pure (newJob task template)

namespace World

/-- `r.Create(ctx, job)`. -/
def createJob (w : World) (job : Job) : World :=
  { w with jobs := w.jobs.insert (job.namespace_, job.name) job }

/-- `r.Delete(ctx, job, client.PropagationPolicy(metav1.DeletePropagationForeground))`. -/
def deleteJob (w : World) (job : Job) (now : Int) : World :=
  { w with jobs := w.jobs.insert (job.namespace_, job.name) { job with deletionTimestamp := some now } }

/-- A patch of a task's finalizers. -/
def patchTaskFinalizers (w : World) (k : String × String) (fs : List String) : World :=
  { w with tasks := Kube.patchFinalizers w.tasks k fs }

/-- `r.Client.Status().Patch`: the task's status. -/
def patchTaskStatus (w : World) (k : String × String) (status : EtcdCopyBackupsTaskStatus) : World :=
  { w with tasks := Kube.patch w.tasks k fun s => { s with status := status } }

end World

/-- `doReconcile`: the status to write, the error, and the objects after the
job's creation. -/
def doReconcile (r : Reconciler) (o : TaskObject) (w : World) :
    Except Go.Failure (EtcdCopyBackupsTaskStatus × Option String × World) :=
  match w.jobs.lookup (jobKey o.val.task) with
  | some job => pure (setStatusDetails o.val.status o.metadata.generation (some job) none, none, w)
  | none =>
    match jobObject r o.val.task with
    | .error .nilPointerDereference => .error .nilPointerDereference
    | .error (.error e) =>
      pure (setStatusDetails o.val.status o.metadata.generation none (some e), some e, w)
    | .ok job => pure (setStatusDetails o.val.status o.metadata.generation (some job) none, none,
        w.createJob job)

/-- `controllerutils.AddFinalizers`, unless the task holds the finalizer. -/
def addTaskFinalizer (o : TaskObject) (w : World) : World :=
  if Kube.containsFinalizer o.metadata.finalizers finalizerName then w
  else w.patchTaskFinalizers (taskKey o) (Kube.addFinalizer o.metadata.finalizers finalizerName)

/-- `(*Reconciler).reconcile`: the finalizer, `doReconcile`, then the deferred
status update. -/
def reconcileTask (r : Reconciler) (o : TaskObject) (w : World) : Outcome :=
  let w := addTaskFinalizer o w
  match doReconcile r o w with
  -- the panic unwinds with `status` still `nil`, so nothing more is written
  | .error p => ⟨.error p, w⟩
  | .ok (status, err, w) =>
    ⟨.ok (err.map ("could not reconcile creation or update: " ++ ·)), w.patchTaskStatus (taskKey o) status⟩

/-- `(*Reconciler).delete` with `doDelete`. -/
def deleteTask (now : Int) (o : TaskObject) (w : World) : Outcome :=
  if !Kube.containsFinalizer o.metadata.finalizers finalizerName then ⟨.ok none, w⟩
  else
    match w.jobs.lookup (jobKey o.val.task) with
    -- `removeFinalizer`: the finalizer goes, and the status is not written
    | none =>
      ⟨.ok none, w.patchTaskFinalizers (taskKey o) (Kube.removeFinalizer o.metadata.finalizers finalizerName)⟩
    | some job =>
      let w := if job.deletionTimestamp.isNone then w.deleteJob job now else w
      ⟨.ok none, w.patchTaskStatus (taskKey o)
        (setStatusDetails o.val.status o.metadata.generation (some job) none)⟩

/-- `Reconcile`. -/
def reconcile (r : Reconciler) (now : Int) (req : NamespacedName) (w : World) : Outcome :=
  match w.tasks.lookup (req.namespace_, req.name) with
  | none => ⟨.ok none, w⟩
  | some o => if o.metadata.deletionTimestamp.isSome then deleteTask now o w else reconcileTask r o w

/-! ## The cluster around the controller -/

/-- What the rest of the cluster does between two reconciles. -/
inductive Event
  /-- A user creates a task. -/
  | createTask (task : EtcdCopyBackupsTask)
  /-- A user changes the spec of a task. -/
  | updateSpec (k : String × String) (spec : EtcdCopyBackupsTaskSpec)
  /-- A user deletes a task. -/
  | deleteTask (k : String × String) (t : Int)
  /-- Another controller adds a finalizer of its own. -/
  | addFinalizer (k : String × String) (f : String)
  /-- Another controller removes a finalizer of its own. -/
  | removeFinalizer (k : String × String) (f : String)
  /-- The job controller writes the conditions of a job. -/
  | setJobConditions (k : String × String) (conditions : List JobCondition)
  /-- A user deletes a job. -/
  | deleteJob (k : String × String) (t : Int)
  /-- The garbage collector removes a job marked for deletion. -/
  | collectJob (k : String × String)

def Event.apply (w : World) : Event → World
  | .createTask task => { w with tasks := Kube.create w.tasks (task.namespace_, task.name) ⟨task, ⟨[], none, none⟩⟩ }
  | .updateSpec k spec =>
    { w with tasks := Kube.patchSpec w.tasks k fun s => { s with task := { s.task with spec := spec } } }
  | .deleteTask k t => { w with tasks := Kube.delete w.tasks k t }
  | .addFinalizer k f =>
    match w.tasks.lookup k with
    -- no finalizer may be added to an object being deleted
    | some o =>
      if f = finalizerName ∨ o.metadata.deletionTimestamp.isSome then w
      else w.patchTaskFinalizers k (Kube.addFinalizer o.metadata.finalizers f)
    | none => w
  | .removeFinalizer k f =>
    match w.tasks.lookup k with
    | some o =>
      if f = finalizerName then w else w.patchTaskFinalizers k (Kube.removeFinalizer o.metadata.finalizers f)
    | none => w
  | .setJobConditions k conditions =>
    match w.jobs.lookup k with
    | some job => { w with jobs := w.jobs.insert k { job with conditions := conditions } }
    | none => w
  | .deleteJob k t =>
    match w.jobs.lookup k with
    | some job =>
      if job.deletionTimestamp.isNone then { w with jobs := w.jobs.insert k { job with deletionTimestamp := some t } }
      else w
    | none => w
  | .collectJob k =>
    match w.jobs.lookup k with
    | some job => if job.deletionTimestamp.isSome then { w with jobs := w.jobs.erase k } else w
    | none => w

/-- One step of the system: a reconcile, which may panic after it wrote the
finalizer, or an event. -/
inductive Step (r : Reconciler) : World → World → Prop
  | reconcile (w : World) (now : Int) (req : NamespacedName) : Step r w (reconcile r now req w).world
  | event (w : World) (e : Event) : Step r w (e.apply w)

/-- The cluster before any task is created. -/
def World.init : World := ⟨∅, ∅⟩

/-- The worlds the system reaches from `w₀`. -/
def Reachable (r : Reconciler) (w₀ w : World) : Prop := Relation.ReflTransGen (Step r) w₀ w

/-! ## The invariant: every job has its task -/

/-- The key a stored task's value names. -/
def stateKey (s : TaskState) : String × String := (s.task.namespace_, s.task.name)

/-- The job under `k` belongs to a stored task that holds the finalizer. -/
def Owned (w : World) (k : String × String) : Prop :=
  ∃ tk, Kube.Holds w.tasks tk finalizerName fun s => jobKey s.task = k

/-- Tasks and jobs are stored under their own names, and every job is owned. -/
structure Inv (w : World) : Prop where
  tasksKeyed : Kube.Keyed stateKey w.tasks
  jobsKeyed : ∀ k job, w.jobs.lookup k = some job → (job.namespace_, job.name) = k
  owned : ∀ k job, w.jobs.lookup k = some job → Owned w k

/-- Two tasks with one job are one task. -/
theorem stateKey_eq_of_jobKey {t t' : EtcdCopyBackupsTask} (h : jobKey t = jobKey t') :
    (t.namespace_, t.name) = (t'.namespace_, t'.name) := by
  simp only [jobKey, EtcdCopyBackupsTask.getJobName, Prod.mk.injEq] at h
  exact Prod.ext h.1 (Go.append_right_cancel h.2)

section Invariant

variable {w : World} {k : String × String} {o : TaskObject}

theorem taskKey_eq (hi : Inv w) (hk : w.tasks.lookup k = some o) : taskKey o = k :=
  hi.tasksKeyed k o hk

/-- A patch of a task's finalizers keeps the invariant when the finalizer stays,
or the task has no job. -/
theorem Inv.patchTaskFinalizers {fs : List String} (hi : Inv w) (hk : w.tasks.lookup k = some o)
    (h : finalizerName ∈ o.metadata.finalizers →
      finalizerName ∈ fs ∨ w.jobs.lookup (jobKey o.val.task) = none) :
    Inv (w.patchTaskFinalizers k fs) where
  tasksKeyed := hi.tasksKeyed.patchFinalizers k
  jobsKeyed := hi.jobsKeyed
  owned k' job hjob := by
    change w.jobs.lookup k' = some job at hjob
    obtain ⟨tk, hholds⟩ := hi.owned k' job hjob
    refine ⟨tk, hholds.patchFinalizers fun htk => ?_⟩
    -- the patched task owns the job, so it keeps the finalizer
    subst htk
    obtain ⟨o', hk', hf, hkey⟩ := hholds
    rw [hk, Option.some.injEq] at hk'
    subst hk'
    rcases h hf with hmem | hnone
    · exact hmem
    · rw [hkey, hjob] at hnone
      cases hnone

theorem Inv.patchTaskStatus (hi : Inv w) (k : String × String) (status : EtcdCopyBackupsTaskStatus) :
    Inv (w.patchTaskStatus k status) where
  tasksKeyed := hi.tasksKeyed.patch k fun _ => rfl
  jobsKeyed := hi.jobsKeyed
  owned k' job hjob := by
    obtain ⟨tk, hholds⟩ := hi.owned k' job hjob
    exact ⟨tk, hholds.patch k fun _ h => h⟩

/-- A job stored over one under the same key keeps the invariant. -/
theorem Inv.replaceJob {job job' : Job} (hi : Inv w) (hk : w.jobs.lookup k = some job)
    (hkey : (job'.namespace_, job'.name) = (job.namespace_, job.name)) :
    Inv { w with jobs := w.jobs.insert k job' } where
  tasksKeyed := hi.tasksKeyed
  jobsKeyed k' job'' hjob := by
    by_cases hk' : k' = k
    · subst hk'
      rw [AList.lookup_insert, Option.some.injEq] at hjob
      subst hjob
      exact hkey.trans (hi.jobsKeyed k' job hk)
    · exact hi.jobsKeyed k' job'' ((AList.lookup_insert_ne hk').symm.trans hjob)
  owned k' job'' hjob := by
    by_cases hk' : k' = k
    · subst hk'
      exact hi.owned k' job hk
    · exact hi.owned k' job'' ((AList.lookup_insert_ne hk').symm.trans hjob)

theorem Inv.eraseJob (hi : Inv w) (k : String × String) : Inv { w with jobs := w.jobs.erase k } where
  tasksKeyed := hi.tasksKeyed
  jobsKeyed k' job hjob := by
    by_cases hk' : k' = k
    · subst hk'
      rw [AList.lookup_erase] at hjob
      cases hjob
    · exact hi.jobsKeyed k' job ((AList.lookup_erase_ne hk').symm.trans hjob)
  owned k' job hjob := by
    by_cases hk' : k' = k
    · subst hk'
      rw [AList.lookup_erase] at hjob
      cases hjob
    · exact hi.owned k' job ((AList.lookup_erase_ne hk').symm.trans hjob)

theorem Inv.deleteJob {job : Job} (hi : Inv w) (hk : w.jobs.lookup k = some job) (now : Int) :
    Inv (w.deleteJob job now) := by
  rw [World.deleteJob, hi.jobsKeyed k job hk]
  exact hi.replaceJob hk rfl

/-- A job created for a task that holds the finalizer keeps the invariant. -/
theorem Inv.createJob {job : Job} {tk : String × String} (hi : Inv w)
    (hholds : Kube.Holds w.tasks tk finalizerName fun s => jobKey s.task = (job.namespace_, job.name)) :
    Inv (w.createJob job) where
  tasksKeyed := hi.tasksKeyed
  jobsKeyed k' job' hjob := by
    by_cases hk' : k' = (job.namespace_, job.name)
    · subst hk'
      rw [World.createJob, AList.lookup_insert, Option.some.injEq] at hjob
      subst hjob
      rfl
    · exact hi.jobsKeyed k' job' ((AList.lookup_insert_ne hk').symm.trans hjob)
  owned k' job' hjob := by
    by_cases hk' : k' = (job.namespace_, job.name)
    · subst hk'
      exact ⟨tk, hholds⟩
    · exact hi.owned k' job' ((AList.lookup_insert_ne hk').symm.trans hjob)

end Invariant

/-! ## What a reconcile writes -/

section Spec

variable {r : Reconciler} {w w' : World} {k : String × String} {o : TaskObject}

theorem addTaskFinalizer_jobs (o : TaskObject) (w : World) : (addTaskFinalizer o w).jobs = w.jobs := by
  unfold addTaskFinalizer
  split_ifs <;> rfl

theorem Inv.addTaskFinalizer (hi : Inv w) (hk : w.tasks.lookup k = some o) :
    Inv (addTaskFinalizer o w) := by
  unfold CopyBackupsTask.addTaskFinalizer
  split_ifs
  · exact hi
  · rw [taskKey_eq hi hk]
    exact hi.patchTaskFinalizers hk fun hf => .inl (Kube.mem_addFinalizer.mpr (.inl hf))

/-- After `addTaskFinalizer` a task that is not being deleted holds the finalizer. -/
theorem holds_addTaskFinalizer (hi : Inv w) (hk : w.tasks.lookup k = some o)
    (hd : o.metadata.deletionTimestamp = none) :
    Kube.Holds (addTaskFinalizer o w).tasks k finalizerName (· = o.val) := by
  unfold addTaskFinalizer
  split_ifs with hc
  · exact ⟨o, hk, Kube.containsFinalizer_iff.mp hc, rfl⟩
  · rw [taskKey_eq hi hk]
    refine ⟨_, (Kube.lookup_patchFinalizers_self hk).trans (if_neg ?_), ?_, rfl⟩
    · simp [hd]
    · exact Kube.mem_addFinalizer.mpr (.inr rfl)

theorem jobObject_eq_ok {task : EtcdCopyBackupsTask} {job : Job} (h : jobObject r task = .ok job) :
    ∃ template, createJobObject r.getSecret task = .ok template ∧ job = newJob task template := by
  unfold jobObject at h
  split at h
  · cases h
  · obtain ⟨template, ht, h⟩ := Go.bind_eq_ok.mp h
    exact ⟨template, ht, (Go.pure_eq_ok.mp h).symm⟩

/-- The job built for a task is stored under the task's job key. -/
theorem lookup_createJob_newJob (w : World) (task : EtcdCopyBackupsTask) (template : PodSpec) :
    (w.createJob (newJob task template)).jobs.lookup (jobKey task) = some (newJob task template) :=
  AList.lookup_insert _

/-- `doReconcile` creates the job when there is none and it can be built; the
status it returns is that of the job stored after it. -/
theorem doReconcile_eq_ok {status : EtcdCopyBackupsTaskStatus} {err : Option String}
    (h : doReconcile r o w = .ok (status, err, w')) :
    status = setStatusDetails o.val.status o.metadata.generation (w'.jobs.lookup (jobKey o.val.task)) err ∧
      (w' = w ∨ ∃ job, w.jobs.lookup (jobKey o.val.task) = none ∧ jobObject r o.val.task = .ok job ∧
        w' = w.createJob job) ∧
      (err = none ↔ (w'.jobs.lookup (jobKey o.val.task)).isSome) := by
  unfold doReconcile at h
  split at h
  · next job hjob =>
    simp only [Go.pure_eq_ok, Prod.mk.injEq] at h
    obtain ⟨rfl, rfl, rfl⟩ := h
    exact ⟨by rw [hjob], .inl rfl, by simp [hjob]⟩
  · next hnone =>
    split at h
    · cases h
    · -- the job cannot be built: the error is the status's, and there is no job
      simp only [Go.pure_eq_ok, Prod.mk.injEq] at h
      obtain ⟨rfl, rfl, rfl⟩ := h
      exact ⟨by rw [hnone], .inl rfl, by simp [hnone]⟩
    · next job hjob =>
      simp only [Go.pure_eq_ok, Prod.mk.injEq] at h
      obtain ⟨rfl, rfl, rfl⟩ := h
      obtain ⟨template, -, rfl⟩ := jobObject_eq_ok hjob
      exact ⟨by rw [lookup_createJob_newJob], .inr ⟨_, hnone, hjob, rfl⟩, by simp [lookup_createJob_newJob]⟩

/-- `doReconcile` panics only in `createJobObject`, so only when there is no job. -/
theorem doReconcile_eq_error {p : Go.Failure} (h : doReconcile r o w = .error p) :
    p = .nilPointerDereference ∧ w.jobs.lookup (jobKey o.val.task) = none := by
  unfold doReconcile at h
  split at h
  · cases h
  · next hnone =>
    split at h
    · cases h
      exact ⟨rfl, hnone⟩
    · cases h
    · cases h

/-- The step lemma of the reconcile of a task that is not being deleted. -/
theorem Inv.reconcileTask (hi : Inv w) (hk : w.tasks.lookup k = some o)
    (hd : o.metadata.deletionTimestamp = none) : Inv (reconcileTask r o w).world := by
  have h1 := hi.addTaskFinalizer hk
  unfold CopyBackupsTask.reconcileTask
  dsimp only
  split
  · exact h1
  · next status err w' h =>
    refine Inv.patchTaskStatus ?_ _ _
    rcases (doReconcile_eq_ok h).2.1 with rfl | ⟨job, -, hjob, rfl⟩
    · exact h1
    · obtain ⟨template, -, rfl⟩ := jobObject_eq_ok hjob
      exact h1.createJob ((holds_addTaskFinalizer hi hk hd).mono fun s hs => by rw [hs]; rfl)

/-- The step lemma of the reconcile of a task being deleted. -/
theorem Inv.deleteTask (hi : Inv w) (hk : w.tasks.lookup k = some o) (now : Int) :
    Inv (deleteTask now o w).world := by
  unfold CopyBackupsTask.deleteTask
  split_ifs
  · exact hi
  · split
    · next hnone =>
      rw [taskKey_eq hi hk]
      exact hi.patchTaskFinalizers hk fun _ => .inr hnone
    · next job hjob =>
      refine Inv.patchTaskStatus ?_ _ _
      split_ifs
      · exact hi.deleteJob hjob now
      · exact hi

theorem Inv.reconcile (hi : Inv w) (now : Int) (req : NamespacedName) :
    Inv (reconcile r now req w).world := by
  unfold CopyBackupsTask.reconcile
  split
  · exact hi
  · next o hk =>
    split_ifs with hd
    · exact hi.deleteTask hk now
    · exact hi.reconcileTask hk (Option.not_isSome_iff_eq_none.mp hd)

theorem reconcile_of_lookup {req : NamespacedName} (hk : w.tasks.lookup (req.namespace_, req.name) = some o)
    (now : Int) : reconcile r now req w =
      if o.metadata.deletionTimestamp.isSome then deleteTask now o w else reconcileTask r o w := by
  unfold CopyBackupsTask.reconcile
  rw [hk]

/-- Without its job, the reconcile of a task being deleted only drops the finalizer. -/
theorem deleteTask_of_lookup_none (hf : finalizerName ∈ o.metadata.finalizers)
    (hnone : w.jobs.lookup (jobKey o.val.task) = none) (now : Int) :
    (deleteTask now o w).world =
      w.patchTaskFinalizers (taskKey o) (Kube.removeFinalizer o.metadata.finalizers finalizerName) := by
  have hc := Kube.containsFinalizer_iff.mpr hf
  simp only [CopyBackupsTask.deleteTask, hc, Bool.not_true, Bool.false_eq_true, if_false, hnone]

/-- With its job, it marks the job, once, and writes the status. -/
theorem deleteTask_of_lookup_some {job : Job} (hf : finalizerName ∈ o.metadata.finalizers)
    (hjob : w.jobs.lookup (jobKey o.val.task) = some job) (now : Int) :
    (deleteTask now o w).world =
      (if job.deletionTimestamp.isNone then w.deleteJob job now else w).patchTaskStatus (taskKey o)
        (setStatusDetails o.val.status o.metadata.generation (some job) none) := by
  have hc := Kube.containsFinalizer_iff.mpr hf
  simp only [CopyBackupsTask.deleteTask, hc, Bool.not_true, Bool.false_eq_true, if_false, hjob]

/-- After the reconcile of a task being deleted, its job is marked for deletion. -/
theorem deleteTask_marks_job {job : Job} (hi : Inv w) (hf : finalizerName ∈ o.metadata.finalizers)
    (hjob : w.jobs.lookup (jobKey o.val.task) = some job) (now : Int) :
    ∃ job', (deleteTask now o w).world.jobs.lookup (jobKey o.val.task) = some job' ∧
      job'.deletionTimestamp.isSome := by
  rw [deleteTask_of_lookup_some hf hjob]
  split_ifs with hnew
  · -- the job is stored under its own key, which is the task's job key
    refine ⟨{ job with deletionTimestamp := some now }, ?_, rfl⟩
    change (w.jobs.insert (job.namespace_, job.name) _).lookup _ = _
    rw [hi.jobsKeyed _ job hjob]
    exact AList.lookup_insert _
  · exact ⟨job, hjob, Option.isSome_iff_ne_none.mpr (by simpa using hnew)⟩

/-- ... and the task keeps its metadata, with the status written. -/
theorem lookup_deleteTask_of_lookup_some {job : Job} (hi : Inv w) (hk : w.tasks.lookup k = some o)
    (hf : finalizerName ∈ o.metadata.finalizers) (hjob : w.jobs.lookup (jobKey o.val.task) = some job)
    (now : Int) :
    (deleteTask now o w).world.tasks.lookup k = some { o with val := { o.val with
      status := setStatusDetails o.val.status o.metadata.generation (some job) none } } := by
  rw [deleteTask_of_lookup_some hf hjob, taskKey_eq hi hk]
  have htasks : (if job.deletionTimestamp.isNone then w.deleteJob job now else w).tasks = w.tasks := by
    split_ifs <;> rfl
  rw [← htasks] at hk
  exact Kube.lookup_patch_self hk

/-- The last reconcile of a task being deleted: with its job gone, the finalizer goes. -/
theorem reconcile_releases_finalizer (hi : Inv w) {req : NamespacedName}
    (hk : w.tasks.lookup (req.namespace_, req.name) = some o) (hd : o.metadata.deletionTimestamp.isSome)
    (hf : finalizerName ∈ o.metadata.finalizers) (hnone : w.jobs.lookup (jobKey o.val.task) = none)
    (now : Int) {o' : TaskObject}
    (h : (reconcile r now req w).world.tasks.lookup (req.namespace_, req.name) = some o') :
    finalizerName ∉ o'.metadata.finalizers := by
  rw [reconcile_of_lookup hk, if_pos hd, deleteTask_of_lookup_none hf hnone, taskKey_eq hi hk] at h
  rw [Kube.finalizers_of_lookup_patchFinalizers h, Kube.mem_removeFinalizer]
  exact fun h => h.2 rfl

end Spec

/-! ## Runs -/

section Runs

variable {r : Reconciler} {w w' : World}

/-- An event that writes only the tasks keeps the invariant when it keeps them
keyed and every task that holds the finalizer. -/
theorem Inv.of_tasks {tasks : Go.Map (String × String) TaskObject} (hi : Inv w)
    (hkeyed : Kube.Keyed stateKey tasks)
    (hholds : ∀ tk k, Kube.Holds w.tasks tk finalizerName (fun s => jobKey s.task = k) →
      Kube.Holds tasks tk finalizerName fun s => jobKey s.task = k) :
    Inv { w with tasks := tasks } where
  tasksKeyed := hkeyed
  jobsKeyed := hi.jobsKeyed
  owned k job hjob := by
    obtain ⟨tk, hholds'⟩ := hi.owned k job hjob
    exact ⟨tk, hholds tk k hholds'⟩

/-- The step lemma of the cluster: no event breaks the invariant. -/
theorem Inv.apply (hi : Inv w) (e : Event) : Inv (e.apply w) := by
  cases e with
  | createTask task =>
    exact hi.of_tasks (hi.tasksKeyed.create ⟨task, ⟨[], none, none⟩⟩) fun tk k h => h.create _
  | updateSpec k spec =>
    exact hi.of_tasks (hi.tasksKeyed.patchSpec k fun _ => rfl) fun tk k' h => h.patchSpec k fun _ h => h
  | deleteTask k t =>
    exact hi.of_tasks (hi.tasksKeyed.delete k t) fun tk k' h => h.delete k t
  | addFinalizer k f =>
    simp only [Event.apply]
    split
    · next o hk =>
      split_ifs
      · exact hi
      · exact hi.patchTaskFinalizers hk fun hf => .inl (Kube.mem_addFinalizer.mpr (.inl hf))
    · exact hi
  | removeFinalizer k f =>
    simp only [Event.apply]
    split
    · next o hk =>
      split_ifs with hf
      · exact hi
      · exact hi.patchTaskFinalizers hk fun hmem =>
          .inl (Kube.mem_removeFinalizer.mpr ⟨hmem, Ne.symm hf⟩)
    · exact hi
  | setJobConditions k conditions =>
    simp only [Event.apply]
    split
    · next job hjob => exact hi.replaceJob hjob rfl
    · exact hi
  | deleteJob k t =>
    simp only [Event.apply]
    split
    · next job hjob =>
      split_ifs
      · exact hi.replaceJob hjob rfl
      · exact hi
    · exact hi
  | collectJob k =>
    simp only [Event.apply]
    split
    · next job hjob =>
      split_ifs
      · exact hi.eraseJob k
      · exact hi
    · exact hi

theorem Inv.step (hi : Inv w) (h : Step r w w') : Inv w' := by
  cases h with
  | reconcile now req => exact hi.reconcile now req
  | event e => exact hi.apply e

/-- The run lemma. -/
theorem inv_of_reachable {w₀ : World} (h₀ : Inv w₀) (h : Reachable r w₀ w) : Inv w := by
  induction h with
  | refl => exact h₀
  | tail _ hstep ih => exact ih.step hstep

/-- A task is never removed while its job exists: its job would have no task. -/
theorem task_removed_without_job (hi : Inv w) (h : Step r w w') {tk : String × String}
    {o : TaskObject} (hk : w.tasks.lookup tk = some o) (hgone : w'.tasks.lookup tk = none) :
    w'.jobs.lookup (jobKey o.val.task) = none := by
  have hi' := hi.step h
  by_contra hjob
  obtain ⟨job, hjob⟩ := Option.ne_none_iff_exists'.mp hjob
  obtain ⟨tk', o', hk', -, hkey⟩ := hi'.owned _ job hjob
  -- the owner has the task's namespace and name, so it is stored under its key
  have htk : tk' = tk := by
    rw [← hi'.tasksKeyed tk' o' hk', ← hi.tasksKeyed tk o hk]
    exact stateKey_eq_of_jobKey hkey
  rw [htk, hgone] at hk'
  cases hk'

theorem inv_init : Inv World.init where
  tasksKeyed k o h := by simp [World.init] at h
  jobsKeyed k job h := by simp [World.init] at h
  owned k job h := by simp [World.init] at h

/-- The garbage collector removes a marked job. -/
theorem collectJob_apply {k : String × String} {job : Job} (hjob : w.jobs.lookup k = some job)
    (hd : job.deletionTimestamp.isSome) : (Event.collectJob k).apply w = { w with jobs := w.jobs.erase k } := by
  simp only [Event.apply, hjob, hd, if_true]

/-- A fresh cluster with one task. -/
def s3ToGcsCluster : World := (Event.createTask s3ToGcsTask).apply World.init

/-- A reconciler that finds its image and reads empty secrets. -/
def readyReconciler : Reconciler := ⟨fun _ _ => .ok ∅, .ok "etcdbrctl"⟩

/-- `s3ToGcsCluster` after the reconcile that created the task's job. -/
def jobCluster : World :=
  (reconcile readyReconciler 0 ⟨s3ToGcsTask.namespace_, s3ToGcsTask.name⟩ s3ToGcsCluster).world

/-- In every world the cluster reaches, every job belongs to a stored task that
holds the finalizer, and no step removes a task whose job still exists. -/
theorem jobs_owned_of_reachable (h : Reachable r World.init w) :
    (∀ k job, w.jobs.lookup k = some job → ∃ tk o, w.tasks.lookup tk = some o ∧
      finalizerName ∈ o.metadata.finalizers ∧ jobKey o.val.task = k) ∧
    (∀ w' tk o, Step r w w' → w.tasks.lookup tk = some o → w'.tasks.lookup tk = none →
      w'.jobs.lookup (jobKey o.val.task) = none) := by
  have hi := inv_of_reachable inv_init h
  refine ⟨fun k job hjob => ?_, fun w' tk o hstep hk hgone => task_removed_without_job hi hstep hk hgone⟩
  obtain ⟨tk, o, hk, hf, hkey⟩ := hi.owned k job hjob
  exact ⟨tk, o, hk, hf, hkey⟩

theorem jobs_owned_of_reachable_job :
    (jobCluster.jobs.lookup (jobKey s3ToGcsTask)).isSome ∧
      ∃ tk o, jobCluster.tasks.lookup tk = some o ∧ finalizerName ∈ o.metadata.finalizers ∧
        jobKey o.val.task = jobKey s3ToGcsTask := by
  have h : Reachable readyReconciler World.init jobCluster := .tail (.single (.event _ _)) (.reconcile _ _ _)
  obtain ⟨job, hjob⟩ : ∃ job, jobCluster.jobs.lookup (jobKey s3ToGcsTask) = some job := ⟨_, rfl⟩
  exact ⟨by rw [hjob]; rfl, (jobs_owned_of_reachable h).1 _ job hjob⟩

/-- The controller and the garbage collector can always release the finalizer of
a task being deleted: a reconcile marks its job, the collector removes the job,
and the next reconcile drops the finalizer. -/
theorem exists_run_finalizer_removed (hi : Inv w) (req : NamespacedName) {o : TaskObject}
    (hk : w.tasks.lookup (req.namespace_, req.name) = some o) (hd : o.metadata.deletionTimestamp.isSome)
    (now : Int) :
    ∃ w', Reachable r w w' ∧ ∀ o', w'.tasks.lookup (req.namespace_, req.name) = some o' →
      finalizerName ∉ o'.metadata.finalizers := by
  by_cases hf : finalizerName ∈ o.metadata.finalizers
  swap
  · refine ⟨w, .refl, fun o' h => ?_⟩
    rw [hk, Option.some.injEq] at h
    rwa [← h]
  cases hjob : w.jobs.lookup (jobKey o.val.task) with
  | none => exact ⟨_, .single (.reconcile w now req), fun o' => reconcile_releases_finalizer hi hk hd hf hjob now⟩
  | some job =>
    -- the first reconcile marks the job and writes the status
    have hw₁ : (reconcile r now req w).world = (deleteTask now o w).world := by
      rw [reconcile_of_lookup hk, if_pos hd]
    obtain ⟨job', hjob', hmarked⟩ := deleteTask_marks_job hi hf hjob now
    have hk₁ := lookup_deleteTask_of_lookup_some hi hk hf hjob now
    rw [← hw₁] at hjob' hk₁
    -- the garbage collector removes the job
    have hw₂ := collectJob_apply hjob' hmarked
    have hi₂ : Inv ((Event.collectJob (jobKey o.val.task)).apply (reconcile r now req w).world) :=
      (hi.reconcile now req).apply _
    rw [hw₂] at hi₂
    have hrun : Reachable r w { (reconcile r now req w).world with
        jobs := (reconcile r now req w).world.jobs.erase (jobKey o.val.task) } := by
      rw [← hw₂]
      exact (Relation.ReflTransGen.single (.reconcile w now req)).tail (.event _ _)
    -- and the second reconcile finds no job
    exact ⟨_, hrun.tail (.reconcile _ now req),
      fun o' => reconcile_releases_finalizer hi₂ hk₁ hd hf (AList.lookup_erase _ _) now⟩

/-- A reconciler whose image vector lacks the backup-restore image. -/
def imagelessReconciler : Reconciler := ⟨noSecrets, .error "image etcd-backup-restore not found"⟩

/-- The task of `s3ToGcsCluster`, reconciled without an image and then deleted. -/
def deletingCluster : World :=
  (Event.deleteTask (s3ToGcsTask.namespace_, s3ToGcsTask.name) 5).apply
    (reconcile imagelessReconciler 0 ⟨s3ToGcsTask.namespace_, s3ToGcsTask.name⟩ s3ToGcsCluster).world

theorem exists_run_finalizer_removed_sample :
    Inv deletingCluster ∧
    deletingCluster.tasks.lookup (s3ToGcsTask.namespace_, s3ToGcsTask.name) =
      some ⟨⟨1, [finalizerName], some 5⟩, ⟨s3ToGcsTask, ⟨[], some 1, some "image etcd-backup-restore not found"⟩⟩⟩ ∧
    ∃ w', Reachable imagelessReconciler deletingCluster w' ∧
      ∀ o', w'.tasks.lookup (s3ToGcsTask.namespace_, s3ToGcsTask.name) = some o' →
        finalizerName ∉ o'.metadata.finalizers := by
  have hi : Inv deletingCluster := ((inv_init.apply _).reconcile 0 _).apply _
  have hk : deletingCluster.tasks.lookup (s3ToGcsTask.namespace_, s3ToGcsTask.name) =
      some ⟨⟨1, [finalizerName], some 5⟩, ⟨s3ToGcsTask, ⟨[], some 1, some "image etcd-backup-restore not found"⟩⟩⟩ :=
    rfl
  exact ⟨hi, hk, exists_run_finalizer_removed hi ⟨s3ToGcsTask.namespace_, s3ToGcsTask.name⟩ hk rfl 0⟩

end Runs

/-! ## What a reconcile writes, over the whole reconcile -/

section Status

variable {w : World} {o : TaskObject}

/-- The reconcile of a task that is not being deleted leaves it holding the
finalizer.  A panic writes nothing more, and there is no job; otherwise the
status has the generation, the conditions of the stored job and the error, which
`Reconcile` returns, and there is an error exactly when there is no job. -/
theorem reconcile_status (r : Reconciler) (hi : Inv w) (req : NamespacedName)
    (hk : w.tasks.lookup (req.namespace_, req.name) = some o)
    (hd : o.metadata.deletionTimestamp = none) (now : Int) :
    ∃ o', (reconcile r now req w).world.tasks.lookup (req.namespace_, req.name) = some o' ∧
      finalizerName ∈ o'.metadata.finalizers ∧ o'.val.task = o.val.task ∧
      (((reconcile r now req w).ret = .error .nilPointerDereference ∧
          (reconcile r now req w).world.jobs.lookup (jobKey o.val.task) = none ∧
          o'.val.status = o.val.status) ∨
        ∃ err, (reconcile r now req w).ret = .ok (err.map ("could not reconcile creation or update: " ++ ·)) ∧
          o'.val.status = setStatusDetails o.val.status o.metadata.generation
            ((reconcile r now req w).world.jobs.lookup (jobKey o.val.task)) err ∧
          (err = none ↔ ((reconcile r now req w).world.jobs.lookup (jobKey o.val.task)).isSome)) := by
  rw [reconcile_of_lookup hk, if_neg (by simp [hd])]
  obtain ⟨o₁, hk₁, hf₁, hv₁⟩ := holds_addTaskFinalizer hi hk hd
  have htask : o₁.val.task = o.val.task := congrArg TaskState.task hv₁
  unfold CopyBackupsTask.reconcileTask
  dsimp only
  split
  · next p h =>
    -- the panic unwinds after the finalizer was added
    obtain ⟨rfl, hnone⟩ := doReconcile_eq_error h
    exact ⟨o₁, hk₁, hf₁, htask, .inl ⟨rfl, hnone, congrArg TaskState.status hv₁⟩⟩
  · next status err w' h =>
    obtain ⟨hstatus, hw', hiff⟩ := doReconcile_eq_ok h
    -- creating the job does not touch the tasks
    have htasks : w'.tasks = (addTaskFinalizer o w).tasks := by
      rcases hw' with rfl | ⟨job, -, -, rfl⟩ <;> rfl
    rw [← htasks] at hk₁
    rw [taskKey_eq hi hk]
    exact ⟨_, Kube.lookup_patch_self hk₁, hf₁, htask, .inr ⟨err, rfl, hstatus, hiff⟩⟩

theorem reconcile_status_s3ToGcs :
    Inv s3ToGcsCluster ∧
    s3ToGcsCluster.tasks.lookup (s3ToGcsTask.namespace_, s3ToGcsTask.name) =
      some ⟨⟨1, [], none⟩, ⟨s3ToGcsTask, ⟨[], none, none⟩⟩⟩ ∧
    ∃ o', (reconcile imagelessReconciler 0 ⟨s3ToGcsTask.namespace_, s3ToGcsTask.name⟩ s3ToGcsCluster).world.tasks.lookup
      (s3ToGcsTask.namespace_, s3ToGcsTask.name) = some o' ∧ finalizerName ∈ o'.metadata.finalizers := by
  have hi : Inv s3ToGcsCluster := inv_init.apply _
  have hk : s3ToGcsCluster.tasks.lookup (s3ToGcsTask.namespace_, s3ToGcsTask.name) =
      some ⟨⟨1, [], none⟩, ⟨s3ToGcsTask, ⟨[], none, none⟩⟩⟩ := rfl
  obtain ⟨o', hk', hf', -⟩ := reconcile_status imagelessReconciler hi ⟨s3ToGcsTask.namespace_, s3ToGcsTask.name⟩ hk rfl 0
  exact ⟨hi, hk, o', hk', hf'⟩

end Status

end CopyBackupsTask
end EtcdDruid
