import EtcdDruid.Health.EtcdMember

/-!
# Condition health: `pkg/health/condition`

**Checks.**  Three checks read an Etcd and report one condition each:

* `allMembersReady`: `Unknown` without members, `False` while fewer members
  than replicas are registered or some member is not `Ready`, else `True`;
* `readyCheck`: `Unknown` without members, else `True` iff at least
  `size / 2 + 1` members are not `NotReady` (the quorum);
* `backupReadyCheck`: no condition (`nil`) without a backup provider; else a
  verdict from the full and delta snapshot leases, which it fetches, their
  renew times and `DeltaSnapshotPeriod`.  The period is a pointer that is
  dereferenced without a `nil` check, so the check can panic.

**Builder.**  `defaultBuilder.Build(replicas)` merges the old conditions with
the results, both keyed by type.  A result's condition keeps the old
`LastTransitionTime` unless the status differs from the result's; with
`replicas = 0` it keeps the old status (or `Unknown`).  Old conditions without
a result are kept, except the three types the checks own.  The list is sorted
by type.

**Results.**
* `foldl_mergeStep`: the loop over the results computes every merged condition
  against the old map as it was before the loop.
* `mem_build_of_result`, `exists_mem_build_of_result`: a type with a result
  occurs in the output, and only as its merged condition.
-/

namespace EtcdDruid
namespace Condition

/-- `result`. -/
structure Result where
  conType : String
  status : ConditionStatus
  reason : String
  message : String
  deriving DecidableEq, Repr

def backupSucceeded : String := "BackupSucceeded"
def backupFailed : String := "BackupFailed"
def unknown : String := "Unknown"
def conditionNotChecked : String := "ConditionNotChecked"

/-! ## The checks -/

/-- `allMembersReady.Check`. -/
def allMembersReady (etcd : Etcd) : Result :=
  let members := etcd.status.members
  if members.length = 0 then
    ⟨conditionTypeAllMembersReady, .conditionUnknown, "NoMembersInStatus",
      "Cannot determine readiness since status has no members"⟩
  else
    let notAll : Result := ⟨conditionTypeAllMembersReady, .conditionFalse, "NotAllMembersReady",
      "At least one member is not ready"⟩
    -- `int32(len(members))`: not all members are registered yet
    if Int32.ofNat members.length < etcd.spec.replicas then notAll
    else if members.all (·.status = .etcdMemberStatusReady) then
      ⟨conditionTypeAllMembersReady, .conditionTrue, "AllMembersReady", "All members are ready"⟩
    else notAll

/-- `readyCheck.Check`. -/
def readyCheck (etcd : Etcd) : Result :=
  let members := etcd.status.members
  if members.length = 0 then
    ⟨conditionTypeReady, .conditionUnknown, "NoMembersInStatus",
      "Cannot determine readiness since status has no members"⟩
  else
    let quorum := members.length / 2 + 1
    let readyMembers := members.countP (·.status ≠ .etcdMemberStatusNotReady)
    if readyMembers < quorum then
      ⟨conditionTypeReady, .conditionFalse, "QuorumLost", "The majority of ETCD members is not ready"⟩
    else
      ⟨conditionTypeReady, .conditionTrue, "Quorate", "The majority of ETCD members is ready"⟩

/-- `client.Get` of a lease, by namespace and name: the lease or an error. -/
abbrev LeaseGetter := String → String → Except Go.Failure Lease

/-- The loop variable after
`for _, c = range conds { if c.Type == t { break } }`: the first condition of
type `t`, else the last condition; `none` stands for the zero `Condition`. -/
def rangeUntilType (t : String) : List Condition → Option Condition
  | [] => none
  | [c] => some c
  | c :: cs => if c.type = t then some c else rangeUntilType t cs

/-- `24 * time.Hour`. -/
def day : Int := 24 * 3600 * 1000000000

/-- The end of `backupReadyCheck.Check` once the leases show no fresh backup:
`False` on stale leases if the previous condition was `Unknown` or `False`. -/
def staleVerdict (etcd : Etcd) (now : Int) (deltaRenew : Option Int) (result : Result) :
    Except Go.Failure Result :=
  if etcd.status.conditions = [] then .ok result
  else
    let prev := (rangeUntilType conditionTypeBackupReady etcd.status.conditions).map (·.status)
    match deltaRenew with
    | some delta =>
        if prev = some .conditionUnknown ∨ prev = some .conditionFalse then do
          let period ← Go.deref etcd.spec.backup.deltaSnapshotPeriod
          if now - delta > 3 * period then
            pure { result with status := .conditionFalse, reason := backupFailed,
                               message := "Stale snapshot leases. Not renewed in a long time" }
          else pure result
        else .ok result
    | none => .ok result

/-- `backupReadyCheck.Check`; `now` is the clock behind `time.Since`. -/
def backupReadyCheck (getLease : LeaseGetter) (now : Int) (etcd : Etcd) :
    Except Go.Failure (Option Result) :=
  let result : Result :=
    ⟨conditionTypeBackupReady, .conditionUnknown, unknown, "Cannot determine etcd backup status"⟩
  match etcd.spec.backup.store.bind (·.provider) with
  | none | some "" => .ok none
  | some _ =>
      match getLease etcd.namespace_ etcd.getFullSnapshotLeaseName,
        getLease etcd.namespace_ etcd.getDeltaSnapshotLeaseName with
      | .ok full, .ok delta =>
          match full.renewTime, delta.renewTime with
          | none, none => .ok (some result)
          | none, some d => do
              let period ← Go.deref etcd.spec.backup.deltaSnapshotPeriod
              if now - d < 2 * period ∧ now - full.creationTimestamp < day then
                pure (some { result with status := .conditionTrue, reason := backupSucceeded,
                                         message := "Delta snapshot backup succeeded" })
              else some <$> staleVerdict etcd now (some d) result
          | some f, none => do
              let period ← Go.deref etcd.spec.backup.deltaSnapshotPeriod
              if now - f > 5 * period then
                pure (some { result with message := "Periodic delta snapshots not started yet" })
              else some <$> staleVerdict etcd now none result
          | some f, some d => do
              let period ← Go.deref etcd.spec.backup.deltaSnapshotPeriod
              if now - d < 2 * period ∧ now - f < day then
                pure (some { result with status := .conditionTrue, reason := backupSucceeded,
                                         message := "Snapshot backup succeeded" })
              else some <$> staleVerdict etcd now (some d) result
      | _, _ => .ok (some result)

/-! ## What the checks return -/

@[simp] theorem allMembersReady_conType (etcd : Etcd) :
    (allMembersReady etcd).conType = conditionTypeAllMembersReady := by
  unfold allMembersReady
  dsimp only
  split_ifs <;> rfl

@[simp] theorem readyCheck_conType (etcd : Etcd) :
    (readyCheck etcd).conType = conditionTypeReady := by
  unfold readyCheck
  dsimp only
  split_ifs <;> rfl

/-- The status of the `Ready` check, by the member count and the quorum. -/
theorem readyCheck_status (etcd : Etcd) :
    (readyCheck etcd).status =
      if etcd.status.members = [] then .conditionUnknown
      else if etcd.status.members.length / 2 + 1 ≤
          etcd.status.members.countP (·.status ≠ .etcdMemberStatusNotReady) then .conditionTrue
      else .conditionFalse := by
  unfold readyCheck
  by_cases hnil : etcd.status.members = []
  · simp [hnil]
  · have hlen : etcd.status.members.length ≠ 0 := by simpa using hnil
    by_cases hq : etcd.status.members.length / 2 + 1 ≤
        etcd.status.members.countP (·.status ≠ .etcdMemberStatusNotReady)
    · simp only [hlen, hnil, hq, if_false, if_true, not_lt.mpr hq]
    · simp only [hlen, hnil, hq, if_false, lt_of_not_ge hq, if_true]

theorem allMembersReady_status (etcd : Etcd) :
    (allMembersReady etcd).status =
      if etcd.status.members = [] then .conditionUnknown
      else if Int32.ofNat etcd.status.members.length < etcd.spec.replicas ∨
          ¬ etcd.status.members.all (·.status = .etcdMemberStatusReady) then .conditionFalse
      else .conditionTrue := by
  unfold allMembersReady
  by_cases hnil : etcd.status.members = []
  · simp [hnil]
  · have hlen : etcd.status.members.length ≠ 0 := by simpa using hnil
    simp only [hlen, hnil, if_false]
    by_cases hreg : Int32.ofNat etcd.status.members.length < etcd.spec.replicas
    · simp [hreg]
    · by_cases hall : etcd.status.members.all (·.status = .etcdMemberStatusReady) <;>
        simp [hreg, hall]

/-- The stale verdict only ever changes a result's status, reason and message. -/
theorem staleVerdict_conType {etcd : Etcd} {now : Int} {deltaRenew : Option Int}
    {result r : Result} (h : staleVerdict etcd now deltaRenew result = .ok r) :
    r.conType = result.conType := by
  unfold staleVerdict at h
  by_cases hnil : etcd.status.conditions = []
  · rw [if_pos hnil] at h
    cases h; rfl
  · rw [if_neg hnil] at h
    cases deltaRenew with
    | none => cases h; rfl
    | some delta =>
        dsimp only at h
        split_ifs at h
        · obtain ⟨period, -, h⟩ := Go.bind_eq_ok.mp h
          split_ifs at h <;> (cases h; rfl)
        · cases h; rfl

theorem backupReadyCheck_conType {getLease : LeaseGetter} {now : Int} {etcd : Etcd}
    {r : Result} (h : backupReadyCheck getLease now etcd = .ok (some r)) :
    r.conType = conditionTypeBackupReady := by
  unfold backupReadyCheck at h
  dsimp only at h
  split at h
  · cases h
  · cases h
  · split at h
    · -- both leases were fetched: one case per pair of renew times
      split at h
      · cases h; rfl
      all_goals
        obtain ⟨period, -, h⟩ := Go.bind_eq_ok.mp h
        split_ifs at h
        · cases h; rfl
        · obtain ⟨r', hr', hsome⟩ := Go.map_eq_ok.mp h
          cases hsome
          exact staleVerdict_conType hr'
    · cases h; rfl

/-- The stale verdict panics only on a missing delta snapshot period. -/
theorem staleVerdict_eq_error {etcd : Etcd} {now : Int} {deltaRenew : Option Int}
    {result : Result} {f : Go.Failure} (h : staleVerdict etcd now deltaRenew result = .error f) :
    etcd.spec.backup.deltaSnapshotPeriod = none ∧ f = .nilPointerDereference := by
  unfold staleVerdict at h
  by_cases hnil : etcd.status.conditions = []
  · rw [if_pos hnil] at h
    cases h
  · rw [if_neg hnil] at h
    cases deltaRenew with
    | none => cases h
    | some delta =>
        dsimp only at h
        split_ifs at h
        -- the other branch returns the result unchanged
        rcases Go.bind_eq_error.mp h with hd | ⟨period, -, h⟩
        · cases hp : etcd.spec.backup.deltaSnapshotPeriod <;> simp_all [eq_comm]
        · split_ifs at h <;> exact absurd h Go.pure_ne_error

/-- The backup check panics only on a missing delta snapshot period. -/
theorem backupReadyCheck_eq_error {getLease : LeaseGetter} {now : Int} {etcd : Etcd}
    {f : Go.Failure} (h : backupReadyCheck getLease now etcd = .error f) :
    etcd.spec.backup.deltaSnapshotPeriod = none ∧ f = .nilPointerDereference := by
  -- every branch either returns or dereferences the period, possibly in `staleVerdict`
  have hderef : ∀ {g : Int → Except Go.Failure (Option Result)},
      (∀ period, etcd.spec.backup.deltaSnapshotPeriod = some period → g period ≠ .error f) →
        Go.deref etcd.spec.backup.deltaSnapshotPeriod >>= g = .error f →
        etcd.spec.backup.deltaSnapshotPeriod = none ∧ f = .nilPointerDereference := by
    intro g hg hbind
    rcases Go.bind_eq_error.mp hbind with hd | ⟨period, hp, hgp⟩
    · cases hp : etcd.spec.backup.deltaSnapshotPeriod <;> simp_all [eq_comm]
    · exact absurd hgp (hg period (Go.deref_eq_ok.mp hp))
  -- a stale verdict under a known period never panics
  have hstale : ∀ period, etcd.spec.backup.deltaSnapshotPeriod = some period →
      ∀ deltaRenew result, some <$> staleVerdict etcd now deltaRenew result ≠ .error f := by
    intro period hp deltaRenew result hs
    have := (staleVerdict_eq_error (Go.map_eq_error.mp hs)).1
    simp [hp] at this
  unfold backupReadyCheck at h
  dsimp only at h
  split at h
  · cases h
  · cases h
  · split at h
    · split at h
      · cases h
      all_goals
        refine hderef (fun period hp => ?_) h
        split_ifs
        · exact Go.pure_ne_error
        · exact hstale period hp _ _
    · cases h

/-- Conversely, the check panics whenever the period is missing while a
provider is set and one of the fetched snapshot leases has been renewed. -/
theorem backupReadyCheck_eq_error_of_renewed {getLease : LeaseGetter} {now : Int} {etcd : Etcd}
    {p : String} {full delta : Lease} (hp : etcd.spec.backup.store.bind (·.provider) = some p)
    (hne : p ≠ "") (hfull : getLease etcd.namespace_ etcd.getFullSnapshotLeaseName = .ok full)
    (hdelta : getLease etcd.namespace_ etcd.getDeltaSnapshotLeaseName = .ok delta)
    (hrenew : full.renewTime.isSome ∨ delta.renewTime.isSome)
    (hperiod : etcd.spec.backup.deltaSnapshotPeriod = none) :
    backupReadyCheck getLease now etcd = .error .nilPointerDereference := by
  unfold backupReadyCheck
  simp only [hp, hfull, hdelta, hperiod, Go.deref_none, Go.error_bind]
  -- every pair of renew times but `none, none` reads the period first
  split
  · rename_i hf hd
    simp [hf, hd] at hrenew
  all_goals rfl

/-- An Etcd backed up to `S3` every nanosecond whose only condition is a `False`
`Ready`. -/
def staleBackupEtcd : Etcd :=
  { (default : Etcd) with
    name := "etcd"
    namespace_ := "shoot"
    spec := { (default : EtcdSpec) with
      backup := { (default : BackupSpec) with
        store := some ⟨some "bucket", "etcd", some "S3", none⟩
        deltaSnapshotPeriod := some 1 } }
    status := { (default : EtcdStatus) with
      conditions := [⟨conditionTypeReady, .conditionFalse, 0, 0, "QuorumLost",
        "The majority of ETCD members is not ready"⟩] } }

/-- Snapshot leases created and last renewed at time `0`. -/
def renewedAtZero : LeaseGetter := fun namespace_ name =>
  .ok { name := name, namespace_ := namespace_, labels := ∅, ownerReferences := [],
        creationTimestamp := 0, holderIdentity := none, renewTime := some 0 }

/-- On stale leases the previous status is read from the last condition when
there is no `BackupReady` condition: a `False` `Ready` makes the backup `False`,
where the same Etcd without conditions gets `Unknown`. -/
theorem backupReadyCheck_reads_other_condition :
    (∀ c ∈ staleBackupEtcd.status.conditions, c.type ≠ conditionTypeBackupReady) ∧
    (∃ r, backupReadyCheck renewedAtZero 100 staleBackupEtcd = .ok (some r) ∧
      r.status = .conditionFalse) ∧
    ∃ r, backupReadyCheck renewedAtZero 100
        { staleBackupEtcd with status := { staleBackupEtcd.status with conditions := [] } } =
        .ok (some r) ∧ r.status = .conditionUnknown := by
  refine ⟨by simp [staleBackupEtcd, conditionTypeReady, conditionTypeBackupReady], ⟨_, rfl, rfl⟩,
    ⟨_, rfl, rfl⟩⟩

/-! ## The builder -/

/-- `skipMergeConditions`. -/
def skipMergeConditions : List String :=
  [conditionTypeReady, conditionTypeAllMembersReady, conditionTypeBackupReady]

/-- `defaultBuilder`, both maps keyed by condition type. -/
structure Builder where
  old : Go.Map String Condition
  results : Go.Map String Result
  now : Int
  old_keyed : old.Keyed (·.type)
  results_keyed : results.Keyed (·.conType)

def newBuilder (now : Int) : Builder :=
  ⟨∅, ∅, now, Go.Map.keyed_empty _, Go.Map.keyed_empty _⟩

def Builder.withOldConditions (b : Builder) (conditions : List Condition) : Builder :=
  { b with old := Go.Map.insertAll (·.type) b.old conditions
           old_keyed := Go.Map.keyed_insertAll _ _ _ b.old_keyed }

/-- `WithResults`: `nil` results are skipped. -/
def Builder.withResults (b : Builder) (results : List (Option Result)) : Builder :=
  { b with results := Go.Map.insertAll (·.conType) b.results (results.filterMap id)
           results_keyed := Go.Map.keyed_insertAll _ _ _ b.results_keyed }

def Builder.withNowFunc (b : Builder) (now : Int) : Builder := { b with now }

@[simp] theorem newBuilder_old (now : Int) : (newBuilder now).old = ∅ := rfl
@[simp] theorem newBuilder_results (now : Int) : (newBuilder now).results = ∅ := rfl
@[simp] theorem newBuilder_now (now : Int) : (newBuilder now).now = now := rfl

@[simp] theorem withNowFunc_newBuilder (now : Int) : (newBuilder now).withNowFunc now = newBuilder now :=
  rfl

@[simp] theorem withOldConditions_old (b : Builder) (conditions : List Condition) :
    (b.withOldConditions conditions).old = Go.Map.insertAll (·.type) b.old conditions :=
  rfl

@[simp] theorem withOldConditions_results (b : Builder) (conditions : List Condition) :
    (b.withOldConditions conditions).results = b.results :=
  rfl

@[simp] theorem withOldConditions_now (b : Builder) (conditions : List Condition) :
    (b.withOldConditions conditions).now = b.now :=
  rfl

@[simp] theorem withResults_old (b : Builder) (results : List (Option Result)) :
    (b.withResults results).old = b.old :=
  rfl

@[simp] theorem withResults_now (b : Builder) (results : List (Option Result)) :
    (b.withResults results).now = b.now :=
  rfl

/-- The body of the loop of `Build` over the results: the condition made of the
result `res` of type `condType`, read against the current old map `old`. -/
def mergeResult (now : Int) (old : Go.Map String Condition) (replicas : Int32)
    (condType : String) (res : Result) : Condition :=
  let condition := (old.lookup condType).getD
    { type := condType, status := .empty, lastTransitionTime := now, lastUpdateTime := 0,
      reason := "", message := "" }
  let condition :=
    if condition.status ≠ res.status then { condition with lastTransitionTime := now }
    else condition
  let condition := { condition with lastUpdateTime := now }
  if replicas = 0 then
    { condition with
      status := if condition.status = .empty then .conditionUnknown else condition.status,
      reason := conditionNotChecked,
      message := "etcd cluster has been scaled down" }
  else
    { condition with status := res.status, message := res.message, reason := res.reason }

/-- One turn of that loop: append the merged condition, delete its type from
the old map. -/
def mergeStep (now : Int) (replicas : Int32) (acc : List Condition × Go.Map String Condition)
    (e : Σ _ : String, Result) : List Condition × Go.Map String Condition :=
  (acc.1 ++ [mergeResult now acc.2 replicas e.1 e.2], acc.2.erase e.1)

/-- `Build(replicas)`, for orders of the ranges over the results and over the
old conditions left after the first loop. -/
def Builder.build (roResults : Go.RangeOrder (Σ _ : String, Result))
    (roOld : Go.RangeOrder (Σ _ : String, Condition)) (b : Builder) (replicas : Int32) :
    List Condition :=
  let (merged, old) := (roResults.order b.results.entries).foldl (mergeStep b.now replicas)
    ([], b.old)
  let kept := (roOld.order old.entries).filterMap fun e =>
    if e.2.type ∈ skipMergeConditions then none else some e.2
  Go.sortSliceBy (·.type) (merged ++ kept)

/-! ## The builder's loops -/

section Build

variable (now : Int) (replicas : Int32)

/-- The loop over distinct types merges every result against the old map as it
was before the loop, and deletes the types it met. -/
theorem foldl_mergeStep (old : Go.Map String Condition) :
    ∀ (l : List (Σ _ : String, Result)) (merged : List Condition) (cur : Go.Map String Condition),
      (l.map (·.1)).Nodup → (∀ e ∈ l, cur.lookup e.1 = old.lookup e.1) →
      l.foldl (mergeStep now replicas) (merged, cur) =
        (merged ++ l.map (fun e => mergeResult now old replicas e.1 e.2),
          l.foldl (fun m e => m.erase e.1) cur)
  | [], merged, cur, _, _ => by simp
  | e :: l, merged, cur, hn, hcur => by
      rw [List.map_cons, List.nodup_cons] at hn
      have hhead : mergeResult now cur replicas e.1 e.2 = mergeResult now old replicas e.1 e.2 := by
        simp only [mergeResult, hcur e List.mem_cons_self]
      -- after deleting `e.1` the other types still read their old values
      have hrest : ∀ e' ∈ l, (cur.erase e.1).lookup e'.1 = old.lookup e'.1 := by
        intro e' he'
        have hne : e'.1 ≠ e.1 := fun h => hn.1 (h ▸ List.mem_map_of_mem he')
        rw [AList.lookup_erase_ne hne]
        exact hcur e' (List.mem_cons_of_mem _ he')
      rw [List.foldl_cons, mergeStep, foldl_mergeStep old l _ _ hn.2 hrest, hhead]
      simp

/-- A merged condition has the type of its result when the old map is keyed. -/
theorem mergeResult_type (old : Go.Map String Condition) (hk : old.Keyed (·.type))
    (t : String) (res : Result) : (mergeResult now old replicas t res).type = t := by
  have hold : ((old.lookup t).getD
      { type := t, status := .empty, lastTransitionTime := now, lastUpdateTime := 0,
        reason := "", message := "" }).type = t := by
    cases h : old.lookup t with
    | none => rfl
    | some c => exact hk ⟨t, c⟩ (AList.mem_lookup_iff.mp h)
  unfold mergeResult
  split_ifs <;> simp only [hold, apply_ite Condition.type, ite_self]

/-- With replicas the merged condition takes the result's status. -/
theorem mergeResult_status (hr : replicas ≠ 0) (old : Go.Map String Condition) (t : String)
    (res : Result) : (mergeResult now old replicas t res).status = res.status := by
  simp [mergeResult, hr]

@[simp] theorem withResults_results (b : Builder) (results : List (Option Result)) :
    (b.withResults results).results =
      Go.Map.insertAll (·.conType) b.results (results.filterMap id) :=
  rfl

/-- Results of distinct types given to a builder without results are stored
under their types. -/
theorem lookup_withResults (b : Builder) (hb : b.results = ∅) (results : List (Option Result))
    (hn : ((results.filterMap id).map (·.conType)).Nodup) {r : Result} (hr : some r ∈ results) :
    (b.withResults results).results.lookup r.conType = some r := by
  rw [withResults_results, hb]
  exact Go.Map.lookup_insertAll_of_mem _ ∅ _ hn r (List.mem_filterMap.mpr ⟨some r, hr, rfl⟩)

variable (roResults : Go.RangeOrder (Σ _ : String, Result))
  (roOld : Go.RangeOrder (Σ _ : String, Condition))

/-- The merged part and the kept part of `Build`. -/
theorem build_eq (b : Builder) :
    b.build roResults roOld replicas = Go.sortSliceBy (·.type)
      ((roResults.order b.results.entries).map (fun e => mergeResult b.now b.old replicas e.1 e.2) ++
        (roOld.order ((roResults.order b.results.entries).foldl (fun m e => m.erase e.1)
          b.old).entries).filterMap fun e =>
            if e.2.type ∈ skipMergeConditions then none else some e.2) := by
  have hn : ((roResults.order b.results.entries).map (·.1)).Nodup :=
    ((roResults.perm _).map _).nodup_iff.mpr b.results.nodupKeys
  rw [Builder.build, foldl_mergeStep b.now replicas b.old _ [] b.old hn (fun _ _ => rfl)]
  simp

/-- A type that has a result occurs in the output only as its merged condition. -/
theorem mem_build_of_result (b : Builder) {t : String} {res : Result}
    (hres : b.results.lookup t = some res) (hskip : t ∈ skipMergeConditions) (c : Condition)
    (hc : c ∈ b.build roResults roOld replicas) (ht : c.type = t) :
    c = mergeResult b.now b.old replicas t res := by
  rw [build_eq, Go.mem_sortSliceBy, List.mem_append] at hc
  rcases hc with hc | hc
  · obtain ⟨e, he, rfl⟩ := List.mem_map.mp hc
    have he' : e ∈ b.results.entries := (roResults.perm _).mem_iff.mp he
    have hte : e.1 = t := by rw [← ht, mergeResult_type b.now replicas b.old b.old_keyed]
    obtain ⟨k, r⟩ := e
    simp only at hte
    subst hte
    have : r = res := Option.some.inj ((AList.mem_lookup_iff.mpr he').symm.trans hres)
    rw [this]
  · -- the kept old conditions never have a type the checks own
    obtain ⟨e, _, he⟩ := List.mem_filterMap.mp hc
    split_ifs at he with hs
    cases he
    exact absurd (ht ▸ hskip) hs

theorem exists_mem_build_of_result (b : Builder) {t : String} {res : Result}
    (hres : b.results.lookup t = some res) :
    mergeResult b.now b.old replicas t res ∈ b.build roResults roOld replicas := by
  rw [build_eq, Go.mem_sortSliceBy, List.mem_append]
  left
  refine List.mem_map.mpr ⟨⟨t, res⟩, (roResults.perm _).mem_iff.mpr ?_, rfl⟩
  exact AList.mem_lookup_iff.mp hres

end Build

/-! ## What `Build` emits, whatever the orders -/

/-- What `Build` emits before the sort, in the order of the stored entries: the
merged conditions, then the old conditions without a result whose type the
checks do not own. -/
def Builder.unsorted (b : Builder) (replicas : Int32) : List Condition :=
  b.results.entries.map (fun e => mergeResult b.now b.old replicas e.1 e.2) ++
    (b.old.entries.filter fun e => e.1 ∉ b.results).filterMap fun e =>
      if e.2.type ∈ skipMergeConditions then none else some e.2

section Unsorted

variable (replicas : Int32)

/-- The merged condition keeps the old transition time only when the status
did not change. -/
theorem mergeResult_lastTransitionTime (now : Int) (old : Go.Map String Condition) (t : String)
    (res : Result) :
    (mergeResult now old replicas t res).lastTransitionTime =
      match old.lookup t with
      | some o => if o.status = res.status then o.lastTransitionTime else now
      | none => now := by
  cases h : old.lookup t with
  | none => simp only [mergeResult, h]; split_ifs <;> rfl
  | some o => simp only [mergeResult, h]; split_ifs <;> simp_all

@[simp] theorem mergeResult_lastUpdateTime (now : Int) (old : Go.Map String Condition)
    (t : String) (res : Result) : (mergeResult now old replicas t res).lastUpdateTime = now := by
  unfold mergeResult
  split_ifs <;> rfl

/-- With replicas the merged condition is the result's verdict. -/
theorem mergeResult_of_ne_zero (hr : replicas ≠ 0) (now : Int) (old : Go.Map String Condition)
    (t : String) (res : Result) :
    (mergeResult now old replicas t res).status = res.status ∧
      (mergeResult now old replicas t res).reason = res.reason ∧
      (mergeResult now old replicas t res).message = res.message := by
  simp [mergeResult, hr]

/-- Scaled to zero the merged condition keeps the old status, `Unknown` for a
missing or empty one, and says it was not checked. -/
theorem mergeResult_of_eq_zero (hr : replicas = 0) (now : Int) (old : Go.Map String Condition)
    (t : String) (res : Result) :
    (mergeResult now old replicas t res).reason = conditionNotChecked ∧
      (mergeResult now old replicas t res).status =
        match old.lookup t with
        | some o => if o.status = .empty then .conditionUnknown else o.status
        | none => .conditionUnknown := by
  cases h : old.lookup t with
  | none => simp only [mergeResult, h]; split_ifs <;> simp_all
  | some o => simp only [mergeResult, h]; split_ifs <;> simp_all

/-- The entries stored under the result types are what the loop over the
results deletes from the old map. -/
theorem mem_map_order_fst (b : Builder) (ro : Go.RangeOrder (Σ _ : String, Result)) (k : String) :
    k ∈ (ro.order b.results.entries).map (fun e => e.1) ↔ k ∈ b.results := by
  rw [((ro.perm _).map _).mem_iff, AList.mem_keys]
  rfl

/-- The list `Build` sorts is a permutation of `unsorted`. -/
theorem build_perm_unsorted (roResults : Go.RangeOrder (Σ _ : String, Result))
    (roOld : Go.RangeOrder (Σ _ : String, Condition)) (b : Builder) :
    ((roResults.order b.results.entries).map (fun e => mergeResult b.now b.old replicas e.1 e.2) ++
      (roOld.order ((roResults.order b.results.entries).foldl (fun m e => m.erase e.1)
        b.old).entries).filterMap fun e =>
          if e.2.type ∈ skipMergeConditions then none else some e.2).Perm
      (b.unsorted replicas) := by
  refine ((roResults.perm _).map _).append ?_
  refine ((roOld.perm _).filterMap _).trans ?_
  refine ((Go.Map.foldl_erase_entries_perm (fun e : Σ _ : String, Result => e.1) b.old
    _).filterMap _).trans ?_
  -- deleting the ranged keys is deleting the result types
  have hdeleted : (b.old.entries.filter fun e =>
      decide (e.1 ∉ (roResults.order b.results.entries).map (fun e => e.1))) =
      b.old.entries.filter fun e => decide (e.1 ∉ b.results) :=
    List.filter_congr fun e _ => by simp only [mem_map_order_fst b roResults e.1]
  rw [hdeleted]

/-- The emitted types are distinct: the merged ones are the result types, the
kept ones old types that have no result. -/
theorem unsorted_types_nodup (b : Builder) : ((b.unsorted replicas).map (·.type)).Nodup := by
  have hmerged : ((b.results.entries.map fun e => mergeResult b.now b.old replicas e.1 e.2).map
      (·.type)) = b.results.keys := by
    rw [List.map_map, AList.keys, List.keys]
    exact List.map_congr_left fun e _ => mergeResult_type b.now replicas b.old b.old_keyed _ _
  -- a kept condition is stored under its own type, which has no result
  have hkept : ∀ c ∈ (b.old.entries.filter fun e => e.1 ∉ b.results).filterMap (fun e =>
      if e.2.type ∈ skipMergeConditions then none else some e.2),
      ∃ e ∈ b.old.entries, e.1 ∉ b.results ∧ c = e.2 ∧ c.type = e.1 := by
    intro c hc
    obtain ⟨e, he, hce⟩ := List.mem_filterMap.mp hc
    rw [List.mem_filter, decide_eq_true_iff] at he
    split_ifs at hce
    simp only [Option.some.injEq] at hce
    subst hce
    exact ⟨e, he.1, he.2, rfl, b.old_keyed e he.1⟩
  rw [Builder.unsorted, List.map_append, List.nodup_append, hmerged]
  refine ⟨b.results.keys_nodup, ?_, ?_⟩
  · refine Go.nodup_map_filterMap _ _ _ ((List.filter_sublist.map _).nodup b.old.nodupKeys) ?_
    intro e he c hc
    rw [List.mem_filter] at he
    split_ifs at hc
    · simp at hc
    · simp only [Option.mem_def, Option.some.injEq] at hc
      subst hc
      exact b.old_keyed e he.1
  · intro t ht t' ht' htt
    obtain ⟨c, hc, rfl⟩ := List.mem_map.mp ht'
    obtain ⟨e, -, he, -, hce⟩ := hkept c hc
    rw [← hce, ← htt] at he
    exact he (AList.mem_keys.mpr ht)

variable (roResults : Go.RangeOrder (Σ _ : String, Result))
  (roOld : Go.RangeOrder (Σ _ : String, Condition))

/-- `Build` sorts `unsorted`: the orders of its two ranges do not matter. -/
theorem build_eq_sortSliceBy (b : Builder) :
    b.build roResults roOld replicas = Go.sortSliceBy (·.type) (b.unsorted replicas) := by
  have hp := build_perm_unsorted replicas roResults roOld b
  rw [build_eq]
  exact Go.sortSliceBy_congr _ hp ((hp.map _).nodup_iff.mpr (unsorted_types_nodup replicas b))

/-- The conditions `Build` emits: a merged result, or an old condition without a
result whose type the checks do not own. -/
theorem mem_unsorted (b : Builder) (c : Condition) :
    c ∈ b.unsorted replicas ↔
      (∃ t res, b.results.lookup t = some res ∧ c = mergeResult b.now b.old replicas t res) ∨
        ∃ t, t ∉ b.results ∧ b.old.lookup t = some c ∧ c.type ∉ skipMergeConditions := by
  simp only [Builder.unsorted, List.mem_append, List.mem_map, List.mem_filterMap, List.mem_filter,
    decide_eq_true_eq]
  apply or_congr
  · constructor
    · rintro ⟨⟨t, res⟩, he, rfl⟩
      exact ⟨t, res, AList.mem_lookup_iff.mpr he, rfl⟩
    · rintro ⟨t, res, hl, rfl⟩
      exact ⟨⟨t, res⟩, AList.mem_lookup_iff.mp hl, rfl⟩
  · constructor
    · rintro ⟨⟨t, o⟩, ⟨he, ht⟩, hc⟩
      split_ifs at hc with hskip
      simp only [Option.some.injEq] at hc
      subst hc
      exact ⟨t, ht, AList.mem_lookup_iff.mpr he, hskip⟩
    · rintro ⟨t, ht, hl, hskip⟩
      exact ⟨⟨t, c⟩, ⟨AList.mem_lookup_iff.mp hl, ht⟩, by simp [hskip]⟩

theorem mem_build (b : Builder) (c : Condition) :
    c ∈ b.build roResults roOld replicas ↔
      (∃ t res, b.results.lookup t = some res ∧ c = mergeResult b.now b.old replicas t res) ∨
        ∃ t, t ∉ b.results ∧ b.old.lookup t = some c ∧ c.type ∉ skipMergeConditions := by
  rw [build_eq_sortSliceBy, Go.mem_sortSliceBy, mem_unsorted]

/-- The emitted conditions are strictly sorted by type, so no type occurs twice. -/
theorem build_types_sorted (b : Builder) :
    ((b.build roResults roOld replicas).map (·.type)).Pairwise (· < ·) := by
  rw [build_eq_sortSliceBy, List.pairwise_map]
  exact Go.sortSliceBy_strict _ _ (unsorted_types_nodup replicas b)

/-- An emitted condition whose type has a result is that result merged. -/
theorem eq_mergeResult_of_mem_build (b : Builder) {c : Condition} {res : Result}
    (hc : c ∈ b.build roResults roOld replicas) (hres : b.results.lookup c.type = some res) :
    c = mergeResult b.now b.old replicas c.type res := by
  rcases (mem_build replicas roResults roOld b c).mp hc with ⟨t, res', hl, rfl⟩ | ⟨t, ht, hl, -⟩
  · have ht : (mergeResult b.now b.old replicas t res').type = t :=
      mergeResult_type b.now replicas b.old b.old_keyed t res'
    rw [ht] at hres ⊢
    rw [Option.some.inj (hl.symm.trans hres)]
  · -- a kept condition's type has no result
    have ht' : c.type = t := b.old_keyed ⟨t, c⟩ (AList.mem_lookup_iff.mp hl)
    rw [ht'] at hres
    exact absurd (AList.lookup_isSome.mp (by simp [hres])) ht

/-- The emitted types: the result types and the old types the checks do not own. -/
theorem mem_build_types (b : Builder) (t : String) :
    t ∈ (b.build roResults roOld replicas).map (·.type) ↔
      t ∈ b.results ∨ t ∈ b.old ∧ t ∉ skipMergeConditions := by
  simp only [List.mem_map, mem_build]
  constructor
  · rintro ⟨c, ⟨t', res, hl, rfl⟩ | ⟨t', ht', hl, hskip⟩, rfl⟩
    · rw [mergeResult_type b.now replicas b.old b.old_keyed]
      exact .inl (AList.lookup_isSome.mp (by simp [hl]))
    · have ht : c.type = t' := b.old_keyed ⟨t', c⟩ (AList.mem_lookup_iff.mp hl)
      rw [ht] at hskip ⊢
      exact .inr ⟨AList.lookup_isSome.mp (by simp [hl]), hskip⟩
  · rintro (ht | ⟨ht, hskip⟩)
    · obtain ⟨res, hl⟩ := Option.isSome_iff_exists.mp (AList.lookup_isSome.mpr ht)
      exact ⟨_, .inl ⟨t, res, hl, rfl⟩, mergeResult_type b.now replicas b.old b.old_keyed t res⟩
    · by_cases hr : t ∈ b.results
      · obtain ⟨res, hl⟩ := Option.isSome_iff_exists.mp (AList.lookup_isSome.mpr hr)
        exact ⟨_, .inl ⟨t, res, hl, rfl⟩, mergeResult_type b.now replicas b.old b.old_keyed t res⟩
      · obtain ⟨c, hl⟩ := Option.isSome_iff_exists.mp (AList.lookup_isSome.mpr ht)
        have hct : c.type = t := b.old_keyed ⟨t, c⟩ (AList.mem_lookup_iff.mp hl)
        exact ⟨c, .inr ⟨t, hr, hl, hct ▸ hskip⟩, hct⟩

/-- Builders with the same old conditions, clock and stored results build the
same conditions, whatever the order of the stored results and of the ranges. -/
theorem build_congr (b b' : Builder) (hold : b'.old = b.old) (hnow : b'.now = b.now)
    (hres : b'.results.entries.Perm b.results.entries)
    (roResults' : Go.RangeOrder (Σ _ : String, Result))
    (roOld' : Go.RangeOrder (Σ _ : String, Condition)) :
    b'.build roResults' roOld' replicas = b.build roResults roOld replicas := by
  have hmem : ∀ k, k ∈ b'.results ↔ k ∈ b.results := fun k => by
    rw [AList.mem_keys, AList.mem_keys]
    exact (hres.map Sigma.fst).mem_iff
  have hp : (b'.unsorted replicas).Perm (b.unsorted replicas) := by
    unfold Builder.unsorted
    rw [hold, hnow]
    refine (hres.map _).append ?_
    have hkept : (b.old.entries.filter fun e => decide (e.1 ∉ b'.results)) =
        b.old.entries.filter fun e => decide (e.1 ∉ b.results) :=
      List.filter_congr fun e _ => by simp only [hmem]
    rw [hkept]
  rw [build_eq_sortSliceBy, build_eq_sortSliceBy]
  exact Go.sortSliceBy_congr _ hp ((hp.map _).nodup_iff.mpr (unsorted_types_nodup replicas b))

end Unsorted

/-! ## `Build` on a fresh builder -/

/-- Under each type the old map holds the last old condition of that type. -/
theorem lookup_withOldConditions (now : Int) (old : List Condition) (t : String) :
    ((newBuilder now).withOldConditions old).old.lookup t = old.reverse.find? (·.type = t) := by
  simp [Go.Map.lookup_insertAll]

/-- Under each type the results map holds the last result of that type. -/
theorem lookup_withResults_fresh (now : Int) (old : List Condition) (results : List (Option Result))
    (t : String) :
    ((newBuilder now).withOldConditions old |>.withResults results).results.lookup t =
      (results.filterMap id).reverse.find? (·.conType = t) := by
  simp [Go.Map.lookup_insertAll]

/-- Results of distinct types given in another order are stored alike. -/
theorem withResults_entries_perm (b : Builder) (hb : b.results = ∅)
    {results results' : List (Option Result)} (hp : results'.Perm results)
    (hn : ((results.filterMap id).map (·.conType)).Nodup) :
    (b.withResults results').results.entries.Perm (b.withResults results).results.entries := by
  have hfp := hp.filterMap id
  have hn' := ((hfp.map (·.conType)).nodup_iff).mpr hn
  rw [withResults_results, withResults_results, hb]
  exact (Go.Map.entries_insertAll_perm _ _ hn').trans
    ((hfp.map _).trans (Go.Map.entries_insertAll_perm _ _ hn).symm)

/-- `Build` returns the same conditions for every order of results of distinct
types and every order of its two ranges. -/
theorem build_results_perm (now : Int) (old : List Condition)
    {results results' : List (Option Result)} (hp : results'.Perm results)
    (hn : ((results.filterMap id).map (·.conType)).Nodup) (replicas : Int32)
    (roResults roResults' : Go.RangeOrder (Σ _ : String, Result))
    (roOld roOld' : Go.RangeOrder (Σ _ : String, Condition)) :
    ((newBuilder now).withOldConditions old |>.withResults results').build roResults' roOld'
        replicas =
      ((newBuilder now).withOldConditions old |>.withResults results).build roResults roOld
        replicas :=
  build_congr replicas roResults roOld ((newBuilder now).withOldConditions old |>.withResults results)
    ((newBuilder now).withOldConditions old |>.withResults results') rfl rfl
    (withResults_entries_perm _ rfl hp hn) roResults' roOld'

/-- A `Ready` condition that turned `True` at time `5`. -/
def readySince5 : Condition :=
  { type := conditionTypeReady, status := .conditionTrue, lastTransitionTime := 5,
    lastUpdateTime := 5, reason := "Quorate", message := "The majority of ETCD members is ready" }

/-- Scaled to zero, a result whose status differs from the old one moves the
transition time, although the old status is kept. -/
theorem build_scaledDown_moves_transitionTime (roResults : Go.RangeOrder (Σ _ : String, Result))
    (roOld : Go.RangeOrder (Σ _ : String, Condition)) :
    ∃ c ∈ ((newBuilder 10).withOldConditions [readySince5] |>.withResults
        [some ⟨conditionTypeReady, .conditionFalse, "QuorumLost",
          "The majority of ETCD members is not ready"⟩]).build roResults roOld 0,
      c.type = readySince5.type ∧ c.status = readySince5.status ∧
        c.lastTransitionTime ≠ readySince5.lastTransitionTime := by
  have hres : ((newBuilder 10).withOldConditions [readySince5] |>.withResults
      [some ⟨conditionTypeReady, .conditionFalse, "QuorumLost",
        "The majority of ETCD members is not ready"⟩]).results.lookup conditionTypeReady =
      some ⟨conditionTypeReady, .conditionFalse, "QuorumLost",
        "The majority of ETCD members is not ready"⟩ := by
    rw [lookup_withResults_fresh]
    rfl
  refine ⟨_, exists_mem_build_of_result 0 roResults roOld _ hres, ?_⟩
  decide +kernel

/-- Two old conditions of type `Foo`. -/
def fooTwice : List Condition :=
  [{ type := "Foo", status := .conditionTrue, lastTransitionTime := 1, lastUpdateTime := 1,
     reason := "", message := "" },
   { type := "Foo", status := .conditionFalse, lastTransitionTime := 2, lastUpdateTime := 2,
     reason := "", message := "" }]

/-- Two results of type `Bar`. -/
def barTwice : List (Option Result) :=
  [some ⟨"Bar", .conditionTrue, "", ""⟩, some ⟨"Bar", .conditionFalse, "", ""⟩]

/-- Of two old conditions of one type only the last is kept, and of two results
of one type only the last is merged. -/
theorem build_keeps_last_of_type :
    (∃ o ∈ fooTwice, o.type ∉ (barTwice.filterMap id).map (·.conType) ∧
      o.type ∉ skipMergeConditions ∧
      o ∉ ((newBuilder 3).withOldConditions fooTwice |>.withResults barTwice).build
        (Go.RangeOrder.stored _) (Go.RangeOrder.stored _) 1) ∧
    ∃ r ∈ barTwice.filterMap id, ∃ c ∈ ((newBuilder 3).withOldConditions fooTwice |>.withResults
        barTwice).build (Go.RangeOrder.stored _) (Go.RangeOrder.stored _) 1,
      c.type = r.conType ∧ c.status ≠ r.status := by
  -- the sort is irrelevant to membership
  simp only [build_eq_sortSliceBy, Go.mem_sortSliceBy]
  decide +kernel

/-- The shape of `Build`: strictly sorted by type; the result types and the old
types the checks do not own; the last old condition of each type without a
result kept as it was; each type with a result merged from the last result of
that type, against the last old condition of that type. -/
theorem build_merge_shape (now : Int) (old : List Condition) (results : List (Option Result))
    (replicas : Int32) (roResults : Go.RangeOrder (Σ _ : String, Result))
    (roOld : Go.RangeOrder (Σ _ : String, Condition)) :
    let out := ((newBuilder now).withOldConditions old |>.withResults results).build
      roResults roOld replicas
    (out.map (·.type)).Pairwise (· < ·) ∧
    (∀ t, t ∈ out.map (·.type) ↔
      t ∈ (results.filterMap id).map (·.conType) ∨
        t ∈ old.map (·.type) ∧ t ∉ skipMergeConditions) ∧
    (∀ o ∈ old, old.reverse.find? (·.type = o.type) = some o →
      o.type ∉ (results.filterMap id).map (·.conType) → o.type ∉ skipMergeConditions → o ∈ out) ∧
    (∀ c ∈ out, ∀ r, (results.filterMap id).reverse.find? (·.conType = c.type) = some r →
      c.lastUpdateTime = now ∧
      (replicas ≠ 0 → c.status = r.status ∧ c.reason = r.reason ∧ c.message = r.message) ∧
      (replicas = 0 → c.reason = conditionNotChecked ∧
        (∀ o, old.reverse.find? (·.type = c.type) = some o → o.status ≠ .empty →
          c.status = o.status) ∧
        ((∀ o, old.reverse.find? (·.type = c.type) = some o → o.status = .empty) →
          c.status = .conditionUnknown))) := by
  intro out
  set b := (newBuilder now).withOldConditions old |>.withResults results with hb
  have hresults : ∀ t, t ∈ b.results ↔ t ∈ (results.filterMap id).map (·.conType) := fun t => by
    simp only [hb, withResults_results, withOldConditions_results, newBuilder_results,
      Go.Map.mem_insertAll_empty]
  have hold : ∀ t, t ∈ b.old ↔ t ∈ old.map (·.type) := fun t => by
    simp only [hb, withResults_old, withOldConditions_old, newBuilder_old,
      Go.Map.mem_insertAll_empty]
  refine ⟨build_types_sorted replicas roResults roOld b, fun t => ?_, ?_, ?_⟩
  · rw [mem_build_types, hresults, hold]
  · -- the last old condition of its type is what the old map holds
    intro o _ hlast hres hskip
    refine (mem_build replicas roResults roOld b o).mpr (.inr ⟨o.type, ?_, ?_, hskip⟩)
    · rwa [hresults]
    · rw [hb, withResults_old, lookup_withOldConditions, hlast]
  · intro c hc r hr
    have hres : b.results.lookup c.type = some r := by
      rw [hb, lookup_withResults_fresh, hr]
    have hmerged := eq_mergeResult_of_mem_build replicas roResults roOld b hc hres
    have hlookup : b.old.lookup c.type = old.reverse.find? (·.type = c.type) := by
      rw [hb, withResults_old, lookup_withOldConditions]
    refine ⟨by rw [hmerged, mergeResult_lastUpdateTime, hb, withResults_now,
      withOldConditions_now, newBuilder_now], fun hr0 => ?_, fun hr0 => ?_⟩
    · rw [hmerged]
      exact mergeResult_of_ne_zero replicas hr0 _ _ _ _
    · obtain ⟨hreason, hstatus⟩ := mergeResult_of_eq_zero replicas hr0 b.now b.old c.type r
      rw [← hmerged] at hreason hstatus
      rw [hlookup] at hstatus
      refine ⟨hreason, fun o ho hne => ?_, fun hempty => ?_⟩
      · rw [hstatus, ho]
        exact if_neg hne
      · -- a missing old condition and an empty status both give `Unknown`
        rw [hstatus]
        cases ho : old.reverse.find? (·.type = c.type) with
        | none => rfl
        | some o => exact if_pos (hempty o ho)

end Condition
end EtcdDruid
