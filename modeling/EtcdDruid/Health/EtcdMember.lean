import EtcdDruid.Utils

/-!
# Member health: `pkg/health/etcdmember`

**Check.**  `readyCheck.Check` lists the member leases of the Etcd and turns
every lease whose `RenewTime` is set into a `Result`; a lease without one is a
member still bootstrapping and is skipped.  With `U` the unknown and `N` the
not-ready threshold and `t` the check time, a member renewed at `r` is

* `NotReady` (`UnknownGracePeriodExceeded`) if `r + U + N < t`;
* else, if `r + U < t`, `NotReady` (`ContainersNotReady`) when its pod is not
  found or its containers are not ready, and `Unknown` (`LeaseExpired`)
  otherwise;
* else `Ready` (`LeaseSucceeded`).

The pod is looked up under the lease's name.  The lease list and the pod
lookups are what the API server answers; they are parameters.

**Builder.**  `defaultBuilder` keys old members and results by name and emits
one status per result, keeping the old `LastTransitionTime` when the status did
not change, sorted by name.

**Results.**
* `mem_readyCheck`: the results are exactly the checked leases with a renew time;
* `checkLease_congr_pod`: the check of a lease reads no pod but the lease's.
* `mem_build`, `build_names_sorted`: one status per result, strictly sorted by name.
-/

namespace EtcdDruid
namespace EtcdMember

/-- `result`. -/
structure Result where
  id : Option String
  name : String
  role : Option EtcdRole
  status : EtcdMemberConditionStatus
  reason : String
  deriving DecidableEq, Repr

/-- The error of a `client.Get`: `NotFound`, or any other. -/
inductive GetError
  | notFound
  | other (msg : String)
  deriving DecidableEq, Repr

/-- `client.Get` of a pod, by namespace and name: the pod's conditions or an error. -/
abbrev PodGetter := String → String → Except GetError (List PodCondition)

/-- `holderIdentitySeparator`. -/
def holderIdentitySeparator : Char := ':'

/-- `separateIdFromRole`. -/
def separateIdFromRole : Option String → Option String × Option EtcdRole
  | none => (none, none)
  | some h =>
      match Go.splitN2 h holderIdentitySeparator with
      | [id, "Leader"] => (some id, some .etcdRoleLeader)
      | [id, "Member"] => (some id, some .etcdRoleMember)
      | id :: _ => (some id, none)
      | [] => (none, none)

/-- The status of the pod condition `ContainersReady`, if the pod has one. -/
def containersReadyStatus (conds : List PodCondition) : Option ConditionStatus :=
  (conds.find? (·.type = "ContainersReady")).map (·.status)

/-- `checkContainersAreReady`. -/
def checkContainersAreReady (getPod : PodGetter) (namespace_ name : String) :
    Except GetError Bool :=
  match getPod namespace_ name with
  | .error e => .error e
  | .ok conds => .ok (containersReadyStatus conds = some .conditionTrue)

/-- The status and reason the loop of `readyCheck.Check` gives a member whose
lease was renewed at `renew`. -/
def memberState (getPod : PodGetter) (notReadyThreshold unknownThreshold : Int)
    (checkTime : Int) (lease : Lease) (renew : Int) : EtcdMemberConditionStatus × String :=
  if renew + unknownThreshold + notReadyThreshold < checkTime then
    (.etcdMemberStatusNotReady, "UnknownGracePeriodExceeded")
  else if renew + unknownThreshold < checkTime then
    -- a pod that is not running or cannot be found makes the member not ready
    match checkContainersAreReady getPod lease.namespace_ lease.name with
    | .ok false | .error .notFound => (.etcdMemberStatusNotReady, "ContainersNotReady")
    | _ => (.etcdMemberStatusUnknown, "LeaseExpired")
  else
    (.etcdMemberStatusReady, "LeaseSucceeded")

/-- The body of the loop of `readyCheck.Check` for one lease: nothing for a
member still bootstrapping (no renew time). -/
def checkLease (getPod : PodGetter) (notReadyThreshold unknownThreshold : Int)
    (checkTime : Int) (lease : Lease) : Option Result :=
  match lease.renewTime with
  | none => none
  | some renew =>
      let state := memberState getPod notReadyThreshold unknownThreshold checkTime lease renew
      some { id := (separateIdFromRole lease.holderIdentity).1, name := lease.name,
             role := (separateIdFromRole lease.holderIdentity).2, status := state.1,
             reason := state.2 }

/-- `readyCheck.Check`.  A failed `List` is logged and leaves no lease to check. -/
def readyCheck (leases : Except Go.Failure (List Lease)) (getPod : PodGetter)
    (notReadyThreshold unknownThreshold : Int) (checkTime : Int) : List Result :=
  match leases with
  | .ok items => items.filterMap (checkLease getPod notReadyThreshold unknownThreshold checkTime)
  | .error _ => []

/-! ## The builder -/

/-- `defaultBuilder`; `now` is what its `nowFunc` returns when `Build` calls it.
Both maps are keyed by name, and every entry is stored under its own name. -/
structure Builder where
  old : Go.Map String EtcdMemberStatus
  results : Go.Map String Result
  now : Int
  old_keyed : old.Keyed (·.name)
  results_keyed : results.Keyed (·.name)

/-- `NewBuilder`, with the time its default `nowFunc` would read. -/
def newBuilder (now : Int) : Builder :=
  ⟨∅, ∅, now, Go.Map.keyed_empty _, Go.Map.keyed_empty _⟩

def Builder.withOldMembers (b : Builder) (members : List EtcdMemberStatus) : Builder :=
  { b with old := Go.Map.insertAll (·.name) b.old members
           old_keyed := Go.Map.keyed_insertAll _ _ _ b.old_keyed }

/-- `WithResults`: `nil` results are skipped. -/
def Builder.withResults (b : Builder) (results : List (Option Result)) : Builder :=
  { b with results := Go.Map.insertAll (·.name) b.results (results.filterMap id)
           results_keyed := Go.Map.keyed_insertAll _ _ _ b.results_keyed }

def Builder.withNowFunc (b : Builder) (now : Int) : Builder := { b with now }

@[simp] theorem newBuilder_old (now : Int) : (newBuilder now).old = ∅ := rfl
@[simp] theorem newBuilder_results (now : Int) : (newBuilder now).results = ∅ := rfl
@[simp] theorem newBuilder_now (now : Int) : (newBuilder now).now = now := rfl

@[simp] theorem withOldMembers_old (b : Builder) (members : List EtcdMemberStatus) :
    (b.withOldMembers members).old = Go.Map.insertAll (·.name) b.old members :=
  rfl

@[simp] theorem withOldMembers_results (b : Builder) (members : List EtcdMemberStatus) :
    (b.withOldMembers members).results = b.results :=
  rfl

@[simp] theorem withOldMembers_now (b : Builder) (members : List EtcdMemberStatus) :
    (b.withOldMembers members).now = b.now :=
  rfl

/-- The status `Build` makes of the result stored under `name`. -/
def Builder.memberStatus (b : Builder) (name : String) (res : Result) : EtcdMemberStatus :=
  let fresh : EtcdMemberStatus :=
    { id := res.id, name := res.name, role := res.role, status := res.status,
      reason := res.reason, lastTransitionTime := b.now }
  match b.old.lookup name with
  | some old => if old.status = res.status then { fresh with lastTransitionTime :=
      old.lastTransitionTime } else fresh
  | none => fresh

/-- The spec of `memberStatus`: the result's fields, and the old transition
time when the old member under that name has the same status. -/
theorem Builder.memberStatus_eq (b : Builder) (name : String) (res : Result) :
    b.memberStatus name res =
      { id := res.id, name := res.name, role := res.role, status := res.status,
        reason := res.reason,
        lastTransitionTime := match b.old.lookup name with
          | some old => if old.status = res.status then old.lastTransitionTime else b.now
          | none => b.now } := by
  unfold Builder.memberStatus
  cases b.old.lookup name with
  | none => rfl
  | some old => by_cases hs : old.status = res.status <;> simp [hs]

/-- `Build`, for an order `ro` of the range over the results. -/
def Builder.build (ro : Go.RangeOrder (Σ _ : String, Result)) (b : Builder) :
    List EtcdMemberStatus :=
  Go.sortSliceBy (·.name) ((ro.order b.results.entries).map fun e => b.memberStatus e.1 e.2)

/-! ## The check -/

section Check

variable (getPod : PodGetter) (notReadyThreshold unknownThreshold : Int) (checkTime : Int)

/-- The spec of `checkLease`. -/
theorem checkLease_eq_some {lease : Lease} {r : Result} :
    checkLease getPod notReadyThreshold unknownThreshold checkTime lease = some r ↔
      ∃ renew, lease.renewTime = some renew ∧ r.name = lease.name ∧
        (r.status, r.reason) =
          memberState getPod notReadyThreshold unknownThreshold checkTime lease renew ∧
        r.id = (separateIdFromRole lease.holderIdentity).1 ∧
        r.role = (separateIdFromRole lease.holderIdentity).2 := by
  unfold checkLease
  cases lease.renewTime with
  | none => simp
  | some renew =>
      simp only [Option.some.injEq, exists_eq_left']
      constructor
      · rintro rfl
        exact ⟨rfl, rfl, rfl, rfl⟩
      · obtain ⟨id, name, role, status, reason⟩ := r
        rintro ⟨hn, hs, hi, hr⟩
        simp only at hn hs hi hr
        subst hn hi hr
        rw [← hs]

theorem checkLease_name {lease : Lease} {r : Result}
    (h : checkLease getPod notReadyThreshold unknownThreshold checkTime lease = some r) :
    r.name = lease.name := by
  obtain ⟨_, _, hn, _⟩ := (checkLease_eq_some getPod notReadyThreshold unknownThreshold checkTime).mp h
  exact hn

/-- The check of a lease reads the pod named as the lease, in its namespace, and
no other pod. -/
theorem checkLease_congr_pod {getPod' : PodGetter} {lease : Lease}
    (h : getPod lease.namespace_ lease.name = getPod' lease.namespace_ lease.name) :
    checkLease getPod notReadyThreshold unknownThreshold checkTime lease =
      checkLease getPod' notReadyThreshold unknownThreshold checkTime lease := by
  simp only [checkLease, memberState, checkContainersAreReady, h]

theorem checkLease_isSome (lease : Lease) :
    (checkLease getPod notReadyThreshold unknownThreshold checkTime lease).isSome =
      lease.renewTime.isSome := by
  unfold checkLease
  cases lease.renewTime <;> rfl

/-- A member has a result iff its lease has a renew time. -/
theorem mem_readyCheck_names (leases : List Lease) (n : String) :
    n ∈ (readyCheck (.ok leases) getPod notReadyThreshold unknownThreshold checkTime).map
        (·.name) ↔ ∃ l ∈ leases, l.name = n ∧ l.renewTime.isSome := by
  simp only [readyCheck, List.mem_map, List.mem_filterMap]
  constructor
  · rintro ⟨r, ⟨l, hl, hr⟩, rfl⟩
    have hs := checkLease_isSome getPod notReadyThreshold unknownThreshold checkTime l
    rw [hr] at hs
    exact ⟨l, hl, (checkLease_name getPod notReadyThreshold unknownThreshold checkTime hr).symm,
      by simpa using hs.symm⟩
  · rintro ⟨l, hl, rfl, hs⟩
    obtain ⟨r, hr⟩ := Option.isSome_iff_exists.mp
      ((checkLease_isSome getPod notReadyThreshold unknownThreshold checkTime l).trans hs)
    exact ⟨r, ⟨l, hl, hr⟩, checkLease_name getPod notReadyThreshold unknownThreshold checkTime hr⟩

/-- Distinct lease names give results with distinct names. -/
theorem readyCheck_names_nodup (leases : List Lease) (hn : (leases.map (·.name)).Nodup) :
    ((readyCheck (.ok leases) getPod notReadyThreshold unknownThreshold checkTime).map
        (·.name)).Nodup := by
  simp only [readyCheck]
  induction leases with
  | nil => simp
  | cons l ls ih =>
      rw [List.map_cons, List.nodup_cons] at hn
      rw [List.filterMap_cons]
      cases hl : checkLease getPod notReadyThreshold unknownThreshold checkTime l with
      | none => exact ih hn.2
      | some r =>
          rw [List.map_cons, List.nodup_cons]
          refine ⟨?_, ih hn.2⟩
          rw [checkLease_name getPod notReadyThreshold unknownThreshold checkTime hl]
          intro hmem
          obtain ⟨l', hl', hname, _⟩ :=
            (mem_readyCheck_names getPod notReadyThreshold unknownThreshold checkTime ls l.name).mp
              (by simpa [readyCheck] using hmem)
          exact hn.1 (hname ▸ List.mem_map_of_mem hl')

/-- The spec of `memberState`: the bands and pod answers that make a member `NotReady`. -/
theorem memberState_notReady_iff (lease : Lease) (renew : Int) :
    (memberState getPod notReadyThreshold unknownThreshold checkTime lease renew).1 =
        .etcdMemberStatusNotReady ↔
      renew + unknownThreshold + notReadyThreshold < checkTime ∨
        (renew + unknownThreshold < checkTime ∧
          (getPod lease.namespace_ lease.name = .error .notFound ∨
            ∃ conds, getPod lease.namespace_ lease.name = .ok conds ∧
              containersReadyStatus conds ≠ some .conditionTrue)) := by
  unfold memberState checkContainersAreReady
  split_ifs with hgrace hexpired
  · simp [hgrace]
  · -- only the middle band asks for the pod
    cases getPod lease.namespace_ lease.name with
    | error e => cases e <;> simp [hgrace, hexpired]
    | ok conds =>
        by_cases hc : containersReadyStatus conds = some .conditionTrue <;>
          simp [hgrace, hexpired, hc]
  · simp [hgrace, hexpired]

/-- The bands and pod answers that make a member `Unknown`. -/
theorem memberState_unknown_iff (lease : Lease) (renew : Int) :
    (memberState getPod notReadyThreshold unknownThreshold checkTime lease renew).1 =
        .etcdMemberStatusUnknown ↔
      renew + unknownThreshold < checkTime ∧
        checkTime ≤ renew + unknownThreshold + notReadyThreshold ∧
        ((∃ msg, getPod lease.namespace_ lease.name = .error (.other msg)) ∨
          ∃ conds, getPod lease.namespace_ lease.name = .ok conds ∧
            containersReadyStatus conds = some .conditionTrue) := by
  unfold memberState checkContainersAreReady
  split_ifs with hgrace hexpired
  · simp [hgrace]
  · cases getPod lease.namespace_ lease.name with
    | error e => cases e <;> simp [hexpired, not_lt.mp hgrace]
    | ok conds =>
        by_cases hc : containersReadyStatus conds = some .conditionTrue <;>
          simp [hexpired, not_lt.mp hgrace, hc]
  · simp [hexpired]

/-- With a non-negative not-ready threshold a member is `Ready` exactly while
its lease is younger than the unknown threshold. -/
theorem memberState_ready_iff (hnr : 0 ≤ notReadyThreshold) (lease : Lease) (renew : Int) :
    (memberState getPod notReadyThreshold unknownThreshold checkTime lease renew).1 =
        .etcdMemberStatusReady ↔ checkTime ≤ renew + unknownThreshold := by
  unfold memberState checkContainersAreReady
  split_ifs with hgrace hexpired
  · have hlate : ¬ checkTime ≤ renew + unknownThreshold := by omega
    simp [hlate]
  · cases getPod lease.namespace_ lease.name with
    | error e => cases e <;> simp [hexpired]
    | ok conds => split <;> simp [hexpired]
  · simpa using hexpired

/-- The result for a lease in the list is its `checkLease`. -/
theorem mem_readyCheck {leases : List Lease} {r : Result}
    (hr : r ∈ readyCheck (.ok leases) getPod notReadyThreshold unknownThreshold checkTime) :
    ∃ l ∈ leases, checkLease getPod notReadyThreshold unknownThreshold checkTime l = some r := by
  simpa [readyCheck] using hr

end Check

/-! ## The builder -/

section Build

variable (ro : Go.RangeOrder (Σ _ : String, Result))

/-- Every emitted status is the status of a stored result. -/
theorem mem_build (b : Builder) (m : EtcdMemberStatus) :
    m ∈ b.build ro ↔ ∃ e ∈ b.results.entries, m = b.memberStatus e.1 e.2 := by
  rw [Builder.build, Go.mem_sortSliceBy, List.mem_map]
  constructor
  · rintro ⟨e, he, rfl⟩
    exact ⟨e, (ro.perm _).mem_iff.mp he, rfl⟩
  · rintro ⟨e, he, rfl⟩
    exact ⟨e, (ro.perm _).mem_iff.mpr he, rfl⟩

theorem memberStatus_name (b : Builder) (name : String) (res : Result) :
    (b.memberStatus name res).name = res.name := by
  unfold Builder.memberStatus
  split
  · split_ifs <;> rfl
  · rfl

theorem memberStatus_status (b : Builder) (name : String) (res : Result) :
    (b.memberStatus name res).status = res.status := by
  unfold Builder.memberStatus
  split
  · split_ifs <;> rfl
  · rfl

@[simp] theorem withResults_results (b : Builder) (results : List (Option Result)) :
    (b.withResults results).results = Go.Map.insertAll (·.name) b.results (results.filterMap id) :=
  rfl

@[simp] theorem withResults_memberStatus (b : Builder) (results : List (Option Result)) :
    (b.withResults results).memberStatus = b.memberStatus :=
  rfl

/-- A builder without results, given results with distinct names, emits one
status per result, in some order. -/
theorem build_withResults_perm (b : Builder) (hb : b.results = ∅) (results : List Result)
    (hn : (results.map (·.name)).Nodup) :
    ((b.withResults (results.map some)).build ro).Perm
      (results.map fun r => b.memberStatus r.name r) := by
  have hfm : (results.map some).filterMap id = results := by simp
  have hperm := Go.Map.entries_insertAll_perm (·.name) results hn
  rw [Builder.build, withResults_results, hb, hfm, withResults_memberStatus]
  refine (Go.sortSliceBy_perm _ _).trans (((ro.perm _).map _).trans ?_)
  -- the stored entries are the results under their names
  have h := hperm.map fun e : (Σ _ : String, Result) => b.memberStatus e.1 e.2
  simpa [List.map_map, Function.comp_def] using h

/-- The statuses are strictly sorted by name, so no name occurs twice. -/
theorem build_names_sorted (b : Builder) : ((b.build ro).map (·.name)).Pairwise (· < ·) := by
  rw [List.pairwise_map]
  apply Go.sortSliceBy_strict
  have hn := b.results_keyed.nodup
  rw [List.map_map]
  refine ((ro.perm _).map _).nodup_iff.mpr ?_
  simpa [Function.comp_def, memberStatus_name] using hn

/-- `Build` sorts the statuses of the stored results: the order of the range
does not matter. -/
theorem build_eq_sortSliceBy (b : Builder) :
    b.build ro = Go.sortSliceBy (·.name) (b.results.entries.map fun e => b.memberStatus e.1 e.2) := by
  have hp := (ro.perm b.results.entries).map fun e => b.memberStatus e.1 e.2
  have hn : ((b.results.entries.map fun e => b.memberStatus e.1 e.2).map (·.name)).Nodup := by
    simpa [Function.comp_def, memberStatus_name] using b.results_keyed.nodup
  exact Go.sortSliceBy_congr _ hp ((hp.map _).nodup_iff.mpr hn)

/-- Builders with the same old members, clock and stored results build the same
statuses, whatever the order of the stored results and of the range. -/
theorem build_congr (b b' : Builder) (hold : b'.old = b.old) (hnow : b'.now = b.now)
    (hres : b'.results.entries.Perm b.results.entries) (ro' : Go.RangeOrder (Σ _ : String, Result)) :
    b'.build ro' = b.build ro := by
  have hstatus : b'.memberStatus = b.memberStatus := by
    funext name res
    rw [Builder.memberStatus_eq, Builder.memberStatus_eq, hold, hnow]
  have hp := hres.map fun e => b.memberStatus e.1 e.2
  have hn : ((b'.results.entries.map fun e => b.memberStatus e.1 e.2).map (·.name)).Nodup := by
    simpa [Function.comp_def, memberStatus_name] using b'.results_keyed.nodup
  rw [build_eq_sortSliceBy ro', build_eq_sortSliceBy ro, hstatus]
  exact Go.sortSliceBy_congr _ hp hn

/-- `WithResults` reads the results that are not `nil`. -/
theorem withResults_filterMap (b : Builder) (results : List (Option Result)) :
    b.withResults results = b.withResults ((results.filterMap id).map some) := by
  simp [Builder.withResults]

/-- `Build` returns the same statuses for every order of results of distinct
names and every order of its range. -/
theorem build_results_perm (b : Builder) (hb : b.results = ∅)
    {results results' : List (Option Result)} (hp : results'.Perm results)
    (hn : ((results.filterMap id).map (·.name)).Nodup) (ro' : Go.RangeOrder (Σ _ : String, Result)) :
    (b.withResults results').build ro' = (b.withResults results).build ro := by
  have hfp := hp.filterMap id
  have hn' := ((hfp.map (·.name)).nodup_iff).mpr hn
  refine build_congr ro (b.withResults results) (b.withResults results') rfl rfl ?_ ro'
  rw [withResults_results, withResults_results, hb]
  exact (Go.Map.entries_insertAll_perm _ _ hn').trans
    ((hfp.map _).trans (Go.Map.entries_insertAll_perm _ _ hn).symm)

end Build

/-! ## `Build` on a fresh builder -/

/-- Under each name the old map holds the last old member of that name. -/
theorem lookup_withOldMembers (now : Int) (old : List EtcdMemberStatus) (name : String) :
    ((newBuilder now).withOldMembers old).old.lookup name = old.reverse.find? (·.name = name) := by
  simp [Go.Map.lookup_insertAll]

/-- Two old statuses of member `etcd-0`, the last of them `NotReady`. -/
def readyThenNotReady : List EtcdMemberStatus :=
  [{ name := "etcd-0", id := some "1", role := some .etcdRoleLeader,
     status := .etcdMemberStatusReady, reason := "LeaseSucceeded", lastTransitionTime := 1 },
   { name := "etcd-0", id := some "1", role := some .etcdRoleLeader,
     status := .etcdMemberStatusNotReady, reason := "UnknownGracePeriodExceeded",
     lastTransitionTime := 2 }]

/-- A `Ready` result for `etcd-0`. -/
def etcd0Ready : Result :=
  { id := some "1", name := "etcd-0", role := some .etcdRoleLeader,
    status := .etcdMemberStatusReady, reason := "LeaseSucceeded" }

/-- An old member of the result's name with the result's status does not keep
its transition time when a later old member of that name has another status. -/
theorem build_ignores_earlier_old_member :
    ∃ o ∈ readyThenNotReady, o.name = etcd0Ready.name ∧ o.status = etcd0Ready.status ∧
      ∀ m ∈ ((newBuilder 5).withOldMembers readyThenNotReady |>.withResults [some etcd0Ready]).build
          (Go.RangeOrder.stored _),
        m.name = etcd0Ready.name → m.lastTransitionTime ≠ o.lastTransitionTime := by
  refine ⟨_, List.mem_cons_self, rfl, rfl, fun m hm _ => ?_⟩
  -- the one status is made from the one stored result
  obtain ⟨e, he, rfl⟩ := (mem_build _ _ m).mp hm
  revert e
  decide +kernel

/-- The member statuses `Build` returns: strictly sorted by name, one per result,
each with the result's fields and the transition time of the last old member of
its name when that one has the same status, else `now`; no other member. -/
theorem build_member_merge (now : Int) (old : List EtcdMemberStatus)
    (results : List (Option Result)) (hn : ((results.filterMap id).map (·.name)).Nodup)
    (ro : Go.RangeOrder (Σ _ : String, Result)) :
    let out := ((newBuilder now).withOldMembers old |>.withResults results).build ro
    (out.map (·.name)).Pairwise (· < ·) ∧ out.length = (results.filterMap id).length ∧
    (∀ r ∈ results.filterMap id, ∃ m ∈ out, m.id = r.id ∧ m.name = r.name ∧ m.role = r.role ∧
      m.status = r.status ∧ m.reason = r.reason ∧
      m.lastTransitionTime = match old.reverse.find? (·.name = r.name) with
        | some o => if o.status = r.status then o.lastTransitionTime else now
        | none => now) ∧
    ∀ m ∈ out, m.name ∈ (results.filterMap id).map (·.name) := by
  intro out
  set b := (newBuilder now).withOldMembers old with hb
  have hperm : out.Perm ((results.filterMap id).map fun r => b.memberStatus r.name r) := by
    simp only [out]
    rw [withResults_filterMap]
    exact build_withResults_perm ro b rfl _ hn
  refine ⟨build_names_sorted ro _, by rw [hperm.length_eq, List.length_map], fun r hr => ?_,
    fun m hm => ?_⟩
  · refine ⟨b.memberStatus r.name r, hperm.mem_iff.mpr (List.mem_map_of_mem hr), ?_⟩
    rw [Builder.memberStatus_eq, hb, lookup_withOldMembers, withOldMembers_now, newBuilder_now]
    exact ⟨rfl, rfl, rfl, rfl, rfl, rfl⟩
  · obtain ⟨r, hr, rfl⟩ := List.mem_map.mp (hperm.mem_iff.mp hm)
    rw [memberStatus_name]
    exact List.mem_map_of_mem hr

theorem build_member_merge_sample :
    (([some etcd0Ready].filterMap id).map (·.name)).Nodup ∧
    let out := ((newBuilder 5).withOldMembers readyThenNotReady |>.withResults [some etcd0Ready]).build
      (Go.RangeOrder.stored _)
    (out.map (·.name)).Pairwise (· < ·) ∧ out.length = ([some etcd0Ready].filterMap id).length ∧
    (∀ r ∈ [some etcd0Ready].filterMap id, ∃ m ∈ out, m.id = r.id ∧ m.name = r.name ∧
      m.role = r.role ∧ m.status = r.status ∧ m.reason = r.reason ∧
      m.lastTransitionTime = match readyThenNotReady.reverse.find? (·.name = r.name) with
        | some o => if o.status = r.status then o.lastTransitionTime else 5
        | none => 5) ∧
    ∀ m ∈ out, m.name ∈ ([some etcd0Ready].filterMap id).map (·.name) :=
  ⟨by decide, build_member_merge 5 readyThenNotReady [some etcd0Ready] (by decide)
    (Go.RangeOrder.stored _)⟩

end EtcdMember
end EtcdDruid
