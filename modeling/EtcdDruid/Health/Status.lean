import EtcdDruid.Health.Condition
import EtcdDruid.Go.FanIn

/-!
# Status checks: `pkg/health/status`

**Input.**  An Etcd; what the API server and the clocks answer while the checks
run (`Env`); and the choices of the Go runtime (`Schedule`): the orders of the
ranges over the builders' maps and the order in which the condition results
arrive on the channel.

**Algorithm.**  `Checker.Check` runs the member checks one after the other,
each rebuilding `Status.Members` from its results and the members before it.
Then it runs the condition checks, each in its own goroutine on a copy of the
Etcd that already has the new members, collects their results in arrival order
and rebuilds `Status.Conditions`.  A panic in a goroutine ends the process; the
model returns the failure.

**Results.**
* `executeEtcdMemberChecks_frame`: the member checks write nothing but the members.
* `check_ok_iff`: `Check` returns iff the backup check does not panic.
* `members_names_sorted`, `mem_members_names`, `members_status`: one member per
  lease with a renew time, sorted by name, with the status of its band.
* `check_condition_of_result`: the `Ready` and `AllMembersReady` conditions are
  the verdicts of their checks on the new members.
-/

namespace EtcdDruid
namespace Status

/-- What the API server and the clocks answer during one `Check`. -/
structure Env where
  /-- `client.List` of leases, by namespace and label selector. -/
  listLeases : String → StringMap → Except Go.Failure (List Lease)
  getPod : EtcdMember.PodGetter
  getLease : Condition.LeaseGetter
  /-- `etcdmember.TimeNow`. -/
  memberCheckTime : Int
  /-- `TimeNow` when the member builder calls its `nowFunc`. -/
  memberBuildTime : Int
  /-- `time.Now` behind the `time.Since` of the backup check. -/
  backupCheckTime : Int
  /-- `TimeNow` when the condition builder calls its `nowFunc`. -/
  conditionBuildTime : Int

structure Schedule where
  memberResults : Go.RangeOrder (Σ _ : String, EtcdMember.Result)
  arrival : Go.RangeOrder (Option Condition.Result)
  conditionResults : Go.RangeOrder (Σ _ : String, Condition.Result)
  oldConditions : Go.RangeOrder (Σ _ : String, Condition)

/-- `ConditionCheckFn`, applied to the client and then to the Etcd. -/
abbrev ConditionCheckFn := Env → Etcd → Except Go.Failure (Option Condition.Result)

/-- `EtcdMemberCheckFn`, given the not-ready and the unknown threshold. -/
abbrev EtcdMemberCheckFn := Env → Int → Int → Etcd → List EtcdMember.Result

/-- `Checker`.  The builder functions are always the default builders. -/
structure Checker where
  etcdMemberNotReadyThreshold : Int
  etcdMemberUnknownThreshold : Int
  conditionCheckFns : List ConditionCheckFn
  etcdMemberCheckFns : List EtcdMemberCheckFn

def conditionChecks : List ConditionCheckFn :=
  [fun _ etcd => .ok (some (Condition.allMembersReady etcd)),
   fun _ etcd => .ok (some (Condition.readyCheck etcd)),
   fun env etcd => Condition.backupReadyCheck env.getLease env.backupCheckTime etcd]

/-- `EtcdMemberChecks`: `etcdmember.ReadyCheck`, which lists the leases in the
Etcd's namespace that carry its member-lease labels. -/
def etcdMemberChecks : List EtcdMemberCheckFn :=
  [fun env notReady unknown etcd =>
    EtcdMember.readyCheck (env.listLeases etcd.namespace_ (getMemberLeaseLabels etcd.name))
      env.getPod notReady unknown env.memberCheckTime]

def newChecker (etcdMemberNotReadyThreshold etcdMemberUnknownThreshold : Int) : Checker :=
  ⟨etcdMemberNotReadyThreshold, etcdMemberUnknownThreshold, conditionChecks, etcdMemberChecks⟩

/-- One turn of the loop of `executeEtcdMemberChecks`. -/
def Checker.memberCheckStep (c : Checker) (env : Env) (sch : Schedule) (etcd : Etcd)
    (newCheck : EtcdMemberCheckFn) : Etcd :=
  let results := newCheck env c.etcdMemberNotReadyThreshold c.etcdMemberUnknownThreshold etcd
  let memberStatuses := (EtcdMember.newBuilder env.memberBuildTime
    |>.withNowFunc env.memberBuildTime
    |>.withOldMembers etcd.status.members
    |>.withResults (results.map some)).build sch.memberResults
  { etcd with status := { etcd.status with members := memberStatuses } }

def Checker.executeEtcdMemberChecks (c : Checker) (env : Env) (sch : Schedule) (etcd : Etcd) :
    Etcd :=
  c.etcdMemberCheckFns.foldl (c.memberCheckStep env sch) etcd

/-- `executeConditionChecks`: every check sees the same copy of the Etcd. -/
def Checker.executeConditionChecks (c : Checker) (env : Env) (sch : Schedule) (etcd : Etcd) :
    Except Go.Failure Etcd := do
  let results ← c.conditionCheckFns.mapM fun newCheck => newCheck env etcd
  let conditions := (Condition.newBuilder env.conditionBuildTime
    |>.withNowFunc env.conditionBuildTime
    |>.withOldConditions etcd.status.conditions
    |>.withResults (sch.arrival.order results)).build sch.conditionResults sch.oldConditions
      etcd.spec.replicas
  pure { etcd with status := { etcd.status with conditions := conditions } }

/-- `Check`: the member checks cannot fail, so their `err` is always `nil`. -/
def Checker.check (c : Checker) (env : Env) (sch : Schedule) (etcd : Etcd) :
    Except Go.Failure Etcd :=
  c.executeConditionChecks env sch (c.executeEtcdMemberChecks env sch etcd)

/-! ## The member checks -/

section Members

variable (env : Env) (sch : Schedule)

/-- The member checks write the members and nothing else. -/
theorem executeEtcdMemberChecks_frame (c : Checker) (etcd : Etcd) :
    ∃ ms, c.executeEtcdMemberChecks env sch etcd =
      { etcd with status := { etcd.status with members := ms } } := by
  unfold Checker.executeEtcdMemberChecks
  -- induction on the checks still to run; the invariant is the frame itself
  induction c.etcdMemberCheckFns generalizing etcd with
  | nil => exact ⟨etcd.status.members, rfl⟩
  | cons newCheck rest ih =>
      obtain ⟨ms, hms⟩ := ih (c.memberCheckStep env sch etcd newCheck)
      exact ⟨ms, by rw [List.foldl_cons, hms]; rfl⟩

variable (notReady unknown : Int) (etcd : Etcd) (leases : List Lease)

/-- The results of the member check of `newChecker`. -/
theorem memberResults_newChecker
    (hlist : env.listLeases etcd.namespace_ (getMemberLeaseLabels etcd.name) = .ok leases) :
    (newChecker notReady unknown).executeEtcdMemberChecks env sch etcd =
      { etcd with status := { etcd.status with members :=
        (EtcdMember.newBuilder env.memberBuildTime
          |>.withNowFunc env.memberBuildTime
          |>.withOldMembers etcd.status.members
          |>.withResults ((EtcdMember.readyCheck (.ok leases) env.getPod notReady unknown
            env.memberCheckTime).map some)).build sch.memberResults } } := by
  simp only [Checker.executeEtcdMemberChecks, newChecker, etcdMemberChecks, List.foldl_cons,
    List.foldl_nil, Checker.memberCheckStep, hlist]

/-- The new members, one for each result of the member check. -/
theorem members_perm_newChecker
    (hlist : env.listLeases etcd.namespace_ (getMemberLeaseLabels etcd.name) = .ok leases)
    (hnames : (leases.map (·.name)).Nodup) :
    ((newChecker notReady unknown).executeEtcdMemberChecks env sch etcd).status.members.Perm
      ((EtcdMember.readyCheck (.ok leases) env.getPod notReady unknown env.memberCheckTime).map
        fun r => ((EtcdMember.newBuilder env.memberBuildTime).withNowFunc env.memberBuildTime
          |>.withOldMembers etcd.status.members).memberStatus r.name r) := by
  rw [memberResults_newChecker env sch notReady unknown etcd leases hlist]
  exact EtcdMember.build_withResults_perm _ _ rfl _
    (EtcdMember.readyCheck_names_nodup _ _ _ _ leases hnames)

theorem members_names_sorted :
    (((newChecker notReady unknown).executeEtcdMemberChecks env sch etcd).status.members.map
      (·.name)).Pairwise (· < ·) := by
  simp only [Checker.executeEtcdMemberChecks, newChecker, etcdMemberChecks, List.foldl_cons,
    List.foldl_nil, Checker.memberCheckStep]
  exact EtcdMember.build_names_sorted _ _

/-- The members are named after the leases that have a renew time. -/
theorem mem_members_names
    (hlist : env.listLeases etcd.namespace_ (getMemberLeaseLabels etcd.name) = .ok leases)
    (hnames : (leases.map (·.name)).Nodup) (n : String) :
    n ∈ ((newChecker notReady unknown).executeEtcdMemberChecks env sch etcd).status.members.map
        (·.name) ↔ ∃ l ∈ leases, l.name = n ∧ l.renewTime.isSome := by
  rw [← EtcdMember.mem_readyCheck_names env.getPod notReady unknown env.memberCheckTime leases n,
    ((members_perm_newChecker env sch notReady unknown etcd leases hlist hnames).map _).mem_iff,
    List.map_map]
  simp [Function.comp_def, EtcdMember.memberStatus_name]

/-- A member named after a lease renewed at `renew` has the status of its band. -/
theorem members_status
    (hlist : env.listLeases etcd.namespace_ (getMemberLeaseLabels etcd.name) = .ok leases)
    (hnames : (leases.map (·.name)).Nodup) {l : Lease} (hl : l ∈ leases) {renew : Int}
    (hrenew : l.renewTime = some renew) {m : EtcdMemberStatus}
    (hm : m ∈ ((newChecker notReady unknown).executeEtcdMemberChecks env sch etcd).status.members)
    (hname : m.name = l.name) :
    m.status = (EtcdMember.memberState env.getPod notReady unknown env.memberCheckTime l renew).1 := by
  obtain ⟨r, hr, rfl⟩ := List.mem_map.mp
    ((members_perm_newChecker env sch notReady unknown etcd leases hlist hnames).mem_iff.mp hm)
  obtain ⟨l', hl', hcheck⟩ := EtcdMember.mem_readyCheck _ _ _ _ hr
  obtain ⟨renew', hrenew', hrname, hstate, -, -⟩ :=
    (EtcdMember.checkLease_eq_some _ _ _ _).mp hcheck
  -- distinct lease names: the result's lease is `l`
  have hll : l' = l := by
    refine List.inj_on_of_nodup_map hnames hl' hl ?_
    rw [← hrname, ← hname, EtcdMember.memberStatus_name]
  subst hll
  have hrr : renew' = renew := Option.some.inj (hrenew'.symm.trans hrenew)
  subst hrr
  rw [EtcdMember.memberStatus_status, ← hstate]

/-- As many members as leases with a renew time. -/
theorem members_length
    (hlist : env.listLeases etcd.namespace_ (getMemberLeaseLabels etcd.name) = .ok leases)
    (hnames : (leases.map (·.name)).Nodup) :
    ((newChecker notReady unknown).executeEtcdMemberChecks env sch etcd).status.members.length =
      (leases.filter (·.renewTime.isSome)).length := by
  rw [(members_perm_newChecker env sch notReady unknown etcd leases hlist hnames).length_eq,
    List.length_map, EtcdMember.readyCheck, List.length_filterMap_eq_countP,
    List.countP_eq_length_filter]
  simp only [EtcdMember.checkLease_isSome]

theorem members_eq_nil_iff
    (hlist : env.listLeases etcd.namespace_ (getMemberLeaseLabels etcd.name) = .ok leases)
    (hnames : (leases.map (·.name)).Nodup) :
    ((newChecker notReady unknown).executeEtcdMemberChecks env sch etcd).status.members = [] ↔
      leases.all (·.renewTime.isNone) := by
  rw [← List.length_eq_zero_iff, members_length env sch notReady unknown etcd leases hlist hnames,
    List.length_eq_zero_iff, List.filter_eq_nil_iff]
  simp

end Members

/-! ## The condition checks -/

section Conditions

variable (env : Env) (sch : Schedule) (notReady unknown : Int) (etcd : Etcd)

/-- The backup check reads the spec and the conditions, not the members. -/
theorem backupReadyCheck_withMembers (ms : List EtcdMemberStatus) :
    Condition.backupReadyCheck env.getLease env.backupCheckTime
        { etcd with status := { etcd.status with members := ms } } =
      Condition.backupReadyCheck env.getLease env.backupCheckTime etcd :=
  rfl

/-- The condition checks of `newChecker` return the two member verdicts and the
backup verdict, or the backup check's panic. -/
theorem mapM_conditionChecks :
    conditionChecks.mapM (fun newCheck => newCheck env etcd) =
      (fun br => [some (Condition.allMembersReady etcd), some (Condition.readyCheck etcd), br]) <$>
        Condition.backupReadyCheck env.getLease env.backupCheckTime etcd := by
  simp only [conditionChecks, List.mapM_cons, List.mapM_nil]
  cases Condition.backupReadyCheck env.getLease env.backupCheckTime etcd <;> rfl

/-- `executeConditionChecks` of `newChecker`, once the backup check returned `br`. -/
theorem executeConditionChecks_newChecker {br : Option Condition.Result}
    (hbr : Condition.backupReadyCheck env.getLease env.backupCheckTime etcd = .ok br) :
    (newChecker notReady unknown).executeConditionChecks env sch etcd =
      .ok { etcd with status := { etcd.status with conditions :=
        ((Condition.newBuilder env.conditionBuildTime
          |>.withNowFunc env.conditionBuildTime
          |>.withOldConditions etcd.status.conditions
          |>.withResults (sch.arrival.order
            [some (Condition.allMembersReady etcd), some (Condition.readyCheck etcd), br])).build
          sch.conditionResults sch.oldConditions etcd.spec.replicas) } } := by
  have hmap := mapM_conditionChecks env etcd
  rw [hbr] at hmap
  simp only [Checker.executeConditionChecks, newChecker, hmap]
  rfl

/-- `Check` returns exactly when the backup check does not panic. -/
theorem check_ok_iff :
    (∃ etcd', (newChecker notReady unknown).check env sch etcd = .ok etcd') ↔
      ∃ br, Condition.backupReadyCheck env.getLease env.backupCheckTime etcd = .ok br := by
  obtain ⟨ms, hms⟩ :=
    executeEtcdMemberChecks_frame env sch (newChecker notReady unknown) etcd
  constructor
  · rintro ⟨etcd', h⟩
    rw [Checker.check, Checker.executeConditionChecks, hms] at h
    obtain ⟨results, hres, -⟩ := Go.bind_eq_ok.mp h
    rw [show (newChecker notReady unknown).conditionCheckFns = conditionChecks from rfl,
      mapM_conditionChecks, backupReadyCheck_withMembers] at hres
    obtain ⟨br, hbr, -⟩ := Go.map_eq_ok.mp hres
    exact ⟨br, hbr⟩
  · rintro ⟨br, hbr⟩
    rw [← backupReadyCheck_withMembers env etcd ms] at hbr
    exact ⟨_, by rw [Checker.check, hms, executeConditionChecks_newChecker env sch _ _ _ hbr]⟩

/-- The three condition results have distinct types. -/
theorem conditionResults_types_nodup {br : Option Condition.Result}
    (hbr : Condition.backupReadyCheck env.getLease env.backupCheckTime etcd = .ok br) :
    (([some (Condition.allMembersReady etcd), some (Condition.readyCheck etcd), br].filterMap
      id).map (·.conType)).Nodup := by
  cases br with
  | none => simp [conditionTypeAllMembersReady, conditionTypeReady]
  | some r =>
      have hr := Condition.backupReadyCheck_conType hbr
      simp [hr, conditionTypeAllMembersReady, conditionTypeReady, conditionTypeBackupReady]

/-- The condition checks keep the new members and the spec. -/
theorem check_members_spec {etcd' : Etcd}
    (h : (newChecker notReady unknown).check env sch etcd = .ok etcd') :
    etcd'.status.members =
        ((newChecker notReady unknown).executeEtcdMemberChecks env sch etcd).status.members ∧
      etcd'.spec = etcd.spec := by
  obtain ⟨ms, hms⟩ := executeEtcdMemberChecks_frame env sch (newChecker notReady unknown) etcd
  obtain ⟨br, hbr⟩ := (check_ok_iff env sch notReady unknown etcd).mp ⟨etcd', h⟩
  rw [← backupReadyCheck_withMembers env etcd ms, ← hms] at hbr
  rw [Checker.check, executeConditionChecks_newChecker env sch notReady unknown _ hbr] at h
  cases h
  exact ⟨rfl, by rw [hms]⟩

/-- A result of the `Ready` or the `AllMembersReady` check becomes the one
condition of its type, with its status, when the Etcd has replicas. -/
theorem check_condition_of_result (hrep : etcd.spec.replicas ≠ 0) {etcd' : Etcd}
    (h : (newChecker notReady unknown).check env sch etcd = .ok etcd') (x : Condition.Result)
    (hx : x = Condition.allMembersReady
        ((newChecker notReady unknown).executeEtcdMemberChecks env sch etcd) ∨
      x = Condition.readyCheck ((newChecker notReady unknown).executeEtcdMemberChecks env sch etcd)) :
    (∃ c ∈ etcd'.status.conditions, c.type = x.conType) ∧
      ∀ c ∈ etcd'.status.conditions, c.type = x.conType → c.status = x.status := by
  obtain ⟨ms, hms⟩ := executeEtcdMemberChecks_frame env sch (newChecker notReady unknown) etcd
  obtain ⟨br, hbr⟩ := (check_ok_iff env sch notReady unknown etcd).mp ⟨etcd', h⟩
  rw [← backupReadyCheck_withMembers env etcd ms, ← hms] at hbr
  set mid := (newChecker notReady unknown).executeEtcdMemberChecks env sch etcd with hmid
  rw [Checker.check, executeConditionChecks_newChecker env sch notReady unknown mid hbr] at h
  cases h
  have hrep' : mid.spec.replicas ≠ 0 := by rw [hms]; exact hrep
  -- the result is stored under its type in the builder
  set b := (Condition.newBuilder env.conditionBuildTime).withNowFunc env.conditionBuildTime
    |>.withOldConditions mid.status.conditions
  have hmem : some x ∈ sch.arrival.order
      [some (Condition.allMembersReady mid), some (Condition.readyCheck mid), br] := by
    rw [(sch.arrival.perm _).mem_iff]
    rcases hx with rfl | rfl <;> simp
  have hnodup : (((sch.arrival.order
      [some (Condition.allMembersReady mid), some (Condition.readyCheck mid), br]).filterMap
        id).map (·.conType)).Nodup :=
    (((sch.arrival.perm _).filterMap id).map _).nodup_iff.mpr
      (conditionResults_types_nodup env mid hbr)
  have hlookup := Condition.lookup_withResults b rfl _ hnodup hmem
  have hskip : x.conType ∈ Condition.skipMergeConditions := by
    rcases hx with rfl | rfl <;> simp [Condition.skipMergeConditions]
  refine ⟨⟨_, Condition.exists_mem_build_of_result _ _ _ _ hlookup, ?_⟩, ?_⟩
  · exact Condition.mergeResult_type _ _ _ (b.withResults _).old_keyed _ _
  · intro c hc hct
    rw [Condition.mem_build_of_result _ _ _ _ hlookup hskip c hc hct]
    exact Condition.mergeResult_status _ _ hrep' _ _ _

end Conditions

/-! ## Scheduling -/

section Scheduling

variable (env : Env) (sch sch' : Schedule) (notReady unknown : Int) (etcd : Etcd)

/-- The member checks do not depend on the order of the range over the results. -/
theorem executeEtcdMemberChecks_schedule (c : Checker) :
    c.executeEtcdMemberChecks env sch' etcd = c.executeEtcdMemberChecks env sch etcd := by
  have hstep : c.memberCheckStep env sch' = c.memberCheckStep env sch := by
    funext etcd newCheck
    simp only [Checker.memberCheckStep, EtcdMember.build_eq_sortSliceBy]
  rw [Checker.executeEtcdMemberChecks, Checker.executeEtcdMemberChecks, hstep]

/-- The condition checks do not depend on the arrival order of their results or
on the orders of the builder's ranges. -/
theorem executeConditionChecks_schedule :
    (newChecker notReady unknown).executeConditionChecks env sch' etcd =
      (newChecker notReady unknown).executeConditionChecks env sch etcd := by
  cases hbr : Condition.backupReadyCheck env.getLease env.backupCheckTime etcd with
  | error f =>
      simp only [Checker.executeConditionChecks, newChecker, mapM_conditionChecks, hbr]
      rfl
  | ok br =>
      rw [executeConditionChecks_newChecker env sch' notReady unknown etcd hbr,
        executeConditionChecks_newChecker env sch notReady unknown etcd hbr,
        Condition.withNowFunc_newBuilder,
        Condition.build_results_perm _ _ ((sch'.arrival.perm _).trans (sch.arrival.perm _).symm)
          ((((sch.arrival.perm _).filterMap id).map _).nodup_iff.mpr
            (conditionResults_types_nodup env etcd hbr))]

theorem check_schedule :
    (newChecker notReady unknown).check env sch' etcd =
      (newChecker notReady unknown).check env sch etcd := by
  rw [Checker.check, Checker.check, executeEtcdMemberChecks_schedule env sch sch',
    executeConditionChecks_schedule env sch sch']

end Scheduling

/-- The condition checks run in parallel and their results are gathered with
the fan-in pattern: every interleaving is finite, ends only when the collector
has left its loop, and then every result has been received exactly once, in an
arrival order.  The builders return the same list for every order of results
with distinct keys and every order of their ranges.  So `Check` returns the same
Etcd under every schedule. -/
theorem conditions_independent_of_scheduling :
    (∀ (vs : List (Option Condition.Result)) (as : List (Go.FanIn.Action vs.length)) s,
      Go.FanIn.run (Go.FanIn.init vs.length) as = some s →
        as.length ≤ 2 * vs.length + 2 ∧
        ((∀ a, Go.FanIn.step s a = none) ↔ s.exited = true) ∧
        (s.exited = true → s.received.Perm (List.finRange vs.length) ∧
          ∃ arrival : Go.RangeOrder (Option Condition.Result),
            arrival.order vs = Go.FanIn.collected vs s)) ∧
    (∀ (now : Int) (old : List Condition) (results results' : List (Option Condition.Result))
      (replicas : Int32) (roResults roResults' : Go.RangeOrder (Σ _ : String, Condition.Result))
      (roOld roOld' : Go.RangeOrder (Σ _ : String, Condition)),
      results'.Perm results → ((results.filterMap id).map (·.conType)).Nodup →
        ((Condition.newBuilder now).withOldConditions old |>.withResults results').build
            roResults' roOld' replicas =
          ((Condition.newBuilder now).withOldConditions old |>.withResults results).build
            roResults roOld replicas) ∧
    (∀ (now : Int) (old : List EtcdMemberStatus)
      (results results' : List (Option EtcdMember.Result))
      (ro ro' : Go.RangeOrder (Σ _ : String, EtcdMember.Result)),
      results'.Perm results → ((results.filterMap id).map (·.name)).Nodup →
        ((EtcdMember.newBuilder now).withOldMembers old |>.withResults results').build ro' =
          ((EtcdMember.newBuilder now).withOldMembers old |>.withResults results).build ro) ∧
    ∀ (notReady unknown : Int) (env : Env) (sch sch' : Schedule) (etcd : Etcd),
      (newChecker notReady unknown).check env sch' etcd =
        (newChecker notReady unknown).check env sch etcd := by
  refine ⟨fun vs as s hs => ?_, fun now old results results' replicas roResults roResults'
    roOld roOld' hp hn => Condition.build_results_perm now old hp hn replicas roResults
      roResults' roOld roOld',
    fun now old results results' ro ro' hp hn =>
      EtcdMember.build_results_perm ro _ rfl hp hn ro',
    fun notReady unknown env sch sch' etcd => check_schedule env sch sch' notReady unknown etcd⟩
  have hinv := Go.FanIn.inv_run (Go.FanIn.inv_init vs.length) hs
  exact ⟨Go.FanIn.run_length_le hs, Go.FanIn.stuck_iff_exited hinv,
    fun he => ⟨Go.FanIn.received_perm_of_exited hinv he, Go.FanIn.exists_arrival vs hinv he⟩⟩

/-! ## The pipeline -/

theorem check_members_and_conditions (notReady unknown : Int) (env : Env) (sch : Schedule)
    (etcd : Etcd) (leases : List Lease)
    (hlist : env.listLeases etcd.namespace_ (getMemberLeaseLabels etcd.name) = .ok leases)
    (hnames : (leases.map (·.name)).Nodup) (hrep : etcd.spec.replicas ≠ 0)
    (hnotReady : 0 ≤ notReady) :
    ((∃ etcd', (newChecker notReady unknown).check env sch etcd = .ok etcd') ↔
      ∃ br, Condition.backupReadyCheck env.getLease env.backupCheckTime etcd = .ok br) ∧
    ∀ etcd', (newChecker notReady unknown).check env sch etcd = .ok etcd' →
      (etcd'.status.members.map (·.name)).Pairwise (· < ·) ∧
      (∀ n, n ∈ etcd'.status.members.map (·.name) ↔
        ∃ l ∈ leases, l.name = n ∧ l.renewTime.isSome) ∧
      etcd'.status.members.length = (leases.filter (·.renewTime.isSome)).length ∧
      (∀ l ∈ leases, ∀ renew, l.renewTime = some renew →
        ∀ m ∈ etcd'.status.members, m.name = l.name →
        (m.status = .etcdMemberStatusNotReady ↔
          renew + unknown + notReady < env.memberCheckTime ∨
            (renew + unknown < env.memberCheckTime ∧
              (env.getPod l.namespace_ l.name = .error .notFound ∨
                ∃ conds, env.getPod l.namespace_ l.name = .ok conds ∧
                  EtcdMember.containersReadyStatus conds ≠ some .conditionTrue))) ∧
        (m.status = .etcdMemberStatusUnknown ↔
          renew + unknown < env.memberCheckTime ∧
            env.memberCheckTime ≤ renew + unknown + notReady ∧
            ((∃ msg, env.getPod l.namespace_ l.name = .error (.other msg)) ∨
              ∃ conds, env.getPod l.namespace_ l.name = .ok conds ∧
                EtcdMember.containersReadyStatus conds = some .conditionTrue)) ∧
        (m.status = .etcdMemberStatusReady ↔ env.memberCheckTime ≤ renew + unknown)) ∧
      (∃ c ∈ etcd'.status.conditions, c.type = conditionTypeReady) ∧
      (∀ c ∈ etcd'.status.conditions, c.type = conditionTypeReady →
        c.status =
          if leases.all (·.renewTime.isNone) then .conditionUnknown
          else if etcd'.status.members.length / 2 + 1 ≤
              etcd'.status.members.countP (·.status ≠ .etcdMemberStatusNotReady) then
            .conditionTrue
          else .conditionFalse) ∧
      (∃ c ∈ etcd'.status.conditions, c.type = conditionTypeAllMembersReady) ∧
      (∀ c ∈ etcd'.status.conditions, c.type = conditionTypeAllMembersReady →
        c.status =
          if leases.all (·.renewTime.isNone) then .conditionUnknown
          else if Int32.ofNat etcd'.status.members.length < etcd.spec.replicas ∨
              ¬ etcd'.status.members.all (·.status = .etcdMemberStatusReady) then
            .conditionFalse
          else .conditionTrue) := by
  refine ⟨check_ok_iff env sch notReady unknown etcd, fun etcd' h => ?_⟩
  obtain ⟨hmembers, hspec⟩ := check_members_spec env sch notReady unknown etcd h
  have hready := check_condition_of_result env sch notReady unknown etcd hrep h _ (Or.inr rfl)
  have hall := check_condition_of_result env sch notReady unknown etcd hrep h _ (Or.inl rfl)
  rw [Condition.readyCheck_conType] at hready
  rw [Condition.allMembersReady_conType] at hall
  have hnil := members_eq_nil_iff env sch notReady unknown etcd leases hlist hnames
  have hreplicas :
      ((newChecker notReady unknown).executeEtcdMemberChecks env sch etcd).spec.replicas =
        etcd.spec.replicas := by
    obtain ⟨ms, hms⟩ := executeEtcdMemberChecks_frame env sch (newChecker notReady unknown) etcd
    rw [hms]
  rw [hmembers]
  refine ⟨members_names_sorted env sch notReady unknown etcd,
    mem_members_names env sch notReady unknown etcd leases hlist hnames,
    members_length env sch notReady unknown etcd leases hlist hnames, ?_, hready.1, ?_,
    hall.1, ?_⟩
  · -- (b): the member's status is the one of its lease's band
    intro l hl renew hrenew m hm hname
    rw [members_status env sch notReady unknown etcd leases hlist hnames hl hrenew hm hname]
    exact ⟨EtcdMember.memberState_notReady_iff _ _ _ _ l renew,
      EtcdMember.memberState_unknown_iff _ _ _ _ l renew,
      EtcdMember.memberState_ready_iff _ _ _ _ hnotReady l renew⟩
  · intro c hc hct
    rw [hready.2 c hc hct, Condition.readyCheck_status]
    simp only [hnil]
  · intro c hc hct
    rw [hall.2 c hc hct, Condition.allMembersReady_status, hreplicas]
    simp only [hnil]

/-- A member renewed at `100` and one still bootstrapping; the pod of the first
is not found. -/
def sampleLeases : List Lease :=
  [{ name := "etcd-0", namespace_ := "shoot", labels := getMemberLeaseLabels "etcd",
     ownerReferences := [], creationTimestamp := 0, holderIdentity := some "1a:Leader",
     renewTime := some 100 },
   { name := "etcd-1", namespace_ := "shoot", labels := getMemberLeaseLabels "etcd",
     ownerReferences := [], creationTimestamp := 0, holderIdentity := none, renewTime := none }]

def sampleEnv : Env :=
  { listLeases := fun _ _ => .ok sampleLeases, getPod := fun _ _ => .error .notFound,
    getLease := fun _ _ => .error (.error "leases.coordination.k8s.io not found"),
    memberCheckTime := 150, memberBuildTime := 150, backupCheckTime := 150,
    conditionBuildTime := 150 }

def sampleSchedule : Schedule :=
  ⟨Go.RangeOrder.stored _, Go.RangeOrder.stored _, Go.RangeOrder.stored _,
    Go.RangeOrder.stored _⟩

def sampleEtcd : Etcd :=
  { (default : Etcd) with
    name := "etcd"
    namespace_ := "shoot"
    spec := { (default : EtcdSpec) with replicas := 3 } }

theorem check_members_and_conditions_sample :
    sampleEnv.listLeases sampleEtcd.namespace_ (getMemberLeaseLabels sampleEtcd.name) =
      .ok sampleLeases ∧
    (sampleLeases.map (·.name)).Nodup ∧ sampleEtcd.spec.replicas ≠ 0 ∧ (0 : Int) ≤ 1 ∧
    ((∃ etcd', (newChecker 1 1).check sampleEnv sampleSchedule sampleEtcd = .ok etcd') ↔
      ∃ br, Condition.backupReadyCheck sampleEnv.getLease sampleEnv.backupCheckTime sampleEtcd = .ok br) ∧
    ∀ etcd', (newChecker 1 1).check sampleEnv sampleSchedule sampleEtcd = .ok etcd' →
      (etcd'.status.members.map (·.name)).Pairwise (· < ·) ∧
      (∀ n, n ∈ etcd'.status.members.map (·.name) ↔
        ∃ l ∈ sampleLeases, l.name = n ∧ l.renewTime.isSome) ∧
      etcd'.status.members.length = (sampleLeases.filter (·.renewTime.isSome)).length ∧
      (∀ l ∈ sampleLeases, ∀ renew, l.renewTime = some renew →
        ∀ m ∈ etcd'.status.members, m.name = l.name →
        (m.status = .etcdMemberStatusNotReady ↔
          renew + 1 + 1 < sampleEnv.memberCheckTime ∨
            (renew + 1 < sampleEnv.memberCheckTime ∧
              (sampleEnv.getPod l.namespace_ l.name = .error .notFound ∨
                ∃ conds, sampleEnv.getPod l.namespace_ l.name = .ok conds ∧
                  EtcdMember.containersReadyStatus conds ≠ some .conditionTrue))) ∧
        (m.status = .etcdMemberStatusUnknown ↔
          renew + 1 < sampleEnv.memberCheckTime ∧
            sampleEnv.memberCheckTime ≤ renew + 1 + 1 ∧
            ((∃ msg, sampleEnv.getPod l.namespace_ l.name = .error (.other msg)) ∨
              ∃ conds, sampleEnv.getPod l.namespace_ l.name = .ok conds ∧
                EtcdMember.containersReadyStatus conds = some .conditionTrue)) ∧
        (m.status = .etcdMemberStatusReady ↔ sampleEnv.memberCheckTime ≤ renew + 1)) ∧
      (∃ c ∈ etcd'.status.conditions, c.type = conditionTypeReady) ∧
      (∀ c ∈ etcd'.status.conditions, c.type = conditionTypeReady →
        c.status =
          if sampleLeases.all (·.renewTime.isNone) then .conditionUnknown
          else if etcd'.status.members.length / 2 + 1 ≤
              etcd'.status.members.countP (·.status ≠ .etcdMemberStatusNotReady) then
            .conditionTrue
          else .conditionFalse) ∧
      (∃ c ∈ etcd'.status.conditions, c.type = conditionTypeAllMembersReady) ∧
      (∀ c ∈ etcd'.status.conditions, c.type = conditionTypeAllMembersReady →
        c.status =
          if sampleLeases.all (·.renewTime.isNone) then .conditionUnknown
          else if Int32.ofNat etcd'.status.members.length < sampleEtcd.spec.replicas ∨
              ¬ etcd'.status.members.all (·.status = .etcdMemberStatusReady) then
            .conditionFalse
          else .conditionTrue) :=
  ⟨rfl, by decide, by decide, by decide,
    check_members_and_conditions 1 1 sampleEnv sampleSchedule sampleEtcd sampleLeases rfl
      (by decide) (by decide) (by decide)⟩

end Status
end EtcdDruid
