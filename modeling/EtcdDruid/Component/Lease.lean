import EtcdDruid.Utils
import EtcdDruid.Go.Parallel
import EtcdDruid.Go.Sprintf

/-!
# Leases: `pkg/component/etcd/lease`

**Input.**  The lease values of an Etcd, its namespace, and the leases the API
server stores, by namespace and name.

**Algorithm.**  `Deploy` syncs the delta and then the full snapshot lease
(`GetAndCreateOrMergePatch` with the Etcd as owner if backup is enabled, a
delete otherwise), then `syncMemberLeases`: one create-or-patch task per member
lease `<name>-<i>`, `i < replicas`, that adds the member labels and the owner,
and, for every lease the namespace lists with the member labels at that point
and that is not one of these names, a delete task.  `flow.Parallel` runs the
tasks in an order the runtime picks.  The client is the API server's store;
none of its calls fails.

**Results.**
* `memberLeaseNames_nodup`, `syncMemberLeasesTasks_keys_nodup`: the tasks have
  distinct keys, so their order does not matter;
* `lookup_syncMemberLeases_of_mem`, `lookup_syncMemberLeases_of_listed`,
  `lookup_syncMemberLeases_of_notMem`: every lease after `syncMemberLeases`;
* `deploy_labelled_iff`, `deploy_member`, `lookup_deploy_snapshot`,
  `lookup_deploy_of_notMem`: every lease after `Deploy`, given the names and
  labels `Values.Distinct` asks for;
* `deploy_entries_perm`: the order of the parallel tasks does not matter;
* `mem_listLeases_of_lookup`: the API server's `List` by labels returns every
  stored lease of the namespace that carries them.
-/

namespace EtcdDruid
namespace Lease

/-- `lease.Values`. -/
structure Values where
  backupEnabled : Bool
  etcdName : String
  deltaSnapshotLeaseName : String
  fullSnapshotLeaseName : String
  replicas : Int32
  labels : StringMap
  ownerReference : OwnerReference

def generateValues (etcd : Etcd) : Values where
  backupEnabled := etcd.spec.backup.store.isSome
  etcdName := etcd.name
  deltaSnapshotLeaseName := etcd.getDeltaSnapshotLeaseName
  fullSnapshotLeaseName := etcd.getFullSnapshotLeaseName
  replicas := etcd.spec.replicas
  labels := etcd.getDefaultLabels
  ownerReference := etcd.getAsOwnerReference

/-- `memberLeaseName`: `fmt.Sprintf("%s-%d", etcdName, replica)`. -/
def memberLeaseName (etcdName : String) (replica : Int) : String :=
  etcdName ++ "-" ++ toString replica

/-! ## The lease store and `Deploy` -/

/-- The leases of the API server, by namespace and name. -/
abbrev LeaseStore := Go.Map (String × String) Lease

/-- A task of `flow.Parallel` on one lease. -/
abbrev LeaseTask := (String × String) × (Option Lease → Option Lease)

/-- `emptyLease`: the name, the namespace and a copy of the values' labels. -/
def emptyLease (v : Values) (namespace_ name : String) : Lease :=
  { name := name, namespace_ := namespace_, labels := v.labels, ownerReferences := [],
    creationTimestamp := 0, holderIdentity := none, renewTime := none }

/-- `controllerutils.GetAndCreateOrMergePatch` of one lease: the stored lease,
or `empty` when there is none, through `mutate`; the server stamps a created
lease with `now`. -/
def getAndCreateOrMergePatch (now : Int) (empty : Lease) (mutate : Lease → Lease) :
    Option Lease → Option Lease
  | none => some { mutate empty with creationTimestamp := now }
  | some existing => some (mutate existing)

/-- `syncSnapshotLease`; a delete ignores `NotFound`. -/
def syncSnapshotLease (v : Values) (namespace_ : String) (now : Int) (name : String) :
    Option Lease → Option Lease :=
  if !v.backupEnabled then fun _ => none
  else
    getAndCreateOrMergePatch now (emptyLease v namespace_ name) fun lease =>
      { lease with ownerReferences := [v.ownerReference] }

/-- The mutate function of a member lease: the member labels and the owner. -/
def memberLeaseMutate (v : Values) (lease : Lease) : Lease :=
  { lease with labels := putAll lease.labels (getMemberLeaseLabels v.etcdName),
               ownerReferences := [v.ownerReference] }

/-- `for i := 0; i < int(c.values.Replicas); i++ { memberLeaseName(prefix, i) }`. -/
def memberLeaseNames (v : Values) : List String :=
  (List.range v.replicas.toInt.toNat).map fun i : Nat => memberLeaseName v.etcdName i

/-- The tasks `syncMemberLeases` hands to `flow.Parallel`, from the leases the
store holds when it lists them. -/
def syncMemberLeasesTasks (v : Values) (namespace_ : String) (now : Int) (store : LeaseStore) :
    List LeaseTask :=
  let labels := getMemberLeaseLabels v.etcdName
  let leaseNames := memberLeaseNames v
  let patches := leaseNames.map fun leaseName =>
    ((namespace_, leaseName),
      getAndCreateOrMergePatch now (emptyLease v namespace_ leaseName) (memberLeaseMutate v))
  -- `client.List` in the namespace with the member labels
  let leaseList := store.entries.filter fun e =>
    decide (e.1.1 = namespace_ ∧ matchesLabels labels e.2.labels)
  let deletes := (leaseList.filter fun e => decide (e.1.2 ∉ leaseNames)).map fun e =>
    ((e.1 : String × String), fun _ => (none : Option Lease))
  patches ++ deletes

/-- `syncMemberLeases`: `flow.Parallel` completes the tasks in the order `sched`. -/
def syncMemberLeases (v : Values) (namespace_ : String) (now : Int) (sched : Go.RangeOrder LeaseTask)
    (store : LeaseStore) : LeaseStore :=
  Go.runTasks (sched.order (syncMemberLeasesTasks v namespace_ now store)) store

/-- `component.Deploy`. -/
def deploy (v : Values) (namespace_ : String) (now : Int) (sched : Go.RangeOrder LeaseTask)
    (store : LeaseStore) : LeaseStore :=
  let store := Go.applyAt (namespace_, v.deltaSnapshotLeaseName)
    (syncSnapshotLease v namespace_ now v.deltaSnapshotLeaseName) store
  let store := Go.applyAt (namespace_, v.fullSnapshotLeaseName)
    (syncSnapshotLease v namespace_ now v.fullSnapshotLeaseName) store
  syncMemberLeases v namespace_ now sched store

/-- The API server's `List` of the leases of a namespace with the labels of `sel`. -/
def listLeases (store : LeaseStore) (namespace_ : String) (sel : StringMap) : List Lease :=
  (store.entries.filter fun e => decide (e.1.1 = namespace_ ∧ matchesLabels sel e.2.labels)).map
    (·.2)

theorem mem_listLeases_of_lookup {store : LeaseStore} {namespace_ n : String} {sel : StringMap}
    {l : Lease} (hl : store.lookup (namespace_, n) = some l) (hsel : matchesLabels sel l.labels) :
    l ∈ listLeases store namespace_ sel := by
  refine List.mem_map.mpr ⟨⟨(namespace_, n), l⟩, List.mem_filter.mpr ⟨AList.mem_lookup_iff.mp hl, ?_⟩, rfl⟩
  simp [hsel]

/-! ## The tasks of `syncMemberLeases` -/

section Tasks

variable (v : Values) (namespace_ : String) (now : Int)

/-- The member lease names of `%s-%d` are distinct. -/
theorem memberLeaseNames_nodup : (memberLeaseNames v).Nodup :=
  List.nodup_range.map fun _ _ h => (Go.sprintf_dash_inj h).2

theorem mem_memberLeaseNames {n : String} :
    n ∈ memberLeaseNames v ↔ ∃ i < v.replicas.toInt.toNat, memberLeaseName v.etcdName i = n := by
  simp [memberLeaseNames]

/-- The keys of the tasks: the member names and the listed leases. -/
theorem syncMemberLeasesTasks_keys (store : LeaseStore) :
    (syncMemberLeasesTasks v namespace_ now store).map Prod.fst =
      (memberLeaseNames v).map (Prod.mk namespace_) ++
        ((store.entries.filter fun e =>
            decide (e.1.1 = namespace_ ∧ matchesLabels (getMemberLeaseLabels v.etcdName) e.2.labels)).filter
          fun e => decide (e.1.2 ∉ memberLeaseNames v)).map Sigma.fst := by
  simp [syncMemberLeasesTasks, Function.comp_def]

theorem syncMemberLeasesTasks_keys_nodup (store : LeaseStore) :
    ((syncMemberLeasesTasks v namespace_ now store).map Prod.fst).Nodup := by
  rw [syncMemberLeasesTasks_keys, List.nodup_append]
  refine ⟨?_, ?_, ?_⟩
  · exact (memberLeaseNames_nodup v).map fun _ _ h => (Prod.mk.inj h).2
  · -- the listed leases are entries of the store, whose keys are unique
    exact (((List.filter_sublist ..).trans (List.filter_sublist ..)).map Sigma.fst).nodup
      store.nodupKeys
  · -- a listed lease is deleted only when its name is not a member name
    intro a ha b hb hab
    obtain ⟨n, hn, rfl⟩ := List.mem_map.mp ha
    obtain ⟨e, he, rfl⟩ := List.mem_map.mp hb
    have hname := (List.mem_filter.mp he).2
    simp only [decide_eq_true_eq] at hname
    exact hname (hab ▸ hn)

variable {v namespace_ now}

theorem mem_syncMemberLeasesTasks_keys {store : LeaseStore} {k : String × String}
    (hk : k ∈ (syncMemberLeasesTasks v namespace_ now store).map Prod.fst) :
    k.1 = namespace_ ∧ (k.2 ∈ memberLeaseNames v ∨
      ∃ l, store.lookup k = some l ∧ matchesLabels (getMemberLeaseLabels v.etcdName) l.labels) := by
  rw [syncMemberLeasesTasks_keys, List.mem_append] at hk
  rcases hk with hk | hk
  · obtain ⟨n, hn, rfl⟩ := List.mem_map.mp hk
    exact ⟨rfl, .inl hn⟩
  · obtain ⟨e, he, rfl⟩ := List.mem_map.mp hk
    simp only [List.mem_filter, decide_eq_true_eq] at he
    exact ⟨he.1.2.1, .inr ⟨e.2, AList.mem_lookup_iff.mpr he.1.1, he.1.2.2⟩⟩

end Tasks

/-! ## The leases after `syncMemberLeases` -/

section Sync

variable {v : Values} {namespace_ : String} {now : Int} (sched : Go.RangeOrder LeaseTask)
  (store : LeaseStore)

/-- Whatever the order, the store is as the list order of the tasks leaves it. -/
theorem lookup_syncMemberLeases_eq (k : String × String) :
    (syncMemberLeases v namespace_ now sched store).lookup k =
      (Go.runTasks (syncMemberLeasesTasks v namespace_ now store) store).lookup k :=
  Go.lookup_runTasks_perm (sched.perm _) (syncMemberLeasesTasks_keys_nodup v namespace_ now store) _ _

/-- A member lease is created or patched. -/
theorem lookup_syncMemberLeases_of_mem {n : String} (hn : n ∈ memberLeaseNames v) :
    (syncMemberLeases v namespace_ now sched store).lookup (namespace_, n) =
      getAndCreateOrMergePatch now (emptyLease v namespace_ n) (memberLeaseMutate v)
        (store.lookup (namespace_, n)) := by
  rw [lookup_syncMemberLeases_eq]
  apply Go.lookup_runTasks_of_mem (syncMemberLeasesTasks_keys_nodup v namespace_ now store)
  exact List.mem_append_left _ (List.mem_map_of_mem hn)

/-- A listed lease that is no member lease is deleted. -/
theorem lookup_syncMemberLeases_of_listed {n : String} {l : Lease}
    (hl : store.lookup (namespace_, n) = some l)
    (hsel : matchesLabels (getMemberLeaseLabels v.etcdName) l.labels) (hn : n ∉ memberLeaseNames v) :
    (syncMemberLeases v namespace_ now sched store).lookup (namespace_, n) = none := by
  rw [lookup_syncMemberLeases_eq]
  apply Go.lookup_runTasks_of_mem (f := fun _ => none)
    (syncMemberLeasesTasks_keys_nodup v namespace_ now store)
  have he : (⟨(namespace_, n), l⟩ : Σ _ : String × String, Lease) ∈ store.entries :=
    AList.mem_lookup_iff.mp hl
  refine List.mem_append_right _ (List.mem_map.mpr ⟨⟨(namespace_, n), l⟩, ?_, rfl⟩)
  simp only [List.mem_filter, decide_eq_true_eq]
  exact ⟨⟨he, trivial, hsel⟩, hn⟩

/-- Every other lease is left alone. -/
theorem lookup_syncMemberLeases_of_notMem {k : String × String}
    (hk : k.1 = namespace_ → k.2 ∉ memberLeaseNames v ∧
      ∀ l, store.lookup k = some l → ¬ matchesLabels (getMemberLeaseLabels v.etcdName) l.labels) :
    (syncMemberLeases v namespace_ now sched store).lookup k = store.lookup k := by
  rw [lookup_syncMemberLeases_eq]
  apply Go.lookup_runTasks_of_notMem
  intro hmem
  obtain ⟨hns, hkind⟩ := mem_syncMemberLeasesTasks_keys hmem
  obtain ⟨hname, hlabels⟩ := hk hns
  rcases hkind with hn | ⟨l, hl, hsel⟩
  · exact hname hn
  · exact hlabels l hl hsel

/-- The member labels are on every lease the mutate function returns. -/
theorem memberLeaseMutate_labels (l : Lease) :
    matchesLabels (getMemberLeaseLabels v.etcdName) (memberLeaseMutate v l).labels := by
  intro k x hk
  simp [memberLeaseMutate, lookup_putAll, hk]

/-- A member lease exists afterwards, labelled and owned. -/
theorem syncMemberLeases_member {n : String} (hn : n ∈ memberLeaseNames v) :
    ∃ l, (syncMemberLeases v namespace_ now sched store).lookup (namespace_, n) = some l ∧
      matchesLabels (getMemberLeaseLabels v.etcdName) l.labels ∧
      l.ownerReferences = [v.ownerReference] := by
  rw [lookup_syncMemberLeases_of_mem sched store hn]
  cases store.lookup (namespace_, n) with
  | none => exact ⟨_, rfl, memberLeaseMutate_labels _, rfl⟩
  | some l => exact ⟨_, rfl, memberLeaseMutate_labels _, rfl⟩

/-- Afterwards the namespace's leases with the member labels are exactly the
member leases. -/
theorem syncMemberLeases_labelled_iff (n : String) :
    (∃ l, (syncMemberLeases v namespace_ now sched store).lookup (namespace_, n) = some l ∧
        matchesLabels (getMemberLeaseLabels v.etcdName) l.labels) ↔
      n ∈ memberLeaseNames v := by
  constructor
  · rintro ⟨l, hl, hsel⟩
    by_contra hn
    -- a labelled lease that is no member lease was either listed and deleted, or left alone
    by_cases hlisted : ∃ l', store.lookup (namespace_, n) = some l' ∧
        matchesLabels (getMemberLeaseLabels v.etcdName) l'.labels
    · obtain ⟨l', hl', hsel'⟩ := hlisted
      rw [lookup_syncMemberLeases_of_listed sched store hl' hsel' hn] at hl
      cases hl
    · have hkeep : (syncMemberLeases v namespace_ now sched store).lookup (namespace_, n) =
          store.lookup (namespace_, n) :=
        lookup_syncMemberLeases_of_notMem sched store
          fun _ => ⟨hn, fun l' hl' hsel' => hlisted ⟨l', hl', hsel'⟩⟩
      exact hlisted ⟨l, hkeep ▸ hl, hsel⟩
  · intro hn
    obtain ⟨l, hl, hsel, -⟩ := syncMemberLeases_member sched store hn
    exact ⟨l, hl, hsel⟩

end Sync

/-! ## The leases after `Deploy` -/

/-- What `GenerateValues` makes of the names and labels: the two snapshot leases
are distinct and no member lease, and the values' labels are not the member
labels. -/
structure Values.Distinct (v : Values) : Prop where
  delta_ne_full : v.deltaSnapshotLeaseName ≠ v.fullSnapshotLeaseName
  delta_notMem : v.deltaSnapshotLeaseName ∉ memberLeaseNames v
  full_notMem : v.fullSnapshotLeaseName ∉ memberLeaseNames v
  labels_not_member : ¬ matchesLabels (getMemberLeaseLabels v.etcdName) v.labels

section Snapshot

variable {v : Values} {namespace_ : String} {now : Int} {name : String}

/-- A snapshot lease is kept exactly when backup is enabled. -/
theorem syncSnapshotLease_isSome (o : Option Lease) :
    (syncSnapshotLease v namespace_ now name o).isSome = v.backupEnabled := by
  unfold syncSnapshotLease getAndCreateOrMergePatch
  cases v.backupEnabled <;> cases o <;> rfl

/-- A kept snapshot lease has its old labels, or the values' for a new one, the
Etcd as owner, and its old holder identity, which a new lease does not have. -/
theorem syncSnapshotLease_eq_some {o : Option Lease} {l : Lease}
    (h : syncSnapshotLease v namespace_ now name o = some l) :
    l.labels = (o.map Lease.labels).getD v.labels ∧ l.ownerReferences = [v.ownerReference] ∧
      l.holderIdentity = o.bind Lease.holderIdentity := by
  unfold syncSnapshotLease getAndCreateOrMergePatch at h
  cases hb : v.backupEnabled
  · simp [hb] at h
  · cases o with
    | none =>
        simp only [hb, Bool.not_true, Bool.false_eq_true, if_false, Option.some.injEq] at h
        subst h
        exact ⟨rfl, rfl, rfl⟩
    | some existing =>
        simp only [hb, Bool.not_true, Bool.false_eq_true, if_false, Option.some.injEq] at h
        subst h
        exact ⟨rfl, rfl, rfl⟩

end Snapshot

section Deploy

variable {v : Values} {namespace_ : String} {now : Int} (sched : Go.RangeOrder LeaseTask)
  (store : LeaseStore)

/-- The member leases exist after `Deploy`, labelled and owned. -/
theorem deploy_member {n : String} (hn : n ∈ memberLeaseNames v) :
    ∃ l, (deploy v namespace_ now sched store).lookup (namespace_, n) = some l ∧
      matchesLabels (getMemberLeaseLabels v.etcdName) l.labels ∧
      l.ownerReferences = [v.ownerReference] :=
  syncMemberLeases_member sched _ hn

theorem deploy_labelled_iff (n : String) :
    (∃ l, (deploy v namespace_ now sched store).lookup (namespace_, n) = some l ∧
        matchesLabels (getMemberLeaseLabels v.etcdName) l.labels) ↔
      n ∈ memberLeaseNames v :=
  syncMemberLeases_labelled_iff sched _ n

/-- A snapshot lease after `Deploy`: synced, then deleted if it carries the member labels. -/
theorem lookup_deploy_snapshot (hv : v.Distinct) {n : String}
    (hn : n = v.deltaSnapshotLeaseName ∨ n = v.fullSnapshotLeaseName) :
    (deploy v namespace_ now sched store).lookup (namespace_, n) =
      (syncSnapshotLease v namespace_ now n (store.lookup (namespace_, n))).filter
        fun l => !decide (matchesLabels (getMemberLeaseLabels v.etcdName) l.labels) := by
  unfold deploy
  -- the two syncs touch different keys
  have hsynced : (Go.applyAt (namespace_, v.fullSnapshotLeaseName)
        (syncSnapshotLease v namespace_ now v.fullSnapshotLeaseName)
        (Go.applyAt (namespace_, v.deltaSnapshotLeaseName)
          (syncSnapshotLease v namespace_ now v.deltaSnapshotLeaseName) store)).lookup (namespace_, n) =
      syncSnapshotLease v namespace_ now n (store.lookup (namespace_, n)) := by
    rcases hn with rfl | rfl
    · rw [Go.lookup_applyAt_ne _ _ fun h => hv.delta_ne_full (Prod.mk.inj h).2,
        Go.lookup_applyAt_self]
    · rw [Go.lookup_applyAt_self,
        Go.lookup_applyAt_ne _ _ fun h => hv.delta_ne_full (Prod.mk.inj h).2.symm]
  have hmem : n ∉ memberLeaseNames v := by
    rcases hn with rfl | rfl
    · exact hv.delta_notMem
    · exact hv.full_notMem
  -- deleted if listed, kept otherwise
  rcases hl : syncSnapshotLease v namespace_ now n (store.lookup (namespace_, n)) with _ | l
  · rw [lookup_syncMemberLeases_of_notMem sched _ fun _ => ⟨hmem, by simp [hsynced, hl]⟩,
      hsynced, hl, Option.filter_none]
  · by_cases hsel : matchesLabels (getMemberLeaseLabels v.etcdName) l.labels
    · rw [lookup_syncMemberLeases_of_listed sched _ (hsynced.trans hl) hsel hmem]
      simp [Option.filter_some, hsel]
    · rw [lookup_syncMemberLeases_of_notMem sched _ fun _ => ⟨hmem, by simp [hsynced, hl, hsel]⟩,
        hsynced, hl]
      simp [Option.filter_some, hsel]

/-- A snapshot lease exists after `Deploy` exactly when backup is enabled and the
lease of that name did not carry the member labels before. -/
theorem deploy_snapshot_isSome_iff (hv : v.Distinct) {n : String}
    (hn : n = v.deltaSnapshotLeaseName ∨ n = v.fullSnapshotLeaseName) :
    ((deploy v namespace_ now sched store).lookup (namespace_, n)).isSome = true ↔
      v.backupEnabled = true ∧ ∀ l, store.lookup (namespace_, n) = some l →
        ¬ matchesLabels (getMemberLeaseLabels v.etcdName) l.labels := by
  rw [lookup_deploy_snapshot sched store hv hn]
  have hsome : (syncSnapshotLease v namespace_ now n (store.lookup (namespace_, n))).isSome =
      v.backupEnabled :=
    syncSnapshotLease_isSome _
  rcases hl : syncSnapshotLease v namespace_ now n (store.lookup (namespace_, n)) with _ | l
  · rw [hl] at hsome
    simp [← hsome]
  · rw [hl] at hsome
    -- the synced lease keeps the old labels, or takes the values' labels, which are no member labels
    obtain ⟨hlabels, -, -⟩ := syncSnapshotLease_eq_some hl
    rcases ho : store.lookup (namespace_, n) with _ | old
    · simp only [ho, Option.map_none, Option.getD_none] at hlabels
      simp [← hsome, hlabels, hv.labels_not_member]
    · simp only [ho, Option.map_some, Option.getD_some] at hlabels
      simp [← hsome, hlabels]

/-- Every snapshot lease left after `Deploy` is owned by the Etcd. -/
theorem deploy_snapshot_owner (hv : v.Distinct) {n : String}
    (hn : n = v.deltaSnapshotLeaseName ∨ n = v.fullSnapshotLeaseName) {l : Lease}
    (hl : (deploy v namespace_ now sched store).lookup (namespace_, n) = some l) :
    l.ownerReferences = [v.ownerReference] := by
  rw [lookup_deploy_snapshot sched store hv hn, Option.filter_eq_some_iff] at hl
  exact (syncSnapshotLease_eq_some hl.1).2.1

/-- Every other lease is left alone. -/
theorem lookup_deploy_of_notMem {k : String × String}
    (hk : k.1 ≠ namespace_ ∨ (k.2 ∉ memberLeaseNames v ∧ k.2 ≠ v.deltaSnapshotLeaseName ∧
      k.2 ≠ v.fullSnapshotLeaseName ∧
      ∀ l, store.lookup k = some l → ¬ matchesLabels (getMemberLeaseLabels v.etcdName) l.labels)) :
    (deploy v namespace_ now sched store).lookup k = store.lookup k := by
  obtain ⟨ns, n⟩ := k
  -- neither snapshot sync touches the key
  have hdelta : (ns, n) ≠ (namespace_, v.deltaSnapshotLeaseName) := by
    rintro ⟨⟩
    rcases hk with h | h
    · exact h rfl
    · exact h.2.1 rfl
  have hfull : (ns, n) ≠ (namespace_, v.fullSnapshotLeaseName) := by
    rintro ⟨⟩
    rcases hk with h | h
    · exact h rfl
    · exact h.2.2.1 rfl
  have hsynced : (Go.applyAt (namespace_, v.fullSnapshotLeaseName)
        (syncSnapshotLease v namespace_ now v.fullSnapshotLeaseName)
        (Go.applyAt (namespace_, v.deltaSnapshotLeaseName)
          (syncSnapshotLease v namespace_ now v.deltaSnapshotLeaseName) store)).lookup (ns, n) =
      store.lookup (ns, n) := by
    rw [Go.lookup_applyAt_ne _ _ hfull, Go.lookup_applyAt_ne _ _ hdelta]
  unfold deploy
  rw [lookup_syncMemberLeases_of_notMem sched _ ?_, hsynced]
  intro hns
  rcases hk with h | h
  · exact absurd hns h
  · exact ⟨h.1, hsynced ▸ h.2.2.2⟩

/-- What `Deploy` leaves under a key: the lease that was there, or a lease of the
Etcd, which is a snapshot lease or carries its member labels. -/
theorem lookup_deploy_cases {k : String × String} {l : Lease}
    (h : (deploy v namespace_ now sched store).lookup k = some l) :
    store.lookup k = some l ∨ (k.1 = namespace_ ∧ (k.2 = v.deltaSnapshotLeaseName ∨
      k.2 = v.fullSnapshotLeaseName ∨ matchesLabels (getMemberLeaseLabels v.etcdName) l.labels)) := by
  obtain ⟨ns, n⟩ := k
  by_cases hns : ns = namespace_
  swap
  · exact .inl ((lookup_deploy_of_notMem sched store (.inl hns)).symm.trans h)
  subst hns
  by_cases hsnap : n = v.deltaSnapshotLeaseName ∨ n = v.fullSnapshotLeaseName
  · exact .inr ⟨rfl, hsnap.imp_right .inl⟩
  rw [not_or] at hsnap
  by_cases hmem : n ∈ memberLeaseNames v
  · -- a member lease, labelled
    obtain ⟨l', hl', hsel, -⟩ := deploy_member sched store hmem
    rw [hl', Option.some.injEq] at h
    exact .inr ⟨rfl, .inr (.inr (h ▸ hsel))⟩
  by_cases hlisted : ∃ l₀, store.lookup (ns, n) = some l₀ ∧
      matchesLabels (getMemberLeaseLabels v.etcdName) l₀.labels
  · -- a labelled lease that is no member lease is deleted, past the two snapshot syncs
    obtain ⟨l₀, hl₀, hsel⟩ := hlisted
    have hsynced : (Go.applyAt (ns, v.fullSnapshotLeaseName)
          (syncSnapshotLease v ns now v.fullSnapshotLeaseName)
          (Go.applyAt (ns, v.deltaSnapshotLeaseName)
            (syncSnapshotLease v ns now v.deltaSnapshotLeaseName) store)).lookup (ns, n) =
        store.lookup (ns, n) := by
      rw [Go.lookup_applyAt_ne _ _ fun h => hsnap.2 (Prod.mk.inj h).2,
        Go.lookup_applyAt_ne _ _ fun h => hsnap.1 (Prod.mk.inj h).2]
    unfold deploy at h
    rw [lookup_syncMemberLeases_of_listed sched _ (hsynced.trans hl₀) hsel hmem] at h
    cases h
  · refine .inl ((lookup_deploy_of_notMem sched store (.inr ⟨hmem, hsnap.1, hsnap.2, ?_⟩)).symm.trans h)
    exact fun l₀ hl₀ hsel => hlisted ⟨l₀, hl₀, hsel⟩

/-- `Deploy` leaves the same leases whatever order the parallel tasks complete in. -/
theorem deploy_entries_perm (sched' : Go.RangeOrder LeaseTask) :
    (deploy v namespace_ now sched store).entries.Perm
      (deploy v namespace_ now sched' store).entries := by
  unfold deploy syncMemberLeases
  exact (Go.runTasks_entries_perm (sched.perm _) (syncMemberLeasesTasks_keys_nodup ..) _).trans
    (Go.runTasks_entries_perm (sched'.perm _) (syncMemberLeasesTasks_keys_nodup ..) _).symm

end Deploy

/-! ## `Destroy` -/

/-- `deleteAllMemberLeases`: `DeleteAllOf` the leases of the namespace with the
member labels. -/
def deleteAllMemberLeases (v : Values) (namespace_ : String) (store : LeaseStore) : LeaseStore :=
  (store.entries.filter fun e =>
      decide (e.1.1 = namespace_ ∧ matchesLabels (getMemberLeaseLabels v.etcdName) e.2.labels)).foldl
    (fun m e => m.erase e.1) store

/-- `component.Destroy`: both snapshot leases, then every member lease; a delete
ignores `NotFound`. -/
def destroy (v : Values) (namespace_ : String) (store : LeaseStore) : LeaseStore :=
  deleteAllMemberLeases v namespace_
    ((store.erase (namespace_, v.deltaSnapshotLeaseName)).erase (namespace_, v.fullSnapshotLeaseName))

section Destroy

variable {v : Values} {namespace_ : String} {store : LeaseStore}

/-- A lease left after `Destroy` was there before, and is no lease of the Etcd:
neither snapshot lease, nor one of the namespace with its member labels. -/
theorem lookup_destroy_of_lookup {k : String × String} {l : Lease}
    (h : (destroy v namespace_ store).lookup k = some l) :
    store.lookup k = some l ∧ ¬ (k.1 = namespace_ ∧ (k.2 = v.deltaSnapshotLeaseName ∨
      k.2 = v.fullSnapshotLeaseName ∨ matchesLabels (getMemberLeaseLabels v.etcdName) l.labels)) := by
  unfold destroy deleteAllMemberLeases at h
  rw [Go.Map.lookup_foldl_erase] at h
  split_ifs at h with hlisted
  -- the two snapshot leases are erased first
  have hfull : k ≠ (namespace_, v.fullSnapshotLeaseName) := by
    rintro rfl
    rw [AList.lookup_erase] at h
    cases h
  rw [AList.lookup_erase_ne hfull] at h
  have hdelta : k ≠ (namespace_, v.deltaSnapshotLeaseName) := by
    rintro rfl
    rw [AList.lookup_erase] at h
    cases h
  rw [AList.lookup_erase_ne hdelta] at h
  refine ⟨h, ?_⟩
  rintro ⟨hns, hname | hname | hsel⟩
  · exact hdelta (Prod.ext hns hname)
  · exact hfull (Prod.ext hns hname)
  · -- a labelled lease of the namespace is listed, so erased
    refine hlisted (List.mem_map.mpr ⟨⟨k, l⟩, List.mem_filter.mpr ⟨?_, by simp [hns, hsel]⟩, rfl⟩)
    rw [← AList.mem_lookup_iff, AList.lookup_erase_ne hfull, AList.lookup_erase_ne hdelta]
    exact h

end Destroy

end Lease
end EtcdDruid
