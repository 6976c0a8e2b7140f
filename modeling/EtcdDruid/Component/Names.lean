import EtcdDruid.Go.Sprintf
import EtcdDruid.Component.Lease

/-!
# The names of the objects of an Etcd

**Input.**  Two Etcds.

**Algorithm.**  Every component names its objects with one of the helpers of
`types_etcd.go` or with `memberLeaseName`: the StatefulSet, the disruption
budget and the service account take the Etcd's name, the services and the
snapshot leases add a suffix, the pods and member leases an ordinal, role and
binding a prefix, and the config map and the compaction job the first six
characters of the UID.

**Results.**
* `createsObject_distinct`: for Etcds with distinct names and UIDs that differ
  in their first six characters, no two objects of one kind share a name.
* `configmap_names_collide`: distinct UIDs alone do not give distinct
  config-map names: two UUIDs may share their first six characters.
* `generateValues_distinct`: the names and labels of one Etcd's leases are
  those `Lease.Values.Distinct` asks for.
-/

namespace EtcdDruid

/-- The kinds of objects etcd-druid creates for an Etcd. -/
inductive ObjectKind
  | statefulSet
  | service
  | configMap
  | job
  | lease
  | podDisruptionBudget
  | serviceAccount
  | role
  | roleBinding
  | pod
  deriving DecidableEq, Repr

/-- `n` names an object of kind `k` that etcd-druid creates for `e`: the names
the components' `GenerateValues` give them. -/
def CreatesObject (e : Etcd) : ObjectKind → String → Prop
  | .statefulSet, n => n = e.name
  | .service, n => n = e.getClientServiceName ∨ n = e.getPeerServiceName
  | .configMap, n => n = e.getConfigmapName
  | .job, n => n = e.getCompactionJobName
  | .lease, n => n = e.getFullSnapshotLeaseName ∨ n = e.getDeltaSnapshotLeaseName ∨
      ∃ i : Nat, n = Lease.memberLeaseName e.name i
  | .podDisruptionBudget, n => n = e.name
  | .serviceAccount, n => n = e.getServiceAccountName
  | .role, n => n = e.getRoleName
  | .roleBinding, n => n = e.getRoleBindingName
  | .pod, n => ∃ i : Nat, n = e.getOrdinalPodName i

namespace Etcd

section Distinct

variable {e₁ e₂ : Etcd}

theorem getClientServiceName_ne_getPeerServiceName :
    e₁.getClientServiceName ≠ e₂.getPeerServiceName :=
  Go.append_ne_of_not_suffix (by decide) (by decide)

theorem getFullSnapshotLeaseName_ne_getDeltaSnapshotLeaseName :
    e₁.getFullSnapshotLeaseName ≠ e₂.getDeltaSnapshotLeaseName :=
  Go.append_ne_of_not_suffix (by decide) (by decide)

theorem getFullSnapshotLeaseName_ne_memberLeaseName (name : String) (i : Nat) :
    e₁.getFullSnapshotLeaseName ≠ Lease.memberLeaseName name i :=
  Go.append_ne_sprintf_dash (c := 'p') (by decide) (by decide) i

theorem getDeltaSnapshotLeaseName_ne_memberLeaseName (name : String) (i : Nat) :
    e₁.getDeltaSnapshotLeaseName ≠ Lease.memberLeaseName name i :=
  Go.append_ne_sprintf_dash (c := 'p') (by decide) (by decide) i

/-- The names of one kind differ for Etcds with distinct names and UID prefixes. -/
theorem createsObject_distinct (hname : e₁.name ≠ e₂.name)
    (huid : e₁.uid.prefix6 ≠ e₂.uid.prefix6) (k : ObjectKind) (n : String)
    (h₁ : CreatesObject e₁ k n) : ¬ CreatesObject e₂ k n := by
  intro h₂
  -- a name that fixes the Etcd's name contradicts `hname`
  have hsuffix : ∀ {u : String}, e₁.name ++ u = e₂.name ++ u → False :=
    fun h => hname (Go.append_right_cancel h)
  have hprefix : ∀ {u : String}, u ++ e₁.name = u ++ e₂.name → False :=
    fun h => hname (Go.append_left_cancel h)
  have hordinal : ∀ {i j : Nat}, Lease.memberLeaseName e₁.name i = Lease.memberLeaseName e₂.name j →
      False := fun h => hname (Go.sprintf_dash_inj h).1
  cases k with
  | statefulSet | podDisruptionBudget | serviceAccount =>
      exact hname (h₁.symm.trans h₂)
  | role | roleBinding => exact hprefix (h₁.symm.trans h₂)
  | configMap => exact huid (Go.append_left_cancel (h₁.symm.trans h₂))
  | job => exact huid (Go.append_right_cancel (h₁.symm.trans h₂))
  | service =>
      rcases h₁ with rfl | rfl <;> rcases h₂ with h | h
      · exact hsuffix h
      · exact getClientServiceName_ne_getPeerServiceName h
      · exact getClientServiceName_ne_getPeerServiceName h.symm
      · exact hsuffix h
  | pod =>
      obtain ⟨i, rfl⟩ := h₁
      obtain ⟨j, h⟩ := h₂
      exact hordinal h
  | lease =>
      rcases h₁ with rfl | rfl | ⟨i, rfl⟩ <;> rcases h₂ with h | h | ⟨j, h⟩
      · exact hsuffix h
      · exact getFullSnapshotLeaseName_ne_getDeltaSnapshotLeaseName h
      · exact getFullSnapshotLeaseName_ne_memberLeaseName _ _ h
      · exact getFullSnapshotLeaseName_ne_getDeltaSnapshotLeaseName h.symm
      · exact hsuffix h
      · exact getDeltaSnapshotLeaseName_ne_memberLeaseName _ _ h
      · exact getFullSnapshotLeaseName_ne_memberLeaseName _ _ h.symm
      · exact getDeltaSnapshotLeaseName_ne_memberLeaseName _ _ h.symm
      · exact hordinal h

end Distinct

/-- The lease values of every Etcd keep its snapshot leases apart from each
other and from its member leases, and label no lease as a member lease. -/
theorem generateValues_distinct (etcd : Etcd) : (Lease.generateValues etcd).Distinct where
  delta_ne_full := getFullSnapshotLeaseName_ne_getDeltaSnapshotLeaseName.symm
  delta_notMem h := by
    obtain ⟨i, -, hi⟩ := (Lease.mem_memberLeaseNames _).mp h
    exact getDeltaSnapshotLeaseName_ne_memberLeaseName _ i hi.symm
  full_notMem h := by
    obtain ⟨i, -, hi⟩ := (Lease.mem_memberLeaseNames _).mp h
    exact getFullSnapshotLeaseName_ne_memberLeaseName _ i hi.symm
  labels_not_member h := by
    -- the default labels have no purpose label
    have hpurpose := h gardenerPurpose purposeMemberLease (by simp [getMemberLeaseLabels])
    simp only [Lease.generateValues, getDefaultLabels] at hpurpose
    rw [AList.lookup_insert_ne (by decide), AList.lookup_insert_ne (by decide),
      AList.lookup_empty] at hpurpose
    cases hpurpose

/-- An Etcd in namespace `shoot`, by name and UID. -/
def named (name : String) (uid : Uid) : Etcd :=
  { (default : Etcd) with name := name, namespace_ := "shoot", uid := uid }

def mainUid : Uid := ⟨"3a5f2c1e-0b7d-4c1e-9f00-1234567890ab", by decide, by simp⟩

/-- A UUID that shares its first six characters with `mainUid`. -/
def eventsUid : Uid := ⟨"3a5f2c77-9e41-4b2a-8c3d-0fedcba98765", by decide, by simp⟩

/-- A UUID that differs from `mainUid` in its first six characters. -/
def otherUid : Uid := ⟨"7c21d9e4-5b0a-4f3e-a1d2-3c4b5a697887", by decide, by simp⟩

theorem createsObject_distinct_sample :
    ¬ CreatesObject (named "etcd-events" otherUid) .configMap
      (named "etcd-main" mainUid).getConfigmapName :=
  createsObject_distinct (by decide) (by decide +kernel) .configMap _ rfl

theorem configmap_names_collide :
    (named "etcd-main" mainUid).namespace_ = (named "etcd-events" eventsUid).namespace_ ∧
      (named "etcd-main" mainUid).name ≠ (named "etcd-events" eventsUid).name ∧
      mainUid ≠ eventsUid ∧
      CreatesObject (named "etcd-main" mainUid) .configMap (named "etcd-main" mainUid).getConfigmapName ∧
      CreatesObject (named "etcd-events" eventsUid) .configMap
        (named "etcd-main" mainUid).getConfigmapName := by
  refine ⟨rfl, by decide, by decide +kernel, rfl, ?_⟩
  -- both names are `etcd-bootstrap-3a5f2c`
  show _ = _
  decide +kernel

end Etcd

end EtcdDruid
