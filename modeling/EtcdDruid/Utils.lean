import EtcdDruid.Api.Types

/-!
# `pkg/utils` and `pkg/common`

The helpers that several components share: the storage providers of
`store.go`, `MergeStringMaps` of `miscellaneous.go`, the member-lease labels of
`lease.go`, the constants of `pkg/common`, and the API server's `NotFound` error.

`StorageProviderFromInfraProvider` maps the provider names of the API (and of
the infrastructures: `aws`, `gcp`, ...) to one of eight storage providers.  A
missing or empty provider is no provider: the function returns `""` without an
error, modelled as `none`.

`MergeStringMaps` copies maps into a fresh one, later maps overwriting earlier
ones; `lookup_mergeStringMaps` says which value a key ends up with, and
`matchesLabels_mergeStringMaps_last` that the last map's labels all survive.

`IsPeerURLTLSEnabled` lists the member leases by their labels and is `true`
unless one of them carries a `tls-enabled` annotation that parses as `false`.
-/

namespace EtcdDruid

/-! ## Constants of `pkg/common` -/

def gardenerOwnedBy : String := "gardener.cloud/owned-by"
def gardenerOwnerType : String := "gardener.cloud/owner-type"
def gardenerPurpose : String := "gardener.cloud/purpose"
def finalizerName : String := "druid.gardener.cloud/etcd-druid"

/-- `apierrors.NewNotFound(qualifiedResource, name).Error()`, the error of a get
that finds nothing. -/
def notFoundError (qualifiedResource name : String) : String :=
  qualifiedResource ++ " " ++ name.quote ++ " not found"

/-! ## Storage providers (`store.go`) -/

/-- The storage providers of `pkg/utils/store.go`. -/
inductive Provider
  | S3
  | ABS
  | GCS
  | OSS
  | Swift
  | Local
  | ECS
  | OCS
  deriving DecidableEq, Repr

/-- The provider's constant, e.g. `utils.S3 = "S3"`. -/
def Provider.name : Provider → String
  | .S3 => "S3"
  | .ABS => "ABS"
  | .GCS => "GCS"
  | .OSS => "OSS"
  | .Swift => "Swift"
  | .Local => "Local"
  | .ECS => "ECS"
  | .OCS => "OCS"

/-- The provider string a caller gets back: `""` for none. -/
def providerString : Option Provider → String
  | some p => p.name
  | none => ""

/-- `StorageProviderFromInfraProvider`. -/
def storageProviderFromInfraProvider (infra : Option String) :
    Except Go.Failure (Option Provider) :=
  match infra with
  | none => .ok none
  | some "" => .ok none
  | some "aws" | some "S3" => .ok (some .S3)
  | some "azure" | some "ABS" => .ok (some .ABS)
  | some "alicloud" | some "OSS" => .ok (some .OSS)
  | some "openstack" | some "Swift" => .ok (some .Swift)
  | some "gcp" | some "GCS" => .ok (some .GCS)
  | some "dell" | some "ECS" => .ok (some .ECS)
  | some "openshift" | some "OCS" => .ok (some .OCS)
  | some "Local" | some "local" => .ok (some .Local)
  | some p => .error (.error ("unsupported storage provider: " ++ p))

/-- `LocalProviderDefaultMountPath`. -/
def localProviderDefaultMountPath : String := "/etc/gardener/local-backupbuckets"

/-- `EtcdBackupSecretHostPath`. -/
def etcdBackupSecretHostPath : String := "hostPath"

/-- A `client.Get` of a secret, by namespace and name: its data, or an error.
It stands for the API server, which is not part of this repository. -/
abbrev SecretGetter := String → String → Except Go.Failure StringMap

/-- `GetHostMountPathFromSecretRef`. -/
def getHostMountPathFromSecretRef (get : SecretGetter) (store : StoreSpec) (namespace_ : String) :
    Except Go.Failure String :=
  match store.secretRefName with
  | none => .ok localProviderDefaultMountPath
  | some name => do
      let data ← get namespace_ name
      pure ((data.lookup etcdBackupSecretHostPath).getD localProviderDefaultMountPath)

/-! ## `MergeStringMaps` (`miscellaneous.go`) -/

/-- `for k, v := range m { out[k] = v }`; the value a key ends up with does not
depend on the order of the range (`lookup_putAll`). -/
def putAll (out m : StringMap) : StringMap :=
  m.entries.foldl (fun acc e => acc.insert e.1 e.2) out

/-- `MergeStringMaps(oldMap, newMaps...)`. -/
def mergeStringMaps (oldMap : StringMap) (newMaps : List StringMap) : StringMap :=
  newMaps.foldl putAll (putAll ∅ oldMap)

theorem lookup_foldl_insert (k : String) :
    ∀ (l : List (Σ _ : String, String)) (out : StringMap),
      (l.foldl (fun acc e => acc.insert e.1 e.2) out).lookup k =
        (l.reverse.dlookup k).or (out.lookup k)
  | [], out => by simp
  | ⟨a, b⟩ :: l, out => by
      rw [List.foldl_cons, lookup_foldl_insert k l, List.reverse_cons, List.dlookup_append]
      by_cases hk : k = a
      · subst hk
        cases l.reverse.dlookup k <;> simp [List.dlookup_cons_eq]
      · rw [AList.lookup_insert_ne hk]
        have hnil : List.dlookup k [(⟨a, b⟩ : Σ _ : String, String)] = none :=
          @List.dlookup_cons_ne String (fun _ => String) _ [] k ⟨a, b⟩ hk
        rw [hnil]
        cases l.reverse.dlookup k <;> simp

/-- A key copied from `m` takes `m`'s value; the others keep theirs. -/
theorem lookup_putAll (out m : StringMap) (k : String) :
    (putAll out m).lookup k = (m.lookup k).or (out.lookup k) := by
  have hrev : m.entries.reverse.dlookup k = m.lookup k :=
    (List.perm_dlookup k m.nodupKeys (List.reverse_perm _).symm).symm
  rw [putAll, lookup_foldl_insert, hrev]

/-- The value of a key in a merge: from the last map that has it. -/
theorem lookup_mergeStringMaps (oldMap : StringMap) (newMaps : List StringMap) (k : String) :
    (mergeStringMaps oldMap newMaps).lookup k =
      (newMaps.reverse.findSome? (·.lookup k)).or (oldMap.lookup k) := by
  suffices h : ∀ out : StringMap, (newMaps.foldl putAll out).lookup k =
      (newMaps.reverse.findSome? (·.lookup k)).or (out.lookup k) by
    rw [mergeStringMaps, h, lookup_putAll]
    simp
  induction newMaps with
  | nil => intro out; simp
  | cons m ms ih =>
      intro out
      rw [List.foldl_cons, ih, lookup_putAll, List.reverse_cons, List.findSome?_append]
      simp [Option.or_assoc]

/-! ## Member leases (`lease.go`) -/

/-- `PurposeMemberLease`. -/
def purposeMemberLease : String := "etcd-member-lease"

/-- `GetMemberLeaseLabels`. -/
def getMemberLeaseLabels (etcdName : String) : StringMap :=
  (∅ : StringMap).insert gardenerOwnedBy etcdName |>.insert gardenerPurpose purposeMemberLease

/-- `strconv.ParseBool`. -/
def parseBool (s : String) : Option Bool :=
  if s ∈ ["1", "t", "T", "TRUE", "true", "True"] then some true
  else if s ∈ ["0", "f", "F", "FALSE", "false", "False"] then some false
  else none

/-- `parseAndGetTLSEnabledValue`: the lease's `tls-enabled` annotation, `nil`
when it is missing or no boolean. -/
def parseAndGetTLSEnabledValue (lease : Lease) : Option Bool :=
  (lease.annotations.lookup "member.etcd.gardener.cloud/tls-enabled").bind parseBool

/-- `IsPeerURLTLSEnabled`, with the client's `List` of leases by namespace and
label selector: `true` unless a member lease says `false`. -/
def isPeerURLTLSEnabled (listLeases : String → StringMap → Except Go.Failure (List Lease))
    (namespace_ etcdName : String) : Except Go.Failure Bool := do
  let leases ← listLeases namespace_ (getMemberLeaseLabels etcdName)
  pure ((leases.filterMap parseAndGetTLSEnabledValue).all id)

/-- The loop over the parsed values: no lease says `false`. -/
theorem all_filterMap_parseAndGetTLSEnabledValue (leases : List Lease) :
    (leases.filterMap parseAndGetTLSEnabledValue).all id =
      decide (∀ l ∈ leases, parseAndGetTLSEnabledValue l ≠ some false) := by
  induction leases with
  | nil => rfl
  | cons l ls ih =>
      rw [List.filterMap_cons]
      cases hp : parseAndGetTLSEnabledValue l with
      | none => simp [ih, hp]
      | some b => cases b <;> simp [ih, hp]

/-- The verdict on the leases the selector lists. -/
theorem isPeerURLTLSEnabled_of_list {listLeases : String → StringMap → Except Go.Failure (List Lease)}
    {namespace_ etcdName : String} {leases : List Lease}
    (h : listLeases namespace_ (getMemberLeaseLabels etcdName) = .ok leases) :
    isPeerURLTLSEnabled listLeases namespace_ etcdName =
      .ok (decide (∀ l ∈ leases, parseAndGetTLSEnabledValue l ≠ some false)) := by
  rw [isPeerURLTLSEnabled, h, Go.ok_bind, all_filterMap_parseAndGetTLSEnabledValue]
  rfl

/-- `client.MatchingLabels(sel)`: every label of the selector is on the object. -/
def matchesLabels (sel labels : StringMap) : Prop :=
  ∀ k v, sel.lookup k = some v → labels.lookup k = some v

instance (sel labels : StringMap) : Decidable (matchesLabels sel labels) :=
  decidable_of_iff (∀ e ∈ sel.entries, labels.lookup e.1 = some e.2) (by
    constructor
    · intro h k v hk
      exact h ⟨k, v⟩ (AList.mem_lookup_iff.mp hk)
    · intro h e he
      exact h e.1 e.2 (AList.mem_lookup_iff.mpr he))

/-- The map merged last wins: all its labels are on the merge. -/
theorem matchesLabels_mergeStringMaps_last (oldMap : StringMap) (newMaps : List StringMap)
    (m : StringMap) : matchesLabels m (mergeStringMaps oldMap (newMaps ++ [m])) := by
  intro k v hk
  rw [lookup_mergeStringMaps, List.reverse_append]
  simp [hk]

end EtcdDruid
