import EtcdDruid.Component.Statefulset.Deploy
import EtcdDruid.Controllers.Secret

/-!
# The StatefulSet-to-Etcd mapper: `pkg/mapper/statefulset_to_etcd.go`

**Input.**  The StatefulSet an event is about, and the client's `Get` of an Etcd.

**Algorithm.**  `Map` reads the owner annotation `gardener.cloud/owned-by`,
splits it with `cache.SplitMetaNamespaceKey` into a namespace and a name, gets
the Etcd under the key `kutil.Key` builds from them and asks to reconcile it.
The source names the two results of the split the other way round and passes
them to `Key` in that order, so the key is the annotation's namespace and name.

**Results.**
* `splitMetaNamespaceKey_join`: a key `<namespace>/<name>` splits back;
* `map_of_ownedBy`: the `Get` is for the namespace and name of the annotation;
* `map_generated`: for a StatefulSet the mutate function annotated, the `Get`
  is for its Etcd, unless the Etcd's or the checksum annotations name an owner;
* `map_owner_annotation_overridden`: an Etcd whose annotations name another one.
-/

namespace EtcdDruid
namespace Mapper

open Secret (NamespacedName)
open Statefulset

/-- `cache.SplitMetaNamespaceKey`: `namespace/name`, or a name alone. -/
def splitMetaNamespaceKey (key : String) : Except String (String × String) :=
  match Go.split key '/' with
  | [name] => .ok ("", name)
  | [namespace_, name] => .ok (namespace_, name)
  | _ => .error ("unexpected key format: " ++ key.quote)

/-- `kutil.Key(namespace, name)`; a `client.ObjectKey` is a `types.NamespacedName`. -/
def key (namespace_ name : String) : NamespacedName := ⟨namespace_, name⟩

/-- The end of `Map`: the `Get` under `k`, and a request for the Etcd it returns. -/
def reconcileRequest (get : NamespacedName → Except Go.Failure Etcd) (k : NamespacedName) :
    List NamespacedName :=
  match get k with
  | .error _ => []
  | .ok etcd => [⟨etcd.namespace_, etcd.name⟩]

/-- `statefulSetToEtcdMapper.Map`; `get` is the client's `Get` of an Etcd. -/
def StatefulSetToEtcdMapper.map (get : NamespacedName → Except Go.Failure Etcd)
    (sts : StatefulSet) : List NamespacedName :=
  match sts.annotations.lookup gardenerOwnedBy with
  | none => []
  | some ownerKey =>
    match splitMetaNamespaceKey ownerKey with
    | .error _ => []
    -- `name, namespace, err := cache.SplitMetaNamespaceKey(ownerKey)`
    | .ok (name, namespace_) => reconcileRequest get (key name namespace_)

/-- A key `<namespace>/<name>` of two parts without `/` splits back into them. -/
theorem splitMetaNamespaceKey_join {namespace_ name : String} (hns : '/' ∉ namespace_.toList)
    (hname : '/' ∉ name.toList) :
    splitMetaNamespaceKey (namespace_ ++ "/" ++ name) = .ok (namespace_, name) := by
  have hjoin : namespace_ ++ "/" ++ name = (String.singleton '/').intercalate [namespace_, name] := by
    rw [String.intercalate_cons_cons, String.intercalate_singleton]
    rfl
  have hsplit : Go.split (namespace_ ++ "/" ++ name) '/' = [namespace_, name] := by
    rw [hjoin]
    exact Go.split_intercalate (by simp [hns, hname]) (List.cons_ne_nil _ _)
  rw [splitMetaNamespaceKey, hsplit]

/-- `Map` gets the Etcd under the namespace and the name of the owner annotation. -/
theorem map_of_ownedBy {sts : StatefulSet} {namespace_ name : String}
    (h : sts.annotations.lookup gardenerOwnedBy = some (namespace_ ++ "/" ++ name))
    (hns : '/' ∉ namespace_.toList) (hname : '/' ∉ name.toList)
    (get : NamespacedName → Except Go.Failure Etcd) :
    StatefulSetToEtcdMapper.map get sts = reconcileRequest get ⟨namespace_, name⟩ := by
  simp only [StatefulSetToEtcdMapper.map, h, splitMetaNamespaceKey_join hns hname, key]

/-- For a StatefulSet whose annotations the mutate function wrote from the values
of an Etcd with a name and a namespace without `/`, `Map` gets that Etcd, when
neither the Etcd's annotations nor the checksum annotations name an owner. -/
theorem map_generated {etcd : Etcd} {clientPort serverPort backupPort : Option Int32}
    {checksumAnnotations : StringMap} {peerTLSChangedToEnabled : Bool} {get : SecretGetter}
    {replicas : Int32} {sts sts' : StatefulSet}
    (hns : '/' ∉ etcd.namespace_.toList) (hname : '/' ∉ etcd.name.toList)
    (hannotations : gardenerOwnedBy ∉ etcd.spec.annotations)
    (hchecksum : gardenerOwnedBy ∉ checksumAnnotations)
    (h : mutatingFn get (generateObjectValues etcd clientPort serverPort backupPort
      checksumAnnotations peerTLSChangedToEnabled) replicas false sts = .ok sts')
    (cl : NamespacedName → Except Go.Failure Etcd) :
    StatefulSetToEtcdMapper.map cl sts' = reconcileRequest cl ⟨etcd.namespace_, etcd.name⟩ := by
  have hkey : sts'.annotations.lookup gardenerOwnedBy = some (etcd.namespace_ ++ "/" ++ etcd.name) := by
    rw [mutatingFn_ownedBy h, AList.lookup_eq_none.mpr hannotations,
      AList.lookup_eq_none.mpr hchecksum]
    rfl
  exact map_of_ownedBy hkey hns hname cl

/-- An Etcd of three members with no owner annotation of its own. -/
def plainEtcd : Etcd :=
  { (default : Etcd) with
    name := "etcd-main", namespace_ := "shoot"
    spec := { (default : EtcdSpec) with replicas := 3 } }

theorem map_generated_plain :
    ∃ sts', mutatingFn (fun _ _ => .ok ∅) (generateObjectValues plainEtcd none none none ∅ false)
        3 false (emptyStatefulset (generateObjectValues plainEtcd none none none ∅ false)) =
        .ok sts' ∧
      StatefulSetToEtcdMapper.map (fun _ => .ok plainEtcd) sts' = [⟨"shoot", "etcd-main"⟩] := by
  obtain ⟨sts', h⟩ : ∃ sts', mutatingFn (fun _ _ => .ok ∅)
      (generateObjectValues plainEtcd none none none ∅ false) 3 false
      (emptyStatefulset (generateObjectValues plainEtcd none none none ∅ false)) = .ok sts' :=
    ⟨_, rfl⟩
  exact ⟨sts', h, map_generated (by decide) (by decide) (by decide) (by decide) h _⟩

/-- An Etcd whose own annotations name another owner. -/
def ownerAnnotatedEtcd : Etcd :=
  { plainEtcd with
    spec := { plainEtcd.spec with
      annotations := (∅ : StringMap).insert gardenerOwnedBy "other/etcd-main" } }

/-- Whatever the ports, checksums, secrets and existing object, the patch of the
mutate function succeeds, and `Map` then gets `other/etcd-main`, not the Etcd
`shoot/etcd-main` the StatefulSet belongs to. -/
theorem map_owner_annotation_overridden (clientPort serverPort backupPort : Option Int32)
    (checksumAnnotations : StringMap) (peerTLSChangedToEnabled : Bool) (get : SecretGetter)
    (replicas : Int32) (sts : StatefulSet) :
    ∃ sts', mutatingFn get (generateObjectValues ownerAnnotatedEtcd clientPort serverPort
        backupPort checksumAnnotations peerTLSChangedToEnabled) replicas false sts = .ok sts' ∧
      ∀ cl, StatefulSetToEtcdMapper.map cl sts' = reconcileRequest cl ⟨"other", "etcd-main"⟩ ∧
        (⟨"other", "etcd-main"⟩ : NamespacedName) ≠
          ⟨ownerAnnotatedEtcd.namespace_, ownerAnnotatedEtcd.name⟩ := by
  obtain ⟨sts', h⟩ : ∃ sts', mutatingFn get (generateObjectValues ownerAnnotatedEtcd clientPort
      serverPort backupPort checksumAnnotations peerTLSChangedToEnabled) replicas false sts =
      .ok sts' :=
    ⟨_, rfl⟩
  have hkey : sts'.annotations.lookup gardenerOwnedBy = some ("other" ++ "/" ++ "etcd-main") := by
    rw [mutatingFn_ownedBy h]
    rfl
  exact ⟨sts', h, fun cl => ⟨map_of_ownedBy hkey (by decide) (by decide) cl, by decide⟩⟩

end Mapper
end EtcdDruid
