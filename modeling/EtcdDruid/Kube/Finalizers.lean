import EtcdDruid.Go.Runtime

/-!
# Finalizers: how the API server deletes an object

The metadata that deletion reads, and the operations of the API server's store
that write it, for objects of any kind under keys of any type.

**Input.**  A store of objects, each with its generation, finalizers and
deletion timestamp.

**Algorithm.**  `controllerutil.AddFinalizer`, `RemoveFinalizer` and
`ContainsFinalizer` edit and read the list of finalizers.  A `Delete` removes
an object that has no finalizers and otherwise stamps its deletion timestamp
once; a patch of the finalizers that leaves an object being deleted with none
removes it; a patch of the status keeps the metadata, and a change of the spec
bumps the generation.

**Results.**
* `mem_addFinalizer`, `mem_removeFinalizer`: what the list helpers keep;
* `lookup_delete_self`, `lookup_patchFinalizers_self`, `lookup_patch_self`: the
  object under the key written, and the `_ne` lemmas for every other key;
* `Keyed.delete`, `Keyed.patch`, ...: an object stays under the key its value
  names;
* `Holds.delete`, `Holds.patchFinalizers`, `Holds.patch`, `Holds.patchSpec`,
  `Holds.create`: an object that holds a finalizer is removed by none of them,
  except a patch that drops it.
-/

namespace Kube

/-- The part of `metav1.ObjectMeta` that the controllers read. -/
structure ObjectMeta where
  generation : Int
  finalizers : List String
  deletionTimestamp : Option Int
  deriving DecidableEq, Repr

/-- An object as the API server stores it. -/
structure Object (α : Type) where
  metadata : ObjectMeta
  val : α

/-! ## The list of finalizers -/

section Helpers

variable {fs : List String} {f x : String}

/-- `controllerutil.ContainsFinalizer`. -/
def containsFinalizer (fs : List String) (f : String) : Bool := fs.contains f

/-- `controllerutil.AddFinalizer`: appended unless present. -/
def addFinalizer (fs : List String) (f : String) : List String :=
  if f ∈ fs then fs else fs ++ [f]

/-- `controllerutil.RemoveFinalizer`: every copy dropped. -/
def removeFinalizer (fs : List String) (f : String) : List String := fs.filter (· != f)

@[simp] theorem containsFinalizer_iff : containsFinalizer fs f = true ↔ f ∈ fs := by
  simp [containsFinalizer]

@[simp] theorem mem_addFinalizer : x ∈ addFinalizer fs f ↔ x ∈ fs ∨ x = f := by
  unfold addFinalizer
  split_ifs with h
  · constructor
    · exact .inl
    · rintro (hx | rfl)
      · exact hx
      · exact h
  · simp

@[simp] theorem mem_removeFinalizer : x ∈ removeFinalizer fs f ↔ x ∈ fs ∧ x ≠ f := by
  simp [removeFinalizer]

theorem addFinalizer_ne_nil : addFinalizer fs f ≠ [] :=
  List.ne_nil_of_mem (mem_addFinalizer.mpr (.inr rfl))

end Helpers

/-! ## Admission -/

/-- The API server's check of an update of the finalizers: none may be added to
an object being deleted. -/
def NoNewFinalizers (md : ObjectMeta) (fs : List String) : Prop :=
  md.deletionTimestamp.isSome = true → ∀ f ∈ fs, f ∈ md.finalizers

instance (md : ObjectMeta) (fs : List String) : Decidable (NoNewFinalizers md fs) :=
  inferInstanceAs (Decidable (_ → _))

/-- What the API server answers to an update that breaks `NoNewFinalizers`. -/
def noNewFinalizersMessage : String := "no new finalizers can be added if the object is being deleted"

/-- Adding a finalizer the object lacks is admitted exactly when it is not being deleted. -/
theorem noNewFinalizers_addFinalizer_iff {md : ObjectMeta} {f : String} (hf : f ∉ md.finalizers) :
    NoNewFinalizers md (addFinalizer md.finalizers f) ↔ md.deletionTimestamp.isSome = false := by
  unfold NoNewFinalizers
  constructor
  · intro h
    by_contra hd
    exact hf (h (Bool.not_eq_false _ ▸ hd) f (mem_addFinalizer.mpr (.inr rfl)))
  · intro hd hd'
    rw [hd] at hd'
    cases hd'

/-! ## The store -/

section Store

variable {κ α : Type} [DecidableEq κ]

/-- A `Delete` at `now`: an object without finalizers goes, any other is
marked, once. -/
def delete (m : Go.Map κ (Object α)) (k : κ) (now : Int) : Go.Map κ (Object α) :=
  match m.lookup k with
  | none => m
  | some o =>
    if o.metadata.finalizers = [] then m.erase k
    else if o.metadata.deletionTimestamp.isSome then m
    else m.insert k { o with metadata := { o.metadata with deletionTimestamp := some now } }

/-- A patch of the finalizers: an object being deleted that is left with none goes. -/
def patchFinalizers (m : Go.Map κ (Object α)) (k : κ) (fs : List String) :
    Go.Map κ (Object α) :=
  match m.lookup k with
  | none => m
  | some o =>
    if o.metadata.deletionTimestamp.isSome ∧ fs = [] then m.erase k
    else m.insert k { o with metadata := { o.metadata with finalizers := fs } }

/-- A patch of the status, which keeps the metadata. -/
def patch (m : Go.Map κ (Object α)) (k : κ) (f : α → α) : Go.Map κ (Object α) :=
  match m.lookup k with
  | none => m
  | some o => m.insert k { o with val := f o.val }

/-- A change of the spec, for which the API server bumps the generation. -/
def patchSpec (m : Go.Map κ (Object α)) (k : κ) (f : α → α) : Go.Map κ (Object α) :=
  match m.lookup k with
  | none => m
  | some o =>
    m.insert k { metadata := { o.metadata with generation := o.metadata.generation + 1 }, val := f o.val }

/-- A `Create`: a new object, with no finalizers and generation one, unless the
key is taken. -/
def create (m : Go.Map κ (Object α)) (k : κ) (a : α) : Go.Map κ (Object α) :=
  match m.lookup k with
  | some _ => m
  | none => m.insert k ⟨⟨1, [], none⟩, a⟩

variable {m : Go.Map κ (Object α)} {k k' : κ} {now : Int} {o : Object α}

theorem lookup_delete_ne (h : k' ≠ k) : (delete m k now).lookup k' = m.lookup k' := by
  unfold delete
  split
  · rfl
  · split_ifs
    · exact AList.lookup_erase_ne h
    · rfl
    · exact AList.lookup_insert_ne h

theorem lookup_patchFinalizers_ne {fs : List String} (h : k' ≠ k) :
    (patchFinalizers m k fs).lookup k' = m.lookup k' := by
  unfold patchFinalizers
  split
  · rfl
  · split_ifs
    · exact AList.lookup_erase_ne h
    · exact AList.lookup_insert_ne h

theorem lookup_patch_ne {f : α → α} (h : k' ≠ k) : (patch m k f).lookup k' = m.lookup k' := by
  unfold patch
  split
  · rfl
  · exact AList.lookup_insert_ne h

theorem lookup_patchSpec_ne {f : α → α} (h : k' ≠ k) :
    (patchSpec m k f).lookup k' = m.lookup k' := by
  unfold patchSpec
  split
  · rfl
  · exact AList.lookup_insert_ne h

theorem lookup_create_of_lookup {a : α} (hk : m.lookup k' = some o) :
    (create m k a).lookup k' = some o := by
  unfold create
  split
  · exact hk
  · next hnone =>
    have hne : k' ≠ k := fun h => by rw [h, hnone] at hk; cases hk
    exact (AList.lookup_insert_ne hne).trans hk

theorem lookup_create_self {a : α} (hk : m.lookup k = none) :
    (create m k a).lookup k = some ⟨⟨1, [], none⟩, a⟩ := by
  simp only [create, hk]
  exact AList.lookup_insert _

/-- A `Delete` of an object with finalizers keeps it, marked, with all else as it was. -/
theorem lookup_delete_self (now : Int) (hk : m.lookup k = some o) (hf : o.metadata.finalizers ≠ []) :
    ∃ o', (delete m k now).lookup k = some o' ∧ o'.val = o.val ∧
      o'.metadata.generation = o.metadata.generation ∧
      o'.metadata.finalizers = o.metadata.finalizers ∧ o'.metadata.deletionTimestamp.isSome := by
  unfold delete
  rw [hk]
  dsimp only
  rw [if_neg hf]
  split_ifs with hd
  · exact ⟨o, hk, rfl, rfl, rfl, hd⟩
  · exact ⟨_, AList.lookup_insert _, rfl, rfl, rfl, rfl⟩

theorem lookup_delete_of_nil (hk : m.lookup k = some o) (hf : o.metadata.finalizers = []) :
    (delete m k now).lookup k = none := by
  simp only [delete, hk, hf, if_true]
  exact AList.lookup_erase k m

theorem lookup_patchFinalizers_self {fs : List String} (hk : m.lookup k = some o) :
    (patchFinalizers m k fs).lookup k =
      if o.metadata.deletionTimestamp.isSome ∧ fs = [] then none
      else some { o with metadata := { o.metadata with finalizers := fs } } := by
  unfold patchFinalizers
  rw [hk]
  dsimp only
  split_ifs
  · exact AList.lookup_erase k m
  · exact AList.lookup_insert _

/-- Whatever a patch of the finalizers leaves under its key holds exactly those. -/
theorem finalizers_of_lookup_patchFinalizers {fs : List String} {o' : Object α}
    (h : (patchFinalizers m k fs).lookup k = some o') : o'.metadata.finalizers = fs := by
  unfold patchFinalizers at h
  split at h
  · next hnone => rw [hnone] at h; cases h
  · split_ifs at h
    · rw [AList.lookup_erase] at h
      cases h
    · rw [AList.lookup_insert, Option.some.injEq] at h
      rw [← h]

theorem lookup_patch_self {f : α → α} (hk : m.lookup k = some o) :
    (patch m k f).lookup k = some { o with val := f o.val } := by
  simp only [patch, hk]
  exact AList.lookup_insert _

theorem lookup_patchSpec_self {f : α → α} (hk : m.lookup k = some o) :
    (patchSpec m k f).lookup k =
      some { metadata := { o.metadata with generation := o.metadata.generation + 1 }, val := f o.val } := by
  simp only [patchSpec, hk]
  exact AList.lookup_insert _

/-- The object under `k` holds the finalizer `f`, and its value satisfies `p`. -/
def Holds (m : Go.Map κ (Object α)) (k : κ) (f : String) (p : α → Prop) : Prop :=
  ∃ o, m.lookup k = some o ∧ f ∈ o.metadata.finalizers ∧ p o.val

variable {f : String} {p : α → Prop}

/-- An object that holds a finalizer is stored. -/
theorem Holds.lookup_ne_none (h : Holds m k f p) : m.lookup k ≠ none := by
  obtain ⟨o, hk, -, -⟩ := h
  rw [hk]
  exact Option.some_ne_none o

theorem Holds.mono {q : α → Prop} (h : Holds m k f p) (hpq : ∀ a, p a → q a) : Holds m k f q := by
  obtain ⟨o, hk, hf, hp⟩ := h
  exact ⟨o, hk, hf, hpq _ hp⟩

/-- A `Delete` removes no object that holds a finalizer. -/
theorem Holds.delete (h : Holds m k f p) (k' : κ) (now : Int) :
    Holds (Kube.delete m k' now) k f p := by
  obtain ⟨o, hk, hf, hp⟩ := h
  by_cases hkey : k = k'
  · subst hkey
    obtain ⟨o', hk', hval, -, hfs, -⟩ := lookup_delete_self now hk (List.ne_nil_of_mem hf)
    exact ⟨o', hk', hfs ▸ hf, hval ▸ hp⟩
  · exact ⟨o, (lookup_delete_ne hkey).trans hk, hf, hp⟩

/-- A patch of the finalizers that keeps `f` removes no object that holds it. -/
theorem Holds.patchFinalizers {fs : List String} (h : Holds m k f p) (hfs : k' = k → f ∈ fs) :
    Holds (Kube.patchFinalizers m k' fs) k f p := by
  obtain ⟨o, hk, hf, hp⟩ := h
  by_cases hkey : k' = k
  · subst hkey
    have hmem := hfs rfl
    refine ⟨_, (lookup_patchFinalizers_self hk).trans (if_neg ?_), hmem, hp⟩
    exact fun hnil => List.ne_nil_of_mem hmem hnil.2
  · exact ⟨o, (lookup_patchFinalizers_ne (Ne.symm hkey)).trans hk, hf, hp⟩

/-- A read-modify-write of the finalizers that keeps `f` in the list it read. -/
theorem Holds.patchFinalizers_of_lookup {fs : List String} (h : Holds m k f p) (ho : m.lookup k' = some o)
    (hfs : f ∈ o.metadata.finalizers → f ∈ fs) : Holds (Kube.patchFinalizers m k' fs) k f p := by
  refine h.patchFinalizers fun hkey => ?_
  subst hkey
  obtain ⟨o', hk, hf, -⟩ := h
  rw [ho, Option.some.injEq] at hk
  exact hfs (hk ▸ hf)

/-- After a patch that adds `f` to the finalizers it read, the object holds `f`. -/
theorem holds_patchFinalizers_addFinalizer (hk : m.lookup k = some o) :
    Holds (Kube.patchFinalizers m k (addFinalizer o.metadata.finalizers f)) k f (· = o.val) :=
  ⟨_, (lookup_patchFinalizers_self hk).trans (if_neg fun h => addFinalizer_ne_nil h.2),
    mem_addFinalizer.mpr (.inr rfl), rfl⟩

theorem Holds.patch {g : α → α} (h : Holds m k f p) (k' : κ) (hg : ∀ a, p a → p (g a)) :
    Holds (Kube.patch m k' g) k f p := by
  obtain ⟨o, hk, hf, hp⟩ := h
  by_cases hkey : k' = k
  · subst hkey
    exact ⟨_, lookup_patch_self hk, hf, hg _ hp⟩
  · exact ⟨o, (lookup_patch_ne (Ne.symm hkey)).trans hk, hf, hp⟩

theorem Holds.patchSpec {g : α → α} (h : Holds m k f p) (k' : κ) (hg : ∀ a, p a → p (g a)) :
    Holds (Kube.patchSpec m k' g) k f p := by
  obtain ⟨o, hk, hf, hp⟩ := h
  by_cases hkey : k' = k
  · subst hkey
    exact ⟨_, lookup_patchSpec_self hk, hf, hg _ hp⟩
  · exact ⟨o, (lookup_patchSpec_ne (Ne.symm hkey)).trans hk, hf, hp⟩

theorem Holds.create {a : α} (h : Holds m k f p) (k' : κ) : Holds (Kube.create m k' a) k f p := by
  obtain ⟨o, hk, hf, hp⟩ := h
  exact ⟨o, lookup_create_of_lookup hk, hf, hp⟩

/-- Every object is stored under the key its value names. -/
def Keyed (key : α → κ) (m : Go.Map κ (Object α)) : Prop :=
  ∀ k o, m.lookup k = some o → key o.val = k

variable {key : α → κ}

theorem Keyed.delete (h : Keyed key m) (k : κ) (now : Int) : Keyed key (Kube.delete m k now) := by
  intro k' o' hk'
  by_cases hkey : k' = k
  · subst hkey
    unfold Kube.delete at hk'
    split at hk'
    · exact h k' o' hk'
    · next o hk =>
      split_ifs at hk'
      · rw [AList.lookup_erase] at hk'
        cases hk'
      · exact h k' o' hk'
      · rw [AList.lookup_insert, Option.some.injEq] at hk'
        subst hk'
        exact h k' o hk
  · exact h k' o' ((lookup_delete_ne hkey).symm.trans hk')

theorem Keyed.patchFinalizers {fs : List String} (h : Keyed key m) (k : κ) :
    Keyed key (Kube.patchFinalizers m k fs) := by
  intro k' o' hk'
  by_cases hkey : k' = k
  · subst hkey
    cases hk : m.lookup k' with
    | none =>
      rw [Kube.patchFinalizers, hk] at hk'
      exact h k' o' hk'
    | some o =>
      rw [lookup_patchFinalizers_self hk] at hk'
      split_ifs at hk'
      rw [Option.some.injEq] at hk'
      subst hk'
      exact h k' o hk
  · exact h k' o' ((lookup_patchFinalizers_ne hkey).symm.trans hk')

/-- A patch of the value that keeps its key keeps the store keyed. -/
theorem Keyed.patch {g : α → α} (h : Keyed key m) (k : κ) (hg : ∀ a, key (g a) = key a) :
    Keyed key (Kube.patch m k g) := by
  intro k' o' hk'
  by_cases hkey : k' = k
  · subst hkey
    cases hk : m.lookup k' with
    | none =>
      rw [Kube.patch, hk] at hk'
      exact h k' o' hk'
    | some o =>
      rw [lookup_patch_self hk, Option.some.injEq] at hk'
      subst hk'
      exact (hg o.val).trans (h k' o hk)
  · exact h k' o' ((lookup_patch_ne hkey).symm.trans hk')

theorem Keyed.patchSpec {g : α → α} (h : Keyed key m) (k : κ) (hg : ∀ a, key (g a) = key a) :
    Keyed key (Kube.patchSpec m k g) := by
  intro k' o' hk'
  by_cases hkey : k' = k
  · subst hkey
    cases hk : m.lookup k' with
    | none =>
      rw [Kube.patchSpec, hk] at hk'
      exact h k' o' hk'
    | some o =>
      rw [lookup_patchSpec_self hk, Option.some.injEq] at hk'
      subst hk'
      exact (hg o.val).trans (h k' o hk)
  · exact h k' o' ((lookup_patchSpec_ne hkey).symm.trans hk')

/-- A value created under its own key keeps the store keyed. -/
theorem Keyed.create (h : Keyed key m) (a : α) : Keyed key (Kube.create m (key a) a) := by
  intro k' o' hk'
  unfold Kube.create at hk'
  split at hk'
  · exact h k' o' hk'
  · by_cases hkey : k' = key a
    · subst hkey
      rw [AList.lookup_insert, Option.some.injEq] at hk'
      subst hk'
      rfl
    · exact h k' o' ((AList.lookup_insert_ne hkey).symm.trans hk')

end Store

end Kube
