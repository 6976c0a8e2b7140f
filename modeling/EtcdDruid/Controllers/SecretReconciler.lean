import EtcdDruid.Controllers.Secret
import EtcdDruid.Kube.Finalizers

/-!
# The secret controller: `Reconcile` in `controllers/secret`

**Input.**  A request for a secret, and the secrets and Etcds of the API server.

**Algorithm.**  `Reconcile` gets the secret and lists the Etcds of its
namespace.  When `isFinalizerNeeded` finds one that references the secret,
`addFinalizer` adds the finalizer `druid.gardener.cloud/etcd-druid` unless the
secret holds it; the API server rejects that patch for a secret being deleted.
Otherwise `removeFinalizer` drops the finalizer if the secret holds it, and the
API server removes a secret being deleted that is left with no finalizer.

**The system.**  Between two reconciles users create and delete secrets and
create, change and delete Etcds, and other controllers add and remove
finalizers of their own.

**Results.**
* `reconcile_finalizer`: after a reconcile that does not fail, the secret holds
  the finalizer exactly when an Etcd of its namespace references it, with every
  other finalizer as it was; it fails only for a secret being deleted that an
  Etcd references and that lacks the finalizer, and then writes nothing;
* `protected_secret_removed_unreferenced`: no step of the cluster removes a
  secret that holds the finalizer, except a reconcile of it when no Etcd of its
  namespace references it.
-/

namespace EtcdDruid
namespace Secret

/-! ## `Reconcile` -/

/-- The secrets of the API server by namespace and name, of which the controller
reads the metadata, and the Etcds. -/
structure World where
  secrets : Go.Map (String × String) (Kube.Object Unit)
  etcds : List Etcd

/-- `r.Client.List(ctx, etcdList, client.InNamespace(namespace))`. -/
def World.listEtcds (w : World) (namespace_ : String) : List Etcd :=
  w.etcds.filter (·.namespace_ == namespace_)

/-- A patch of a secret's finalizers. -/
def World.patchFinalizers (w : World) (k : String × String) (fs : List String) : World :=
  { w with secrets := Kube.patchFinalizers w.secrets k fs }

/-- `addFinalizer`: `controllerutils.AddFinalizers` unless the secret holds the
finalizer, with the API server's check of the patch; `client.IgnoreNotFound`
keeps its error. -/
def addFinalizer (w : World) (k : String × String) (secret : Kube.Object Unit) : Except String World :=
  if finalizerName ∈ secret.metadata.finalizers then .ok w
  else if Kube.NoNewFinalizers secret.metadata (Kube.addFinalizer secret.metadata.finalizers finalizerName) then
    .ok (w.patchFinalizers k (Kube.addFinalizer secret.metadata.finalizers finalizerName))
  else .error Kube.noNewFinalizersMessage

/-- `removeFinalizer`: `controllerutils.RemoveFinalizers` if the secret holds the finalizer. -/
def removeFinalizer (w : World) (k : String × String) (secret : Kube.Object Unit) : World :=
  if finalizerName ∈ secret.metadata.finalizers then
    w.patchFinalizers k (Kube.removeFinalizer secret.metadata.finalizers finalizerName)
  else w

/-- `Reconcile`: the error it returns, always with `ctrl.Result{}`, and the objects
after its writes. -/
def reconcile (req : NamespacedName) (w : World) : Option String × World :=
  match w.secrets.lookup (req.namespace_, req.name) with
  | none => (none, w)
  | some secret =>
    if (isFinalizerNeeded req.name (w.listEtcds req.namespace_)).1 then
      match addFinalizer w (req.namespace_, req.name) secret with
      | .ok w' => (none, w')
      | .error e => (some e, w)
    else (none, removeFinalizer w (req.namespace_, req.name) secret)

/-! ## The cluster around the controller -/

/-- What the rest of the cluster does between two reconciles. -/
inductive Event
  /-- A user creates a secret. -/
  | createSecret (k : String × String)
  /-- A user deletes a secret. -/
  | deleteSecret (k : String × String) (t : Int)
  /-- Another controller adds a finalizer of its own, as the API server admits it. -/
  | addFinalizer (k : String × String) (f : String)
  /-- Another controller removes a finalizer of its own. -/
  | removeFinalizer (k : String × String) (f : String)
  /-- Users create, change and delete Etcds. -/
  | setEtcds (etcds : List Etcd)

def Event.apply (w : World) : Event → World
  | .createSecret k => { w with secrets := Kube.create w.secrets k () }
  | .deleteSecret k t => { w with secrets := Kube.delete w.secrets k t }
  | .addFinalizer k f =>
    match w.secrets.lookup k with
    | some o =>
      if f ≠ finalizerName ∧ Kube.NoNewFinalizers o.metadata (Kube.addFinalizer o.metadata.finalizers f) then
        w.patchFinalizers k (Kube.addFinalizer o.metadata.finalizers f)
      else w
    | none => w
  | .removeFinalizer k f =>
    match w.secrets.lookup k with
    | some o => if f ≠ finalizerName then w.patchFinalizers k (Kube.removeFinalizer o.metadata.finalizers f) else w
    | none => w
  | .setEtcds etcds => { w with etcds := etcds }

/-- One step of the system: a reconcile of any request, or an event. -/
inductive Step : World → World → Prop
  | reconcile (w : World) (req : NamespacedName) : Step w (reconcile req w).2
  | event (w : World) (e : Event) : Step w (e.apply w)

/-! ## What a reconcile writes -/

section Spec

variable {w : World} {k : String × String} {secret : Kube.Object Unit}

theorem mem_listEtcds {etcd : Etcd} {namespace_ : String} :
    etcd ∈ w.listEtcds namespace_ ↔ etcd ∈ w.etcds ∧ etcd.namespace_ = namespace_ := by
  simp [World.listEtcds]

/-- The finalizer is needed exactly when an Etcd of the namespace references the secret. -/
theorem isFinalizerNeeded_listEtcds_iff (namespace_ name : String) :
    (isFinalizerNeeded name (w.listEtcds namespace_)).1 = true ↔
      ∃ etcd ∈ w.etcds, etcd.namespace_ = namespace_ ∧ referencesSecret name etcd = true := by
  rw [isFinalizerNeeded_fst_iff]
  constructor
  · rintro ⟨etcd, hmem, href⟩
    exact ⟨etcd, (mem_listEtcds.mp hmem).1, (mem_listEtcds.mp hmem).2, href⟩
  · rintro ⟨etcd, hmem, hns, href⟩
    exact ⟨etcd, mem_listEtcds.mpr ⟨hmem, hns⟩, href⟩

theorem addFinalizer_of_mem (hf : finalizerName ∈ secret.metadata.finalizers) :
    addFinalizer w k secret = .ok w := if_pos hf

theorem addFinalizer_of_admitted (hf : finalizerName ∉ secret.metadata.finalizers)
    (hd : secret.metadata.deletionTimestamp.isSome = false) :
    addFinalizer w k secret = .ok (w.patchFinalizers k (Kube.addFinalizer secret.metadata.finalizers finalizerName)) := by
  rw [addFinalizer, if_neg hf, if_pos ((Kube.noNewFinalizers_addFinalizer_iff hf).mpr hd)]

theorem addFinalizer_of_deleting (hf : finalizerName ∉ secret.metadata.finalizers)
    (hd : secret.metadata.deletionTimestamp.isSome = true) :
    addFinalizer w k secret = .error Kube.noNewFinalizersMessage := by
  have hrej : ¬ Kube.NoNewFinalizers secret.metadata (Kube.addFinalizer secret.metadata.finalizers finalizerName) :=
    fun h => Bool.false_ne_true (((Kube.noNewFinalizers_addFinalizer_iff hf).mp h).symm.trans hd)
  rw [addFinalizer, if_neg hf, if_neg hrej]

/-- The finalizers of the secret after a patch of them. -/
theorem finalizers_patchFinalizers {fs : List String} {s' : Kube.Object Unit}
    (h : (w.patchFinalizers k fs).secrets.lookup k = some s') : s'.metadata.finalizers = fs :=
  Kube.finalizers_of_lookup_patchFinalizers h

end Spec

/-! ## The finalizer after a reconcile -/

section Reconcile

variable {w : World} {secret : Kube.Object Unit}

/-- After a reconcile that does not fail, the secret holds the finalizer exactly
when an Etcd of its namespace references it, and every other finalizer as it
was.  A reconcile fails only for a secret being deleted that an Etcd references
and that lacks the finalizer, and then writes nothing. -/
theorem reconcile_finalizer (req : NamespacedName)
    (hk : w.secrets.lookup (req.namespace_, req.name) = some secret) :
    ((reconcile req w).1 = some Kube.noNewFinalizersMessage ∧ (reconcile req w).2 = w ∧
        secret.metadata.deletionTimestamp.isSome = true ∧ finalizerName ∉ secret.metadata.finalizers ∧
        ∃ etcd ∈ w.etcds, etcd.namespace_ = req.namespace_ ∧ referencesSecret req.name etcd = true) ∨
    ((reconcile req w).1 = none ∧
      ∀ s', (reconcile req w).2.secrets.lookup (req.namespace_, req.name) = some s' →
        (finalizerName ∈ s'.metadata.finalizers ↔
          ∃ etcd ∈ w.etcds, etcd.namespace_ = req.namespace_ ∧ referencesSecret req.name etcd = true) ∧
        ∀ f, f ≠ finalizerName → (f ∈ s'.metadata.finalizers ↔ f ∈ secret.metadata.finalizers)) := by
  rw [← isFinalizerNeeded_listEtcds_iff]
  unfold reconcile
  rw [hk]
  dsimp only
  by_cases hneeded : (isFinalizerNeeded req.name (w.listEtcds req.namespace_)).1 = true
  · rw [if_pos hneeded]
    by_cases hf : finalizerName ∈ secret.metadata.finalizers
    · -- the secret holds the finalizer: nothing is written
      rw [addFinalizer_of_mem hf]
      refine .inr ⟨rfl, fun s' hs' => ?_⟩
      rw [hk, Option.some.injEq] at hs'
      subst hs'
      exact ⟨iff_of_true hf hneeded, fun _ _ => Iff.rfl⟩
    cases hd : secret.metadata.deletionTimestamp.isSome
    · rw [addFinalizer_of_admitted hf hd]
      refine .inr ⟨rfl, fun s' hs' => ?_⟩
      rw [finalizers_patchFinalizers hs']
      exact ⟨iff_of_true (Kube.mem_addFinalizer.mpr (.inr rfl)) hneeded, fun f hne => by simp [hne]⟩
    · -- the API server rejects the patch
      rw [addFinalizer_of_deleting hf hd]
      exact .inl ⟨rfl, rfl, rfl, hf, hneeded⟩
  · rw [if_neg hneeded]
    refine .inr ⟨rfl, fun s' hs' => ?_⟩
    unfold removeFinalizer at hs'
    split_ifs at hs' with hf
    · rw [finalizers_patchFinalizers hs']
      exact ⟨iff_of_false (fun h => (Kube.mem_removeFinalizer.mp h).2 rfl) hneeded, fun f hne => by simp [hne]⟩
    · rw [hk, Option.some.injEq] at hs'
      subst hs'
      exact ⟨iff_of_false hf hneeded, fun _ _ => Iff.rfl⟩

/-- A secret of the namespace `shoot` that the Etcd `etcd-main` backs up through. -/
def backupSecretWorld : World :=
  ⟨(∅ : Go.Map _ _).insert ("shoot", "etcd-backup-secret") ⟨⟨1, [], none⟩, ()⟩, [s3Etcd]⟩

theorem reconcile_finalizer_backupSecret :
    backupSecretWorld.secrets.lookup ("shoot", "etcd-backup-secret") = some ⟨⟨1, [], none⟩, ()⟩ ∧
    (reconcile ⟨"shoot", "etcd-backup-secret"⟩ backupSecretWorld).1 = none ∧
    ∃ s', (reconcile ⟨"shoot", "etcd-backup-secret"⟩ backupSecretWorld).2.secrets.lookup
      ("shoot", "etcd-backup-secret") = some s' ∧ finalizerName ∈ s'.metadata.finalizers := by
  have hk : backupSecretWorld.secrets.lookup ("shoot", "etcd-backup-secret") = some ⟨⟨1, [], none⟩, ()⟩ := rfl
  rcases reconcile_finalizer ⟨"shoot", "etcd-backup-secret"⟩ hk with h | ⟨hret, hall⟩
  · exact absurd h.2.2.1 Bool.false_ne_true
  · exact ⟨hk, hret, _, rfl, (hall _ rfl).1.mpr ⟨s3Etcd, List.mem_singleton_self _, rfl, rfl⟩⟩

end Reconcile

/-! ## Protection across the cluster -/

section Protection

variable {w : World} {k : String × String} {p : Unit → Prop}

/-- Events keep every secret that holds the finalizer: only the controller drops it. -/
theorem holds_apply (hk : Kube.Holds w.secrets k finalizerName p) (e : Event) :
    Kube.Holds (e.apply w).secrets k finalizerName p := by
  cases e with
  | createSecret k' => exact hk.create k'
  | deleteSecret k' t => exact hk.delete k' t
  | addFinalizer k' f =>
    simp only [Event.apply]
    split
    · next o ho =>
      split_ifs
      · exact hk.patchFinalizers_of_lookup ho fun hf => Kube.mem_addFinalizer.mpr (.inl hf)
      · exact hk
    · exact hk
  | removeFinalizer k' f =>
    simp only [Event.apply]
    split
    · next o ho =>
      split_ifs with hne
      · exact hk.patchFinalizers_of_lookup ho fun hf => Kube.mem_removeFinalizer.mpr ⟨hf, Ne.symm hne⟩
      · exact hk
    · exact hk
  | setEtcds etcds => exact hk

/-- A reconcile writes no Etcd, and keeps every secret that holds the finalizer,
except the requested one when no Etcd of its namespace references it. -/
theorem holds_reconcile (hk : Kube.Holds w.secrets k finalizerName p) (req : NamespacedName) :
    (reconcile req w).2.etcds = w.etcds ∧
    (Kube.Holds (reconcile req w).2.secrets k finalizerName p ∨
      k = (req.namespace_, req.name) ∧ (isFinalizerNeeded req.name (w.listEtcds req.namespace_)).1 = false) := by
  unfold reconcile
  split
  · exact ⟨rfl, .inl hk⟩
  · next secret hs =>
    split_ifs with hneeded
    · -- adding the finalizer keeps it wherever it was
      by_cases hf : finalizerName ∈ secret.metadata.finalizers
      · rw [addFinalizer_of_mem hf]
        exact ⟨rfl, .inl hk⟩
      cases hd : secret.metadata.deletionTimestamp.isSome
      · rw [addFinalizer_of_admitted hf hd]
        exact ⟨rfl, .inl (hk.patchFinalizers_of_lookup hs fun h => Kube.mem_addFinalizer.mpr (.inl h))⟩
      · rw [addFinalizer_of_deleting hf hd]
        exact ⟨rfl, .inl hk⟩
    · unfold removeFinalizer
      split_ifs
      · by_cases hkey : k = (req.namespace_, req.name)
        · exact ⟨rfl, .inr ⟨hkey, Bool.eq_false_iff.mpr hneeded⟩⟩
        · exact ⟨rfl, .inl (hk.patchFinalizers fun h => absurd h.symm hkey)⟩
      · exact ⟨rfl, .inl hk⟩

/-- No step of the cluster removes a secret that holds the finalizer, except a
reconcile of it that finds no Etcd of its namespace referencing it; that step
writes no Etcd, so none references it afterwards either. -/
theorem protected_secret_removed_unreferenced {w' : World} (h : Step w w')
    (hk : Kube.Holds w.secrets k finalizerName fun _ => True) (hgone : w'.secrets.lookup k = none) :
    w'.etcds = w.etcds ∧ ∀ etcd ∈ w.etcds, etcd.namespace_ = k.1 → referencesSecret k.2 etcd = false := by
  cases h with
  | event e => exact absurd hgone (holds_apply hk e).lookup_ne_none
  | reconcile req =>
    obtain ⟨hetcds, hholds | ⟨rfl, hneeded⟩⟩ := holds_reconcile hk req
    · exact absurd hgone hholds.lookup_ne_none
    · refine ⟨hetcds, fun etcd hmem hns => ?_⟩
      by_contra href
      have hneeded' := (isFinalizerNeeded_listEtcds_iff req.namespace_ req.name).mpr
        ⟨etcd, hmem, hns, by simpa using href⟩
      rw [hneeded] at hneeded'
      cases hneeded'

/-- A secret being deleted that held the finalizer for the Etcd `etcd-main`,
which now backs up through another secret. -/
def releasedSecretWorld : World :=
  ⟨(∅ : Go.Map _ _).insert ("shoot", "old-backup-secret") ⟨⟨1, [finalizerName], some 5⟩, ()⟩, [s3Etcd]⟩

theorem protected_secret_removed_unreferenced_sample :
    Step releasedSecretWorld (reconcile ⟨"shoot", "old-backup-secret"⟩ releasedSecretWorld).2 ∧
    Kube.Holds releasedSecretWorld.secrets ("shoot", "old-backup-secret") finalizerName (fun _ => True) ∧
    (reconcile ⟨"shoot", "old-backup-secret"⟩ releasedSecretWorld).2.secrets.lookup
      ("shoot", "old-backup-secret") = none ∧
    ∀ etcd ∈ releasedSecretWorld.etcds, etcd.namespace_ = "shoot" →
      referencesSecret "old-backup-secret" etcd = false := by
  have hstep := Step.reconcile releasedSecretWorld ⟨"shoot", "old-backup-secret"⟩
  have hk : Kube.Holds releasedSecretWorld.secrets ("shoot", "old-backup-secret") finalizerName (fun _ => True) :=
    ⟨_, rfl, List.mem_singleton_self _, trivial⟩
  have hgone : (reconcile ⟨"shoot", "old-backup-secret"⟩ releasedSecretWorld).2.secrets.lookup
      ("shoot", "old-backup-secret") = none := rfl
  exact ⟨hstep, hk, hgone, (protected_secret_removed_unreferenced hstep hk hgone).2⟩

end Protection

end Secret
end EtcdDruid
