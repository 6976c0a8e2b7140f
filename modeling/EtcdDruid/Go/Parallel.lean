import EtcdDruid.Go.Runtime

/-!
# Parallel tasks on the keys of a store

`flow.Parallel` runs its tasks concurrently.  When every task reads and writes
one key of a store, and no two tasks share a key, the tasks commute: whatever
order they complete in, each key ends up as its own task makes it, and a key
that no task names keeps its value.

A task is a key and what it does to the value stored there (`none`: absent or
deleted).  `runTasks` runs a list of tasks in its order.

* `lookup_runTasks_of_notMem`, `lookup_runTasks_of_mem`: the value of a key after
  the run, with distinct keys;
* `lookup_runTasks_perm`, `runTasks_entries_perm`: every order of the tasks gives
  the same store.
-/

namespace Go

universe u v

section Parallel

variable {κ : Type u} {ν : Type v} [DecidableEq κ]

/-- Write `f` of the stored value back to key `k`. -/
def applyAt (k : κ) (f : Option ν → Option ν) (m : Map κ ν) : Map κ ν :=
  match f (m.lookup k) with
  | some v => m.insert k v
  | none => m.erase k

@[simp] theorem lookup_applyAt_self (k : κ) (f : Option ν → Option ν) (m : Map κ ν) :
    (applyAt k f m).lookup k = f (m.lookup k) := by
  unfold applyAt
  cases f (m.lookup k) <;> simp

@[simp] theorem lookup_applyAt_ne {k k' : κ} (f : Option ν → Option ν) (m : Map κ ν) (h : k' ≠ k) :
    (applyAt k f m).lookup k' = m.lookup k' := by
  unfold applyAt
  cases f (m.lookup k) <;> simp [AList.lookup_insert_ne h, AList.lookup_erase_ne h]

/-- The tasks run one after the other, in the order of the list. -/
def runTasks (ts : List (κ × (Option ν → Option ν))) (m : Map κ ν) : Map κ ν :=
  ts.foldl (fun m t => applyAt t.1 t.2 m) m

@[simp] theorem runTasks_nil (m : Map κ ν) : runTasks [] m = m := rfl

@[simp] theorem runTasks_cons (t : κ × (Option ν → Option ν)) (ts : List (κ × (Option ν → Option ν)))
    (m : Map κ ν) : runTasks (t :: ts) m = runTasks ts (applyAt t.1 t.2 m) := rfl

/-- A key that no task names keeps its value. -/
theorem lookup_runTasks_of_notMem {k : κ} :
    ∀ {ts : List (κ × (Option ν → Option ν))} {m : Map κ ν}, k ∉ ts.map Prod.fst →
      (runTasks ts m).lookup k = m.lookup k
  | [], _, _ => rfl
  | t :: ts, m, hk => by
      simp only [List.map_cons, List.mem_cons, not_or] at hk
      rw [runTasks_cons, lookup_runTasks_of_notMem hk.2, lookup_applyAt_ne _ _ hk.1]

/-- With distinct keys, a task's key ends up as that task alone makes it. -/
theorem lookup_runTasks_of_mem {k : κ} {f : Option ν → Option ν} :
    ∀ {ts : List (κ × (Option ν → Option ν))} {m : Map κ ν}, (ts.map Prod.fst).Nodup →
      (k, f) ∈ ts → (runTasks ts m).lookup k = f (m.lookup k)
  | [], _, _, ht => absurd ht List.not_mem_nil
  | t :: ts, m, hn, ht => by
      rw [List.map_cons, List.nodup_cons] at hn
      rw [runTasks_cons]
      rcases List.mem_cons.mp ht with rfl | ht
      · -- the first task: no later task touches its key
        rw [lookup_runTasks_of_notMem hn.1, lookup_applyAt_self]
      · have hne : k ≠ t.1 := fun hk => hn.1 (hk ▸ List.mem_map_of_mem (f := Prod.fst) ht)
        rw [lookup_runTasks_of_mem hn.2 ht, lookup_applyAt_ne _ _ hne]

/-- Tasks on distinct keys commute: every order gives the same store. -/
theorem lookup_runTasks_perm {ts ts' : List (κ × (Option ν → Option ν))} (hp : ts'.Perm ts)
    (hn : (ts.map Prod.fst).Nodup) (m : Map κ ν) (k : κ) :
    (runTasks ts' m).lookup k = (runTasks ts m).lookup k := by
  have hn' : (ts'.map Prod.fst).Nodup := (hp.map Prod.fst).nodup_iff.mpr hn
  by_cases hk : k ∈ ts.map Prod.fst
  · obtain ⟨⟨k', f⟩, ht, hk'⟩ := List.mem_map.mp hk
    simp only at hk'
    subst hk'
    rw [lookup_runTasks_of_mem hn' (hp.mem_iff.mpr ht), lookup_runTasks_of_mem hn ht]
  · have hk' : k ∉ ts'.map Prod.fst := fun h => hk ((hp.map Prod.fst).mem_iff.mp h)
    rw [lookup_runTasks_of_notMem hk', lookup_runTasks_of_notMem hk]

/-- Every order of the tasks leaves the same entries, up to their order. -/
theorem runTasks_entries_perm {ts ts' : List (κ × (Option ν → Option ν))} (hp : ts'.Perm ts)
    (hn : (ts.map Prod.fst).Nodup) (m : Map κ ν) :
    (runTasks ts' m).entries.Perm (runTasks ts m).entries :=
  List.lookup_ext (runTasks ts' m).nodupKeys (runTasks ts m).nodupKeys fun k _ => by
    rw [← AList.lookup, ← AList.lookup, lookup_runTasks_perm hp hn]

end Parallel

end Go
