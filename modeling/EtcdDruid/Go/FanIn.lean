import Mathlib.Algebra.Order.BigOperators.Group.Finset
import Mathlib.Data.Fintype.Fin
import EtcdDruid.Go.Runtime

/-!
# Fan-in over an unbuffered channel

The Go pattern that gathers the values of `n` goroutines:

```
for each task { wg.Add(1); go func() { defer wg.Done(); ch <- task() }() }
go func() { defer close(ch); wg.Wait() }()
for v := range ch { values = append(values, v) }
```

Once the loop starts, the runtime interleaves four kinds of atomic actions:
goroutine `i` hands its value to the collector (`send i`, a rendezvous, since
the channel has no buffer); goroutine `i` runs its deferred `wg.Done()`
(`done i`); the closer's `wg.Wait()` returns and it closes the channel
(`close`); the collector's `range` meets the closed channel (`exit`).  An
interleaving is a list of actions, and `run` executes it, failing on the first
action that is not enabled.

**Results.**
* `inv_run`: along every interleaving the counter is the number of goroutines
  that have not returned, and the collector has received each value of a
  goroutine past its send exactly once.
* `send_closed_unreachable`, `done_wg_pos`: no goroutine ever sends on the
  closed channel, and `wg.Done()` never drives the counter below zero.
* `run_length_le`: every interleaving has at most `2 * n + 2` actions.
* `stuck_iff_exited`, `exists_run_exited`: no interleaving gets stuck before the
  collector leaves its loop, and one that cannot be extended has left it.
* `received_perm_of_exited`, `exists_arrival`: then it has received every value
  exactly once, in an order that a `RangeOrder` describes.
-/

namespace Go
namespace FanIn

/-- Where a goroutine is: blocked on its send, about to run its deferred
`wg.Done()`, or returned. -/
inductive Phase
  | sending
  | sent
  | returned
  deriving DecidableEq, Repr

/-- What a goroutine in this phase still adds to the `WaitGroup` counter. -/
def Phase.pending : Phase → Nat
  | .sending => 1
  | .sent => 1
  | .returned => 0

/-- The actions a goroutine in this phase still has to take. -/
def Phase.work : Phase → Nat
  | .sending => 2
  | .sent => 1
  | .returned => 0

@[simp] theorem Phase.pending_sending : Phase.sending.pending = 1 := rfl
@[simp] theorem Phase.pending_sent : Phase.sent.pending = 1 := rfl
@[simp] theorem Phase.pending_returned : Phase.returned.pending = 0 := rfl
@[simp] theorem Phase.work_sending : Phase.sending.work = 2 := rfl
@[simp] theorem Phase.work_sent : Phase.sent.work = 1 := rfl
@[simp] theorem Phase.work_returned : Phase.returned.work = 0 := rfl

/-- The atomic actions of a run. -/
inductive Action (n : Nat)
  | send (i : Fin n)
  | done (i : Fin n)
  | close
  | exit
  deriving DecidableEq, Repr

/-- The goroutines' phases, the `WaitGroup` counter, whether the channel is
closed, the goroutines whose values the collector has received, in order, and
whether the collector has left its loop. -/
structure State (n : Nat) where
  phase : Fin n → Phase
  wg : Nat
  closed : Bool
  received : List (Fin n)
  exited : Bool

variable {n : Nat}

/-- The state when the collector starts its loop: every goroutine has been
added to the counter and waits to send. -/
def init (n : Nat) : State n := ⟨fun _ => .sending, n, false, [], false⟩

/-- One action, if it is enabled. -/
def step (s : State n) : Action n → Option (State n)
  | .send i =>
      if s.phase i = .sending ∧ s.closed = false ∧ s.exited = false then
        some { s with phase := Function.update s.phase i .sent, received := s.received ++ [i] }
      else none
  | .done i =>
      if s.phase i = .sent then
        some { s with phase := Function.update s.phase i .returned, wg := s.wg - 1 }
      else none
  | .close => if s.wg = 0 ∧ s.closed = false then some { s with closed := true } else none
  | .exit => if s.closed = true ∧ s.exited = false then some { s with exited := true } else none

/-- An interleaving, action after action. -/
def run (s : State n) : List (Action n) → Option (State n)
  | [] => some s
  | a :: as => (step s a).bind fun s' => run s' as

@[simp] theorem run_nil (s : State n) : run s [] = some s := rfl

theorem run_cons_eq_some {s s' : State n} {a : Action n} {as : List (Action n)} :
    run s (a :: as) = some s' ↔ ∃ t, step s a = some t ∧ run t as = some s' := by
  simp [run, Option.bind_eq_some_iff]

/-- What one action can do, with its guard. -/
theorem step_cases {s s' : State n} {a : Action n} (h : step s a = some s') :
    (∃ i, a = .send i ∧ s.phase i = .sending ∧ s.closed = false ∧ s.exited = false ∧
      s' = { s with phase := Function.update s.phase i .sent, received := s.received ++ [i] }) ∨
    (∃ i, a = .done i ∧ s.phase i = .sent ∧
      s' = { s with phase := Function.update s.phase i .returned, wg := s.wg - 1 }) ∨
    (a = .close ∧ s.wg = 0 ∧ s.closed = false ∧ s' = { s with closed := true }) ∨
    (a = .exit ∧ s.closed = true ∧ s.exited = false ∧ s' = { s with exited := true }) := by
  cases a with
  | send i =>
      simp only [step] at h
      split_ifs at h with hg
      exact .inl ⟨i, rfl, hg.1, hg.2.1, hg.2.2, (Option.some.inj h).symm⟩
  | done i =>
      simp only [step] at h
      split_ifs at h with hg
      exact .inr (.inl ⟨i, rfl, hg, (Option.some.inj h).symm⟩)
  | close =>
      simp only [step] at h
      split_ifs at h with hg
      exact .inr (.inr (.inl ⟨rfl, hg.1, hg.2, (Option.some.inj h).symm⟩))
  | exit =>
      simp only [step] at h
      split_ifs at h with hg
      exact .inr (.inr (.inr ⟨rfl, hg.1, hg.2, (Option.some.inj h).symm⟩))

/-! ## Sums over the goroutines -/

/-- Changing one goroutine's phase changes a sum of weights by the two weights. -/
theorem sum_update_add (f : Fin n → Phase) (i : Fin n) (q : Phase) (w : Phase → Nat) :
    ∑ j, w (Function.update f i q j) + w (f i) = ∑ j, w (f j) + w q := by
  rw [← Finset.add_sum_erase _ _ (Finset.mem_univ i),
    ← Finset.add_sum_erase _ (fun j => w (f j)) (Finset.mem_univ i), Function.update_self]
  have hrest : ∑ j ∈ Finset.univ.erase i, w (Function.update f i q j) =
      ∑ j ∈ Finset.univ.erase i, w (f j) :=
    Finset.sum_congr rfl fun j hj => by rw [Function.update_of_ne (Finset.ne_of_mem_erase hj)]
  rw [hrest]
  omega

theorem pending_eq_zero_iff (f : Fin n → Phase) :
    ∑ j, (f j).pending = 0 ↔ ∀ j, f j = .returned := by
  rw [Finset.sum_eq_zero_iff]
  refine forall_congr' fun j => ?_
  cases f j <;> simp [Phase.pending]

/-! ## The invariant -/

/-- What holds along every interleaving. -/
structure Inv (s : State n) : Prop where
  wg_eq : s.wg = ∑ i, (s.phase i).pending
  nodup : s.received.Nodup
  mem_received : ∀ i, i ∈ s.received ↔ s.phase i ≠ .sending
  closed_wg : s.closed = true → s.wg = 0
  exited_closed : s.exited = true → s.closed = true

theorem inv_init (n : Nat) : Inv (init n) where
  wg_eq := by simp [init, Phase.pending]
  nodup := List.nodup_nil
  mem_received := by simp [init]
  closed_wg := by simp [init]
  exited_closed := by simp [init]

/-- Once the channel is closed every goroutine has returned. -/
theorem Inv.returned_of_closed {s : State n} (h : Inv s) (hc : s.closed = true) (i : Fin n) :
    s.phase i = .returned :=
  (pending_eq_zero_iff s.phase).mp (h.wg_eq ▸ h.closed_wg hc) i

theorem inv_send {s : State n} {i : Fin n} (h : Inv s) (hi : s.phase i = .sending) :
    Inv { s with phase := Function.update s.phase i .sent, received := s.received ++ [i] } where
  wg_eq := by
    have := sum_update_add s.phase i .sent Phase.pending
    rw [hi, Phase.pending_sending, Phase.pending_sent] at this
    have := h.wg_eq
    simp only
    omega
  nodup := h.nodup.append (List.nodup_singleton i)
    (List.disjoint_singleton.mpr fun hmem => (h.mem_received i).mp hmem hi)
  mem_received := fun j => by
    by_cases hj : j = i
    · subst hj
      simp
    · simp [hj, h.mem_received j]
  closed_wg := h.closed_wg
  exited_closed := h.exited_closed

theorem inv_done {s : State n} {i : Fin n} (h : Inv s) (hi : s.phase i = .sent) :
    Inv { s with phase := Function.update s.phase i .returned, wg := s.wg - 1 } where
  wg_eq := by
    have := sum_update_add s.phase i .returned Phase.pending
    rw [hi, Phase.pending_sent, Phase.pending_returned] at this
    have := h.wg_eq
    simp only
    omega
  nodup := h.nodup
  mem_received := fun j => by
    by_cases hj : j = i
    · subst hj
      simpa [hi] using h.mem_received j
    · simpa [Function.update_of_ne hj] using h.mem_received j
  closed_wg := fun hc => absurd (h.returned_of_closed hc i) (by rw [hi]; simp)
  exited_closed := h.exited_closed

/-- The step lemma: every action keeps the invariant. -/
theorem inv_step {s s' : State n} {a : Action n} (h : Inv s) (hs : step s a = some s') : Inv s' := by
  rcases step_cases hs with ⟨i, -, hi, -, -, rfl⟩ | ⟨i, -, hi, rfl⟩ | ⟨-, hwg, -, rfl⟩ |
    ⟨-, hc, -, rfl⟩
  · exact inv_send h hi
  · exact inv_done h hi
  · exact { h with closed_wg := fun _ => hwg, exited_closed := fun _ => rfl }
  · exact { h with exited_closed := fun _ => hc }

/-- The run lemma: every interleaving keeps the invariant. -/
theorem inv_run {s s' : State n} {as : List (Action n)} (h : Inv s) (hs : run s as = some s') :
    Inv s' := by
  induction as generalizing s with
  | nil =>
      rw [run_nil, Option.some.injEq] at hs
      exact hs ▸ h
  | cons a as ih =>
      obtain ⟨t, ht, hrun⟩ := run_cons_eq_some.mp hs
      exact ih (inv_step h ht) hrun

/-! ## Safety -/

/-- No goroutine is still sending once the channel is closed: the send that
would panic never happens. -/
theorem send_closed_unreachable {s : State n} {as : List (Action n)}
    (hs : run (init n) as = some s) (hc : s.closed = true) (i : Fin n) :
    s.phase i ≠ .sending := by
  rw [(inv_run (inv_init n) hs).returned_of_closed hc i]
  simp

/-- A goroutine about to run `wg.Done()` still counts in the counter. -/
theorem done_wg_pos {s : State n} {as : List (Action n)} (hs : run (init n) as = some s)
    {i : Fin n} (hi : s.phase i = .sent) : 0 < s.wg := by
  rw [(inv_run (inv_init n) hs).wg_eq, Finset.sum_pos_iff]
  exact ⟨i, Finset.mem_univ i, by simp [hi, Phase.pending]⟩

/-! ## Termination -/

/-- The actions left: two per goroutine blocked on its send, one per goroutine
that has still to call `wg.Done()`, the close and the loop exit. -/
def measure (s : State n) : Nat :=
  ∑ i, (s.phase i).work + (if s.closed then 0 else 1) + (if s.exited then 0 else 1)

theorem measure_init (n : Nat) : measure (init n) = 2 * n + 2 := by
  simp [measure, init, Phase.work, mul_comm]

/-- Every action uses up one of the actions left. -/
theorem measure_step {s s' : State n} {a : Action n} (hs : step s a = some s') :
    measure s' + 1 = measure s := by
  rcases step_cases hs with ⟨i, -, hi, -, -, rfl⟩ | ⟨i, -, hi, rfl⟩ | ⟨-, -, hc, rfl⟩ |
    ⟨-, -, he, rfl⟩
  · have := sum_update_add s.phase i .sent Phase.work
    rw [hi, Phase.work_sending, Phase.work_sent] at this
    simp only [measure]
    omega
  · have := sum_update_add s.phase i .returned Phase.work
    rw [hi, Phase.work_sent, Phase.work_returned] at this
    simp only [measure]
    omega
  · simp [measure, hc]
    omega
  · simp [measure, he]

theorem measure_run {s s' : State n} {as : List (Action n)} (hs : run s as = some s') :
    measure s' + as.length = measure s := by
  induction as generalizing s with
  | nil =>
      rw [run_nil, Option.some.injEq] at hs
      rw [hs, List.length_nil, Nat.add_zero]
  | cons a as ih =>
      obtain ⟨t, ht, hrun⟩ := run_cons_eq_some.mp hs
      have h1 := ih hrun
      have h2 := measure_step ht
      rw [List.length_cons]
      omega

/-- Every interleaving is finite: it has at most `2 * n + 2` actions. -/
theorem run_length_le {s : State n} {as : List (Action n)} (hs : run (init n) as = some s) :
    as.length ≤ 2 * n + 2 := by
  have := measure_run hs
  rw [measure_init] at this
  omega

/-! ## Progress -/

/-- Until the collector has left its loop some action is enabled. -/
theorem progress {s : State n} (h : Inv s) (he : s.exited = false) :
    ∃ a s', step s a = some s' := by
  by_cases hsend : ∃ i, s.phase i = .sending
  · obtain ⟨i, hi⟩ := hsend
    have hc : s.closed = false := by
      cases hc : s.closed
      · rfl
      · exact absurd (h.returned_of_closed hc i) (by rw [hi]; simp)
    exact ⟨.send i, _, if_pos ⟨hi, hc, he⟩⟩
  by_cases hdone : ∃ i, s.phase i = .sent
  · obtain ⟨i, hi⟩ := hdone
    exact ⟨.done i, _, if_pos hi⟩
  · have hret : ∀ i, s.phase i = .returned := fun i => by
      cases hp : s.phase i
      · exact absurd ⟨i, hp⟩ hsend
      · exact absurd ⟨i, hp⟩ hdone
      · rfl
    have hwg : s.wg = 0 := h.wg_eq.trans ((pending_eq_zero_iff s.phase).mpr hret)
    cases hc : s.closed
    · exact ⟨.close, _, if_pos ⟨hwg, hc⟩⟩
    · exact ⟨.exit, _, if_pos ⟨hc, he⟩⟩

/-- No action is enabled exactly when the collector has left its loop. -/
theorem stuck_iff_exited {s : State n} (h : Inv s) :
    (∀ a, step s a = none) ↔ s.exited = true := by
  constructor
  · intro hstuck
    cases he : s.exited
    · obtain ⟨a, s', hs⟩ := progress h he
      exact absurd hs (by simp [hstuck a])
    · rfl
  · intro he a
    have hc := h.exited_closed he
    cases a with
    | send i => simp [step, hc]
    | done i => simp [step, h.returned_of_closed hc i]
    | close => simp [step, hc]
    | exit => simp [step, he]

/-- From every reachable state some continuation takes the collector out of its
loop. -/
theorem exists_run_exited {s : State n} (h : Inv s) :
    ∃ as s', run s as = some s' ∧ s'.exited = true := by
  induction hm : measure s using Nat.strong_induction_on generalizing s with
  | _ m ih =>
      cases he : s.exited
      · obtain ⟨a, t, ht⟩ := progress h he
        have hlt : measure t < m := by
          have := measure_step ht
          omega
        obtain ⟨as, s', hrun, hs'⟩ := ih (measure t) hlt (inv_step h ht) rfl
        exact ⟨a :: as, s', run_cons_eq_some.mpr ⟨t, ht, hrun⟩, hs'⟩
      · exact ⟨[], s, rfl, he⟩

/-! ## Completeness -/

/-- Once the collector has left its loop it has received every goroutine's
value exactly once. -/
theorem received_perm_of_exited {s : State n} (h : Inv s) (he : s.exited = true) :
    s.received.Perm (List.finRange n) := by
  refine (List.perm_ext_iff_of_nodup h.nodup (List.nodup_finRange n)).mpr fun i => ?_
  rw [h.mem_received i, h.returned_of_closed (h.exited_closed he) i]
  simp

/-- The values the collector gathers from goroutines returning `vs`, in the
order received. -/
def collected {α : Type*} (vs : List α) (s : State vs.length) : List α := s.received.map vs.get

/-- The gathered values are the goroutines' values in some order. -/
theorem collected_perm {α : Type*} (vs : List α) {s : State vs.length} (h : Inv s)
    (he : s.exited = true) : (collected vs s).Perm vs := by
  have := (received_perm_of_exited h he).map vs.get
  rwa [List.map_get_finRange] at this

/-- The gathered values are an order of the goroutines' values. -/
theorem exists_arrival {α : Type*} [DecidableEq α] (vs : List α) {s : State vs.length}
    (h : Inv s) (he : s.exited = true) : ∃ arrival : RangeOrder α, arrival.order vs = collected vs s :=
  RangeOrder.exists_order_eq (collected_perm vs h he)

end FanIn
end Go
