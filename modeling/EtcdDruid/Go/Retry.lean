import EtcdDruid.Go.Runtime

/-!
# Retrying until a deadline: gardener's `retry.UntilTimeout`

**Input.**  A condition `f : ω → Bool × Option String`, Go's
`func(ctx) (done bool, err error)`, and what its attempts observe: the first
attempt, which `UntilFor` always makes, and each later one the deadline leaves
room for (`Polls`).

**Algorithm.**  `UntilFor` calls the condition.  `done` with no error (`Ok`)
succeeds, `done` with an error (`SevereError`) returns it; otherwise the error
(`MinorError`), if any (`NotOk` has none), becomes the last error, and after
the interval the next attempt runs.  When the deadline passes first, the error
names the context's error and the last error recorded.

**Results.**
* `untilFor_eq_ok`, `untilTimeout_eq_ok`: a retry that succeeds stopped at an
  attempt whose condition returned `Ok`, the one `lastPoll` names.
-/

namespace Go
namespace Retry

universe u

variable {ω : Type u}

/-- `retry.Ok()`. -/
def ok : Bool × Option String := (true, none)

/-- `retry.MinorError(err)`: retried, with `err` as the last error. -/
def minorError (err : String) : Bool × Option String := (false, some err)

/-- `context.DeadlineExceeded.Error()`. -/
def deadlineExceeded : String := "context deadline exceeded"

/-- `retry.NewError(ctxError, err).Error()`: the last error is optional. -/
def retryError (ctxError : String) : Option String → String
  | some err => "retry failed with " ++ ctxError ++ ", last error: " ++ err
  | none => "retry failed with " ++ ctxError

/-- What the attempts of a retry observe, in order: the first attempt's and
those of the attempts after it, until the deadline. -/
structure Polls (ω : Type u) where
  first : ω
  later : List ω

/-- `UntilFor` with the last error aggregator, on the attempt observing `o` and
the later ones observing `os`. -/
def untilFor (f : ω → Bool × Option String) : Option String → ω → List ω → Except String Unit
  | lastError, o, os =>
    -- `agg.Minor(err)` records `err`; `NotOk` leaves the last error as it was
    match f o, os with
    | (true, none), _ => .ok ()
    | (true, some err), _ => .error err
    | (false, err), [] => .error (retryError deadlineExceeded (err.or lastError))
    | (false, err), o' :: os' => untilFor f (err.or lastError) o' os'

/-- `UntilTimeout`: `UntilFor` with a fresh aggregator, under the deadline. -/
def untilTimeout (f : ω → Bool × Option String) (p : Polls ω) : Except String Unit :=
  untilFor f none p.first p.later

/-- What the attempt at which the retry stops observes: the first whose
condition is done, or the last one made. -/
def lastPoll (f : ω → Bool × Option String) (o : ω) : List ω → ω
  | [] => o
  | o' :: os => if (f o).1 then o else lastPoll f o' os

/-- A retry that succeeds stopped at an attempt whose condition returned `Ok`. -/
theorem untilFor_eq_ok {f : ω → Bool × Option String} {lastError : Option String} {o : ω}
    {os : List ω} (h : untilFor f lastError o os = .ok ()) : f (lastPoll f o os) = ok := by
  -- by induction on the later attempts; the aggregator changes along the way
  induction os generalizing o lastError with
  | nil =>
    unfold untilFor at h
    rcases hf : f o with ⟨_ | _, err⟩
    · -- not done, and no attempt left: the deadline's error
      rw [hf] at h
      cases h
    · cases err with
      | none => exact hf
      | some err => rw [hf] at h; cases h
  | cons o' os ih =>
    unfold untilFor at h
    rw [lastPoll]
    rcases hf : f o with ⟨_ | _, err⟩
    · -- not done: the next attempt runs with the error recorded
      rw [hf] at h
      rw [if_neg Bool.false_ne_true]
      exact ih h
    · rw [if_pos rfl]
      cases err with
      | none => exact hf
      | some err => rw [hf] at h; cases h

theorem untilTimeout_eq_ok {f : ω → Bool × Option String} {p : Polls ω}
    (h : untilTimeout f p = .ok ()) : f (lastPoll f p.first p.later) = ok :=
  untilFor_eq_ok h

end Retry
end Go
