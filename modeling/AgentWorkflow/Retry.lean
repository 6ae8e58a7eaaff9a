/-
Attempts that are repeated.

* `Retry.Policy` — how many attempts are made, and how long the pauses are.
* `Retry.Policy.backoff` — the pause before a retry: it doubles from one retry to
  the next, up to a factor of 32 bits, and is cut at the longest pause.
* `Retry.run` — repeats an attempt until it succeeds, fails for good, or has been
  made as often as the policy says.

Design notes: the attempts that are left are counted down, so the first attempt
is made under every policy and the loop ends by structure.
-/
import AgentWorkflow.Site

namespace AgentWorkflow.Retry

/-- How many attempts are made, and the first and the longest pause between them
in milliseconds. -/
structure Policy where
  maxAttempts : Nat
  initialMs : Nat
  maxMs : Nat
  deriving DecidableEq, Repr

/-- The greatest factor of a pause. -/
def maxFactor : Nat := Nat.pow 2 32 - 1

/-- By how much the pause before a retry is longer than the first one. -/
def factor (retry : Nat) : Nat := if retry ≤ 32 then Nat.pow 2 (retry - 1) else maxFactor

/-- The pause before a retry, in milliseconds; the first retry is number one. -/
def Policy.backoff (p : Policy) (retry : Nat) : Nat := min (p.initialMs * factor retry) p.maxMs

/-- The policy with at least one attempt. -/
def Policy.atLeastOnce (p : Policy) : Policy := { p with maxAttempts := max p.maxAttempts 1 }

/-- What came of an attempt.  After one that is final no other is made. -/
inductive Attempt (α : Type) where
  | success (a : α)
  | failure (f : Failure) (final : Bool)

/-- The note on a failure after which another attempt is made. -/
def retryNote (message : String) (p : Policy) (number : Nat) (f : Failure) : Note :=
  .warning message [
    ("attempt", toString number), ("max_attempts", toString p.maxAttempts),
    ("delay_ms", toString (p.backoff number)), ("err", f.message)]

/-- Repeats an attempt at most `left` times after the next one.  Answers the
number of attempts made and what came of the last one. -/
def attempts {α : Type} (p : Policy) (message : String) (attempt : Deed (Attempt α)) :
    Nat → Nat → Deed (Nat × Outcome α)
  | left, made => do
    let number := made + 1
    match ← attempt with
    | .success a => pure (number, .ok a)
    | .failure f final =>
      match left with
      | 0 => pure (number, .error f)
      | left + 1 =>
        if final then pure (number, .error f)
        else do
          Deed.note (retryNote message p number f)
          Deed.pause (p.backoff number)
          attempts p message attempt left number

/-- Repeats an attempt under a policy. -/
def run {α : Type} (p : Policy) (message : String) (attempt : Deed (Attempt α)) :
    Deed (Nat × Outcome α) :=
  attempts p message attempt (p.maxAttempts - 1) 0

end AgentWorkflow.Retry
