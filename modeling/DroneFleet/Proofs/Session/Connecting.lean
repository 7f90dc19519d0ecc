import DroneFleet.Console.Client
import Mathlib

/-!
Connecting to a server that lets a number of attempts fail. The delay that is carried along, and
capped whenever it is doubled, is the first delay doubled that often and capped once
(`ClientConfig.backoff_succ`). So all that is done until the client is connected or gives up is known
from the number of failures (`Connecting.retry_eq`).
-/
namespace DroneFleet

/-- The wait that has `earlier` waits before it. The longest delay does not bind the first one. -/
def ClientConfig.backoff (config : ClientConfig) : Nat → Nat
  | 0 => config.reconnectDelay
  | earlier + 1 => min (config.reconnectDelay * Nat.pow 2 (earlier + 1)) config.maxReconnectDelay

theorem ClientConfig.backoff_succ (config : ClientConfig) (earlier : Nat) :
    config.backoff (earlier + 1) = min (config.backoff earlier * 2) config.maxReconnectDelay := by
  cases earlier with
  | zero => rfl
  | succ earlier =>
    have doubled : config.reconnectDelay * Nat.pow 2 (earlier + 2) =
        config.reconnectDelay * Nat.pow 2 (earlier + 1) * 2 := (Nat.mul_assoc ..).symm
    simp only [backoff, doubled]
    omega

namespace Connecting

@[simp] theorem Step.milliseconds_attempt : attempt.milliseconds = 0 := rfl

@[simp] theorem Step.milliseconds_wait (milliseconds : Nat) :
    (wait milliseconds).milliseconds = milliseconds := rfl

/-- `count` attempts that fail, with the wait behind each; `earlier` waits have gone before. -/
def failing (config : ClientConfig) (earlier count : Nat) : List Step :=
  (List.range' earlier count).flatMap fun index => [.attempt, .wait (config.backoff index)]

theorem failing_succ (config : ClientConfig) (earlier count : Nat) :
    failing config earlier (count + 1) =
      [.attempt, .wait (config.backoff earlier)] ++ failing config (earlier + 1) count := by
  simp [failing, List.range'_succ]

theorem count_attempt_failing (config : ClientConfig) (earlier count : Nat) :
    (failing config earlier count).count .attempt = count := by
  induction count generalizing earlier with
  | zero => rfl
  | succ count ih => simp [failing_succ, ih]

theorem milliseconds_failing (config : ClientConfig) (earlier count : Nat) :
    (failing config earlier count).foldr (fun step later => step.milliseconds + later) 0 =
      ((List.range' earlier count).map config.backoff).sum := by
  induction count generalizing earlier with
  | zero => rfl
  | succ count ih => simp [failing_succ, List.range'_succ, ih]

/-- Of the retries that are left, as many are used as there are failures to come. -/
theorem retry_eq (config : ClientConfig) (failures left : Nat) {earlier : Nat}
    (total : earlier + left = config.retries) :
    retry config (earlier + 1) (config.backoff earlier) failures =
      ⟨earlier + min failures left + 1, failing config earlier (min failures left) ++ [.attempt],
        failures ≤ left⟩ := by
  induction failures generalizing earlier left with
  | zero => simp [retry, failing]
  | succ failures ih =>
    cases left with
    | zero =>
      have last : ¬ earlier + 1 ≤ config.retries := by omega
      simp [retry, last, failing]
    | succ left =>
      have more : earlier + 1 ≤ config.retries := by omega
      -- The delay that is carried along is the backoff after one more wait.
      rw [retry, if_pos more, ← config.backoff_succ, ih left (by omega), after]
      simp only [Nat.add_min_add_right, failing_succ, List.append_assoc, Nat.add_le_add_iff_right]
      congr 1
      omega

/-- How often a client tries, whether it is connected in the end, and what it waits for in between. -/
theorem run_course (config : ClientConfig) (failures : Nat) :
    let failed := min failures config.retries
    let connecting := run config failures
    connecting.attempts = failed + 1 ∧ connecting.steps.count .attempt = failed + 1 ∧
      (connecting.succeeded = true ↔ failures ≤ config.retries) ∧
      connecting.steps = ((List.range failed).flatMap fun index =>
        [.attempt, .wait (config.backoff index)]) ++ [.attempt] ∧
      connecting.waited = ((List.range failed).map config.backoff).sum := by
  intro failed connecting
  have course : connecting =
      ⟨failed + 1, failing config 0 failed ++ [.attempt], failures ≤ config.retries⟩ := by
    have done := retry_eq config failures config.retries (Nat.zero_add _)
    rwa [Nat.zero_add, Nat.zero_add] at done
  rw [course, List.range_eq_range']
  refine ⟨rfl, ?_, decide_eq_true_iff, rfl, ?_⟩
  · simp [count_attempt_failing]
  · simp [waited, milliseconds_failing]

/-- A longest delay below the first one holds from the second wait on. -/
example : run { ClientConfig.default with reconnectDelay := 700, maxReconnectDelay := 500 } 9 =
    ⟨4, [.attempt, .wait 700, .attempt, .wait 500, .attempt, .wait 500, .attempt], false⟩ := by
  decide

end Connecting

end DroneFleet
