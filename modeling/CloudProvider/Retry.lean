import CloudProvider.Program
import CloudProvider.Table

/-!
# Retries

Calls that may fail for a moment are tried again, as often and as far apart as the
policy for their operation says. Absence does not go away by asking again, so a
call that finds something absent is not repeated.

* `RetryPolicies.resolve`: the policy of an operation;
* `RetryPolicies.run`: a call under the policy of an operation;
* `RetryPolicies.attempts_pos`: a call is made at least once.
-/

namespace CloudProvider

/-- How often a call is tried, the first time included, and how many seconds lie
    between two tries. -/
structure RetryPolicy where
  maxAttempts : UInt32
  sleepSeconds : UInt64
  deriving DecidableEq

namespace RetryPolicy

/-- The policy of operations that have none. -/
def standard : RetryPolicy := ⟨10, 3⟩

instance : Inhabited RetryPolicy := ⟨standard⟩

/-- The time between two tries, in milliseconds. -/
def sleepMs [Timer] (p : RetryPolicy) : Nat := Program.sleepTime (1000 * p.sleepSeconds.toNat)

/-- The number of tries; there is always one. -/
def attempts (p : RetryPolicy) : Nat := max 1 p.maxAttempts.toNat

theorem attempts_pos (p : RetryPolicy) : 0 < p.attempts :=
  Nat.lt_of_lt_of_le Nat.zero_lt_one (Nat.le_max_left _ _)

end RetryPolicy

/-- The policies of operations by name. -/
abbrev RetryPolicies := Table RetryPolicy

namespace RetryPolicies

/-- The name under which the policy of all other operations is found. -/
def fallback : String := "default"

/-- The policy of an operation: its own, or else the fallback, or else the
    standard one. -/
def resolve (policies : RetryPolicies) (operation : String) : RetryPolicy :=
  ((policies.get? operation).or (policies.get? fallback)).getD .standard

end RetryPolicies

namespace Program

variable {C : Type} {A : C → Type}

/-- Make a call, and make it again up to `more` times for as long as it fails with
    anything but absence. -/
def repeated (c : C) (ms : Nat) : (more : Nat) → Program C A (Except CloudError (A c))
  | 0 => perform c
  | more + 1 =>
    call c fun reply =>
      match reply.outcome with
      | .ok a => done (.ok a)
      | .error e => if e.isNotFound then done (.error e) else sleep ms (repeated c ms more)

end Program

namespace RetryPolicies

variable {C : Type} {A : C → Type}

/-- Make a call under the policy of an operation. -/
def run [Timer] (policies : RetryPolicies) (operation : String) (c : C) :
    Program C A (Except CloudError (A c)) :=
  let policy := policies.resolve operation
  .repeated c policy.sleepMs (policy.attempts - 1)

end RetryPolicies

end CloudProvider
