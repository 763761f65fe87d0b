import SearchClient.Search.World

/-! Repeating a call to the daemon: only when the daemon could not be reached, and only so many times. -/

namespace SearchClient

/-- How often a call is tried again, and the pause in between, in nanoseconds. -/
structure RetryPolicy where
  maxRetries : Nat
  sleep : Nat
deriving DecidableEq

namespace RetryPolicy
variable {σ α : Type}

def ofOptions (options : ClientOptions) : RetryPolicy := ⟨options.maxRetries, options.retrySleep⟩

def default : RetryPolicy := ofOptions {}

def maxAttempts (policy : RetryPolicy) : Nat := policy.maxRetries + 1

/-- Runs a call with `left` further attempts. -/
def attempt (policy : RetryPolicy) (name : String) (call : Act σ α) (left : Nat) : Act σ α := fun world =>
  match call world with
  | (.ok value, world) => (.ok value, world)
  | (.error error, world) =>
    if error.isTransient then
      match left with
      | 0 => (.error error, world.report [.callAbandoned name policy.maxAttempts error])
      | left + 1 =>
        policy.attempt name call left
          (world.report [.callRetried name (policy.maxRetries - left) policy.maxAttempts error])
    else (.error error, world)

/-- Runs a call, and again after each transient failure while the policy allows it. The failure of the last
    attempt is the failure of the call. -/
def run (policy : RetryPolicy) (name : String) (call : Act σ α) : Act σ α :=
  policy.attempt name call policy.maxRetries

end RetryPolicy
end SearchClient
