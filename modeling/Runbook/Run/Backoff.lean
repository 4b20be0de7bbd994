import Runbook.Word
import Runbook.Duration

/-!
Waiting between retries: the wait before a retry is the base, doubled for every retry before it and
cut at the limit.
-/

namespace Runbook

structure Backoff where
  base : Duration
  limit : Duration
  deriving DecidableEq, Repr

namespace Backoff

def standard : Backoff := ⟨.ofMilliseconds 1000, .ofMilliseconds 10000⟩

/-- The greatest factor: a 32-bit word. -/
def greatestFactor : Nat := Word.greatest 32

/-- How often the base is taken before a retry: a power of two, as far as a word holds it. -/
def factor (retry : Nat) : Nat := if retry ≤ 32 then Nat.pow 2 (retry - 1) else greatestFactor

/-- The wait before a retry; retries are counted from one. -/
def delay (b : Backoff) (retry : Nat) : Duration := (b.base.times (factor retry)).atMost b.limit

end Backoff

end Runbook
