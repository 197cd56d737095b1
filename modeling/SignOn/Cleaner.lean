import SignOn.Breakdown
import SignOn.Log
import SignOn.Time.Span

/-
This file cleans up a store again and again.
-/

namespace SignOn.Cleaner

/-- A cleaner starts a round at once and then one after each interval, and it needs an interval. -/
def rounds (interval : Span) (elapsed : Span) : Except Breakdown Nat :=
  if interval.nanos = 0 then .error .emptyInterval
  else .ok (elapsed.nanos / interval.nanos + 1)

/-- The start of a cleaner is logged even when it breaks down. -/
def start (interval : Span) : Logged Unit :=
  Logged.write .info s!"Starting proxy-granting ticket cleaner every {interval.describe}"

end SignOn.Cleaner
