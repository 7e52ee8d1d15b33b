import TaskEndpoints.Calendar.Span
import TaskEndpoints.Duration
import TaskEndpoints.Journal
import TaskEndpoints.Settings.Key

/-!
# The expiration of shared tokens

Credentials that are handed on from the surroundings may come without an expiration. They are then said
to last as long as a setting says. A setting that is no duration, or that is not positive, counts as the
default.
-/

namespace TaskEndpoints

/-- The seconds that a setting gives shared tokens. -/
def sharedTokenSeconds {ε : Type} (raw : String) : Run ε Float := do
  let fallback := Float.ofNat defaultTokenSeconds
  let words := toString defaultTokenSeconds ++ " seconds: " ++ raw
  match readDuration raw with
  | .error _ =>
    Run.log .credentials .warning
      ("Could not parse SHARED_TOKEN_EXPIRATION value, defaulting to " ++ words)
    return fallback
  | .ok seconds =>
    if seconds ≤ 0 then
      Run.log .credentials .warning
        ("SHARED_TOKEN_EXPIRATION value must be positive, forcing to " ++ words)
      return fallback
    else return seconds

/-- The moment at which shared tokens expire. -/
def sharedTokenExpiration (raw : String) (now : Moment) : Run CalendarError Moment := do
  let seconds ← sharedTokenSeconds raw
  Run.ofExcept (spanMicros seconds >>= now.shift)

end TaskEndpoints
