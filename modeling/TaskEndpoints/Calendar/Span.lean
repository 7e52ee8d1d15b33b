import TaskEndpoints.Calendar.Moment

/-!
# Spans of time

A span given in seconds as a double, rounded to whole microseconds.

## Implementation notes

Whole seconds are exact. The fraction is scaled to microseconds in double precision, and what is left
below a microsecond rounds to the nearest, a half to the even microsecond of the whole span.
-/

namespace TaskEndpoints

/-- Round a value that is not negative and below one to zero or one; a half makes `whole` even. -/
def roundHalf (whole : Int) (rest : Dyadic) : Int :=
  match rest with
  | .finite a i =>
    let doubled := 2 * a
    let one := Nat.pow 2 i
    if doubled.natAbs < one then 0
    else if doubled.natAbs = one then (if whole % 2 = 0 then 0 else if a < 0 then -1 else 1)
    else if a < 0 then -1 else 1
  | _ => 0

/-- The fraction of a double beyond its integer part; both are doubles themselves. -/
def fractionOf (x : Float) : Float :=
  x - Float.ofInt (((Dyadic.ofFloat x).truncate?).getD 0)

/-- The whole microseconds of a span of seconds. -/
def spanMicros (seconds : Float) : Except CalendarError Int :=
  match (Dyadic.ofFloat seconds).truncate?, Dyadic.ofFloat seconds with
  | none, .undefined => .error .spanUndefined
  | none, _ => .error .spanInfinite
  | some whole, _ =>
    let scaled := fractionOf seconds * 1000000
    let micros := whole * microsPerSecond + ((Dyadic.ofFloat scaled).truncate?).getD 0
    let total := micros + roundHalf micros (Dyadic.ofFloat (fractionOf scaled))
    let days := total / (secondsPerDay * microsPerSecond)
    if days < -0x80000000 || 0x80000000 ≤ days then .error .spanTooLarge
    else if days < -999999999 || 999999999 < days then .error (.spanTooLong days)
    else .ok total

end TaskEndpoints
