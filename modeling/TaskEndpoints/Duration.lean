import TaskEndpoints.Number.Decimal
import TaskEndpoints.Text.Digit
import TaskEndpoints.Text.Quoted

/-!
# Durations

A duration is a plain count of seconds, or a run of parts such as `1h30m`, each a decimal number
followed by its unit. White space around the text and a run of signs before it are allowed; the
duration is negative when the first sign is `-`.

## Implementation notes

Parts are read from the left with the longest number first; a number is followed by its unit without a
gap, so the split into parts is forced. Decimal digits of every script count. The sum is taken from
left to right in double precision.
-/

namespace TaskEndpoints

/-- A unit of duration. -/
inductive TimeUnit where
  | millisecond
  | second
  | minute
  | hour
deriving DecidableEq, Repr

namespace TimeUnit

/-- The seconds in one unit. -/
def seconds : TimeUnit → Float
  | .millisecond => 0.001
  | .second => 1
  | .minute => 60
  | .hour => 3600

/-- The letters of the unit. -/
def letters : TimeUnit → List Char
  | .millisecond => ['m', 's']
  | .second => ['s']
  | .minute => ['m']
  | .hour => ['h']

/-- Read a unit at the start of a text; `ms` is preferred to `m`. -/
def read? : List Char → Option (TimeUnit × List Char)
  | 'm' :: 's' :: rest => some (.millisecond, rest)
  | 's' :: rest => some (.second, rest)
  | 'm' :: rest => some (.minute, rest)
  | 'h' :: rest => some (.hour, rest)
  | _ => none

theorem length_read? {cs rest : List Char} {u : TimeUnit} (h : read? cs = some (u, rest)) :
    rest.length < cs.length := by
  unfold read? at h
  split at h
  case h_5 => cases h
  all_goals
    obtain ⟨-, rfl⟩ := Prod.mk.inj (Option.some.inj h)
    simp only [List.length_cons]
    omega

end TimeUnit

/-- One part of a duration: the digits of a decimal number and a unit. -/
structure DurationPart where
  whole : List Char
  /-- The digits after the point; empty when there is no point. -/
  fraction : List Char
  unit : TimeUnit
deriving DecidableEq, Repr

/-- Why a text is no duration. -/
inductive DurationError where
  | empty
  /-- A run of digits, some of which take no part in decimal notation. -/
  | notDecimal (digits : String)
  /-- Neither a number nor a run of parts. -/
  | malformed (text : String)
deriving DecidableEq, Repr

/-- The wording of each cause. -/
def DurationError.message : DurationError → String
  | .empty => "empty duration"
  | .notDecimal digits => "could not convert string to float: " ++ Text.quoted digits
  | .malformed text => "invalid duration: " ++ text

namespace DurationPart

/-- The double nearest to the number of the part. -/
def number (p : DurationPart) : Float :=
  nearestDouble (Text.decimalNumber (p.whole ++ p.fraction)) (-(p.fraction.length : Int))

/-- The seconds of the part. -/
def seconds (p : DurationPart) : Float := p.number * p.unit.seconds

/-- Read the digits after a point; without a point, or without a digit after it, there are none. -/
def readFraction : List Char → List Char × List Char
  | '.' :: rest =>
    if (rest.takeWhile Text.isDecimal).isEmpty then ([], '.' :: rest)
    else (rest.takeWhile Text.isDecimal, rest.dropWhile Text.isDecimal)
  | cs => ([], cs)

/-- Read one part at the start of a text. -/
def read? (cs : List Char) : Option (DurationPart × List Char) :=
  let whole := cs.takeWhile Text.isDecimal
  let (fraction, afterNumber) := readFraction (cs.dropWhile Text.isDecimal)
  if whole.isEmpty then none
  else (TimeUnit.read? afterNumber).map fun (unit, rest) => (⟨whole, fraction, unit⟩, rest)

theorem length_dropWhile_le (test : Char → Bool) (cs : List Char) :
    (cs.dropWhile test).length ≤ cs.length :=
  (List.dropWhile_suffix test).length_le

theorem length_readFraction_le (cs : List Char) : (readFraction cs).2.length ≤ cs.length := by
  unfold readFraction
  split
  · split
    · simp
    · have := length_dropWhile_le Text.isDecimal ‹List Char›
      simp only [List.length_cons]
      omega
  · simp

theorem length_read? {cs rest : List Char} {p : DurationPart} (h : read? cs = some (p, rest)) :
    rest.length < cs.length := by
  unfold read? at h
  simp only at h
  split at h
  · simp at h
  · simp only [Option.map_eq_some_iff] at h
    obtain ⟨⟨u, r⟩, hu, hr⟩ := h
    have h1 := TimeUnit.length_read? hu
    have h2 := length_readFraction_le (cs.dropWhile Text.isDecimal)
    have h3 := length_dropWhile_le Text.isDecimal cs
    simp only [Prod.mk.injEq] at hr
    rw [← hr.2]
    omega

/-- Read parts until the text is used up. -/
def readAll? (cs : List Char) : Option (List DurationPart) :=
  if cs.isEmpty then some []
  else match h : read? cs with
    | none => none
    | some (p, rest) =>
      have := length_read? h
      (readAll? rest).map (p :: ·)
termination_by cs.length

/-- The sum of the parts from left to right. -/
def total (parts : List DurationPart) : Float :=
  parts.foldl (fun sum p => sum + p.seconds) 0

end DurationPart

/-- Decide whether a character is a sign. -/
def isSign (c : Char) : Bool := c == '+' || c == '-'

/-- Read the unsigned part of a duration; `text` is what an error quotes. -/
def readMagnitude (text : String) (digits : List Char) : Except DurationError Float :=
  if !digits.isEmpty && digits.all Text.isDigitLike then
    if digits.all Text.isDecimal then .ok (nearestDouble (Text.decimalNumber digits) 0)
    else .error (.notDecimal (String.ofList digits))
  else match DurationPart.readAll? digits with
    | none | some [] => .error (.malformed text)
    | some parts => .ok (DurationPart.total parts)

/-- Read a duration as a number of seconds. -/
def readDuration (text : String) : Except DurationError Float :=
  let trimmed := Text.trimBlank text.toList
  if trimmed.isEmpty then .error .empty
  else do
    let magnitude ← readMagnitude text (trimmed.dropWhile isSign)
    return if trimmed.head? = some '-' then -magnitude else magnitude

end TaskEndpoints
