import TaskEndpoints.Text.Quoted
import TaskEndpoints.Value.Basic

/-!
# Values in messages

Messages show values in two forms: the displayed form, in which text is quoted, and the plain form, in
which a text that stands alone is shown as it is.
-/

namespace TaskEndpoints

/-- The words for doubles without digits in messages. -/
def messageDoubleWords : DoubleWords := ⟨"inf", "nan"⟩

/-- The displayed span of an offset from universal time. -/
def displayOffset (offset : Int) : String :=
  if offset = 0 then "datetime.timezone.utc"
  else
    let days := offset / secondsPerDay
    let seconds := offset % secondsPerDay
    let dayField := if days = 0 then [] else ["days=" ++ intText days]
    let secondField := if seconds = 0 then [] else ["seconds=" ++ intText seconds]
    "datetime.timezone(datetime.timedelta(" ++ ", ".intercalate (dayField ++ secondField) ++ "))"

/-- The displayed form of a moment; trailing zero seconds and microseconds are left out. -/
def Moment.display (m : Moment) : String :=
  let small : List Int :=
    if m.micro ≠ 0 then [m.second, m.micro] else if m.second ≠ 0 then [m.second] else []
  let fields : List Int := [m.date.year, m.date.month, m.date.day, m.hour, m.minute] ++ small
  let zone := match m.offset with
    | none => []
    | some offset => ["tzinfo=" ++ displayOffset offset]
  "datetime.datetime(" ++ ", ".intercalate (fields.map intText ++ zone) ++ ")"

/-- The sign, hours and minutes of an offset, with seconds where there are any. -/
def plainOffset (offset : Int) : List Char :=
  let n := offset.natAbs
  let small := if n % 60 = 0 then [] else ':' :: twoDigits (n % 60)
  (if offset < 0 then '-' else '+') :: twoDigits (n / 3600) ++ ':' :: twoDigits (n / 60 % 60) ++ small

/-- The plain form of a moment. -/
def Moment.plain (m : Moment) : String :=
  let small := if m.micro = 0 then [] else '.' :: padZeros 6 (decimalDigits m.micro)
  let zone := match m.offset with
    | none => []
    | some offset => plainOffset offset
  String.ofList <|
    padZeros 4 (decimalDigits m.date.year.natAbs) ++ '-' :: twoDigits m.date.month
      ++ '-' :: twoDigits m.date.day ++ ' ' :: twoDigits m.hour ++ ':' :: twoDigits m.minute
      ++ ':' :: twoDigits m.second ++ small ++ zone

namespace Value

mutual

/-- The displayed form of a value. -/
def display : Value → String
  | .null => "None"
  | .bool b => if b then "True" else "False"
  | .int n => intText n
  | .float x => doubleText messageDoubleWords x
  | .text s => Text.quoted s
  | .surrogateText points => Text.quotedPoints points
  | .octets bytes => Text.quotedOctets bytes
  | .list items => "[" ++ ", ".intercalate (displayAll items) ++ "]"
  | .map entries => "\x7b" ++ ", ".intercalate (displayEntries entries) ++ "\x7d"
  | .moment m => m.display

/-- The displayed forms of a sequence. -/
def displayAll : List Value → List String
  | [] => []
  | v :: rest => display v :: displayAll rest

/-- The displayed forms of entries. -/
def displayEntries : List (Value × Value) → List String
  | [] => []
  | (k, v) :: rest => (display k ++ ": " ++ display v) :: displayEntries rest

end

/-- The plain form of a value; an unpaired surrogate shows as the replacement character. -/
def plain : Value → String
  | .text s => s
  | .surrogateText points => String.ofList (points.map fun p =>
      if p.isValidChar then Char.ofNat p else Char.ofNat 0xfffd)
  | .moment m => m.plain
  | v => v.display

end Value

end TaskEndpoints
