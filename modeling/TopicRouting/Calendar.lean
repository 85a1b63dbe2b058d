import TopicRouting.Text

/-! Dates and moments of the calendar that has a leap year every four years, but not every
hundred, and yet every four hundred. A moment may say how far its clock is from the common
one. -/
namespace TopicRouting

inductive CalendarError where
  | year (year : Nat)
  | month
  | day
  | hour
  | minute
  | second
  | zone (minutes : Int)
  deriving DecidableEq, Repr

namespace Calendar

def isLeap (year : Nat) : Bool := year % 4 = 0 && (year % 100 ≠ 0 || year % 400 = 0)

def daysInMonth (year month : Nat) : Nat :=
  if month = 2 then (if isLeap year then 29 else 28)
  else if month = 4 || month = 6 || month = 9 || month = 11 then 30
  else 31

def padded (width n : Nat) : Text :=
  let digits := Text.ofNat n
  List.replicate (width - digits.length) '0' ++ digits

def spanLiteral (seconds : Int) : Text :=
  let days := Int.fdiv seconds 86400
  let rest := Int.fmod seconds 86400
  let parts : List Text :=
    (if days = 0 then [] else ["days=" ++ Text.ofInt days]) ++
    (if rest = 0 then [] else ["seconds=" ++ Text.ofInt rest])
  "datetime.timedelta(" ++ Text.join ", " (if parts.isEmpty then ["0"] else parts) ++ ")"

end Calendar

def CalendarError.message : CalendarError → Text
  | .year n => "year " ++ Text.ofNat n ++ " is out of range"
  | .month => "month must be in 1..12"
  | .day => "day is out of range for month"
  | .hour => "hour must be in 0..23"
  | .minute => "minute must be in 0..59"
  | .second => "second must be in 0..59"
  | .zone minutes =>
      "offset must be a timedelta strictly between -timedelta(hours=24) and " ++
        "timedelta(hours=24), not " ++ Calendar.spanLiteral (60 * minutes) ++ "."

structure Date where
  year : Nat
  month : Nat
  day : Nat
  deriving DecidableEq, Repr

namespace Date

def ofNumbers (year month day : Nat) : Except CalendarError Date :=
  if year = 0 ∨ 9999 < year then .error (.year year)
  else if month = 0 ∨ 12 < month then .error .month
  else if day = 0 ∨ Calendar.daysInMonth year month < day then .error .day
  else .ok ⟨year, month, day⟩

def daysBeforeMonth (year month : Nat) : Nat :=
  (List.range (month - 1)).foldr (fun m days => Calendar.daysInMonth year (m + 1) + days) 0

def ordinal (d : Date) : Nat :=
  let past := d.year - 1
  365 * past + past / 4 - past / 100 + past / 400 + daysBeforeMonth d.year d.month + d.day

def text (d : Date) : Text :=
  Calendar.padded 4 d.year ++ "-" ++ Calendar.padded 2 d.month ++ "-" ++ Calendar.padded 2 d.day

def numbers (d : Date) : List Text := [d.year, d.month, d.day].map Text.ofNat

def literal (d : Date) : Text := "datetime.date(" ++ Text.join ", " d.numbers ++ ")"

end Date

structure Moment where
  date : Date
  hour : Nat := 0
  minute : Nat := 0
  second : Nat := 0
  microsecond : Nat := 0
  zone : Option Int := none
  deriving DecidableEq, Repr

namespace Moment

def check (m : Moment) : Except CalendarError Moment := do
  let date ← Date.ofNumbers m.date.year m.date.month m.date.day
  if 23 < m.hour then .error .hour
  else if 59 < m.minute then .error .minute
  else if 59 < m.second then .error .second
  else .ok { m with date := date }

def checkZone (minutes : Int) : Except CalendarError Int :=
  if minutes.natAbs < 24 * 60 then .ok minutes else .error (.zone minutes)

def zoneText (minutes : Int) : Text :=
  (if minutes < 0 then '-' else '+') :: Calendar.padded 2 (minutes.natAbs / 60) ++ ":" ++
    Calendar.padded 2 (minutes.natAbs % 60)

def text (m : Moment) : Text :=
  m.date.text ++ " " ++ Calendar.padded 2 m.hour ++ ":" ++ Calendar.padded 2 m.minute ++ ":" ++
    Calendar.padded 2 m.second ++
    (if m.microsecond = 0 then [] else '.' :: Calendar.padded 6 m.microsecond) ++
    ((m.zone.map zoneText).getD [])

def zoneLiteral (minutes : Int) : Text :=
  if minutes = 0 then "tzinfo=datetime.timezone.utc"
  else "tzinfo=datetime.timezone(" ++ Calendar.spanLiteral (60 * minutes) ++ ")"

def literal (m : Moment) : Text :=
  let small : List Nat :=
    if m.microsecond ≠ 0 then [m.second, m.microsecond]
    else if m.second ≠ 0 then [m.second]
    else []
  "datetime.datetime(" ++
    Text.join ", " (m.date.numbers ++ ([m.hour, m.minute] ++ small).map Text.ofNat ++
      (m.zone.map zoneLiteral).toList) ++ ")"

def clock (m : Moment) : Int :=
  (((Int.ofNat m.date.ordinal * 24 + m.hour) * 60 + m.minute) * 60 + m.second) * 1000000 +
    m.microsecond

def instant (m : Moment) : Bool × Int :=
  match m.zone with
  | none => (false, m.clock)
  | some minutes => (true, m.clock - minutes * 60000000)

end Moment
end TopicRouting
