import NodeTopology.Text.Digits
/-!
Dates, times of day and offsets from universal time, as configuration files write them, with their
plain and their quoted text.
-/

namespace NodeTopology

open Text

structure Date where
  year : Nat
  month : Nat
  day : Nat
deriving Repr, DecidableEq

/-- A time of day to the microsecond. -/
structure TimeOfDay where
  hour : Nat
  minute : Nat
  second : Nat
  microsecond : Nat
deriving Repr, DecidableEq

def isLeapYear (year : Nat) : Bool := year % 4 = 0 && (year % 100 != 0 || year % 400 = 0)

def daysInMonth (year month : Nat) : Nat :=
  if month = 2 then (if isLeapYear year then 29 else 28)
  else if month = 4 ∨ month = 6 ∨ month = 9 ∨ month = 11 then 30
  else 31

/-- Whether the calendar has this day; it begins with the year 1. -/
def Date.isValid (d : Date) : Bool :=
  1 ≤ d.year && 1 ≤ d.month && d.month ≤ 12 && 1 ≤ d.day && d.day ≤ daysInMonth d.year d.month

def Date.text (d : Date) : String :=
  padded 4 d.year ++ "-" ++ padded 2 d.month ++ "-" ++ padded 2 d.day

/-- Microseconds are shown, with six digits, when there are any. -/
def TimeOfDay.text (t : TimeOfDay) : String :=
  padded 2 t.hour ++ ":" ++ padded 2 t.minute ++ ":" ++ padded 2 t.second
    ++ (if t.microsecond = 0 then "" else "." ++ padded 6 t.microsecond)

def offsetText (minutes : Int) : String :=
  (if minutes < 0 then "-" else "+")
    ++ padded 2 (minutes.natAbs / 60) ++ ":" ++ padded 2 (minutes.natAbs % 60)

def dateTimeText (d : Date) (t : TimeOfDay) (offset : Option Int) : String :=
  d.text ++ " " ++ t.text ++ (offset.map offsetText).getD ""

/-- Numbers as they stand between the brackets of a quoted form. -/
def commaSeparated (parts : List String) : String := ", ".intercalate parts

def Date.parts (d : Date) : List String := [toString d.year, toString d.month, toString d.day]

/-- Seconds and microseconds are left out when they and all that follows are zero. -/
def TimeOfDay.parts (t : TimeOfDay) : List String :=
  [toString t.hour, toString t.minute]
    ++ (if t.second = 0 ∧ t.microsecond = 0 then [] else [toString t.second])
    ++ (if t.microsecond = 0 then [] else [toString t.microsecond])

def Date.quoted (d : Date) : String := "datetime.date(" ++ commaSeparated d.parts ++ ")"

def TimeOfDay.quoted (t : TimeOfDay) : String := "datetime.time(" ++ commaSeparated t.parts ++ ")"

/-- The quoted form of an offset in minutes, a negative one as a day back and seconds forward. -/
def offsetQuoted (minutes : Int) : String :=
  if minutes = 0 then "datetime.timezone.utc"
  else
    let days := if minutes < 0 then "days=-1, " else ""
    "datetime.timezone(datetime.timedelta(" ++ days ++ "seconds="
      ++ toString (minutes % 1440 * 60) ++ "))"

def dateTimeQuoted (d : Date) (t : TimeOfDay) (offset : Option Int) : String :=
  let zone := (offset.map fun minutes => ["tzinfo=" ++ offsetQuoted minutes]).getD []
  "datetime.datetime(" ++ commaSeparated (d.parts ++ t.parts ++ zone) ++ ")"

end NodeTopology
