import DesignRules.Numeral

/-! # Dates and times

Days of the calendar, alone or with a time of day. A time may say how far it is ahead of
universal time; two times that do are the same if they name the same instant.
-/

namespace DesignRules

structure Date where
  year : Nat
  month : Nat
  day : Nat
  deriving DecidableEq, Repr

namespace Date

def isLeapYear (year : Nat) : Bool := year % 4 == 0 && (year % 100 != 0 || year % 400 == 0)

/-- The lengths of the months from January on. -/
def monthLengths (year : Nat) : List Nat :=
  [31, if isLeapYear year then 29 else 28, 31, 30, 31, 30, 31, 31, 30, 31, 30, 31]

def monthLength (year month : Nat) : Nat := (monthLengths year)[month - 1]?.getD 0

/-- The date is in the calendar, whose years have at most four digits. -/
def isValid (d : Date) : Bool :=
  1 ≤ d.year && d.year ≤ 9999 && 1 ≤ d.month && d.month ≤ 12 && 1 ≤ d.day &&
    d.day ≤ monthLength d.year d.month

/-- The days of all years before one. -/
def daysBefore (year : Nat) : Nat :=
  let y := year - 1
  365 * y + y / 4 - y / 100 + y / 400

/-- The number of a day, counted from the first day of the first year. -/
def ordinal (d : Date) : Nat :=
  ((monthLengths d.year).take (d.month - 1)).foldl (· + ·) (daysBefore d.year) + d.day

end Date

/-- A time of day. -/
structure Clock where
  hour : Nat
  minute : Nat
  second : Nat
  microsecond : Nat
  /-- The minutes by which the time is ahead of universal time, if that is known. -/
  offset : Option Int
  deriving DecidableEq, Repr

namespace Clock

def minutesOfDay : Int := 1440

def isValid (c : Clock) : Bool :=
  c.hour < 24 && c.minute < 60 && c.second < 60 &&
    c.offset.all fun m => decide (-minutesOfDay < m) && decide (m < minutesOfDay)

end Clock

/-- A day, or a time on a day. -/
structure Moment where
  date : Date
  clock : Option Clock
  deriving DecidableEq, Repr

namespace Moment

def isValid (m : Moment) : Bool := m.date.isValid && m.clock.all Clock.isValid

/-- The minute of universal time, with the seconds after it, of a time with a known
offset. -/
def instant? (m : Moment) : Option (Int × Nat × Nat) :=
  m.clock.bind fun c => c.offset.map fun offset =>
    ((m.date.ordinal : Int) * Clock.minutesOfDay + (60 * c.hour + c.minute : Nat) - offset,
      c.second, c.microsecond)

def same (a b : Moment) : Bool :=
  match a.instant?, b.instant? with
  | some x, some y => x == y
  | _, _ => a == b

/-! ## Display -/

def padded (width n : Nat) : String :=
  String.ofList (Numeral.padZeros width (Numeral.natural 10 n))

def dateText (d : Date) : String :=
  padded 4 d.year ++ "-" ++ padded 2 d.month ++ "-" ++ padded 2 d.day

def offsetText (offset : Int) : String :=
  (if offset < 0 then "-" else "+") ++
    padded 2 (offset.natAbs / 60) ++ ":" ++ padded 2 (offset.natAbs % 60)

/-- The time of day alone. -/
def timeText (c : Clock) : String :=
  padded 2 c.hour ++ ":" ++ padded 2 c.minute ++ ":" ++ padded 2 c.second ++
    (if c.microsecond = 0 then "" else "." ++ padded 6 c.microsecond)

def clockText (c : Clock) : String := timeText c ++ (c.offset.map offsetText).getD ""

/-- A moment as a text of its own. -/
def text (m : Moment) : String :=
  match m.clock with
  | none => dateText m.date
  | some c => dateText m.date ++ " " ++ clockText c

/-- The offset of universal time has a letter of its own. -/
def zoneText (offset : Int) : String := if offset = 0 then "Z" else offsetText offset

/-- A moment as a text in an answer. -/
def answerText (m : Moment) : String :=
  match m.clock with
  | none => dateText m.date
  | some c => dateText m.date ++ "T" ++ timeText c ++ (c.offset.map zoneText).getD ""

/-- The parts of a length of time, of which the days alone may be negative. -/
def lengthParts (minutes : Int) : List String :=
  let days := minutes.fdiv Clock.minutesOfDay
  let seconds := 60 * minutes.fmod Clock.minutesOfDay
  (if days = 0 then [] else ["days=" ++ Numeral.decimal days]) ++
    (if seconds = 0 then [] else ["seconds=" ++ Numeral.decimal seconds])

def zoneDisplay (offset : Int) : String :=
  if offset = 0 then "datetime.timezone.utc"
  else "datetime.timezone(datetime.timedelta(" ++ ", ".intercalate (lengthParts offset) ++ "))"

/-- The parts of a time of day; seconds are left out where they are zero. -/
def clockParts (c : Clock) : List Nat :=
  if c.microsecond ≠ 0 then [c.hour, c.minute, c.second, c.microsecond]
  else if c.second ≠ 0 then [c.hour, c.minute, c.second]
  else [c.hour, c.minute]

def numbersDisplay (ns : List Nat) : String := ", ".intercalate (ns.map Numeral.ofNat)

/-- The display of a moment inside a list or an object. -/
def inner (m : Moment) : String :=
  let day := [m.date.year, m.date.month, m.date.day]
  match m.clock with
  | none => "datetime.date(" ++ numbersDisplay day ++ ")"
  | some c =>
    "datetime.datetime(" ++ numbersDisplay (day ++ clockParts c) ++
      ((c.offset.map fun offset => ", tzinfo=" ++ zoneDisplay offset).getD "") ++ ")"

end Moment

end DesignRules
