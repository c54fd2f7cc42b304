namespace Formula

/-- Leap years of the Gregorian calendar, carried on in both directions without end. -/
def isLeapYear (year : Int) : Bool :=
  year % 4 = 0 && (year % 100 ≠ 0 || year % 400 = 0)

/-- Zero for a number that is no month. -/
def daysInMonth (year : Int) (month : Nat) : Nat :=
  match month with
  | 1 | 3 | 5 | 7 | 8 | 10 | 12 => 31
  | 4 | 6 | 9 | 11 => 30
  | 2 => if isLeapYear year then 29 else 28
  | _ => 0

def firstYear : Int := -262143
def lastYear : Int := 262142

/-- A day of the calendar. -/
structure Date where
  year : Int
  month : Nat
  day : Nat
  first_le_year : firstYear ≤ year
  year_le_last : year ≤ lastYear
  one_le_day : 1 ≤ day
  day_le_month : day ≤ daysInMonth year month
deriving DecidableEq

namespace Date

def of? (year : Int) (month day : Nat) : Option Date :=
  if h : (firstYear ≤ year ∧ year ≤ lastYear) ∧ 1 ≤ day ∧ day ≤ daysInMonth year month then
    some ⟨year, month, day, h.1.1, h.1.2, h.2.1, h.2.2⟩
  else
    none

/-- The month, and the day in it, of a day counted from zero at the start of a given month. -/
def monthAndDay (year : Int) (dayOfYear : Nat) : List Nat → Nat × Nat
  | [] => (0, 0)
  | month :: later =>
    let length := daysInMonth year month
    if dayOfYear < length then (month, dayOfYear + 1)
    else monthAndDay year (dayOfYear - length) later

/-- The day that lies `n` days after 1 January of the year 1. Years are counted off in cycles of
400, 100, 4 and one. The last year of a cycle can be a day longer than its share, which is why two
of the quotients stop at 3. -/
def ofDayNumber? (n : Nat) : Option Date :=
  let cycles := n / 146097
  let n := n % 146097
  let centuries := min (n / 36524) 3
  let n := n - centuries * 36524
  let leaps := n / 1461
  let n := n % 1461
  let years := min (n / 365) 3
  let year : Int := 1 + 400 * cycles + 100 * centuries + 4 * leaps + years
  let (month, day) := monthAndDay year (n - years * 365) [1, 2, 3, 4, 5, 6, 7, 8, 9, 10, 11, 12]
  of? year month day

end Date

def secondsPerDay : Nat := 86400

/-- A whole second of a day, without a time zone. -/
structure DateTime where
  date : Date
  second : Nat
  second_lt_day : second < secondsPerDay
deriving DecidableEq

namespace DateTime

def of? (year : Int) (month day hour minute second : Nat) : Option DateTime := do
  let date ← Date.of? year month day
  if h : (hour < 24 ∧ minute < 60) ∧ second < 60 then
    return ⟨date, 3600 * hour + 60 * minute + second, by unfold secondsPerDay; omega⟩
  else
    none

def midnight (date : Date) : DateTime :=
  ⟨date, 0, by decide⟩

def hour (t : DateTime) : Nat := t.second / 3600
def minute (t : DateTime) : Nat := t.second / 60 % 60
def secondOfMinute (t : DateTime) : Nat := t.second % 60

/-- The time that lies `total` seconds after the start of the year 1. -/
def ofTotalSeconds? (total : Nat) : Option DateTime :=
  (Date.ofDayNumber? (total / secondsPerDay)).map
    (fun date => ⟨date, total % secondsPerDay, Nat.mod_lt _ (by decide)⟩)

/-- A number with zeros in front up to a width. -/
def padded (width n : Nat) : String :=
  let digits := toString n
  "".pushn '0' (width - digits.length) ++ digits

/-- Years have at least four digits, and a sign outside 0 to 9999. -/
def yearText (year : Int) : String :=
  let sign := if year < 0 then "-" else if year > 9999 then "+" else ""
  sign ++ padded 4 year.natAbs

/-- The text of a date and time, such as `2000-10-27T12:34:56`. -/
def toText (t : DateTime) : String :=
  s!"{yearText t.date.year}-{padded 2 t.date.month}-{padded 2 t.date.day}" ++
    s!"T{padded 2 t.hour}:{padded 2 t.minute}:{padded 2 t.secondOfMinute}"

end DateTime
end Formula
