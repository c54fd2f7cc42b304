import Formula.Calendar
import Mathlib.Order.Monotone.Basic
import Mathlib.Tactic.Ring

namespace Formula

/-- What comes so many steps behind a start, where every step leads somewhere. -/
def after? (next? : α → Option α) (start : α) : Nat → Option α
  | 0 => some start
  | n + 1 => (after? next? start n).bind next?

theorem eq_after? {next? : α → Option α} {f : Nat → Option α} (zero : f 0 = some start)
    (succ : ∀ n, f (n + 1) = (f n).bind next?) (n : Nat) : f n = after? next? start n := by
  induction n with
  | zero => exact zero
  | succ n ih => rw [succ, ih, after?]

/-- The days of the months before a month of a year. -/
def daysBeforeMonth (year : Int) (month : Nat) : Nat :=
  ((List.range month).map (daysInMonth year)).sum

def daysInYear (year : Int) : Nat :=
  daysBeforeMonth year 13

/-- The days from the start of the year 1 up to a year. Those of earlier years count as negative. -/
def daysBeforeYear (year : Int) : Int :=
  365 * (year - 1) + (year - 1) / 4 - (year - 1) / 100 + (year - 1) / 400

/-- A day that a month of a year has. -/
structure OnCalendar (year : Int) (month day : Nat) : Prop where
  one_le_day : 1 ≤ day
  day_le_month : day ≤ daysInMonth year month

/-- The number of a day, counted from zero at the start of the year 1. -/
def dayNumber (year : Int) (month day : Nat) : Int :=
  daysBeforeYear year + daysBeforeMonth year month + day - 1

variable {year year' : Int} {month day month' day' : Nat}

theorem isLeapYear_iff : isLeapYear year = true ↔
    year % 4 = 0 ∧ (year % 100 ≠ 0 ∨ year % 400 = 0) := by
  simp [isLeapYear]

theorem daysInMonth_pos : 0 < daysInMonth year month ↔ 1 ≤ month ∧ month ≤ 12 := by
  fun_cases daysInMonth year month <;> grind

theorem OnCalendar.month_le (h : OnCalendar year month day) : month ≤ 12 :=
  (daysInMonth_pos.mp (Nat.lt_of_lt_of_le h.one_le_day h.day_le_month)).2

theorem OnCalendar.day_le (h : OnCalendar year month day) : day ≤ 31 := by
  have le : daysInMonth year month ≤ 31 := by fun_cases daysInMonth year month <;> grind
  exact h.day_le_month.trans le

theorem daysBeforeMonth_one : daysBeforeMonth year 1 = 0 := rfl

theorem daysBeforeMonth_succ (year : Int) (month : Nat) :
    daysBeforeMonth year (month + 1) = daysBeforeMonth year month + daysInMonth year month := by
  simp [daysBeforeMonth, List.range_succ]

theorem daysBeforeMonth_mono (year : Int) : Monotone (daysBeforeMonth year) := by
  apply monotone_nat_of_le_succ
  intro month
  rw [daysBeforeMonth_succ]
  exact Nat.le_add_right ..

theorem daysInYear_eq (year : Int) : daysInYear year = if isLeapYear year then 366 else 365 := by
  cases h : isLeapYear year <;> simp [daysInYear, daysBeforeMonth, List.range_succ, daysInMonth, h]

theorem daysBeforeYear_succ (year : Int) :
    daysBeforeYear (year + 1) = daysBeforeYear year + daysInYear year := by
  rw [daysInYear_eq]
  unfold daysBeforeYear
  split
  case isTrue leap =>
    rw [isLeapYear_iff] at leap
    omega
  case isFalse ordinary =>
    rw [isLeapYear_iff] at ordinary
    omega

theorem daysBeforeYear_le (h : year ≤ year') : daysBeforeYear year ≤ daysBeforeYear year' := by
  unfold daysBeforeYear
  omega

theorem le_of_daysBeforeYear_lt (h : daysBeforeYear year < daysBeforeYear (year' + 1)) :
    year ≤ year' := by
  by_contra later
  exact absurd (daysBeforeYear_le (Int.not_le.mp later)) (Int.not_le.mpr h)

theorem dayNumber_year (h : OnCalendar year month day) :
    daysBeforeYear year ≤ dayNumber year month day ∧
      dayNumber year month day < daysBeforeYear (year + 1) := by
  have later : daysBeforeMonth year (month + 1) ≤ daysInYear year :=
    daysBeforeMonth_mono year (Nat.succ_le_succ h.month_le)
  have := h.one_le_day
  have := h.day_le_month
  rw [daysBeforeMonth_succ] at later
  rw [daysBeforeYear_succ, dayNumber]
  omega

/-- No two days have the same number. -/
theorem dayNumber_inj (h : OnCalendar year month day) (h' : OnCalendar year' month' day')
    (same : dayNumber year month day = dayNumber year' month' day') :
    year = year' ∧ month = month' ∧ day = day' := by
  obtain ⟨start, finish⟩ := dayNumber_year h
  obtain ⟨start', finish'⟩ := dayNumber_year h'
  -- The number lies within both years, so neither is behind the other. The months are next.
  have before : year ≤ year' := le_of_daysBeforeYear_lt (by omega)
  have behind : year' ≤ year := le_of_daysBeforeYear_lt (by omega)
  obtain rfl : year = year' := Int.le_antisymm before behind
  have rest : daysBeforeMonth year month + day = daysBeforeMonth year month' + day' := by
    unfold dayNumber at same
    omega
  have := h.one_le_day
  have := h'.one_le_day
  have := h.day_le_month
  have := h'.day_le_month
  have before : month < month' + 1 := by
    apply (daysBeforeMonth_mono year).reflect_lt
    rw [daysBeforeMonth_succ]
    omega
  have behind : month' < month + 1 := by
    apply (daysBeforeMonth_mono year).reflect_lt
    rw [daysBeforeMonth_succ]
    omega
  obtain rfl : month = month' := by omega
  exact ⟨rfl, rfl, by omega⟩

/-- Among months one behind the other, the one that holds a day is found. -/
theorem monthAndDay_range (year : Int) (month count dayOfYear : Nat)
    (h : daysBeforeMonth year month + dayOfYear < daysBeforeMonth year (month + count)) :
    ∃ m d, Date.monthAndDay year dayOfYear (List.range' month count) = (m, d) ∧
      OnCalendar year m d ∧
      daysBeforeMonth year m + d = daysBeforeMonth year month + dayOfYear + 1 := by
  induction count generalizing month dayOfYear with
  | zero => exact absurd h (by simp)
  | succ count ih =>
    rw [List.range'_succ, Date.monthAndDay]
    by_cases here : dayOfYear < daysInMonth year month
    · exact ⟨month, dayOfYear + 1, if_pos here, ⟨by omega, here⟩, by omega⟩
    · have more : daysBeforeMonth year (month + 1) + (dayOfYear - daysInMonth year month) =
          daysBeforeMonth year month + dayOfYear := by
        rw [daysBeforeMonth_succ]
        omega
      rw [if_neg here]
      obtain ⟨m, d, found, on, number⟩ := ih (month + 1) (dayOfYear - daysInMonth year month)
        (by rw [more]; simpa [Nat.add_assoc, Nat.add_comm 1] using h)
      exact ⟨m, d, found, on, by omega⟩

section

/-! Years are counted off in cycles of 400, 100, 4 and one. -/

variable (cycles : Int) {centuries leaps years : Int} {dayOfYear : Nat}
  (hc : 0 ≤ centuries ∧ centuries ≤ 3) (hl : 0 ≤ leaps ∧ leaps ≤ 24)
  (hy : 0 ≤ years ∧ years ≤ 3)

include hc hl hy

theorem daysBeforeYear_cycles :
    daysBeforeYear (1 + 400 * cycles + 100 * centuries + 4 * leaps + years) =
      146097 * cycles + 36524 * centuries + 1461 * leaps + 365 * years := by
  have before : 1 + 400 * cycles + 100 * centuries + 4 * leaps + years - 1 =
      400 * cycles + 100 * centuries + 4 * leaps + years := by omega
  have fours : (400 * cycles + 100 * centuries + 4 * leaps + years) / 4 =
      100 * cycles + 25 * centuries + leaps := by omega
  have hundreds : (400 * cycles + 100 * centuries + 4 * leaps + years) / 100 =
      4 * cycles + centuries := by omega
  have fourHundreds : (400 * cycles + 100 * centuries + 4 * leaps + years) / 400 = cycles := by
    omega
  rw [daysBeforeYear, before, fours, hundreds, fourHundreds]
  ring

/-- A leap year closes four years. Where it also closes a century, it closes a cycle. -/
theorem isLeapYear_cycles :
    isLeapYear (1 + 400 * cycles + 100 * centuries + 4 * leaps + years) = true ↔
      years = 3 ∧ (leaps < 24 ∨ centuries = 3) := by
  rw [isLeapYear_iff]
  omega

theorem lt_daysInYear_cycles (h : dayOfYear < 365 ∨
    dayOfYear = 365 ∧ years = 3 ∧ (leaps < 24 ∨ centuries = 3)) :
    dayOfYear < daysInYear (1 + 400 * cycles + 100 * centuries + 4 * leaps + years) := by
  rw [daysInYear_eq]
  split
  case isTrue => omega
  case isFalse ordinary =>
    rw [isLeapYear_cycles cycles hc hl hy] at ordinary
    omega

end

namespace Date

/-- The first day of the year 1. -/
def first : Date := ⟨1, 1, 1, by decide, by decide, by decide, by decide⟩

/-- The last day of the calendar. -/
def last : Date := ⟨lastYear, 12, 31, by decide, by decide, by decide, by decide⟩

/-- The day behind a day: the next one of its month, or else the first of the next month, or else
the first of the next year. The last day of the calendar has none. -/
def next? (date : Date) : Option Date :=
  (of? date.year date.month (date.day + 1)).or <|
    (of? date.year (date.month + 1) 1).or (of? (date.year + 1) 1 1)

def number (date : Date) : Int :=
  dayNumber date.year date.month date.day

theorem onCalendar (date : Date) : OnCalendar date.year date.month date.day :=
  ⟨date.one_le_day, date.day_le_month⟩

section

variable {year : Int} {month day : Nat}

theorem of?_eq_some_iff : of? year month day = some date ↔
    date.year = year ∧ date.month = month ∧ date.day = day := by
  constructor
  · intro h
    unfold of? at h
    split at h
    · cases h
      exact ⟨rfl, rfl, rfl⟩
    · cases h
  · rintro ⟨rfl, rfl, rfl⟩
    exact dif_pos ⟨⟨date.first_le_year, date.year_le_last⟩, date.one_le_day, date.day_le_month⟩

theorem of?_eq_none_iff : of? year month day = none ↔
    ¬ ((firstYear ≤ year ∧ year ≤ lastYear) ∧ 1 ≤ day ∧ day ≤ daysInMonth year month) := by
  simp only [of?, dite_eq_right_iff, reduceCtorEq, imp_false]

end

/-- What is found for a number is the day with this number, unless its year is behind the last. -/
theorem ofDayNumber?_day (n : Nat) : ∃ year month day, 1 ≤ year ∧ OnCalendar year month day ∧
    dayNumber year month day = n ∧ ofDayNumber? n = of? year month day := by
  generalize result : ofDayNumber? n = found
  rw [ofDayNumber?] at result
  generalize cycled : n / 146097 = cycles, left : n % 146097 = n₁ at result
  generalize centuried : min (n₁ / 36524) 3 = centuries at result
  generalize left' : n₁ - centuries * 36524 = n₂ at result
  generalize leaped : n₂ / 1461 = leaps, left'' : n₂ % 1461 = n₃ at result
  generalize aged : min (n₃ / 365) 3 = years at result
  have hc : (0 : Int) ≤ centuries ∧ (centuries : Int) ≤ 3 := by omega
  have hl : (0 : Int) ≤ leaps ∧ (leaps : Int) ≤ 24 := by omega
  have hy : (0 : Int) ≤ years ∧ (years : Int) ≤ 3 := by omega
  have total : 146097 * cycles + 36524 * centuries + 1461 * leaps + n₃ = n := by omega
  have before := daysBeforeYear_cycles cycles hc hl hy
  have inside : n₃ - years * 365 < daysInYear _ := lt_daysInYear_cycles cycles hc hl hy (by omega)
  obtain ⟨month, day, here, on, counted⟩ := monthAndDay_range _ 1 12 (n₃ - years * 365)
    (by rw [daysBeforeMonth_one, Nat.zero_add]; exact inside)
  have months : List.range' 1 12 = [1, 2, 3, 4, 5, 6, 7, 8, 9, 10, 11, 12] := rfl
  rw [months] at here
  rw [here] at result
  refine ⟨_, month, day, by omega, on, ?_, result.symm⟩
  rw [daysBeforeMonth_one] at counted
  rw [dayNumber, before]
  omega

theorem daysBeforeYear_end : daysBeforeYear (lastYear + 1) = last.number + 1 := by
  decide

theorem number_le_last (date : Date) : date.number ≤ last.number := by
  have inside := (dayNumber_year date.onCalendar).2
  have later := daysBeforeYear_le (Int.add_le_add_right date.year_le_last 1)
  rw [daysBeforeYear_end] at later
  rw [number]
  omega

theorem ofDayNumber?_eq_some_iff : ofDayNumber? n = some date ↔ date.number = n := by
  obtain ⟨year, month, day, -, on, counted, found⟩ := ofDayNumber?_day n
  rw [found, of?_eq_some_iff]
  constructor
  · rintro ⟨rfl, rfl, rfl⟩
    exact counted
  · intro h
    exact dayNumber_inj date.onCalendar on (h.trans counted.symm)

theorem ofDayNumber?_eq_none_iff : ofDayNumber? n = none ↔ last.number < n := by
  obtain ⟨year, month, day, one_le, on, counted, found⟩ := ofDayNumber?_day n
  constructor
  · intro h
    rw [found, of?_eq_none_iff] at h
    have late : lastYear + 1 ≤ year := by
      by_contra early
      have first_le : firstYear ≤ 1 := by decide
      exact h ⟨⟨by omega, by omega⟩, on.one_le_day, on.day_le_month⟩
    have later := daysBeforeYear_le late
    have inside := (dayNumber_year on).1
    rw [daysBeforeYear_end] at later
    omega
  · intro h
    rw [Option.eq_none_iff_forall_ne_some]
    intro date hd
    have := date.number_le_last
    rw [ofDayNumber?_eq_some_iff] at hd
    omega

theorem day_eq_last {date : Date} (h : of? date.year date.month (date.day + 1) = none) :
    date.day = daysInMonth date.year date.month := by
  rw [of?_eq_none_iff] at h
  have := date.first_le_year
  have := date.year_le_last
  have := date.day_le_month
  omega

theorem month_eq_last {date : Date} (h : of? date.year (date.month + 1) 1 = none) :
    date.month = 12 := by
  rw [of?_eq_none_iff] at h
  have := date.first_le_year
  have := date.year_le_last
  have := date.onCalendar.month_le
  by_contra earlier
  have : 0 < daysInMonth date.year (date.month + 1) := daysInMonth_pos.mpr (by omega)
  omega

theorem year_eq_last {date : Date} (h : of? (date.year + 1) 1 1 = none) :
    date.year = lastYear := by
  rw [of?_eq_none_iff] at h
  have := date.first_le_year
  have := date.year_le_last
  have january : daysInMonth (date.year + 1) 1 = 31 := rfl
  omega

theorem number_of_next? (h : next? date = some date') : date'.number = date.number + 1 := by
  simp only [next?, Option.or_eq_some_iff, of?_eq_some_iff] at h
  unfold number dayNumber
  rcases h with ⟨hy, hm, hd⟩ | ⟨done, ⟨hy, hm, hd⟩ | ⟨done', hy, hm, hd⟩⟩
  · rw [hy, hm, hd]
    omega
  · have := day_eq_last done
    rw [hy, hm, hd, daysBeforeMonth_succ]
    omega
  · have closed := daysBeforeMonth_succ date.year 12
    have := day_eq_last done
    rw [month_eq_last done'] at this ⊢
    rw [hy, hm, hd, daysBeforeMonth_one, daysBeforeYear_succ, daysInYear, closed]
    omega

theorem eq_last_of_next? (h : next? date = none) : date.number = last.number := by
  simp only [next?, Option.or_eq_none_iff] at h
  obtain ⟨day, month, year⟩ := h
  have hday := day_eq_last day
  rw [month_eq_last month] at hday
  rw [number, hday, month_eq_last month, year_eq_last year]
  rfl

/-- The day found for a number is the one that comes so many days behind the start of the year 1. -/
theorem ofDayNumber?_eq_after? (n : Nat) : ofDayNumber? n = after? next? first n := by
  refine eq_after? (ofDayNumber?_eq_some_iff.mpr (by decide)) (fun n => ?_) n
  cases found : ofDayNumber? n with
  | none =>
    rw [ofDayNumber?_eq_none_iff] at found
    exact ofDayNumber?_eq_none_iff.mpr (by omega)
  | some date =>
    rw [ofDayNumber?_eq_some_iff] at found
    rw [Option.bind_some]
    cases behind : next? date with
    | none =>
      have := eq_last_of_next? behind
      exact ofDayNumber?_eq_none_iff.mpr (by omega)
    | some date' =>
      have := number_of_next? behind
      exact ofDayNumber?_eq_some_iff.mpr (by omega)

end Date
end Formula
