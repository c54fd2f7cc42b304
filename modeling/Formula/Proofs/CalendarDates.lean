import Formula.Proofs.DayNumbers
import Formula.Proofs.StandardCalls
import Mathlib.Tactic.IntervalCases

namespace Formula

/-- The days that the months of a year have in the Gregorian calendar, carried on in both
directions without end. -/
inductive Gregorian (y m d : Int) : Prop where
  | long (month : m ∈ [1, 3, 5, 7, 8, 10, 12]) (one_le : 1 ≤ d) (le : d ≤ 31)
  | short (month : m ∈ [4, 6, 9, 11]) (one_le : 1 ≤ d) (le : d ≤ 30)
  | february (month : m = 2) (one_le : 1 ≤ d) (le : d ≤ 28)
  | leapDay (month : m = 2) (day : d = 29) (leap : 4 ∣ y ∧ ¬ 100 ∣ y ∨ 400 ∣ y)

/-- A day of one of the years that there are dates in. -/
structure InCalendar (y m d : Int) : Prop where
  first_le : firstYear ≤ y
  le_last : y ≤ lastYear
  gregorian : Gregorian y m d

/-- What the functions of the language read from a date and time, from its year to its second. -/
def Shows (t : DateTime) (fields : List Int) : Prop :=
  List.Forall₂ (fun name field =>
      ∃ n : Int64, n.toInt = field ∧ Gives name [.datetime t] (.ok (.integer n)))
    ["year", "month", "day", "hour", "minute", "second"] fields

variable {y m d : Int}

theorem isLeapYear_of_dvd {year : Int} :
    isLeapYear year = true ↔ 4 ∣ year ∧ ¬ 100 ∣ year ∨ 400 ∣ year := by
  rw [isLeapYear_iff]
  omega

theorem daysInMonth_february (year : Int) :
    daysInMonth year 2 = if isLeapYear year then 29 else 28 :=
  rfl

theorem Gregorian.onCalendar (h : Gregorian y m d) :
    0 ≤ m ∧ 0 ≤ d ∧ OnCalendar y m.toNat d.toNat := by
  cases h with
  | long month one_le le =>
    simp only [List.mem_cons, List.not_mem_nil, or_false] at month
    have length : daysInMonth y m.toNat = 31 := by
      rcases month with rfl | rfl | rfl | rfl | rfl | rfl | rfl <;> rfl
    exact ⟨by omega, by omega, by omega, by omega⟩
  | short month one_le le =>
    simp only [List.mem_cons, List.not_mem_nil, or_false] at month
    have length : daysInMonth y m.toNat = 30 := by
      rcases month with rfl | rfl | rfl | rfl <;> rfl
    exact ⟨by omega, by omega, by omega, by omega⟩
  | february month one_le le =>
    subst month
    have length : 28 ≤ daysInMonth y 2 := by
      rw [daysInMonth_february]
      split <;> simp
    exact ⟨by omega, by omega, by omega, by change d.toNat ≤ daysInMonth y 2; omega⟩
  | leapDay month day leap =>
    subst month day
    have length : daysInMonth y 2 = 29 := by
      rw [daysInMonth_february, if_pos (isLeapYear_of_dvd.mpr leap)]
    exact ⟨by omega, by omega, by omega, length.ge⟩

theorem OnCalendar.gregorian {month day : Nat} (h : OnCalendar y month day) :
    Gregorian y month day := by
  obtain ⟨one_le, le⟩ := h
  obtain ⟨one_le_month, month_le⟩ := daysInMonth_pos.mp (one_le.trans le)
  have long (length : daysInMonth y month = 31) (among) : Gregorian y month day :=
    .long among (by omega) (by omega)
  have short (length : daysInMonth y month = 30) (among) : Gregorian y month day :=
    .short among (by omega) (by omega)
  interval_cases month
  case «2» =>
    rw [daysInMonth_february] at le
    by_cases early : day ≤ 28
    · exact .february rfl (by omega) (by omega)
    · have leap : isLeapYear y = true := by
        by_contra ordinary
        rw [if_neg ordinary] at le
        omega
      rw [if_pos leap] at le
      exact .leapDay rfl (by omega) (isLeapYear_of_dvd.mp leap)
  all_goals first | exact long rfl (by simp) | exact short rfl (by simp)

theorem Date.inCalendar (date : Date) : InCalendar date.year date.month date.day :=
  ⟨date.first_le_year, date.year_le_last, date.onCalendar.gregorian⟩

theorem InCalendar.exists_date (h : InCalendar y m d) :
    ∃ date : Date, date.year = y ∧ (date.month : Int) = m ∧ (date.day : Int) = d := by
  obtain ⟨first_le, le_last, gregorian⟩ := h
  obtain ⟨month, day, on⟩ := gregorian.onCalendar
  exact ⟨⟨y, m.toNat, d.toNat, first_le, le_last, on.one_le_day, on.day_le_month⟩, rfl,
    Int.toNat_of_nonneg month, Int.toNat_of_nonneg day⟩

namespace Builtin

/-- A whole number of 32 bits. -/
def IsPart (n : Int) : Prop :=
  -0x80000000 ≤ n ∧ n < 0x80000000

instance : Decidable (IsPart n) :=
  inferInstanceAs (Decidable (_ ∧ _))

theorem isPart_of_inCalendar (h : InCalendar y m d) : IsPart y ∧ IsPart m ∧ IsPart d := by
  obtain ⟨date, rfl, rfl, rfl⟩ := h.exists_date
  have := date.first_le_year
  have := date.year_le_last
  have := date.onCalendar.month_le
  have := date.onCalendar.day_le
  unfold IsPart firstYear lastYear at *
  omega

theorem part_eq {v : Value} {n : Int64} (h : v.toInteger = .ok n) :
    part v = if IsPart n.toInt then .ok n.toInt else
      .error (.invalidArgument dateserial.name (.outOfRange n.toInt)) := by
  rw [part, whole, h]
  rfl

theorem dateOf_date (date : Date) :
    dateOf date.year date.month date.day = .ok (.datetime (.midnight date)) := by
  have found : Date.of? date.year date.month date.day = some date :=
    Date.of?_eq_some_iff.mpr ⟨rfl, rfl, rfl⟩
  simp [dateOf, found]

theorem dateOf_not_inCalendar (h : ¬ InCalendar y m d) :
    dateOf y m d = .error (.invalidArgument dateserial.name (.noDate y m d)) := by
  have missing : (if 0 ≤ m ∧ 0 ≤ d then Date.of? y m.toNat d.toNat else none) = none := by
    rw [Option.eq_none_iff_forall_ne_some]
    intro date found
    obtain ⟨signs, found⟩ := Option.ite_none_right_eq_some.mp found
    obtain ⟨rfl, month, day⟩ := Date.of?_eq_some_iff.mp found
    have inside := date.inCalendar
    rw [month, day, Int.toNat_of_nonneg signs.1, Int.toNat_of_nonneg signs.2] at inside
    exact h inside
  rw [dateOf, missing]

theorem eval_dateserial (a b c : Value) : eval dateserial [a, b, c] =
    (part a >>= fun y => part b >>= fun m => part c >>= fun d => dateOf y m d) :=
  rfl

section

variable {a b c : Value} {y m d : Int64} (ha : a.toInteger = .ok y) (hb : b.toInteger = .ok m)
  (hc : c.toInteger = .ok d)

include ha hb hc

theorem eval_dateserial_date {date : Date} (year : date.year = y.toInt)
    (month : (date.month : Int) = m.toInt) (day : (date.day : Int) = d.toInt) :
    eval dateserial [a, b, c] = .ok (.datetime (.midnight date)) := by
  obtain ⟨hy, hm, hd⟩ := isPart_of_inCalendar date.inCalendar
  rw [year] at hy
  rw [month] at hm
  rw [day] at hd
  rw [eval_dateserial, part_eq ha, part_eq hb, part_eq hc, if_pos hy, if_pos hm, if_pos hd, ← year,
    ← month, ← day]
  exact dateOf_date date

/-- Each argument is checked by itself first, which fails for no day that there is. -/
theorem eval_dateserial_not_inCalendar (h : ¬ InCalendar y.toInt m.toInt d.toInt) :
    ∃ fault, eval dateserial [a, b, c] = .error (.invalidArgument dateserial.name fault) := by
  rw [eval_dateserial, part_eq ha, part_eq hb, part_eq hc]
  split
  case isFalse => exact ⟨_, rfl⟩
  split
  case isFalse => exact ⟨_, rfl⟩
  split
  case isFalse => exact ⟨_, rfl⟩
  exact ⟨_, dateOf_not_inCalendar h⟩

end

end Builtin

theorem DateTime.hour_lt (t : DateTime) : t.hour < 24 :=
  Nat.div_lt_of_lt_mul t.second_lt_day

theorem gives_field (f : Builtin) (read : DateTime → Int) {t : DateTime}
    (h : f.eval [.datetime t] = Builtin.field read (.datetime t)) (low : -2 ^ 63 ≤ read t)
    (high : read t < 2 ^ 63) :
    ∃ n : Int64, n.toInt = read t ∧ Gives f.name [.datetime t] (.ok (.integer n)) :=
  ⟨.ofInt (read t), Int64.toInt_ofInt_of_le low high, (gives_iff f).mpr h⟩

section

variable (t : DateTime)

theorem gives_year : ∃ n : Int64, n.toInt = t.date.year ∧
    Gives "year" [.datetime t] (.ok (.integer n)) :=
  gives_field .year (fun t => t.date.year) rfl
    (le_trans (by decide) t.date.first_le_year) (t.date.year_le_last.trans_lt (by decide))

theorem gives_month : ∃ n : Int64, n.toInt = t.date.month ∧
    Gives "month" [.datetime t] (.ok (.integer n)) := by
  have := t.date.onCalendar.month_le
  exact gives_field .month (fun t => t.date.month) rfl (by omega) (by omega)

theorem gives_day : ∃ n : Int64, n.toInt = t.date.day ∧
    Gives "day" [.datetime t] (.ok (.integer n)) := by
  have := t.date.onCalendar.day_le
  exact gives_field .day (fun t => t.date.day) rfl (by omega) (by omega)

theorem shows_fields : Shows t [t.date.year, t.date.month, t.date.day, t.hour, t.minute,
    t.secondOfMinute] := by
  have hour : t.hour < 24 := t.hour_lt
  have minute : t.minute < 60 := Nat.mod_lt _ (by decide)
  have second : t.secondOfMinute < 60 := Nat.mod_lt _ (by decide)
  exact .cons (gives_year t) <| .cons (gives_month t) <| .cons (gives_day t) <|
    .cons (gives_field .hour (fun t => t.hour) rfl (by omega) (by omega)) <|
    .cons (gives_field .minute (fun t => t.minute) rfl (by omega) (by omega)) <|
    .cons (gives_field .second (fun t => t.secondOfMinute) rfl (by omega) (by omega)) .nil

end

theorem shows_midnight (date : Date) :
    Shows (.midnight date) [date.year, date.month, date.day, 0, 0, 0] := by
  have hour : (DateTime.midnight date).hour = 0 := by simp [DateTime.hour, DateTime.midnight]
  have minute : (DateTime.midnight date).minute = 0 := by simp [DateTime.minute, DateTime.midnight]
  have second : (DateTime.midnight date).secondOfMinute = 0 := by
    simp [DateTime.secondOfMinute, DateTime.midnight]
  have fields := shows_fields (.midnight date)
  rw [hour, minute, second] at fields
  exact fields

/-- A date is made of three whole numbers exactly where they name a day that there is. Every
midnight is made in this way from what is read from it. -/
theorem dateserial_gives :
    (∀ (arguments : List Value) (y m d : Int64),
      arguments.map Value.toInteger = [.ok y, .ok m, .ok d] →
      InCalendar y.toInt m.toInt d.toInt ∧
          (∃ t, Gives "dateserial" arguments (.ok (.datetime t)) ∧
            Shows t [y.toInt, m.toInt, d.toInt, 0, 0, 0]) ∨
        ¬ InCalendar y.toInt m.toInt d.toInt ∧
          ∃ fault, Gives "dateserial" arguments (.error (.invalidArgument "dateserial" fault))) ∧
    ∀ t : DateTime, ∃ y m d : Int64,
      Gives "year" [.datetime t] (.ok (.integer y)) ∧
      Gives "month" [.datetime t] (.ok (.integer m)) ∧
      Gives "day" [.datetime t] (.ok (.integer d)) ∧
      Gives "dateserial" [.integer y, .integer m, .integer d]
        (.ok (.datetime (.midnight t.date))) := by
  constructor
  · intro arguments y m d converted
    obtain ⟨a, b, c, rfl, ha, hb, hc⟩ := exists_of_map_triple converted
    by_cases inside : InCalendar y.toInt m.toInt d.toInt
    · obtain ⟨date, year, month, day⟩ := inside.exists_date
      refine .inl ⟨inside, .midnight date, (gives_iff .dateserial).mpr ?_, ?_⟩
      · exact Builtin.eval_dateserial_date ha hb hc year month day
      · rw [← year, ← month, ← day]
        exact shows_midnight date
    · obtain ⟨fault, result⟩ := Builtin.eval_dateserial_not_inCalendar ha hb hc inside
      exact .inr ⟨inside, fault, (gives_iff .dateserial).mpr result⟩
  · intro t
    obtain ⟨y, year, hy⟩ := gives_year t
    obtain ⟨m, month, hm⟩ := gives_month t
    obtain ⟨d, day, hd⟩ := gives_day t
    refine ⟨y, m, d, hy, hm, hd, (gives_iff .dateserial).mpr ?_⟩
    exact Builtin.eval_dateserial_date rfl rfl rfl year.symm month.symm day.symm

/-- The year 2000 closes a cycle of 400 years and has its leap day. -/
theorem dateserial_gives_leapDay :
    ∃ t, Gives "dateserial" [.integer 2000, .integer 2, .integer 29] (.ok (.datetime t)) ∧
      Shows t [2000, 2, 29, 0, 0, 0] := by
  have inside : InCalendar 2000 2 29 := ⟨by decide, by decide, .leapDay rfl rfl (by decide)⟩
  obtain ⟨-, found⟩ | ⟨outside, -⟩ :=
    dateserial_gives.1 [.integer 2000, .integer 2, .integer 29] 2000 2 29 rfl
  · exact found
  · exact absurd inside outside

end Formula
