import Formula.Proofs.CalendarDates

namespace Formula
namespace DateTime

/-- The start of the year 1. -/
def origin : DateTime :=
  .midnight .first

/-- The last second of the calendar. -/
def last : DateTime :=
  ⟨.last, 86399, by decide⟩

/-- The second behind a second. Behind the last second of a day, the next day starts. -/
def next? (t : DateTime) : Option DateTime :=
  if h : t.second + 1 < secondsPerDay then some ⟨t.date, t.second + 1, h⟩
  else t.date.next?.map midnight

/-- The seconds from the start of the year 1 to the last second of the calendar. -/
def spanToEnd : Nat := 8272402473599

theorem ofTotalSeconds?_eq_some_iff : ofTotalSeconds? n = some t ↔
    Date.ofDayNumber? (n / secondsPerDay) = some t.date ∧ t.second = n % secondsPerDay := by
  rw [ofTotalSeconds?, Option.map_eq_some_iff]
  constructor
  · rintro ⟨date, found, rfl⟩
    exact ⟨found, rfl⟩
  · rintro ⟨found, second⟩
    refine ⟨t.date, found, ?_⟩
    cases t
    cases second
    rfl

theorem ofTotalSeconds?_succ (n : Nat) :
    ofTotalSeconds? (n + 1) = (ofTotalSeconds? n).bind next? := by
  rw [ofTotalSeconds?, ofTotalSeconds?, Option.bind_map]
  by_cases within : n % secondsPerDay + 1 < secondsPerDay
  · obtain ⟨day, second⟩ : (n + 1) / secondsPerDay = n / secondsPerDay ∧
        (n + 1) % secondsPerDay = n % secondsPerDay + 1 := by
      unfold secondsPerDay at *
      omega
    rw [day, Option.map_eq_bind]
    congr 1
    funext date
    simp [next?, within, second]
  · obtain ⟨day, second⟩ : (n + 1) / secondsPerDay = n / secondsPerDay + 1 ∧
        (n + 1) % secondsPerDay = 0 := by
      unfold secondsPerDay at *
      omega
    rw [day, Date.ofDayNumber?_eq_after?, Date.ofDayNumber?_eq_after?, after?, Option.map_bind]
    congr 1
    funext date
    simp only [Function.comp_apply, next?, within, second, dite_false]
    rfl

/-- The time found for a number is the one that comes so many seconds behind the start of the
year 1. -/
theorem ofTotalSeconds?_eq_after? (n : Nat) : ofTotalSeconds? n = after? next? origin n :=
  eq_after? (by decide) ofTotalSeconds?_succ n

theorem ofTotalSeconds?_isSome : (ofTotalSeconds? n).isSome ↔ n ≤ spanToEnd := by
  have days : Date.last.number = 95745398 := by decide
  rw [ofTotalSeconds?, Option.isSome_map, Option.isSome_iff_ne_none, ne_eq,
    Date.ofDayNumber?_eq_none_iff, days]
  unfold secondsPerDay spanToEnd
  omega

theorem after?_spanToEnd : after? next? origin spanToEnd = some last := by
  rw [← ofTotalSeconds?_eq_after?, ofTotalSeconds?_eq_some_iff]
  exact ⟨Date.ofDayNumber?_eq_some_iff.mpr (by decide), by decide⟩

theorem last_next? : last.next? = none := by
  decide

end DateTime

/-- The seconds of a time span, however large they are. -/
def totalSeconds (h m s : Int) : Int :=
  3600 * h + 60 * m + s

/-- A number of seconds of 64 bits. -/
def IsSpan (n : Int) : Prop :=
  -2 ^ 63 ≤ n ∧ n < 2 ^ 63

instance : Decidable (IsSpan n) :=
  inferInstanceAs (Decidable (_ ∧ _))

/-- The hours, the minutes and both together are few enough seconds for 64 bits each. -/
structure PartsFit (h m : Int) : Prop where
  hours : IsSpan (3600 * h)
  minutes : IsSpan (60 * m)
  both : IsSpan (3600 * h + 60 * m)

variable {h m s : Int}

namespace Builtin

theorem inRange?_eq_some_iff : inRange? n = some k ↔ IsSpan n ∧ n = k := by
  rw [inRange?, Option.ite_none_right_eq_some, Option.some.injEq]
  rfl

theorem span?_eq_some_iff : span? h m s = some total ↔
    PartsFit h m ∧ IsSpan (totalSeconds h m s) ∧ totalSeconds h m s = total := by
  simp only [span?, Option.bind_eq_bind, Option.bind_eq_some_iff, inRange?_eq_some_iff]
  constructor
  · rintro ⟨_, ⟨hours, rfl⟩, _, ⟨minutes, rfl⟩, _, ⟨both, rfl⟩, all, rfl⟩
    rw [Int.mul_comm h, Int.mul_comm m] at *
    exact ⟨⟨hours, minutes, both⟩, all, rfl⟩
  · rintro ⟨⟨hours, minutes, both⟩, all, rfl⟩
    rw [Int.mul_comm h, Int.mul_comm m]
    exact ⟨_, ⟨hours, rfl⟩, _, ⟨minutes, rfl⟩, _, ⟨both, rfl⟩, all, rfl⟩

/-- What comes of the hours, minutes and seconds of a time span. -/
inductive TimeOutcome (h m s : Int) : Except EvalError Value → Prop where
  | time (t : DateTime) (fit : PartsFit h m) (zero_le : 0 ≤ totalSeconds h m s)
      (found : DateTime.ofTotalSeconds? (totalSeconds h m s).toNat = some t) :
      TimeOutcome h m s (.ok (.datetime t))
  | negative (fit : PartsFit h m) (lt : totalSeconds h m s < 0) :
      TimeOutcome h m s (.error (.invalidArgument timeserial.name .spanNegative))
  | outOfRange (far : PartsFit h m → 0 ≤ totalSeconds h m s →
        DateTime.spanToEnd < totalSeconds h m s) :
      TimeOutcome h m s (.error (.invalidArgument timeserial.name .spanOutOfRange))

theorem timeOf_outcome (h m s : Int) : TimeOutcome h m s (timeOf h m s) := by
  unfold timeOf
  split
  case h_1 left =>
    refine .outOfRange fun fit zero_le => ?_
    by_contra near
    -- The calendar ends long before 64 bits do, so the last sum fits as well.
    have all : IsSpan (totalSeconds h m s) := by
      unfold IsSpan DateTime.spanToEnd at *
      omega
    have summed := span?_eq_some_iff.mpr ⟨fit, all, rfl⟩
    rw [left] at summed
    cases summed
  case h_2 total summed =>
    obtain ⟨fit, -, rfl⟩ := span?_eq_some_iff.mp summed
    by_cases negative : totalSeconds h m s < 0
    · rw [if_pos negative]
      exact .negative fit negative
    · rw [if_neg negative]
      have zero_le : 0 ≤ totalSeconds h m s := Int.not_lt.mp negative
      cases found : DateTime.ofTotalSeconds? (totalSeconds h m s).toNat with
      | some t => exact .time t fit zero_le found
      | none =>
        refine .outOfRange fun _ _ => ?_
        by_contra near
        have := DateTime.ofTotalSeconds?_isSome.mpr (Int.toNat_le.mpr (Int.not_lt.mp near))
        simp [found] at this

theorem eval_timeserial {a b c : Value} {h m s : Int64} (ha : a.toInteger = .ok h)
    (hb : b.toInteger = .ok m) (hc : c.toInteger = .ok s) :
    eval timeserial [a, b, c] = timeOf h.toInt m.toInt s.toInt := by
  have run : eval timeserial [a, b, c] =
      (whole a >>= fun h => whole b >>= fun m => whole c >>= fun s => timeOf h m s) := rfl
  rw [run, whole, whole, whole, ha, hb, hc]
  rfl

end Builtin

variable {arguments : List Value} {h m s : Int64}

theorem timeserial_outcome (converted : arguments.map Value.toInteger = [.ok h, .ok m, .ok s]) :
    ∃ result, Builtin.TimeOutcome h.toInt m.toInt s.toInt result ∧
      Gives "timeserial" arguments result := by
  obtain ⟨a, b, c, rfl, ha, hb, hc⟩ := exists_of_map_triple converted
  exact ⟨_, Builtin.timeOf_outcome ..,
    (gives_iff .timeserial).mpr (Builtin.eval_timeserial ha hb hc)⟩

/-- The time that lies a number of seconds behind the start of the year 1. -/
structure IsTime (total : Int) (t : DateTime) : Prop where
  zero_le : 0 ≤ total
  second : after? DateTime.next? .origin total.toNat = some t
  day : after? Date.next? .first (total / 86400).toNat = some t.date
  shows : Shows t [t.date.year, t.date.month, t.date.day, total / 3600 % 24, total / 60 % 60,
    total % 60]

theorem isTime_of_ofTotalSeconds? {total : Int} (zero_le : 0 ≤ total)
    (found : DateTime.ofTotalSeconds? total.toNat = some t) : IsTime total t := by
  obtain ⟨day, second⟩ := DateTime.ofTotalSeconds?_eq_some_iff.mp found
  unfold secondsPerDay at day second
  have quotient : (total / 86400).toNat = total.toNat / 86400 := by omega
  have hour : (t.hour : Int) = total / 3600 % 24 := by
    rw [DateTime.hour]
    omega
  have minute : (t.minute : Int) = total / 60 % 60 := by
    rw [DateTime.minute]
    omega
  have secondOfMinute : (t.secondOfMinute : Int) = total % 60 := by
    rw [DateTime.secondOfMinute]
    omega
  have shows := shows_fields t
  rw [hour, minute, secondOfMinute] at shows
  rw [DateTime.ofTotalSeconds?_eq_after?] at found
  rw [Date.ofDayNumber?_eq_after?, ← quotient] at day
  exact ⟨zero_le, found, day, shows⟩

theorem IsTime.unique (h : IsTime total t) (h' : IsTime total t') : t = t' :=
  Option.some.inj (h.second.symm.trans h'.second)

/-- A time span leads to the time that lies exactly so many seconds behind the start of the year 1,
or it is rejected. Only a negative span is said to be negative. -/
theorem timeserial_gives :
    (∀ (arguments : List Value) (h m s : Int64),
      arguments.map Value.toInteger = [.ok h, .ok m, .ok s] →
      (∃ t, Gives "timeserial" arguments (.ok (.datetime t)) ∧
        IsTime (totalSeconds h.toInt m.toInt s.toInt) t) ∨
      ∃ fault, Gives "timeserial" arguments (.error (.invalidArgument "timeserial" fault)) ∧
        (fault.message = "time span is negative" → totalSeconds h.toInt m.toInt s.toInt < 0)) ∧
    ∀ (arguments arguments' : List Value) (h m s h' m' s' : Int64) (v v' : Value),
      arguments.map Value.toInteger = [.ok h, .ok m, .ok s] →
      arguments'.map Value.toInteger = [.ok h', .ok m', .ok s'] →
      totalSeconds h.toInt m.toInt s.toInt = totalSeconds h'.toInt m'.toInt s'.toInt →
      Gives "timeserial" arguments (.ok v) → Gives "timeserial" arguments' (.ok v') → v = v' := by
  have time {arguments : List Value} {h m s : Int64} {v : Value}
      (converted : arguments.map Value.toInteger = [.ok h, .ok m, .ok s])
      (given : Gives "timeserial" arguments (.ok v)) :
      ∃ t, v = .datetime t ∧ IsTime (totalSeconds h.toInt m.toInt s.toInt) t := by
    obtain ⟨result, outcome, given'⟩ := timeserial_outcome converted
    obtain rfl := given.unique given'
    cases outcome with
    | time t fit zero_le found => exact ⟨t, rfl, isTime_of_ofTotalSeconds? zero_le found⟩
  constructor
  · intro arguments h m s converted
    obtain ⟨result, outcome, given⟩ := timeserial_outcome converted
    cases outcome with
    | time t fit zero_le found =>
      exact .inl ⟨t, given, isTime_of_ofTotalSeconds? zero_le found⟩
    | negative _ lt => exact .inr ⟨_, given, fun _ => lt⟩
    | outOfRange => exact .inr ⟨_, given, fun message => absurd message (by decide)⟩
  · intro arguments arguments' h m s h' m' s' v v' converted converted' same given given'
    obtain ⟨t, rfl, isTime⟩ := time converted given
    obtain ⟨t', rfl, isTime'⟩ := time converted' given'
    rw [same] at isTime
    rw [isTime.unique isTime']

/-- A day and a second, with the minutes counted backwards and with minutes only. -/
theorem timeserial_gives_day :
    ∃ t, IsTime 86401 t ∧
      Gives "timeserial" [.integer 25, .integer (-60), .boolean true] (.ok (.datetime t)) ∧
      Gives "timeserial" [.integer 0, .integer 1440, .integer 1] (.ok (.datetime t)) := by
  obtain ⟨t, given, isTime⟩ | ⟨fault, rejected, -⟩ :=
    timeserial_gives.1 [.integer 25, .integer (-60), .boolean true] 25 (-60) 1 rfl
  · obtain ⟨t', given'⟩ : ∃ t', Gives "timeserial" [.integer 0, .integer 1440, .integer 1]
        (.ok (.datetime t')) := ⟨_, (gives_iff .timeserial).mpr rfl⟩
    have same := timeserial_gives.2 _ _ 25 (-60) 1 0 1440 1 _ _ rfl rfl (by decide) given given'
    rw [← same] at given'
    exact ⟨t, isTime, given, given'⟩
  · have result : Builtin.eval .timeserial [.integer 25, .integer (-60), .boolean true] = _ :=
      (gives_iff .timeserial).mp rejected
    cases result

/-- Where the parts of a span fit, its total alone decides whether there is a time for it. Where
they do not, there is none, although they may make up for each other. -/
theorem timeserial_ok_iff :
    (after? DateTime.next? .origin DateTime.spanToEnd = some .last ∧ DateTime.last.next? = none) ∧
    ∀ (arguments : List Value) (h m s : Int64),
      arguments.map Value.toInteger = [.ok h, .ok m, .ok s] →
      (PartsFit h.toInt m.toInt →
        ((∃ t, Gives "timeserial" arguments (.ok (.datetime t))) ↔
          0 ≤ totalSeconds h.toInt m.toInt s.toInt ∧
            totalSeconds h.toInt m.toInt s.toInt ≤ DateTime.spanToEnd)) ∧
      (¬ PartsFit h.toInt m.toInt →
        Gives "timeserial" arguments (.error (.invalidArgument "timeserial" .spanOutOfRange))) := by
  refine ⟨⟨DateTime.after?_spanToEnd, DateTime.last_next?⟩, ?_⟩
  intro arguments h m s converted
  obtain ⟨result, outcome, given⟩ := timeserial_outcome converted
  constructor
  · intro fit
    cases outcome with
    | time t _ zero_le found =>
      have near := DateTime.ofTotalSeconds?_isSome.mp (Option.isSome_of_eq_some found)
      exact iff_of_true ⟨t, given⟩ ⟨zero_le, Int.toNat_le.mp near⟩
    | negative _ lt =>
      refine iff_of_false (fun ⟨t, given'⟩ => ?_) (by omega)
      cases given.unique given'
    | outOfRange far =>
      refine iff_of_false (fun ⟨t, given'⟩ => ?_) (fun ⟨zero_le, le⟩ => ?_)
      · cases given.unique given'
      · exact absurd (far fit zero_le) (Int.not_lt.mpr le)
  · intro unfit
    cases outcome with
    | time _ fit => exact absurd fit unfit
    | negative fit => exact absurd fit unfit
    | outOfRange => exact given

/-- Hours and minutes may be of opposite signs, as long as each of them fits. -/
theorem timeserial_ok_opposite :
    (∃ t, Gives "timeserial" [.integer 2562047788015215, .integer (-153722867280912900),
      .integer 1] (.ok (.datetime t))) ∧
    Gives "timeserial" [.integer 2562047788015216, .integer (-153722867280912960), .integer 1]
      (.error (.invalidArgument "timeserial" .spanOutOfRange)) := by
  have fit : PartsFit 2562047788015215 (-153722867280912900) :=
    ⟨by decide, by decide, by decide⟩
  have unfit : ¬ PartsFit 2562047788015216 (-153722867280912960) :=
    fun fit => absurd fit.hours (by decide)
  constructor
  · exact ((timeserial_ok_iff.2 _ 2562047788015215 (-153722867280912900) 1 rfl).1 fit).mpr
      (by decide)
  · exact (timeserial_ok_iff.2 _ 2562047788015216 (-153722867280912960) 1 rfl).2 unfit

/-- Both spans are of 1792 seconds. -/
theorem timeserial_apart :
    totalSeconds 2562047788015216 0 (-9223372036854775808) = totalSeconds 0 0 1792 ∧
    0 ≤ totalSeconds 0 0 1792 ∧ totalSeconds 0 0 1792 ≤ DateTime.spanToEnd ∧
    (¬ ∃ t, Gives "timeserial" [.integer 2562047788015216, .integer 0,
      .integer (-9223372036854775808)] (.ok (.datetime t))) ∧
    ∃ t, Gives "timeserial" [.integer 0, .integer 0, .integer 1792] (.ok (.datetime t)) := by
  refine ⟨by decide, by decide, by decide, ?_, ?_⟩
  · rintro ⟨t, given⟩
    have rejected : Builtin.eval .timeserial [.integer 2562047788015216, .integer 0,
      .integer (-9223372036854775808)] = _ := (gives_iff .timeserial).mp given
    cases rejected
  · exact ⟨_, (gives_iff .timeserial).mpr rfl⟩

end Formula
