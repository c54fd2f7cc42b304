import Formula.Proofs.CalendarDates
import Formula.Proofs.NumeralValues

namespace Formula

variable {ds ds' signs signs' : List Char}

/-- Where digits have something else in front of them, both are known by the text. -/
theorem append_digits_inj (apart : ∀ c ∈ signs, c.isDigit = false)
    (apart' : ∀ c ∈ signs', c.isDigit = false) (digits : Digits ds) (digits' : Digits ds')
    (same : signs ++ ds = signs' ++ ds') : signs = signs' ∧ ds = ds' := by
  have run {signs ds : List Char} (apart : ∀ c ∈ signs, c.isDigit = false) (digits : Digits ds) :
      (signs ++ ds).takeWhile (fun c => !c.isDigit) = signs :=
    Reading.takeWhile_run (by simpa using apart) fun c hc => by
      simp [digits.2 c (List.mem_of_mem_head? hc)]
  have front : signs = signs' := by rw [← run apart digits, same, run apart' digits']
  subst front
  exact ⟨rfl, List.append_cancel_left same⟩

attribute [ext] Date DateTime

namespace DateTime

variable {t u : DateTime} {m n width : Nat} {xs ys : List Char} {year year' : Int}

theorem toList_pushn (n : Nat) : ("".pushn '0' n).toList = List.replicate n '0' := by
  rw [String.pushn_eq_repeat_push]
  induction n with
  | zero => rfl
  | succ n ih => rw [Nat.repeat, String.toList_push, ih, List.replicate_succ']

theorem toList_padded (width n : Nat) : (padded width n).toList =
    List.replicate (width - (toString n).length) '0' ++ (toString n).toList := by
  rw [padded, String.toList_append, toList_pushn]

theorem digits_padded (width n : Nat) : Digits (padded width n).toList := by
  rw [toList_padded]
  exact digits_append_left (isDigit_zeros _) (digits_toString n)

/-- A padded number is known by its text. -/
theorem padded_inj (same : (padded width m).toList = (padded width n).toList) : m = n := by
  have value := congrArg (Nat.ofDigitChars 10 · 0) same
  simpa [toList_padded, Nat.ofDigitChars_append, ofDigitChars_toString] using value

theorem length_padded (pos : 0 < width) (lt : n < 10 ^ width) :
    (padded width n).toList.length = width := by
  have le : (toString n).length ≤ width := by
    rw [Nat.toString_eq_ofList_toDigits, String.length_ofList]
    exact (Nat.length_toDigits_le_iff (by simp) pos).mpr lt
  rw [toList_padded, List.length_append, List.length_replicate, String.length_toList]
  omega

/-- Two digits at the start of a text are known by the text. -/
theorem two_digits_inj (hm : m < 100) (hn : n < 100)
    (same : (padded 2 m).toList ++ xs = (padded 2 n).toList ++ ys) : m = n ∧ xs = ys := by
  have length := length_padded two_pos hm
  have length' := length_padded two_pos hn
  obtain ⟨front, behind⟩ := List.append_inj same (length.trans length'.symm)
  exact ⟨padded_inj front, behind⟩

/-- The sign of a year. -/
def yearSign (year : Int) : String :=
  if year < 0 then "-" else if year > 9999 then "+" else ""

theorem toList_yearText (year : Int) : (yearText year).toList =
    (yearSign year).toList ++ (padded 4 year.natAbs).toList :=
  String.toList_append ..

theorem yearSign_apart (year : Int) : ∀ c ∈ (yearSign year).toList, c.isDigit = false := by
  rw [yearSign]
  split_ifs
  all_goals simp

theorem yearText_inj (same : (yearText year).toList = (yearText year').toList) :
    year = year' := by
  rw [toList_yearText, toList_yearText] at same
  obtain ⟨signs, digits⟩ := append_digits_inj (yearSign_apart year) (yearSign_apart year')
    (digits_padded 4 _) (digits_padded 4 _) same
  have size := padded_inj digits
  unfold yearSign at signs
  split_ifs at signs
  all_goals first | omega | simp at signs

theorem fields_lt (t : DateTime) : t.date.month < 100 ∧ t.date.day < 100 ∧ t.hour < 100 ∧
    t.minute < 100 ∧ t.secondOfMinute < 100 := by
  have month := t.date.onCalendar.month_le
  have day := t.date.onCalendar.day_le
  have hour := t.hour_lt
  unfold minute secondOfMinute
  omega

/-- What follows the year. -/
def fieldsText (t : DateTime) : List Char :=
  '-' :: ((padded 2 t.date.month).toList ++ '-' :: ((padded 2 t.date.day).toList ++
    'T' :: ((padded 2 t.hour).toList ++ ':' :: ((padded 2 t.minute).toList ++
      ':' :: ((padded 2 t.secondOfMinute).toList ++ [])))))

theorem toList_toText (t : DateTime) :
    t.toText.toList = (yearText t.date.year).toList ++ t.fieldsText := by
  simp [toText, fieldsText, toString]

theorem length_fieldsText (t : DateTime) : t.fieldsText.length = 15 := by
  obtain ⟨month, day, hour, minute, second⟩ := t.fields_lt
  have two {n : Nat} (lt : n < 100) : (padded 2 n).toList.length = 2 := length_padded two_pos lt
  simp [fieldsText, two, month, day, hour, minute, second]

/-- A date and time is known by its text. The year has no fixed width, but all that follows it
has. -/
theorem toText_injective (same : t.toText = u.toText) : t = u := by
  obtain ⟨month, day, hour, minute, second⟩ := t.fields_lt
  obtain ⟨month', day', hour', minute', second'⟩ := u.fields_lt
  replace same := congrArg String.toList same
  rw [toList_toText, toList_toText] at same
  have length := t.length_fieldsText.trans u.length_fieldsText.symm
  obtain ⟨years, fields⟩ := List.append_inj' same length
  obtain ⟨months, fields⟩ := two_digits_inj month month' (List.cons.inj fields).2
  obtain ⟨days, fields⟩ := two_digits_inj day day' (List.cons.inj fields).2
  obtain ⟨hours, fields⟩ := two_digits_inj hour hour' (List.cons.inj fields).2
  obtain ⟨minutes, fields⟩ := two_digits_inj minute minute' (List.cons.inj fields).2
  obtain ⟨seconds, -⟩ := two_digits_inj second second' (List.cons.inj fields).2
  have total : t.second = u.second := by
    change t.second / 3600 = u.second / 3600 at hours
    change t.second / 60 % 60 = u.second / 60 % 60 at minutes
    change t.second % 60 = u.second % 60 at seconds
    omega
  have date : t.date = u.date := Date.ext (yearText_inj years) months days
  exact DateTime.ext date total

end DateTime
end Formula
