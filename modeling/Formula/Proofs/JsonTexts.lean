import Formula.Proofs.DateTexts
import Formula.Proofs.DisplayedDoubles

namespace Formula

/-- The type that a JSON text shows. -/
def shownType (text : List Char) : ValueType :=
  if text.head? = some '"' then .datetime
  else if text.head? = some 't' ∨ text.head? = some 'f' then .boolean
  else if '.' ∈ text ∨ 'e' ∈ text then .double
  else .integer

/-- Infinities and what is not a number have no JSON form. -/
def Value.Finite : Value → Prop
  | .double x => x.isFinite = true
  | _ => True

/-- How the text of a number starts. -/
def StartsNumber (c : Char) : Prop :=
  c = '-' ∨ c = '.' ∨ c.isDigit = true

variable {c : Char} {cs text : List Char}

theorem shownType_number (start : StartsNumber c) : shownType (c :: cs) =
    if '.' ∈ c :: cs ∨ 'e' ∈ c :: cs then .double else .integer := by
  have unlike (d : Char) (none : ¬ StartsNumber d) : (c :: cs).head? ≠ some d := by
    intro same
    exact none (Option.some.inj same ▸ start)
  have quote := unlike '"' (by simp [StartsNumber])
  have yes := unlike 't' (by simp [StartsNumber])
  have no := unlike 'f' (by simp [StartsNumber])
  rw [shownType, if_neg quote, if_neg (not_or.mpr ⟨yes, no⟩)]

/-- An integer is written with digits alone behind its sign. -/
theorem toList_toString_int (n : Int) : ∃ sign ds, (toString n).toList = sign ++ ds ∧
    (sign = [] ∨ sign = ['-']) ∧ Digits ds := by
  cases n with
  | ofNat n => exact ⟨[], _, rfl, .inl rfl, digits_toString n⟩
  | negSucc n => exact ⟨['-'], _, String.toList_append .., .inr rfl, digits_toString (n + 1)⟩

namespace Double

variable {layout : Layout}

theorem write_start (ending : layout.wholeEnd = "" ∨ layout.wholeEnd = ".0") (bits : Nat) :
    ∃ c cs, (layout.write bits).toList = c :: cs ∧ (c = '.' ∨ c.isDigit = true) := by
  obtain ⟨whole, fraction, exponent, spelled, parts⟩ := (denotes_write ending bits).parts
  rw [spelled]
  exact parts.head

/-- Where whole numbers show that they are doubles, all numbers do. -/
theorem write_marked (ending : layout.wholeEnd = ".0") (bits : Nat) :
    '.' ∈ (layout.write bits).toList ∨ 'e' ∈ (layout.write bits).toList := by
  unfold Layout.write
  dsimp only
  split
  case isTrue =>
    left
    rw [ending]
    unfold positionalText
    split
    · simp
    · dsimp only
      split
      all_goals simp
  case isFalse =>
    right
    unfold scientificText
    split_ifs
    all_goals simp

end Double

namespace Value

variable {v w : Value} {x y : Float}

theorem toJson_double (finite : x.isFinite = true) :
    toJson (.double x) = serialized.writeSigned x := by
  rw [toJson, Double.isFinite_eq, if_pos finite]

theorem shownType_double (finite : x.isFinite = true) :
    shownType (toJson (.double x)).toList = .double := by
  have ending : serialized.wholeEnd = ".0" := rfl
  obtain ⟨c, cs, spelled, start⟩ := Double.write_start (.inr ending) (Double.magnitude x)
  have marked := Double.write_marked ending (Double.magnitude x)
  rw [toJson_double finite, Double.Layout.writeSigned, String.toList_append]
  rw [spelled] at marked ⊢
  cases Double.isNegative x with
  | false => exact (shownType_number (.inr start)).trans (if_pos marked)
  | true =>
    have behind := marked.imp (List.mem_cons_of_mem '-') (List.mem_cons_of_mem '-')
    exact (shownType_number (.inl rfl)).trans (if_pos behind)

theorem shownType_integer (n : Int64) : shownType (toJson (.integer n)).toList = .integer := by
  obtain ⟨sign, ds, spelled, signed, digits⟩ := toList_toString_int n.toInt
  have chars (c : Char) (mem : c ∈ sign ++ ds) : c = '-' ∨ c.isDigit = true := by
    rcases List.mem_append.mp mem with mem | mem
    · rcases signed with rfl | rfl
      · cases mem
      · exact .inl (List.mem_singleton.mp mem)
    · exact .inr (digits.2 c mem)
  have no_point : '.' ∉ sign ++ ds := fun mem => by simpa using chars '.' mem
  have no_mark : 'e' ∉ sign ++ ds := fun mem => by simpa using chars 'e' mem
  have text : (toJson (.integer n)).toList = sign ++ ds := spelled
  rw [text]
  have some : sign ++ ds ≠ [] := List.append_ne_nil_of_right_ne_nil sign digits.1
  obtain ⟨c, cs, front⟩ := List.exists_cons_of_ne_nil some
  rw [front] at chars no_point no_mark ⊢
  have start : StartsNumber c := (chars c (List.mem_cons_self ..)).imp_right .inr
  rw [shownType_number start, if_neg (not_or.mpr ⟨no_point, no_mark⟩)]

/-- The type of a value is known by its JSON text. -/
theorem shownType_toJson (finite : v.Finite) : shownType v.toJson.toList = v.type := by
  cases v with
  | double x => exact shownType_double finite
  | integer n => exact shownType_integer n
  | boolean b => cases b <;> simp [toJson, toText, shownType, type]
  | datetime t => simp [toJson, toText, shownType, type]

/-- Values of one type are told apart by their JSON texts. -/
theorem eq_of_toJson (finite : v.Finite) (finite' : w.Finite) (types : v.type = w.type)
    (same : v.toJson = w.toJson) : v = w := by
  cases v with
  | double x =>
    cases w with
    | double y =>
      rw [toJson_double finite, toJson_double finite'] at same
      have read : Double.read? (serialized.writeSigned x) = some x :=
        Double.read?_writeSigned (.inr rfl) ((Double.isFinite_eq x).trans finite)
      have read' : Double.read? (serialized.writeSigned y) = some y :=
        Double.read?_writeSigned (.inr rfl) ((Double.isFinite_eq y).trans finite')
      rw [same, read'] at read
      exact congrArg double (Option.some.inj read).symm
    | _ => cases types
  | integer m =>
    cases w with
    | integer n =>
      have ints : m.toInt = n.toInt := Int.repr_inj.mp same
      exact congrArg integer (Int64.toInt_inj.mp ints)
    | _ => cases types
  | boolean a =>
    cases w with
    | boolean b => cases a <;> cases b <;> simp_all [toJson, toText]
    | _ => cases types
  | datetime t =>
    cases w with
    | datetime u =>
      have texts : t.toText = u.toText := by simpa [toJson, toText] using same
      exact congrArg datetime (DateTime.toText_injective texts)
    | _ => cases types

/-- Values that have a JSON form are told apart by it, whatever their types. -/
theorem toJson_inj (v w : Value) (finite : v.Finite) (finite' : w.Finite) :
    v.toJson = w.toJson ↔ v = w := by
  refine ⟨fun same => ?_, fun same => same ▸ rfl⟩
  have types := shownType_toJson finite
  rw [same, shownType_toJson finite'] at types
  exact eq_of_toJson finite finite' types.symm same

/-- The two zeros, which are equal as numbers, and the two values that are displayed as `2`. -/
theorem toJson_inj_zeros :
    (double (.ofBits 0x8000000000000000)).Finite ∧ (double 0).Finite ∧ (double 2).Finite ∧
      (integer 2).Finite ∧
      toJson (double (.ofBits 0x8000000000000000)) ≠ toJson (double 0) ∧
      toJson (double 2) ≠ toJson (integer 2) := by
  have minus : (Float.ofBits 0x8000000000000000).isFinite = true := by decide
  have zero : (0 : Float).isFinite = true := by decide
  have two : (2 : Float).isFinite = true := by decide
  refine ⟨minus, zero, two, trivial, fun same => ?_, fun same => ?_⟩
  · have equal := double.inj ((toJson_inj (double _) (double 0) minus zero).mp same)
    exact absurd (congrArg Float.toBits equal) (by decide)
  · cases (toJson_inj (double 2) (integer 2) two trivial).mp same

end Value
end Formula
