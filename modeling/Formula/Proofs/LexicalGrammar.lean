import Formula.Proofs.NameTokens
import Formula.Proofs.Numerals

namespace Formula

/-- What a single number token can be made of. -/
def IsNumber (text : String) : Prop :=
  ∃ whole fraction exponent, text.toList = whole ++ (fraction ++ exponent) ∧
    NumberParts whole fraction exponent

/-- The spellings of the operators and brackets. -/
def symbols : List (List Char × Token) :=
  [(['+'], .plus), (['-'], .minus), (['*'], .star), (['/'], .slash), (['\\'], .backslash),
   (['^'], .caret), (['<'], .less), (['<', '='], .lessEqual), (['=', '<'], .lessEqual),
   (['>'], .greater), (['>', '='], .greaterEqual), (['=', '>'], .greaterEqual),
   (['=', '='], .equal), (['!', '='], .notEqual), (['<', '>'], .notEqual), (['!'], .exclamation),
   (['&', '&'], .and), (['|', '|'], .or), (['?'], .question), ([':'], .colon), ([','], .comma),
   (['('], .leftParen), ([')'], .rightParen), (['['], .leftBracket), ([']'], .rightBracket),
   (['\x7b'], .leftBrace), (['\x7d'], .rightBrace)]

/-- The texts that are one token. -/
inductive Lexeme : List Char → Token → Prop where
  | number (h : IsNumber text) : Lexeme text.toList (.number text)
  | name (h : IsName name) : Lexeme name.toList (.identifier name)
  | symbol (h : (word, t) ∈ symbols) : Lexeme word t

/-- A number is cut off in front of a point if it has neither a fraction nor an exponent, and in
front of the mark of an exponent if it has no exponent. -/
inductive CutOff (word : List Char) : Char → Prop where
  | point (whole : Digits word) : CutOff word '.'
  | mark (parts : NumberParts whole fraction []) (h : word = whole ++ fraction)
      (hc : c = 'e' ∨ c = 'E') : CutOff word c

theorem Fraction.head (h : Fraction text) : ∀ c ∈ text.head?, c = '.' := by
  obtain rfl | ⟨ds, rfl, -⟩ := h <;> simp

theorem Exponent.head (h : Exponent text) : ∀ c ∈ text.head?, c = 'e' ∨ c = 'E' := by
  obtain rfl | ⟨mark, sign, ds, rfl, hmark, -, -⟩ := h
  · simp
  · simpa using hmark

/-- A number that goes on with a digit is a number. -/
theorem NumberParts.snoc (h : NumberParts whole fraction exponent) (hd : d.isDigit = true) :
    ∃ whole' fraction' exponent', NumberParts whole' fraction' exponent' ∧
      whole' ++ (fraction' ++ exponent') = whole ++ (fraction ++ exponent) ++ [d] := by
  have last : Digits [d] := ⟨by simp, by simpa using hd⟩
  have hsnoc {ds : List Char} (hds : ∀ c ∈ ds, c.isDigit = true) : Digits (ds ++ [d]) :=
    digits_append_left hds last
  obtain rfl | ⟨m, sign, ds, rfl, hm, hsign, hds⟩ := h.mark
  · obtain rfl | ⟨ds, rfl, hds⟩ := h.point
    · exact ⟨whole ++ [d], [], [], ⟨(hsnoc h.digits).2, .inl rfl, .inl rfl, .inl (by simp)⟩, by simp⟩
    · exact ⟨whole, '.' :: (ds ++ [d]), [],
        ⟨h.digits, .inr ⟨_, rfl, hsnoc hds.2⟩, .inl rfl, .inr (by simp)⟩, by simp⟩
  · exact ⟨whole, fraction, m :: (sign ++ (ds ++ [d])),
      ⟨h.digits, h.point, .inr ⟨m, sign, _, rfl, hm, hsign, hsnoc hds.2⟩, h.present⟩, by simp⟩

/-- Only a number is cut off. -/
theorem CutOff.head (h : CutOff word c) :
    ∃ d ds, word = d :: ds ∧ (d = '.' ∨ d.isDigit = true) := by
  cases h with
  | point digits =>
    obtain ⟨d, ds, rfl, hd⟩ := digits_head digits
    exact ⟨d, ds, rfl, .inr hd⟩
  | mark parts hword hc =>
    obtain ⟨d, ds, hcons, hd⟩ := parts.head
    exact ⟨d, ds, by rw [hword, ← hcons, List.append_nil], hd⟩

namespace Reading

variable {text rest run ds whole fraction exponent : List Char}

/-- A run of characters is found as a whole. -/
theorem takeWhile_run {p : Char → Bool} (inside : ∀ c ∈ run, p c = true)
    (ends : ∀ c ∈ rest.head?, p c = false) : (run ++ rest).takeWhile p = run := by
  rw [List.takeWhile_append_of_pos inside]
  cases rest with
  | nil => simp
  | cons c rest => simp [ends c rfl]

theorem head?_append {p : Char → Prop} (h : ∀ c ∈ run.head?, p c)
    (h' : run = [] → ∀ c ∈ rest.head?, p c) : ∀ c ∈ (run ++ rest).head?, p c := by
  cases run with
  | nil => exact h' rfl
  | cons a run => exact h

theorem startsWithDigit_append_of_digits (h : Digits ds) (rest : List Char) :
    startsWithDigit (ds ++ rest) = true := by
  obtain ⟨d, ds, rfl, hd⟩ := digits_head h
  exact hd

/-- How a fraction ends: at a character that is neither a digit nor a point of its own. -/
theorem fraction?_run (h : Fraction fraction) (ends : ∀ c ∈ rest.head?, c.isDigit = false)
    (point : fraction = [] → ∀ c ∈ rest.head?, c ≠ '.') :
    fraction? (fraction ++ rest) = some fraction := by
  obtain rfl | ⟨ds, rfl, hd⟩ := h
  · cases rest with
    | nil => rfl
    | cons c rest => simp [fraction?, point rfl c rfl]
  · simp [fraction?, startsWithDigit_append_of_digits hd, takeWhile_run hd.2 ends]

theorem exponent?_digits (hm : m = 'e' ∨ m = 'E')
    (hsign : sign = [] ∨ sign = ['+'] ∨ sign = ['-']) (hd : Digits ds) (rest : List Char) :
    exponent? (m :: (sign ++ ds) ++ rest) =
      some (m :: (sign ++ (ds ++ rest.takeWhile Char.isDigit))) := by
  have hstart := startsWithDigit_append_of_digits hd rest
  have hrun : (ds ++ rest).takeWhile Char.isDigit = ds ++ rest.takeWhile Char.isDigit :=
    List.takeWhile_append_of_pos hd.2
  have hmark : (m == 'e' || m == 'E') = true := by simpa using hm
  rcases hsign with rfl | rfl | rfl
  · obtain ⟨d, ds, rfl, hdigit⟩ := digits_head hd
    have hplus : d ≠ '+' := by rintro rfl; cases hdigit
    have hminus : d ≠ '-' := by rintro rfl; cases hdigit
    rw [List.cons_append] at hstart hrun
    simp [exponent?, hmark, hplus, hminus, hstart, hrun]
  · simp [exponent?, hmark, hstart, hrun]
  · simp [exponent?, hmark, hstart, hrun]

theorem exponent?_run (h : Exponent exponent) (ends : ∀ c ∈ rest.head?, c.isDigit = false)
    (mark : exponent = [] → ∀ c ∈ rest.head?, c ≠ 'e' ∧ c ≠ 'E') :
    exponent? (exponent ++ rest) = some exponent := by
  obtain rfl | ⟨m, sign, ds, rfl, hm, hsign, hd⟩ := h
  · cases rest with
    | nil => rfl
    | cons c rest =>
      obtain ⟨he, hE⟩ := mark rfl c rfl
      simp [exponent?, he, hE]
  · have hstop : ([] ++ rest).takeWhile Char.isDigit = [] := takeWhile_run (by simp) ends
    rw [List.nil_append] at hstop
    rw [exponent?_digits hm hsign hd, hstop, List.append_nil]

/-- A number is read in front of a character that it would not go on with. -/
theorem number_run (parts : NumberParts whole fraction exponent)
    (ends : ∀ c ∈ rest.head?, c.isDigit = false)
    (point : fraction = [] → exponent = [] → ∀ c ∈ rest.head?, c ≠ '.')
    (mark : exponent = [] → ∀ c ∈ rest.head?, c ≠ 'e' ∧ c ≠ 'E') :
    number (whole ++ (fraction ++ exponent) ++ rest) =
      .token (.number (.ofList (whole ++ (fraction ++ exponent))))
        (whole ++ (fraction ++ exponent)).length := by
  have hmark : ∀ c ∈ exponent.head?, c.isDigit = false ∧ c ≠ '.' := by
    intro c hc
    rcases parts.mark.head c hc with rfl | rfl <;> decide
  have hends : ∀ c ∈ (exponent ++ rest).head?, c.isDigit = false :=
    head?_append (fun c hc => (hmark c hc).1) fun _ => ends
  have hpoint : fraction = [] → ∀ c ∈ (exponent ++ rest).head?, c ≠ '.' :=
    fun hf => head?_append (fun c hc => (hmark c hc).2) (point hf)
  have hends' : ∀ c ∈ (fraction ++ (exponent ++ rest)).head?, c.isDigit = false := by
    refine head?_append (fun c hc => ?_) fun _ => hends
    rw [parts.point.head c hc]
    rfl
  have hwhole := takeWhile_run parts.digits hends'
  have hfraction := fraction?_run parts.point hends hpoint
  have hexponent := exponent?_run parts.mark ends mark
  simp only [number, List.append_assoc, hwhole, List.drop_left, hfraction]
  rw [← List.append_assoc whole, List.drop_left, hexponent]

/-- How many characters a reading takes, or goes over in front of a fault. -/
def extent : Reading → Nat
  | token _ length | fault _ length => length

/-- A run of characters at the start of a text ends no later than the longest one, and is the
longest one if something else follows it. -/
theorem run_of_prefix {p : Char → Bool} (inside : ∀ c ∈ run, p c = true)
    (ends : ∀ c ∈ tail.head?, p c = false) (h : run ++ tail <+: text) :
    run = text.takeWhile p ∧ tail <+: text.drop run.length ∨
      tail = [] ∧ run <+: text.takeWhile p := by
  obtain ⟨rest, rfl⟩ := h
  rw [List.append_assoc]
  cases tail with
  | nil =>
    right
    rw [List.nil_append, List.takeWhile_append_of_pos inside]
    exact ⟨rfl, List.prefix_append ..⟩
  | cons c tail =>
    left
    have hrun : (run ++ (c :: tail ++ rest)).takeWhile p = run := takeWhile_run inside ends
    rw [hrun, List.drop_left]
    exact ⟨rfl, List.prefix_append ..⟩

theorem exponent?_longest (h : Exponent exponent) (hne : exponent ≠ []) (hp : exponent <+: text) :
    ∃ found, exponent? text = some found ∧ exponent.length ≤ found.length := by
  obtain ⟨rest, rfl⟩ := hp
  obtain rfl | ⟨m, sign, ds, rfl, hm, hsign, hd⟩ := h
  · exact absurd rfl hne
  · exact ⟨_, exponent?_digits hm hsign hd rest, by simp⟩

/-- A fraction at the start of a text is the one that is read, if something else of the number
follows it, and is no longer otherwise. Where a point lacks its digits there is no fraction. -/
theorem fraction?_longest (h : Fraction fraction)
    (ends : ∀ c ∈ tail.head?, c.isDigit = false ∧ c ≠ '.') (hp : fraction ++ tail <+: text) :
    (fraction? text = some fraction ∧ tail <+: text.drop fraction.length) ∨
      tail = [] ∧ ((fraction = [] ∧ fraction? text = none) ∨
        ∃ found, fraction? text = some found ∧ fraction.length ≤ found.length) := by
  obtain rfl | ⟨ds, rfl, hd⟩ := h
  · cases tail with
    | nil =>
      right
      cases hf : fraction? text with
      | none => exact ⟨rfl, .inl ⟨rfl, rfl⟩⟩
      | some found => exact ⟨rfl, .inr ⟨found, rfl, Nat.zero_le _⟩⟩
    | cons c tail =>
      left
      obtain ⟨rest, rfl⟩ := hp
      exact ⟨by simp [fraction?, (ends c rfl).2], List.prefix_append ..⟩
  · obtain ⟨rest, rfl⟩ := hp
    have hstart := startsWithDigit_append_of_digits hd (tail ++ rest)
    have hpre : ds ++ tail <+: ds ++ (tail ++ rest) :=
      (List.prefix_append_right_inj ds).mpr (List.prefix_append ..)
    have hread : fraction? ('.' :: ds ++ tail ++ rest) =
        some ('.' :: (ds ++ (tail ++ rest)).takeWhile Char.isDigit) := by
      simp [fraction?, hstart]
    obtain ⟨hds, hrest⟩ | ⟨hnil, hle⟩ := run_of_prefix hd.2 (fun c hc => (ends c hc).1) hpre
    · rw [hread, ← hds]
      exact .inl ⟨rfl, by simp⟩
    · exact .inr ⟨hnil, .inr ⟨_, hread, by simpa using hle.length_le⟩⟩

/-! How far a number is read, when its parts are found. -/

theorem number_length_whole (hw : whole = text.takeWhile Char.isDigit) :
    whole.length ≤ (number text).extent := by
  unfold number
  dsimp only
  rw [← hw]
  split
  · exact Nat.le_refl _
  · split <;> simp only [extent, List.length_append] <;> omega

theorem number_length_fraction (hw : whole = text.takeWhile Char.isDigit)
    (hf : fraction? (text.drop whole.length) = some fraction) :
    (whole ++ fraction).length ≤ (number text).extent := by
  simp only [number, ← hw, hf]
  split <;> simp [extent]

theorem number_length_exponent (hw : whole = text.takeWhile Char.isDigit)
    (hf : fraction? (text.drop whole.length) = some fraction)
    (he : exponent? (text.drop (whole ++ fraction).length) = some exponent) :
    (number text).extent = (whole ++ fraction ++ exponent).length := by
  simp only [number, ← hw, hf, he, extent]

/-- A number at the start of a text is no longer than what is read there. -/
theorem number_longest (parts : NumberParts whole fraction exponent)
    (hp : whole ++ (fraction ++ exponent) <+: text) :
    (whole ++ (fraction ++ exponent)).length ≤ (number text).extent := by
  have hmark : ∀ c ∈ exponent.head?, c.isDigit = false ∧ c ≠ '.' := by
    intro c hc
    rcases parts.mark.head c hc with rfl | rfl <;> decide
  have hends : ∀ c ∈ (fraction ++ exponent).head?, c.isDigit = false := by
    refine head?_append (fun c hc => ?_) fun _ c hc => (hmark c hc).1
    rw [parts.point.head c hc]
    rfl
  obtain ⟨hwhole, hrest⟩ | ⟨hnil, hwhole⟩ := run_of_prefix parts.digits hends hp
  · obtain ⟨hf, hrest⟩ | ⟨rfl, ⟨rfl, hf⟩ | ⟨found, hf, hle⟩⟩ :=
      fraction?_longest parts.point hmark hrest
    · by_cases hne : exponent = []
      · simpa [hne] using number_length_fraction hwhole hf
      · rw [List.drop_drop, ← List.length_append] at hrest
        obtain ⟨found, he, hle⟩ := exponent?_longest parts.mark hne hrest
        rw [number_length_exponent hwhole hf he]
        simpa using hle
    · simpa using number_length_whole hwhole
    · have := number_length_fraction hwhole hf
      simp only [List.length_append, List.length_nil] at this ⊢
      omega
  · obtain ⟨rfl, rfl⟩ := List.append_eq_nil_iff.mp hnil
    have : (text.takeWhile Char.isDigit).length ≤ (number text).extent := number_length_whole rfl
    have := hwhole.length_le
    simp only [List.length_append, List.length_nil]
    omega

end Reading
end Formula
