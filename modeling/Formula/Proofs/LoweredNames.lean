import Formula.Proofs.LowerCasing
import Formula.Proofs.NameTokens

namespace Formula

namespace Text

/-- Whether a single range holds everything from one code point up to another. -/
def Ranges.spans : Ranges → Nat → Nat → Bool
  | [], _, _ => false
  | (lo, hi) :: rest, first, last =>
    if first < lo then false
    else if first ≤ hi then last ≤ hi
    else Ranges.spans rest first last

theorem Ranges.holds_of_spans {ranges : Ranges} (h : ranges.spans first last = true)
    (lower : first ≤ n) (upper : n ≤ last) : ranges.holds n = true := by
  induction ranges with
  | nil => cases h
  | cons range rest ih =>
    unfold spans at h
    unfold holds
    split at h
    · cases h
    · rw [if_neg (by omega)]
      split at h
      · rw [if_pos (Nat.le_trans upper (of_decide_eq_true h))]
      · split
        · rfl
        · exact ih h

theorem letters_span : capitals.all (fun run =>
    letters.spans run.small (run.small + (run.last - run.first))) = true := by
  decide +kernel

/-- The small letter of a capital is a letter. -/
theorem small_letter (c : Char) : small c = c ∨ isAlphabetic (small c) = true := by
  unfold small
  split
  case h_1 run found =>
    right
    have member := List.mem_of_find?_eq_some found
    have holds := List.find?_some found
    simp only [CapitalRun.holds, Bool.and_eq_true, decide_eq_true_eq, beq_iff_eq] at holds
    obtain ⟨⟨lo, hi⟩, step⟩ := holds
    have inside : c.toNat - run.first ≤ run.last - run.first := by omega
    obtain ⟨valid, -⟩ := capitals_small member inside step
    rw [isAlphabetic, toNat_ofNat valid]
    exact Ranges.holds_of_spans (List.all_eq_true.mp letters_span run member) (by omega) (by omega)
  case h_2 => exact .inl rfl

/-- A character stays or becomes a letter, unless it is a capital I with a dot. -/
theorem lowerAt_letter (plain : c ≠ 'İ') (before after : List Char) :
    ∃ d, lowerAt before c after = [d] ∧ (d = c ∨ isAlphabetic d = true) := by
  rw [lowerAt, if_neg plain]
  split
  · refine ⟨_, rfl, .inr ?_⟩
    split <;> decide
  · exact ⟨_, rfl, small_letter c⟩

/-- A capital I with a dot keeps its dot. -/
theorem dot_mem_lowerFrom (before : List Char) (dotted : 'İ' ∈ text) :
    '\u0307' ∈ (lowerFrom before #[] text).toList := by
  induction text generalizing before with
  | nil => cases dotted
  | cons c text ih =>
    rw [lowerFrom, lowerFrom_eq, List.mem_append]
    rcases List.mem_cons.mp dotted with rfl | dotted
    · exact .inl (by simp [lowerAt])
    · exact .inr (ih (c :: before) dotted)

theorem dot_mem_lower {name : String} (dotted : 'İ' ∈ name.toList) :
    '\u0307' ∈ (lower name).toList := by
  rw [lower, String.toList_ofList]
  exact dot_mem_lowerFrom [] dotted

end Text

namespace Reading

variable {c d : Char}

theorem startsName_letter (same : d = c ∨ Text.isAlphabetic d = true) (h : startsName c = true) :
    startsName d = true := by
  rcases same with rfl | letter
  · exact h
  · simp [startsName, letter]

theorem continuesName_letter (same : d = c ∨ Text.isAlphabetic d = true)
    (h : continuesName c = true) : continuesName d = true := by
  rcases same with rfl | letter
  · exact h
  · simp [continuesName, letter]

theorem continuesName_lowerFrom (before : List Char) {text : List Char} (plain : 'İ' ∉ text)
    (h : ∀ c ∈ text, continuesName c = true) :
    ∀ d ∈ (Text.lowerFrom before #[] text).toList, continuesName d = true := by
  induction text generalizing before with
  | nil => simp [Text.lowerFrom]
  | cons c text ih =>
    obtain ⟨first, others⟩ := List.forall_mem_cons.mp h
    rw [List.mem_cons, not_or] at plain
    obtain ⟨d, lowered, letter⟩ := Text.lowerAt_letter (Ne.symm plain.1) before text
    rw [Text.lowerFrom, Text.lowerFrom_eq, lowered]
    exact List.forall_mem_cons.mpr
      ⟨continuesName_letter letter first, ih (c :: before) plain.2 others⟩

end Reading

theorem IsName.continues (h : IsName name) : ∀ c ∈ name.toList, Reading.continuesName c = true := by
  obtain ⟨c, cs, text, starts, continues⟩ := h
  rw [text]
  exact List.forall_mem_cons.mpr ⟨Reading.continuesName_of_starts starts, continues⟩

/-- A dot on its own is no part of a name. -/
theorem IsName.not_mem_dot (h : IsName name) : '\u0307' ∉ name.toList :=
  fun dotted => absurd (h.continues _ dotted) (by decide)

/-- The lower case of a name is a name, unless the name has a capital I with a dot: its dot becomes
a character of its own, which no name can have. -/
theorem isName_lower_iff (h : IsName name) : IsName (Text.lower name) ↔ 'İ' ∉ name.toList := by
  constructor
  · intro lowered dotted
    exact lowered.not_mem_dot (Text.dot_mem_lower dotted)
  · intro plain
    obtain ⟨c, cs, text, starts, continues⟩ := h
    rw [text, List.mem_cons, not_or] at plain
    obtain ⟨d, lowered, letter⟩ := Text.lowerAt_letter (Ne.symm plain.1) [] cs
    refine ⟨d, _, ?_, Reading.startsName_letter letter starts,
      Reading.continuesName_lowerFrom [c] plain.2 continues⟩
    rw [Text.lower, String.toList_ofList, text, Text.lowerFrom, Text.lowerFrom_eq, lowered]
    rfl

theorem dot_mem_lower_iff (h : IsName name) :
    '\u0307' ∈ (Text.lower name).toList ↔ 'İ' ∈ name.toList := by
  refine ⟨fun dot => ?_, Text.dot_mem_lower⟩
  by_contra plain
  exact ((isName_lower_iff h).mpr plain).not_mem_dot dot

end Formula
