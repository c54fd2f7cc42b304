import Formula.Text.LowerCase

namespace Formula.Text

/-- A character that is its own lower-case form wherever it stands. -/
def IsSmall (c : Char) : Prop :=
  c ≠ 'Σ' ∧ c ≠ 'İ' ∧ capitals.find? (fun run => run.holds c.toNat) = none

instance (c : Char) : Decidable (IsSmall c) := inferInstanceAs (Decidable (_ ∧ _ ∧ _))

/-- The small letters of a run are no capitals of another: they lie apart from these or between
them. -/
def CapitalRun.misses (run other : CapitalRun) : Bool :=
  Nat.blt (run.small + (run.last - run.first)) other.first || Nat.blt other.last run.small ||
    (run.first == run.last || run.step == 2) && other.step == 2 &&
      (run.small + other.first) % 2 == 1

/-- The small letters of a run are characters, and none of them is a capital with a dot. -/
def CapitalRun.plain (run : CapitalRun) : Bool :=
  (Nat.blt (run.small + (run.last - run.first)) 0x130 || Nat.blt 0x130 run.small) &&
    (Nat.blt (run.small + (run.last - run.first)) 0xD800 ||
      Nat.blt 0xDFFF run.small && Nat.blt (run.small + (run.last - run.first)) 0x110000)

theorem capitals_miss :
    capitals.all (fun run => run.plain && capitals.all run.misses) = true := by
  decide +kernel

section

variable {run other : CapitalRun} {i : Nat}

theorem CapitalRun.misses_holds (h : run.misses other = true) (hi : i ≤ run.last - run.first)
    (hstep : i % run.step = 0) : other.holds (run.small + i) = false := by
  simp only [misses, Bool.or_eq_true, Bool.and_eq_true, Nat.blt_eq, beq_iff_eq] at h
  rw [Bool.eq_false_iff]
  intro hholds
  simp only [holds, Bool.and_eq_true, decide_eq_true_eq, beq_iff_eq] at hholds
  obtain ⟨⟨hlo, hhi⟩, hmod⟩ := hholds
  obtain (hlt | hlt) | ⟨⟨hrun, hother⟩, hodd⟩ := h
  · omega
  · omega
  · rw [hother] at hmod
    have heven : i % 2 = 0 := by
      rcases hrun with hsingle | htwo
      · obtain rfl : i = 0 := by omega
        rfl
      · rwa [htwo] at hstep
    omega

theorem CapitalRun.plain_char (h : run.plain = true) (hi : i ≤ run.last - run.first) :
    (run.small + i).isValidChar ∧ run.small + i ≠ 'İ'.toNat := by
  simp only [plain, Bool.and_eq_true, Bool.or_eq_true, Nat.blt_eq] at h
  have hdot : 'İ'.toNat = 0x130 := rfl
  rw [Nat.isValidChar, hdot]
  omega

end

/-- No capital has a small letter that is a capital itself. -/
theorem capitals_small (hrun : run ∈ capitals) (hi : i ≤ run.last - run.first)
    (hstep : i % run.step = 0) : (run.small + i).isValidChar ∧ run.small + i ≠ 'İ'.toNat ∧
      capitals.find? (fun other => other.holds (run.small + i)) = none := by
  have hall := List.all_eq_true.mp capitals_miss run hrun
  obtain ⟨hplain, hmiss⟩ := Bool.and_eq_true_iff.mp hall
  obtain ⟨hvalid, hne⟩ := run.plain_char hplain hi
  refine ⟨hvalid, hne, ?_⟩
  apply List.find?_eq_none.mpr
  intro other hother
  rw [CapitalRun.misses_holds (List.all_eq_true.mp hmiss other hother) hi hstep]
  exact Bool.false_ne_true

theorem toNat_ofNat (h : n.isValidChar) : (Char.ofNat n).toNat = n := by
  rw [Char.ofNat, dif_pos h]
  rfl

theorem isSmall_of_none (hdot : c ≠ 'İ')
    (h : capitals.find? (fun run => run.holds c.toNat) = none) : IsSmall c := by
  refine ⟨?_, hdot, h⟩
  intro hsigma
  rw [hsigma] at h
  exact absurd h (by decide)

theorem isSmall_small (hdot : c ≠ 'İ') : IsSmall (small c) := by
  unfold small
  split
  case h_1 run hfind =>
    have hholds := List.find?_some hfind
    simp only [CapitalRun.holds, Bool.and_eq_true, decide_eq_true_eq, beq_iff_eq] at hholds
    obtain ⟨⟨hlo, hhi⟩, hstep⟩ := hholds
    obtain ⟨hvalid, hne, hnone⟩ := capitals_small (List.mem_of_find?_eq_some hfind)
      (show c.toNat - run.first ≤ _ by omega) hstep
    apply isSmall_of_none
    · intro he
      rw [← he, toNat_ofNat hvalid] at hne
      exact hne rfl
    · rw [toNat_ofNat hvalid]
      exact hnone
  case h_2 hnone => exact isSmall_of_none hdot hnone

theorem lowerAt_of_isSmall (h : IsSmall c) (before after : List Char) :
    lowerAt before c after = [c] := by
  obtain ⟨hsigma, hdot, hnone⟩ := h
  rw [lowerAt, if_neg hsigma, if_neg hdot, small, hnone]

theorem isSmall_lowerAt (before : List Char) (c : Char) (after : List Char) :
    ∀ d ∈ lowerAt before c after, IsSmall d := by
  unfold lowerAt
  split
  · split <;> exact List.forall_mem_singleton.mpr (by decide)
  · split
    · exact List.forall_mem_cons.mpr ⟨by decide, List.forall_mem_singleton.mpr (by decide)⟩
    · rename_i hdot
      simpa using isSmall_small hdot

theorem lowerFrom_eq (before text : List Char) (lowered : Array Char) :
    (lowerFrom before lowered text).toList =
      lowered.toList ++ (lowerFrom before #[] text).toList := by
  induction text generalizing before lowered with
  | nil => simp [lowerFrom]
  | cons c text ih =>
    simp only [lowerFrom]
    rw [ih, ih (c :: before) (#[] ++ lowerAt before c text)]
    simp

theorem isSmall_lowerFrom (before text : List Char) :
    ∀ d ∈ (lowerFrom before #[] text).toList, IsSmall d := by
  induction text generalizing before with
  | nil => simp [lowerFrom]
  | cons c text ih =>
    simp only [lowerFrom]
    rw [lowerFrom_eq, List.forall_mem_append]
    exact ⟨by simpa using isSmall_lowerAt before c text, ih (c :: before)⟩

theorem lowerFrom_of_isSmall (before text : List Char) (h : ∀ c ∈ text, IsSmall c) :
    (lowerFrom before #[] text).toList = text := by
  induction text generalizing before with
  | nil => simp [lowerFrom]
  | cons c text ih =>
    obtain ⟨hc, htext⟩ := List.forall_mem_cons.mp h
    simp only [lowerFrom]
    rw [lowerFrom_eq, lowerAt_of_isSmall hc, ih (c :: before) htext]
    simp

/-- What is in lower case stays as it is. -/
theorem lower_lower (text : String) : lower (lower text) = lower text := by
  have hsmall := isSmall_lowerFrom [] text.toList
  rw [lower, lower, String.toList_ofList, lowerFrom_of_isSmall [] _ hsmall]

end Formula.Text
