import Formula.Proofs.TokenStream
import Mathlib.Data.List.TakeWhile

namespace Formula

/-- What a single name token can be made of. -/
def IsName (name : String) : Prop :=
  ∃ c cs, name.toList = c :: cs ∧ Reading.startsName c = true ∧
    ∀ d ∈ cs, Reading.continuesName d = true

namespace Text

theorem Ranges.mem_of_holds {ranges : Ranges} (h : ranges.holds n = true) :
    ∃ range ∈ ranges, range.1 ≤ n ∧ n ≤ range.2 := by
  induction ranges with
  | nil => cases h
  | cons range rest ih =>
    unfold holds at h
    split at h
    · cases h
    · split at h
      · exact ⟨range, List.mem_cons_self .., by omega, by omega⟩
      · obtain ⟨range', hm, hn⟩ := ih h
        exact ⟨range', List.mem_cons_of_mem _ hm, hn⟩

end Text

namespace Reading

/-- Characters that symbols start with. -/
def symbolStarts : List Char :=
  ['+', '-', '*', '/', '\\', '^', '?', ':', ',', '(', ')', '[', ']', '\x7b', '\x7d', '>', '!', '<',
   '=', '&', '|']

theorem ofText_word (hc : c ∉ symbolStarts) (text : List Char) :
    ofText (c :: text) =
      if c == '.' || c.isDigit then number (c :: text)
      else if startsName c then name (c :: text)
      else .fault (.unexpected c) 0 := by
  unfold ofText
  split
  case h_1 hnil => cases hnil
  case h_32 hcons =>
    cases hcons
    rfl
  all_goals
    rename_i hcons
    cases hcons
    exact absurd hc (by decide)

theorem isDigit_of_startsName (h : startsName c = true) : c.isDigit = false := by
  cases hd : c.isDigit with
  | false => rfl
  | true =>
    simp only [Char.isDigit, Bool.and_eq_true, decide_eq_true_eq] at hd
    have hlo : '0'.toNat ≤ c.toNat := hd.1
    have hhi : c.toNat ≤ '9'.toNat := hd.2
    have hletter : Text.isAlphabetic c = false :=
      if_pos (show c.toNat < 'A'.toNat from Nat.lt_of_le_of_lt hhi (by decide))
    have hne : ∀ x : Char, '9'.toNat < x.toNat ∨ x.toNat < '0'.toNat → c ≠ x := by
      rintro x hx rfl
      omega
    simp [startsName, hletter, hne '_' (by decide), hne '$' (by decide)] at h

theorem not_mem_symbolStarts (h : startsName c = true) : c ∉ symbolStarts := by
  intro hm
  -- a search over the list, not over all characters
  have hall : symbolStarts.all (fun x => !startsName x) = true := by decide
  have hc := List.all_eq_true.mp hall c hm
  simp [h] at hc

end Reading
end Formula
