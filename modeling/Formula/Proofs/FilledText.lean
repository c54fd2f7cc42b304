import Formula.Proofs.FilledTokens
import Formula.Proofs.Layouts

namespace Formula

/-- A token is the name of a variable, in whatever case, if no parenthesis opens in the text behind
it. -/
def RefersIn (x : String) (t : Token) (rest : List Char) : Prop :=
  ∃ name, t = .identifier name ∧ Text.lower name = Text.lower x ∧
    (rest.dropWhile Text.isBlank).head? ≠ some '('

/-- A text with another one, in brackets, in place of each variable of a name. -/
inductive Filled (x : String) (inner : List Char) : List Char → List Char → Prop where
  | finish (blank : Blank blanks) : Filled x inner blanks blanks
  | keep (blank : Blank blanks) (read : Reading.ofText (word ++ rest) = .token t word.length)
      (solid : t ≠ .finish) (other : ¬ RefersIn x t rest) (others : Filled x inner rest rest') :
      Filled x inner (blanks ++ (word ++ rest)) (blanks ++ (word ++ rest'))
  | fill (blank : Blank blanks) (read : Reading.ofText (word ++ rest) = .token t word.length)
      (refers : RefersIn x t rest) (b : Bracket) (others : Filled x inner rest rest') :
      Filled x inner (blanks ++ (word ++ rest))
        (blanks ++ b.openingChar :: (inner ++ b.closingChar :: rest'))

theorem RefersIn.solid (h : RefersIn x t rest) : t ≠ .finish := by
  obtain ⟨name, rfl, -⟩ := h
  simp

namespace Layout

/-- A parenthesis opens in a text if that is the first token of the text. -/
theorem opens_iff (h : Layout text ts) :
    (text.dropWhile Text.isBlank).head? = some '(' ↔ ts.headD .finish = .leftParen := by
  cases h with
  | finish blank =>
    have hdrop : text.dropWhile Text.isBlank = [] := List.dropWhile_eq_nil_iff.mpr blank
    simp [hdrop]
  | @word blanks word rest t ts blank read solid others =>
    have hl := ((Reading.ofText_token_iff solid).mp read).1
    obtain ⟨c, cs, rfl⟩ := List.exists_cons_of_ne_nil (Reading.lexeme_ne_nil hl)
    have hc := Reading.isBlank_of_token read solid c rfl
    have hdrop : (blanks ++ (c :: cs ++ rest)).dropWhile Text.isBlank = c :: cs ++ rest := by
      rw [List.dropWhile_append_of_pos blank]
      exact List.dropWhile_cons_of_neg (by simp [hc])
    have hhead : (c :: cs ++ rest).head? = some '(' ↔ c = '(' := by simp
    rw [hdrop, hhead]
    constructor
    · rintro rfl
      have hparen : Reading.ofText ('(' :: cs ++ rest) = .token .leftParen 1 := rfl
      rw [hparen] at read
      exact (Reading.token.inj read).1.symm
    · intro htoken
      obtain rfl : t = .leftParen := htoken
      exact (List.cons.inj (Bracket.opening_spelled .round hl)).1

end Layout

namespace Filled

variable {x : String} {inner source text : List Char} {us : List Token}

/-- A filled text starts as the text does, or with a bracket. -/
theorem ahead (h : Filled x inner source text) :
    text.head? = source.head? ∨ ∃ c ∈ text.head?, Apart c := by
  cases h with
  | finish blank => exact .inl rfl
  | @keep blanks word rest t rest' blank read solid other others =>
    have hword := ((Reading.ofText_token_iff solid).mp read).1
    obtain ⟨c, cs, rfl⟩ := List.exists_cons_of_ne_nil (Reading.lexeme_ne_nil hword)
    cases blanks <;> exact .inl rfl
  | @fill blanks word rest t rest' blank read refers b others =>
    cases blanks with
    | nil => exact .inr ⟨b.openingChar, rfl, apart_opening b⟩
    | cons c blanks => exact .inl rfl

/-- The tokens of a filled text are the filled tokens of the text. -/
theorem layout (h : Filled x inner source text) (hinner : Layout inner us) :
    ∃ ts ts', Layout source ts ∧ Layout text ts' ∧ FilledTokens x us ts .finish ts' := by
  induction h with
  | finish blank => exact ⟨[], [], .finish blank, .finish blank, .none⟩
  | keep blank read solid other others ih =>
    obtain ⟨ts, ts', hs, ht, hf⟩ := ih
    have hread := Reading.ofText_behind read solid others.ahead
    refine ⟨_, _, .word blank read solid hs, .word blank hread solid ht, .keep ?_ hf⟩
    intro refers
    obtain ⟨name, htoken, hname, hnext⟩ := refers
    exact other ⟨name, htoken, hname, fun hopens => hnext (hs.opens_iff.mp hopens)⟩
  | @fill blanks word rest t rest' blank read refers b others ih =>
    obtain ⟨ts, ts', hs, ht, hf⟩ := ih
    have hopening : Reading.ofText ([b.openingChar] ++ (inner ++ b.closingChar :: rest')) =
        .token b.opening [b.openingChar].length :=
      Reading.ofText_single b.lexeme_opening (apart_opening b) _
    have hbehind := hinner.append b.lexeme_closing (apart_closing b) ht
    refine ⟨_, _, .word blank read refers.solid hs,
      .word blank hopening (Reading.lexeme_ne_finish b.lexeme_opening) hbehind, .fill ?_ b hf⟩
    obtain ⟨name, htoken, hname, hnext⟩ := refers
    exact ⟨name, htoken, hname, fun hopens => hnext (hs.opens_iff.mpr hopens)⟩

/-- In any text made of tokens the variables can be filled, whichever brackets are chosen. -/
theorem exists_of_layout (h : Layout source ts) (x : String) (inner : List Char) (b : Bracket) :
    ∃ text, Filled x inner source text := by
  induction h with
  | finish blank => exact ⟨_, .finish blank⟩
  | @word blanks word rest t ts blank read solid others ih =>
    obtain ⟨text, hf⟩ := ih
    by_cases refers : RefersIn x t rest
    · exact ⟨_, .fill blank read refers b hf⟩
    · exact ⟨_, .keep blank read solid refers hf⟩

end Filled
end Formula
