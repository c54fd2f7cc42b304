import Formula.Proofs.Layouts

namespace Formula

/-- A fault is found in front of some character. -/
theorem Reading.ofText_fault_length_lt (h : ofText text = .fault why length) :
    length < text.length := by
  have some : text ≠ [] := by
    rintro rfl
    cases h
  rcases ofText_fault h some with ⟨rfl, -⟩ | ⟨word, c, rest, rfl, rfl, -⟩
  · exact List.length_pos_iff.mpr some
  · simp

namespace Lexer

/-- Where a lexer stands when it has been asked for a token, whatever it has found. -/
def step (lexer : Lexer) : Lexer :=
  match next lexer with
  | .ok _ after | .error _ after => after

/-- Where a lexer stands when it has been asked so many times. -/
def run (lexer : Lexer) : Nat → Lexer
  | 0 => lexer
  | n + 1 => (lexer.run n).step

/-- The tokens that are found when a lexer is asked so many times, other than the end of the
text. -/
def words (lexer : Lexer) : Nat → List Token
  | 0 => []
  | n + 1 =>
    match next (lexer.run n) with
    | .ok t _ => if t = .finish then lexer.words n else lexer.words n ++ [t]
    | .error .. => lexer.words n

theorem step_of_ok (h : next lexer = .ok t after) : lexer.step = after := by
  rw [step, h]

theorem step_of_error (h : next lexer = .error e after) : lexer.step = after := by
  rw [step, h]

/-- What holds of a lexer on a text whenever it is asked for a token. -/
structure Within (text : String) (lexer : Lexer) : Prop where
  source : lexer.source = text
  aligned : lexer.Aligned
  started : lexer.tokenStart ≤ lexer.position
  inside : lexer.position ≤ text.length

variable {lexer after : Lexer} {text : String}

theorem within_ofText (text : String) : Within text (ofText text) :=
  ⟨rfl, aligned_ofText text, Nat.le_refl _, Nat.zero_le _⟩

theorem Within.unread (h : Within text lexer) : lexer.rest = text.toList.drop lexer.position := by
  rw [h.aligned, h.source]

theorem Within.length_rest (h : Within text lexer) :
    lexer.position + lexer.rest.length = text.length := by
  have := h.inside
  rw [h.unread, List.length_drop, String.length_toList]
  omega

theorem Within.skip (h : Within text lexer) (room : length ≤ lexer.rest.length) :
    Within text (lexer.skip length) := by
  have := h.length_rest
  refine ⟨h.source, h.aligned.skip length, Nat.le_add_right_of_le h.started, ?_⟩
  simp only [Lexer.skip]
  omega

theorem Within.skipBlanks (h : Within text lexer) : Within text lexer.skipBlanks := by
  have blanks : (lexer.rest.takeWhile Text.isBlank).length ≤ lexer.rest.length :=
    (List.takeWhile_prefix _).length_le
  exact ⟨h.source, h.aligned.skipBlanks, Nat.le_refl _, (h.skip blanks).inside⟩

theorem position_le_skipBlanks (lexer : Lexer) : lexer.position ≤ lexer.skipBlanks.position :=
  Nat.le_add_right ..

theorem Within.step (h : Within text lexer) : Within text lexer.step := by
  cases hn : next lexer with
  | ok t after =>
    obtain ⟨length, read, rfl⟩ := next_ok hn
    rw [step_of_ok hn]
    exact h.skipBlanks.skip (Reading.ofText_length_le read)
  | error e after =>
    obtain ⟨length, found, rfl, -⟩ := next_error hn
    rw [step_of_error hn]
    exact h.skipBlanks.skip (Nat.le_of_lt (Reading.ofText_fault_length_lt found))

theorem position_le_step (lexer : Lexer) : lexer.position ≤ lexer.step.position := by
  cases hn : next lexer with
  | ok t after =>
    obtain ⟨length, -, rfl⟩ := next_ok hn
    rw [step_of_ok hn]
    exact Nat.le_add_right_of_le (position_le_skipBlanks lexer)
  | error e after =>
    obtain ⟨length, -, rfl, -⟩ := next_error hn
    rw [step_of_error hn]
    exact Nat.le_add_right_of_le (position_le_skipBlanks lexer)

/-- A token takes at least one character, unless it is the end of the text. -/
theorem position_lt (h : next lexer = .ok t after) (solid : t ≠ .finish) :
    lexer.position < after.position := by
  obtain ⟨length, read, rfl⟩ := next_ok h
  obtain ⟨pos, -⟩ := Reading.ofText_length_pos read solid
  exact Nat.lt_of_le_of_lt (position_le_skipBlanks lexer) (Nat.lt_add_of_pos_right pos)

/-- A fault is found in front of the end of the text, and the lexer stands there. -/
theorem Within.fault (h : Within text lexer) (failed : next lexer = .error e after) :
    after.position = e.position ∧ e.position < text.length := by
  obtain ⟨length, found, rfl, place⟩ := next_error failed
  have some := Reading.ofText_fault_length_lt found
  have := h.skipBlanks.length_rest
  rw [place]
  refine ⟨rfl, ?_⟩
  simp only [Lexer.skip]
  omega

/-- The end of the text is found where nothing but blanks is left. -/
theorem next_finish_iff : (∃ after, next lexer = .ok .finish after) ↔ Blank lexer.rest := by
  constructor
  · rintro ⟨after, finish⟩
    obtain ⟨length, read, -⟩ := next_ok finish
    obtain ⟨blanks, blank, rest⟩ := lexer.rest_eq
    rw [rest, Reading.ofText_finish read, List.append_nil]
    exact blank
  · intro blank
    have skipped := skipBlanks_run (List.append_nil lexer.rest).symm blank (by simp)
    exact ⟨_, by rw [next, skipped]; rfl⟩

theorem rest_of_finish (h : next lexer = .ok .finish after) : after.rest = [] := by
  obtain ⟨length, read, rfl⟩ := next_ok h
  simp only [Lexer.skip, Reading.ofText_finish read, List.drop_nil]

/-- Behind the end of the text there is nothing but the end. -/
theorem next_run_of_nil (h : lexer.rest = []) (n : Nat) :
    ∃ last, next (lexer.run n) = .ok .finish last := by
  induction n with
  | zero => exact next_of_nil h
  | succ n ih =>
    obtain ⟨last, finish⟩ := ih
    rw [run, step_of_ok finish]
    exact next_of_nil (rest_of_finish finish)

/-- How a lexer on a text answers whenever it is asked for a token. -/
structure Answers (text : String) (lexer : Lexer) : Prop where
  word : ∀ t after, next lexer = .ok t after → t ≠ .finish → lexer.position < after.position
  fault : ∀ e after, next lexer = .error e after →
    after.position = e.position ∧ e.position < text.length
  finish : (∃ after, next lexer = .ok .finish after) ↔ Blank (text.toList.drop lexer.position)
  finished : ∀ after, next lexer = .ok .finish after → ∀ n,
    ∃ last, next (after.run n) = .ok .finish last

theorem Within.answers (h : Within text lexer) : Answers text lexer where
  word _ _ := position_lt
  fault _ _ := h.fault
  finish := by rw [next_finish_iff, h.unread]
  finished _ finish := next_run_of_nil (rest_of_finish finish)

theorem Within.run (h : Within text lexer) (n : Nat) : Within text (lexer.run n) := by
  induction n with
  | zero => exact h
  | succ n ih => exact ih.step

theorem position_run_le (lexer : Lexer) (le : m ≤ n) :
    (lexer.run m).position ≤ (lexer.run n).position := by
  induction le with
  | refl => exact Nat.le_refl _
  | step _ ih => exact Nat.le_trans ih (position_le_step _)

/-- Each word that is found takes a character. -/
theorem length_words_le (lexer : Lexer) (n : Nat) :
    (lexer.words n).length ≤ (lexer.run n).position := by
  induction n with
  | zero => exact Nat.zero_le _
  | succ n ih =>
    have further := position_le_step (lexer.run n)
    rw [words, run]
    split
    · rename_i t after found
      split
      · exact Nat.le_trans ih further
      · rename_i solid
        have forward := position_lt found solid
        rw [step_of_ok found, List.length_append, List.length_singleton]
        omega
    · exact Nat.le_trans ih further

/-- However often a lexer is asked for tokens, and whatever it finds, it moves over the text from
its start to its end and no further, and finds no more words than the text has characters. -/
theorem runs_ofText (text : String) (n : Nat) :
    Within text ((ofText text).run n) ∧ Answers text ((ofText text).run n) ∧
      (∀ m ≤ n, ((ofText text).run m).position ≤ ((ofText text).run n).position) ∧
      ((ofText text).words n).length ≤ text.length := by
  have within := (within_ofText text).run n
  have words := length_words_le (ofText text) n
  exact ⟨within, within.answers, fun m le => position_run_le _ le, Nat.le_trans words within.inside⟩

/-- A lexer goes on behind a fault, here with the mark of an exponent that has no digits. -/
theorem runs_ofText_mark :
    (ofText "1+2e").words 5 = [.number "1", .plus, .identifier "e"] ∧ 3 ≤ "1+2e".length ∧
    ((ofText "1+2e").run 2).position ≤ ((ofText "1+2e").run 5).position := by
  have found : (ofText "1+2e").words 5 = [.number "1", .plus, .identifier "e"] := by cbv
  obtain ⟨-, -, further, fewer⟩ := runs_ofText "1+2e" 5
  rw [found] at fewer
  exact ⟨found, fewer, further 2 (by decide)⟩

end Lexer
end Formula
