import Formula.Proofs.Layouts
import Formula.Proofs.ParallelReading

namespace Formula

section

variable (text : String) (offset : Nat)

/-- A lexer that reads the same characters, which stand further on in another text. -/
def Lexer.moved (lexer : Lexer) : Lexer :=
  ⟨text, lexer.rest, offset + lexer.position, offset + lexer.tokenStart⟩

/-- The same fault, found further on in another text. -/
def SyntaxError.moved (e : SyntaxError) : SyntaxError :=
  ⟨text, e.fault, offset + e.position⟩

namespace Parser

def moved (p : Parser) : Parser :=
  { p with lexer := p.lexer.moved text offset }

/-- The same answer of a parser that reads the same characters further on in another text. -/
def answerMoved : EStateM.Result SyntaxError Parser α → EStateM.Result SyntaxError Parser α
  | .ok a q => .ok a (q.moved text offset)
  | .error e q => .error (e.moved text offset) (q.moved text offset)

end Parser

namespace Lexer

theorem skipBlanks_moved (lexer : Lexer) :
    (lexer.moved text offset).skipBlanks = lexer.skipBlanks.moved text offset := by
  simp only [skipBlanks, moved, Nat.add_assoc]

theorem next_moved_ok (h : next lexer = .ok t after) :
    next (lexer.moved text offset) = .ok t (after.moved text offset) := by
  obtain ⟨length, read, rfl⟩ := next_ok h
  have read' : Reading.ofText (lexer.skipBlanks.moved text offset).rest = .token t length := read
  simp only [next, skipBlanks_moved, read']
  simp only [skip, moved, Nat.add_assoc]

theorem next_moved_error (h : next lexer = .error e after) : next (lexer.moved text offset) =
    .error ⟨e.fault, offset + e.position⟩ (after.moved text offset) := by
  obtain ⟨length, read, rfl, place⟩ := next_error h
  have read' : Reading.ofText (lexer.skipBlanks.moved text offset).rest = .fault e.fault length :=
    read
  simp only [next, skipBlanks_moved, read', place]
  simp only [skip, moved, Nat.add_assoc]

end Lexer

namespace Parser

theorem advance_moved (p : Parser) :
    advance (p.moved text offset) = answerMoved text offset (advance p) := by
  cases h : Lexer.next p.lexer with
  | ok t after =>
    have h' : Lexer.next (p.moved text offset).lexer = _ := Lexer.next_moved_ok text offset h
    simp only [advance, h, h']
    rfl
  | error e after =>
    have h' : Lexer.next (p.moved text offset).lexer = _ := Lexer.next_moved_error text offset h
    simp only [advance, h, h']
    rfl

/-- Reading on further on in another text gives the same answer there. -/
def moving : Parallel where
  Holds p read read' := read' (p.moved text offset) = answerMoved text offset (read p)
  of_pure _ := rfl
  of_bind := by
    intro α β p x y f g first rest
    cases hx : x p with
    | ok a q =>
      rw [hx] at first
      rw [bind_ok hx, bind_ok first]
      exact rest a q
    | error e q =>
      rw [hx] at first
      rw [bind_error hx, bind_error first]
      rfl
  of_peek holds := holds
  of_unread := by
    intro α p f g unread holds
    have same : g (p.moved text offset) = g p := (unread (p.moved text offset) rfl).2
    rw [get_bind, get_bind, same]
    exact holds
  of_fail _ := rfl
  of_advance := advance_moved text offset _
  of_consume := fun {p} => advance_moved text offset { p with current := .finish }

theorem nested_moving (room : Nat) (l : Level) :
    (moving text offset).Always (nested room l) (nested room l) :=
  (moving text offset).of_nested (fun _ _ => rfl) room l

theorem expression_moving : (moving text offset).Always expression expression :=
  fun p => nested_moving text offset p.limit .conditional p

theorem parse_moving : (moving text offset).Always parse parse :=
  (moving text offset).of_parse (expression_moving text offset)

end Parser

end

namespace Parser

/-- The lexer of a parser has read its current token last. -/
structure Stands (p : Parser) : Prop where
  aligned : p.lexer.Aligned
  read : ∃ length, Reading.ofText (p.lexer.source.toList.drop p.lexer.tokenStart) =
    .token p.current length ∧ p.lexer.position = p.lexer.tokenStart + length

/-- The text from the current token on. -/
def ahead (p : Parser) : String :=
  .ofList (p.lexer.source.toList.drop p.lexer.tokenStart)

variable {p q : Parser} {lexer after : Lexer} {limit : Nat}

theorem stands_of_next (aligned : lexer.Aligned) (h : Lexer.next lexer = .ok t after) :
    Stands ⟨after, t, limit⟩ := by
  have aligned' := aligned.next h
  obtain ⟨length, read, rfl⟩ := Lexer.next_ok h
  refine ⟨aligned', length, ?_, rfl⟩
  rw [aligned.skipBlanks] at read
  exact read

theorem stands_of_start? (aligned : lexer.Aligned) (h : start? limit lexer = .ok p) : p.Stands :=
  stands_of_next aligned (start?_ok h).1

theorem Passes.stands (h : Passes p ts q) (stands : p.Stands) : q.Stands := by
  induction h with
  | none => exact stands
  | more next _ ih => exact ih (stands_of_next stands.aligned next)

theorem Passes.source (h : Passes p ts q) : q.lexer.source = p.lexer.source := by
  induction h with
  | none => rfl
  | more next _ ih => rw [ih, Lexer.next_source next]

theorem Passes.moved (text : String) (offset : Nat) (h : Passes p ts q) :
    Passes (p.moved text offset) ts (q.moved text offset) := by
  induction h with
  | none => exact .none
  | more next _ ih => exact .more (Lexer.next_moved_ok text offset next) ih

/-- A text that starts with a token is read from there on. -/
theorem next_of_reading {text : String} (read : Reading.ofText text.toList = .token t length) :
    Lexer.next (.ofText text) = .ok t ⟨text, text.toList.drop length, length, 0⟩ := by
  have solid : ∀ c ∈ text.toList.head?, Text.isBlank c = false := by
    by_cases ht : t = .finish
    · subst ht
      simp [Reading.ofText_finish read]
    · exact Reading.isBlank_of_token read ht
  have start : (Lexer.ofText text).rest = [] ++ text.toList := rfl
  have skipped := Lexer.skipBlanks_run start blank_nil solid
  simp only [Lexer.next, skipped, read]
  simp only [Lexer.skip, Lexer.ofText, List.length_nil, Nat.zero_add]

/-- A parser goes on as one that is started at its current token. -/
theorem Stands.start (h : p.Stands) : ∃ fresh, start? p.limit (.ofText p.ahead) = .ok fresh ∧
    p = fresh.moved p.lexer.source p.lexer.tokenStart := by
  obtain ⟨aligned, length, read, position⟩ := h
  have chars : p.ahead.toList = p.lexer.source.toList.drop p.lexer.tokenStart :=
    String.toList_ofList
  have next := next_of_reading (chars ▸ read)
  have rest : p.lexer.rest = p.ahead.toList.drop length := by
    rw [aligned, position, chars, List.drop_drop]
  refine ⟨⟨⟨p.ahead, p.ahead.toList.drop length, length, 0⟩, p.current, p.limit⟩, ?_, ?_⟩
  · simp only [start?, next]
  · simp only [moved, Lexer.moved, ← rest, ← position, Nat.add_zero]

end Parser
end Formula
