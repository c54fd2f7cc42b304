import Formula.Proofs.ParserCalls

namespace Formula

namespace Reading

/-- A number fails at a point without digits or at the mark of an exponent without digits. -/
theorem number_fault_cases (h : number text = .fault why length) :
    (why = .noFraction ∧ ∃ rest, text.drop length = '.' :: rest ∧ fraction? ('.' :: rest) = none) ∨
    (why = .noExponent ∧ ∃ c rest, text.drop length = c :: rest ∧ (c = 'e' ∨ c = 'E')) := by
  unfold number at h
  dsimp only at h
  split at h
  · rename_i missing
    cases h
    obtain ⟨rest, point⟩ := fraction?_none missing
    exact .inl ⟨rfl, rest, point, point ▸ missing⟩
  · split at h
    · rename_i missing
      cases h
      exact .inr ⟨rfl, exponent?_none missing⟩
    · cases h

/-- No character is gone over in front of a fault, but for those of a number. -/
theorem ofText_fault_cases (h : ofText text = .fault why length) :
    (length = 0 ∧ why ≠ .noExponent) ∨ number text = .fault why length := by
  unfold ofText at h
  split at h
  case h_32 =>
    split at h
    · exact .inr h
    · split at h
      · cases h
      · cases h
        exact .inl ⟨rfl, by simp⟩
  all_goals
    cases h
    try exact .inl ⟨rfl, by simp⟩

/-- A point without digits is found again. -/
theorem ofText_point (missing : fraction? ('.' :: rest) = none) :
    ofText ('.' :: rest) = .fault .noFraction 0 := by
  have digits : ('.' :: rest).takeWhile Char.isDigit = [] := rfl
  rw [ofText_of_number (.inl rfl), number, digits]
  simp only [List.length_nil, List.drop_zero, missing]

/-- The mark of an exponent is a name, or the start of one. -/
theorem ofText_mark (hc : c = 'e' ∨ c = 'E') (rest : List Char) : ∃ name length,
    ofText (c :: rest) = .token (.identifier name) length ∧ name.toList.head? = some c := by
  have starts : startsName c = true := by rcases hc with rfl | rfl <;> decide
  refine ⟨_, _, ofText_of_name starts rest, ?_⟩
  simp [continuesName_of_starts starts]

end Reading

namespace Lexer

/-- A lexer stands in front of a fault, where it stays whenever it is asked for a token. -/
def Stuck (lexer : Lexer) : Prop :=
  ∃ fault, Reading.ofText lexer.skipBlanks.rest = .fault fault 0

variable {lexer after : Lexer}

theorem skipBlanks_head (lexer : Lexer) :
    ∀ c ∈ lexer.skipBlanks.rest.head?, Text.isBlank c = false := by
  have ahead : lexer.skipBlanks.rest = lexer.rest.dropWhile Text.isBlank := by
    have split := lexer.rest.takeWhile_append_dropWhile (p := Text.isBlank)
    calc lexer.skipBlanks.rest
        = (lexer.rest.takeWhile Text.isBlank ++ lexer.rest.dropWhile Text.isBlank).drop
            (lexer.rest.takeWhile Text.isBlank).length := by rw [split]; rfl
      _ = lexer.rest.dropWhile Text.isBlank := List.drop_left
  intro c hc
  have first := List.head?_dropWhile_not Text.isBlank lexer.rest
  rw [← ahead, hc] at first
  exact first

theorem rest_skipBlanks (starts : ∀ c ∈ lexer.rest.head?, Text.isBlank c = false) :
    lexer.skipBlanks.rest = lexer.rest := by
  rw [skipBlanks_run (List.nil_append lexer.rest).symm (by simp) starts]

/-- No character is gone over in front of the fault. -/
theorem stuck_skip (stands : Reading.ofText lexer.skipBlanks.rest = .fault fault 0) :
    (lexer.skipBlanks.skip 0).Stuck :=
  ⟨fault, (congrArg Reading.ofText (rest_skipBlanks (skipBlanks_head lexer))).trans stands⟩

theorem Stuck.not_next (h : lexer.Stuck) : next lexer ≠ .ok t after := by
  intro read
  obtain ⟨fault, failed⟩ := h
  obtain ⟨length, token, -⟩ := next_ok read
  cases failed.symm.trans token

/-- Asking for a token in front of a fault finds it again. -/
theorem Stuck.again (h : lexer.Stuck) (failed : next lexer = .error e after) : after.Stuck := by
  obtain ⟨fault, stands⟩ := h
  obtain ⟨length, found, rfl, -⟩ := next_error failed
  cases stands.symm.trans found
  exact stuck_skip stands

/-- Behind a fault that is not about an exponent nothing is read any more. -/
theorem stuck_of_error (failed : next lexer = .error e after) (other : e.fault ≠ .noExponent) :
    after.Stuck := by
  obtain ⟨length, found, rfl, -⟩ := next_error failed
  rcases Reading.ofText_fault_cases found with ⟨rfl, -⟩ | digits
  · exact stuck_skip found
  obtain ⟨-, rest, point, missing⟩ | ⟨mark, -⟩ := Reading.number_fault_cases digits
  · have ahead : (lexer.skipBlanks.skip length).rest = '.' :: rest := point
    have starts : ∀ c ∈ (lexer.skipBlanks.skip length).rest.head?, Text.isBlank c = false := by
      rw [ahead]
      rintro c ⟨⟩
      decide
    refine ⟨.noFraction, ?_⟩
    rw [rest_skipBlanks starts, ahead]
    exact Reading.ofText_point missing
  · exact absurd mark other

/-- Behind a fault about an exponent its mark is read as a name. -/
theorem next_of_noExponent (failed : next lexer = .error e after) (mark : e.fault = .noExponent) :
    ∃ name last, next after = .ok (.identifier name) last ∧
      (name.toList.head? = some 'e' ∨ name.toList.head? = some 'E') := by
  obtain ⟨length, found, rfl, -⟩ := next_error failed
  rcases Reading.ofText_fault_cases found with ⟨-, other⟩ | digits
  · exact absurd mark other
  obtain ⟨other, -⟩ | ⟨-, c, rest, point, hc⟩ := Reading.number_fault_cases digits
  · rw [mark] at other
    cases other
  · have ahead : (lexer.skipBlanks.skip length).rest = c :: rest := point
    have starts : ∀ d ∈ (lexer.skipBlanks.skip length).rest.head?, Text.isBlank d = false := by
      rw [ahead]
      rintro d ⟨⟩
      rcases hc with rfl | rfl <;> decide
    obtain ⟨name, width, read, head⟩ := Reading.ofText_mark hc rest
    refine ⟨name, (lexer.skipBlanks.skip length).skipBlanks.skip width, ?_, ?_⟩
    · simp only [next, rest_skipBlanks starts, ahead, read]
    · rcases hc with rfl | rfl
      · exact .inl head
      · exact .inr head

end Lexer

namespace Parser

/-- What reading does where the lexer is stuck, and where it stops at a lexical fault. -/
def Halts (p : Parser) : EStateM.Result SyntaxError Parser α → Prop
  | .ok _ q => p.lexer.Stuck → q = p
  | .error e q => (p.lexer.Stuck → q.lexer.Stuck) ∧ ∀ fault, e.fault = .lexical fault →
      ∃ before le, Lexer.next before = .error le q.lexer ∧ le.fault = fault

theorem halts_advance (current : Token) (p : Parser) :
    Halts p (advance { p with current }) := by
  cases hn : Lexer.next p.lexer with
  | ok t after =>
    rw [advance_ok hn]
    exact fun stuck => absurd hn stuck.not_next
  | error e after =>
    rw [advance_error hn]
    refine ⟨fun stuck => stuck.again hn, ?_⟩
    rintro fault ⟨⟩
    exact ⟨p.lexer, e, hn, rfl⟩

/-- What is read in parallel with itself by this relation halts. -/
def halting : Parallel where
  Holds p read _ := Halts p (read p)
  of_pure _ := fun _ => rfl
  of_bind := by
    intro α β p x y f g first rest
    cases hx : x p with
    | ok a q =>
      rw [hx] at first
      rw [bind_ok hx]
      have second := rest a q
      cases hf : f a q with
      | ok b r =>
        rw [hf] at second
        intro stuck
        have same := first stuck
        rw [← same]
        exact second (same ▸ stuck)
      | error e r =>
        rw [hf] at second
        exact ⟨fun stuck => second.1 (first stuck ▸ stuck), second.2⟩
    | error e q =>
      rw [hx] at first
      rw [bind_error hx]
      exact first
  of_peek holds := holds
  of_unread _ holds := holds
  of_fail names := by
    refine ⟨id, ?_⟩
    rintro fault lexical
    obtain unexpected | ⟨wanted, expected⟩ := names
    · cases lexical.symm.trans unexpected
    · cases lexical.symm.trans expected
  of_advance := fun {p} => halts_advance p.current p
  of_consume := fun {p} => halts_advance .finish p

theorem halts_expression (p : Parser) : Halts p (expression p) := by
  have deep : ∀ l, halting.Always (nested 0 l) (nested 0 l) := by
    refine fun l p => ⟨id, ?_⟩
    rintro fault ⟨⟩
  exact halting.of_nested deep p.limit .conditional p

theorem halts_run (request : Request) (p : Parser) : Halts p (request.run p) := by
  cases request with
  | whole => exact halting.of_parse halts_expression p
  | part => exact halts_expression p

section

variable (descend : Level → Parse Node)

/-- A token that no expression starts with is no operand, with or without a sign. -/
theorem signed_refuses (p : Parser) (h : p.current.startsExpression = false) :
    signed descend p = .error (p.faultAt (.unexpected p.current)) p := by
  obtain ⟨lexer, current, limit⟩ := p
  cases current with
  | number | identifier | plus | minus | exclamation => cases h
  | leftParen | leftBracket | leftBrace => cases h
  | _ => rfl

/-- All levels start with an operand. -/
theorem level_refuses (p : Parser) (h : p.current.startsExpression = false) (l : Level) :
    level descend l p = .error (p.faultAt (.unexpected p.current)) p := by
  have hsigned := signed_refuses descend p h
  have hpower : power descend p = _ := bind_error hsigned
  have hmultiplicative : multiplicative descend p = _ := bind_error hpower
  have hadditive : additive descend p = _ := bind_error hmultiplicative
  have hrelation : relation descend p = _ := bind_error hadditive
  have hequality : equality descend p = _ := bind_error hrelation
  have hand : and descend p = _ := bind_error hequality
  have hor : or descend p = _ := bind_error hand
  cases l with
  | conditional => exact bind_error hor
  | or => exact hor
  | and => exact hand
  | equality => exact hequality
  | relation => exact hrelation
  | power => exact hpower
  | signed => exact hsigned

end

/-- A parser stands at a token that no expression starts with, or in front of a fault. -/
def Dead (p : Parser) : Prop :=
  p.current.startsExpression = false ∨ p.lexer.Stuck

/-- There is no expression ahead of a dead parser, and it stays one. -/
theorem Dead.expression (h : p.Dead) : ∃ e q, expression p = .error e q ∧ q.Dead := by
  rcases h with refused | stuck
  · have failed : ∃ e, nested p.limit .conditional p = .error e p := by
      cases p.limit with
      | zero => exact ⟨_, rfl⟩
      | succ room => exact ⟨_, level_refuses (nested room) p refused .conditional⟩
    obtain ⟨e, failed⟩ := failed
    exact ⟨e, p, failed, .inl refused⟩
  · have halts := halts_expression p
    have outcome : Outcome .conditional p.limit p (Parser.expression p) :=
      nested_outcome p.limit .conditional p
    cases result : Parser.expression p with
    | error e q =>
      rw [result] at halts
      exact ⟨e, q, rfl, .inr (halts.1 stuck)⟩
    | ok t q =>
      rw [result] at outcome
      obtain ⟨ts, passes, derives, -⟩ := outcome
      obtain ⟨a, us, rfl, -⟩ := derives.head trivial
      -- An expression has a token to move on from.
      cases passes with
      | more next _ => exact absurd next stuck.not_next

theorem Dead.run (h : p.Dead) (request : Request) :
    ∃ e q, request.run p = .error e q ∧ q.Dead := by
  obtain ⟨e, q, failed, dead⟩ := h.expression
  cases request with
  | part => exact ⟨e, q, failed, dead⟩
  | whole => exact ⟨e, q, bind_error failed, dead⟩

/-- Where a request leaves a parser, whatever the answer is. -/
def Request.leave (request : Request) (p : Parser) : Parser :=
  match request.run p with
  | .ok _ q | .error _ q => q

/-- Where some requests leave a parser, whatever the answers are. -/
def after (p : Parser) (requests : List Request) : Parser :=
  requests.foldl (fun p request => request.leave p) p

theorem Dead.after {p : Parser} (h : p.Dead) (requests : List Request) :
    (p.after requests).Dead := by
  induction requests generalizing p with
  | nil => exact h
  | cons request requests ih =>
    obtain ⟨e, q, failed, dead⟩ := h.run request
    have left : request.leave p = q := by rw [Request.leave, failed]
    have step : p.after (request :: requests) = q.after requests := by
      rw [Parser.after, List.foldl_cons, left, Parser.after]
    rw [step]
    exact ih dead

/-- Once a request has failed for a lexical fault, all later ones fail, however many there are, with
one exception. If the fault is an exponent without digits and the current token can start an
expression, the next request goes on from this token to the mark of the exponent, which it takes for
a name. -/
theorem run_after_lexical (p q : Parser) (request : Request) (e : SyntaxError)
    (fault : LexicalFault) (failed : request.run p = .error e q)
    (lexical : e.fault = .lexical fault) :
    (fault ≠ .noExponent ∨ q.current.startsExpression = false → ∀ later last,
      ∃ e' r, Request.run last (q.after later) = .error e' r) ∧
    (fault = .noExponent → ∃ name after, Lexer.next q.lexer = .ok (.identifier name) after ∧
      (name.toList.head? = some 'e' ∨ name.toList.head? = some 'E')) := by
  have halts := halts_run request p
  rw [failed] at halts
  obtain ⟨before, le, met, rfl⟩ := halts.2 fault lexical
  refine ⟨fun lost later last => ?_, Lexer.next_of_noExponent met⟩
  have dead : q.Dead := by
    rcases lost with other | refused
    · exact .inr (Lexer.stuck_of_error met other)
    · exact .inl refused
  obtain ⟨e', r, failed', -⟩ := (dead.after later).run last
  exact ⟨e', r, failed'⟩

/-- The parser that stumbles over a point without digits behind a sign. -/
def stumbled : Parser :=
  ⟨⟨"1+2.x", ".x".toList, 3, 2⟩, .plus, 4⟩

/-- What stands behind the point is never read. -/
theorem run_after_lexical_point :
    ∃ e r, Request.whole.run (stumbled.after [.part, .whole]) = .error e r := by
  have failed : Request.part.run ⟨⟨"1+2.x", "+2.x".toList, 1, 0⟩, .number "1", 4⟩ =
      .error ⟨"1+2.x", .lexical .noFraction, 3⟩ stumbled := by cbv
  exact (run_after_lexical _ _ _ _ _ failed rfl).1 (.inl (by decide)) [.part, .whole] .whole

/-- The mark of an exponent without digits is taken for a variable, which has the sign that was read
before it. -/
theorem run_after_mark : ∃ p e q r, start? 4 (.ofText "1+2e") = .ok p ∧
    Request.part.run p = .error e q ∧ e.fault = .lexical .noExponent ∧
    Request.whole.run q = .ok (.operator (.sign .plus) [.leaf .identifier "e"]) r :=
  ⟨⟨⟨"1+2e", "+2e".toList, 1, 0⟩, .number "1", 4⟩, ⟨"1+2e", .lexical .noExponent, 3⟩,
    ⟨⟨"1+2e", "e".toList, 3, 2⟩, .plus, 4⟩, ⟨⟨"1+2e", [], 4, 4⟩, .finish, 4⟩,
    by cbv, by cbv, rfl, by cbv⟩

end Parser
end Formula
