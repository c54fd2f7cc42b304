import Formula.Proofs.LevelCount
import Formula.Proofs.MovedReading

namespace Formula

/-- Some tokens are read, the end of the text among them or not. -/
inductive Lexer.Advances : Lexer → Lexer → Prop where
  | none : Advances lexer lexer
  | more (first : next lexer = .ok t after) (others : Advances after last) : Advances lexer last

theorem Lexer.Advances.aligned (h : Advances lexer last) (aligned : lexer.Aligned) :
    last.Aligned := by
  induction h with
  | none => exact aligned
  | more first _ ih => exact ih (aligned.next first)

theorem Lexer.Advances.source (h : Advances lexer last) : last.source = lexer.source := by
  induction h with
  | none => rfl
  | more first _ ih => rw [ih, next_source first]

/-- Of two rows of tokens that are read from one place, one goes on where the other ends. -/
theorem Lexer.Reads.longer (h : Reads lexer ts mid) (h' : Reads lexer us last) : us <+: ts ∨
    ∃ found after vs, next mid = .ok found after ∧ found ≠ .finish ∧ us = ts ++ found :: vs := by
  induction h generalizing us with
  | none =>
    cases h' with
    | none => exact .inl List.prefix_rfl
    | more first word _ => exact .inr ⟨_, _, _, first, word, rfl⟩
  | more first _ _ ih =>
    cases h' with
    | none => exact .inl List.nil_prefix
    | more first' _ others =>
      cases first.symm.trans first'
      rcases ih others with start | ⟨found, after, vs, next, word, rfl⟩
      · exact .inl (List.cons_prefix_cons.mpr ⟨rfl, start⟩)
      · exact .inr ⟨found, after, vs, next, word, rfl⟩

namespace Parser

/-! Where a parser stands after it has read something, or has failed to. -/

/-- A fault is at the current token, which it names unless it is about nesting. -/
def Refuses (q : Parser) (e : SyntaxError) : Prop :=
  e = q.faultAt e.fault ∧ (Names e.fault q.current ∨ e.fault = .tooDeep q.limit)

/-- Reading has moved on over some tokens, also where it has failed, if not for a lexical fault. -/
def Settled (p : Parser) : EStateM.Result SyntaxError Parser α → Prop
  | .ok _ q => ∃ ts, Passes p ts q
  | .error e q => q.limit = p.limit ∧
      ((∃ fault, e.fault = .lexical fault) ∨ ∃ ts, Passes p ts q ∧ q.Refuses e)

/-- What a parser can be asked for: an expression up to the end of the text, or one as far as it
goes. -/
inductive Request where
  | whole
  | part
deriving DecidableEq

def Request.run : Request → Parse Node
  | whole => parse
  | part => expression

/-- Requests lead from one state to another. Some may have been refused, but none for a lexical
fault. -/
inductive Session : Parser → List Request → Parser → Prop where
  | none : Session p [] p
  | answered (first : request.run p = .ok t q) (others : Session q requests r) :
      Session p (request :: requests) r
  | refused (first : request.run p = .error e q) (lexed : ∀ fault, e.fault ≠ .lexical fault)
      (others : Session q requests r) : Session p (request :: requests) r

/-- A parser has moved on over some tokens that form a sentence, and no more of the tokens ahead of
it do. -/
def Consumes (p : Parser) (t : Node) (q : Parser) : Prop :=
  ∃ ts last, Passes p ts q ∧ Lexer.Reads (.ofText p.ahead) ts last ∧ Sentence ts t ∧
    ∀ us u last', Lexer.Reads (.ofText p.ahead) us last' → Sentence us u → us <+: ts

/-- A parser answers a request as one that is started at its current token, but for the place of a
fault. All levels are left to it, and are again when it has answered. Unless it comes upon a lexical
fault it then stands behind the longest expression, or in front of the token that it refuses. -/
structure Resumes (text : String) (limit : Nat) (q : Parser) (request : Request) : Prop where
  afresh : ∃ fresh, start? limit (.ofText q.ahead) = .ok fresh ∧
    q = fresh.moved text q.lexer.tokenStart ∧
    request.run q = answerMoved text q.lexer.tokenStart (request.run fresh)
  levels : q.limit = limit ∧
    ∀ rounds, limit ≤ rounds → counted limit rounds .conditional q = expression q
  answered : ∀ t r, request.run q = .ok t r →
    r.limit = limit ∧ (request = .part → q.Consumes t r)
  refused : ∀ e r, request.run q = .error e r → r.limit = limit ∧
    ((∃ fault, e.fault = .lexical fault) ∨ r.Refuses e)

variable {p q : Parser}

theorem Settled.later {result : EStateM.Result SyntaxError Parser α} (passes : Passes p ts q)
    (h : Settled q result) : Settled p result := by
  cases result with
  | ok a r =>
    obtain ⟨us, passes'⟩ := h
    exact ⟨_, passes.append passes'⟩
  | error e r =>
    obtain ⟨same, lexical | ⟨us, passes', refuses⟩⟩ := h
    · exact ⟨same.trans passes.limit, .inl lexical⟩
    · exact ⟨same.trans passes.limit, .inr ⟨_, passes.append passes', refuses⟩⟩

/-! How moving on ends, whatever the current token is taken for meanwhile. -/

theorem advance_ok (next : Lexer.next p.lexer = .ok t after) (current : Token) :
    advance { p with current } = .ok () { p with lexer := after, current := t } := by
  simp only [advance, next]

theorem advance_error (next : Lexer.next p.lexer = .error e after) (current : Token) :
    advance { p with current } =
      .error (lexicalError after e) { p with lexer := after, current } := by
  simp only [advance, next]

theorem settled_advance (current : Token) (p : Parser) :
    Settled p (advance { p with current }) := by
  cases hn : Lexer.next p.lexer with
  | ok t after =>
    rw [advance_ok hn]
    exact ⟨_, .more hn .none⟩
  | error e after =>
    rw [advance_error hn]
    exact ⟨rfl, .inl ⟨e.fault, rfl⟩⟩

/-- What is read in parallel with itself by this relation settles. -/
def settling : Parallel where
  Holds p read _ := Settled p (read p)
  of_pure _ := ⟨[], .none⟩
  of_bind := by
    intro α β p x y f g first rest
    cases hx : x p with
    | ok a q =>
      rw [hx] at first
      obtain ⟨ts, passes⟩ := first
      rw [bind_ok hx]
      exact (rest a q).later passes
    | error e q =>
      rw [hx] at first
      rw [bind_error hx]
      exact first
  of_peek holds := holds
  of_unread _ holds := holds
  of_fail names := ⟨rfl, .inr ⟨[], .none, rfl, .inl names⟩⟩
  of_advance := fun {p} => settled_advance p.current p
  of_consume := fun {p} => settled_advance .finish p

theorem settled_nested (room : Nat) (l : Level) (p : Parser) : Settled p (nested room l p) := by
  have deep : ∀ l, settling.Always (nested 0 l) (nested 0 l) :=
    fun l p => ⟨rfl, .inr ⟨[], .none, rfl, .inr rfl⟩⟩
  exact settling.of_nested deep room l p

theorem settled_expression (p : Parser) : Settled p (expression p) :=
  settled_nested p.limit .conditional p

theorem settled_parse (p : Parser) : Settled p (parse p) :=
  settling.of_parse settled_expression p

theorem settled_run {request : Request} (h : request.run p = result) : Settled p result := by
  subst h
  cases request with
  | whole => exact settled_parse p
  | part => exact settled_expression p

theorem run_moved (request : Request) (text : String) (offset : Nat) (p : Parser) :
    request.run (p.moved text offset) = answerMoved text offset (request.run p) := by
  cases request with
  | whole => exact parse_moving text offset p
  | part => exact expression_moving text offset p

theorem Session.passes (h : Session p requests q) : ∃ ts, Passes p ts q := by
  induction h with
  | none => exact ⟨[], .none⟩
  | answered first _ ih =>
    obtain ⟨ts, passes⟩ := settled_run first
    obtain ⟨us, passes'⟩ := ih
    exact ⟨_, passes.append passes'⟩
  | refused first lexed _ ih =>
    obtain ⟨-, ⟨fault, lexical⟩ | ⟨ts, passes, -⟩⟩ := settled_run first
    · exact absurd lexical (lexed fault)
    · obtain ⟨us, passes'⟩ := ih
      exact ⟨_, passes.append passes'⟩

/-- The expression that is read is the longest one ahead. -/
theorem Stands.consumes (h : p.Stands) (read : expression p = .ok t q) : p.Consumes t q := by
  obtain ⟨fresh, start, same⟩ := h.start
  obtain ⟨next, -⟩ := start?_ok start
  have moved : expression (fresh.moved p.lexer.source p.lexer.tokenStart) =
      answerMoved p.lexer.source p.lexer.tokenStart (expression fresh) :=
    expression_moving p.lexer.source p.lexer.tokenStart fresh
  rw [← same, read] at moved
  have outcome : Outcome .conditional fresh.limit fresh (expression fresh) :=
    nested_outcome fresh.limit .conditional fresh
  cases hr : expression fresh with
  | error e r =>
    rw [hr] at moved
    cases moved
  | ok u r =>
    rw [hr] at moved outcome
    cases moved
    obtain ⟨ts, passes, derives, stops, -⟩ := outcome
    obtain ⟨last, reads, found⟩ := passes.reads next derives.finish_not_mem
    have passes' := passes.moved p.lexer.source p.lexer.tokenStart
    rw [← same] at passes'
    refine ⟨ts, last, passes', reads, derives.behind (by simp), ?_⟩
    · intro us u last' reads' sentence
      rcases reads.longer reads' with start | ⟨t', after, vs, next', word, rfl⟩
      · exact start
      · cases found.symm.trans next'
        refine absurd ?_ (not_starts_behind derives stops word _ u sentence)
        simp

/-- However a parser has come where it stands, it goes on as one that is started there. -/
theorem session_resumes (text : String) (lexer : Lexer) (limit : Nat) (p q : Parser)
    (requests : List Request) (advances : (Lexer.ofText text).Advances lexer)
    (start : start? limit lexer = .ok p) (earlier : Session p requests q) (request : Request) :
    Resumes text limit q request := by
  obtain ⟨next, rfl⟩ := start?_ok start
  obtain ⟨ts, passes⟩ := earlier.passes
  have stands : q.Stands :=
    passes.stands (stands_of_start? (advances.aligned (Lexer.aligned_ofText text)) start)
  have source : q.lexer.source = text := by
    rw [passes.source, Lexer.next_source next, advances.source]
    rfl
  obtain ⟨fresh, started, same⟩ := stands.start
  rw [passes.limit] at started
  rw [source] at same
  refine ⟨⟨fresh, started, same, ?_⟩, ⟨passes.limit, ?_⟩, ?_, ?_⟩
  · have moved := run_moved request text q.lexer.tokenStart fresh
    rwa [← same] at moved
  · rw [← passes.limit]
    exact fun rounds h => counted_expression rounds h
  · intro t r read
    obtain ⟨us, passes'⟩ := settled_run read
    refine ⟨passes'.limit.trans passes.limit, ?_⟩
    rintro rfl
    exact stands.consumes read
  · intro e r failed
    obtain ⟨kept, lexical | ⟨us, -, refuses⟩⟩ := settled_run failed
    · exact ⟨kept.trans passes.limit, .inl lexical⟩
    · exact ⟨kept.trans passes.limit, .inr refuses⟩

/-- A parser in front of a bracket that is not closed. -/
def unclosed : Parser :=
  ⟨⟨"y (2 3 +", "2 3 +".toList, 3, 2⟩, .leftParen, 4⟩

/-- The parser in front of the token that stands in place of the closing bracket. -/
def misclosed : Parser :=
  ⟨⟨"y (2 3 +", " +".toList, 6, 5⟩, .number "3", 4⟩

theorem start?_unclosed : start? 4 ⟨"y (2 3 +", " (2 3 +".toList, 1, 0⟩ = .ok unclosed := by
  cbv

theorem run_unclosed : Request.part.run unclosed =
    .error ⟨"y (2 3 +", .expected .rightParen (.number "3"), 5⟩ misclosed := by
  cbv

theorem run_misclosed : Request.whole.run misclosed =
    .error ⟨"y (2 3 +", .unexpected .finish, 8⟩ ⟨⟨"y (2 3 +", [], 8, 8⟩, .finish, 4⟩ := by
  cbv

/-- After the refusal the next request starts at the number that the first one stumbled over. -/
theorem session_resumes_misclosed : misclosed.ahead = "3 +" ∧
    Resumes "y (2 3 +" 4 misclosed .whole ∧
    ∃ r, Request.whole.run misclosed = .error ⟨"y (2 3 +", .unexpected .finish, 8⟩ r := by
  have first : Lexer.next (.ofText "y (2 3 +") =
      .ok (.identifier "y") ⟨"y (2 3 +", " (2 3 +".toList, 1, 0⟩ := by cbv
  refine ⟨by decide, ?_, _, run_misclosed⟩
  exact session_resumes "y (2 3 +" _ 4 unclosed misclosed [.part] (.more first .none)
    start?_unclosed (.refused run_unclosed (by simp) .none) .whole

end Parser
end Formula
