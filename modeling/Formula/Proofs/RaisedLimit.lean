import Formula.Proofs.Verdict
import Mathlib

namespace Formula
namespace Parser

/-- The parser with another limit. -/
def raise (limit : Nat) (p : Parser) : Parser := { p with limit }

theorem raise_lexer (limit : Nat) (p : Parser) : (p.raise limit).lexer = p.lexer := rfl

theorem raise_current (limit : Nat) (p : Parser) : (p.raise limit).current = p.current := rfl

/-- How many tokens can still be used up, the current one being the first. Each takes a character,
and the end of the text is never used up. -/
def unread (p : Parser) : Nat :=
  p.lexer.rest.length + if p.current = .finish then 0 else 1

theorem Passes.unread_lt (h : Passes p [p.current] q) (hf : p.current ≠ .finish) :
    q.unread < p.unread := by
  cases h with
  | more next others =>
    cases others with
    | none =>
      rename_i word after
      have hle := Lexer.next_length_le next
      by_cases hw : word = .finish
      · simp only [unread, hw, hf, ↓reduceIte]
        omega
      · have hlt := Lexer.next_length_lt next hw
        simp only [unread, hw, hf, ↓reduceIte]
        omega

/-- A step goes to the same place whatever the limit is. -/
theorem Passes.raise {limit : Nat} (h : Passes p [p.current] q)
    (h' : Passes (p.raise limit) [p.current] r) :
    r = q.raise limit := by
  cases h with
  | more next others =>
    cases others
    generalize hp : p.raise limit = p' at h'
    generalize hs : [p.current] = ts at h'
    cases h' with
    | none => cases hs
    | more next' others' =>
      subst hp
      cases hs
      cases others'
      cases next.symm.trans next'
      rfl

/-- Reading with some room and reading with another limit end alike, and no more tokens are unread
than before. Or else the room is used up, which takes a token for each level. -/
inductive Raised (limit room : Nat) (p : Parser) :
    EStateM.Result SyntaxError Parser α → EStateM.Result SyntaxError Parser α → Prop where
  | ok (fewer : q.unread ≤ p.unread) : Raised limit room p (.ok a q) (.ok a (q.raise limit))
  | error (shallow : ∀ n, e.fault ≠ .tooDeep n) : Raised limit room p (.error e q) (.error e r)
  | tooDeep (deep : e.fault = .tooDeep n) (used : room ≤ p.unread) :
      Raised limit room p (.error e q) result

/-- Reading from any state ends alike with another limit. -/
def Raises (limit room : Nat) (read read' : Parse α) : Prop :=
  ∀ p, Raised limit room p (read p) (read' (p.raise limit))

namespace Raised

variable {limit room room' : Nat} {read read' : Parse α} {sequel sequel' : α → Parse Node}
  {step : Parse Unit}
  {onward onward' : Unit → Parse Node} {result result' : EStateM.Result SyntaxError Parser Node}

/-- What is read later has less room, and fewer tokens are unread. -/
theorem later (h : Raised limit room' q result result') (hq : q.unread ≤ p.unread)
    (hroom : room' ≤ q.unread → room ≤ p.unread) : Raised limit room p result result' := by
  cases h with
  | ok fewer => exact .ok (Nat.le_trans fewer hq)
  | error shallow => exact .error shallow
  | tooDeep deep used => exact .tooDeep deep (hroom used)

theorem bind (h : Raised limit room' q (read q) (read' (q.raise limit)))
    (hroom : room' ≤ q.unread → room ≤ p.unread)
    (rest : ∀ a r, r.unread ≤ q.unread →
      Raised limit room p (sequel a r) (sequel' a (r.raise limit))) :
    Raised limit room p ((read >>= sequel) q) ((read' >>= sequel') (q.raise limit)) := by
  generalize hr' : read' (q.raise limit) = result' at h
  cases hr : read q with
  | ok a r =>
    rw [hr] at h
    rw [bind_ok hr]
    cases h with
    | ok fewer =>
      rw [bind_ok hr']
      exact rest a r fewer
  | error e r =>
    rw [hr] at h
    rw [bind_error hr]
    cases h with
    | error shallow =>
      rw [bind_error hr']
      exact .error shallow
    | tooDeep deep used => exact .tooDeep deep (hroom used)

/-- Moving on from a token uses it up. -/
theorem move (moves : Moves step) (hf : q.current ≠ .finish)
    (rest : ∀ r, r.unread < q.unread →
      Raised limit room p (onward () r) (onward' () (r.raise limit))) :
    Raised limit room p ((step >>= onward) q) ((step >>= onward') (q.raise limit)) := by
  rcases moves q with ⟨r, hr, hs⟩ | ⟨e, after, r, hn, hs⟩
  · rcases moves (q.raise limit) with ⟨r', hr', hs'⟩ | ⟨e, after, r', hn', -⟩
    · obtain rfl := hr.raise hr'
      rw [bind_ok hs, bind_ok hs']
      exact rest r (hr.unread_lt hf)
    · cases hr with
      | more next others => cases next.symm.trans hn'
  · rcases moves (q.raise limit) with ⟨r', hr', -⟩ | ⟨e', after', r', hn', hs'⟩
    · cases hr' with
      | more next others => cases hn.symm.trans next
    · cases hn.symm.trans hn'
      rw [bind_error hs, bind_error hs']
      exact .error fun n hn => by cases hn

theorem expect (hw : wanted ≠ .finish)
    (rest : ∀ r, r.unread < q.unread →
      Raised limit room p (onward () r) (onward' () (r.raise limit))) :
    Raised limit room p ((Parser.expect wanted >>= onward) q)
      ((Parser.expect wanted >>= onward') (q.raise limit)) := by
  by_cases hc : q.current = wanted
  · have hstep : ∀ {next : Unit → Parse Node} {s : Parser}, s.current = wanted →
        (Parser.expect wanted >>= next) s = (advance >>= next) s := by
      intro next s hs
      cases ha : advance s with
      | ok u r => rw [bind_ok ha, bind_ok ((expect_of_eq hs).trans ha)]
      | error e r => rw [bind_error ha, bind_error ((expect_of_eq hs).trans ha)]
    rw [hstep hc, hstep (s := q.raise limit) hc]
    exact move moves_advance (hc ▸ hw) rest
  · have hc' : (q.raise limit).current ≠ wanted := hc
    rw [bind_error (expect_of_ne hc), bind_error (expect_of_ne hc')]
    exact .error fun n hn => by cases hn

end Raised

/-! Each level ends alike when the levels that it nests do, which have one level of room less. -/

section

variable {limit room : Nat} {descend descend' : Level → Parse Node}

theorem finish_of_table (r : Rank) : table r .finish = none := by
  cases r <;> rfl

theorem rightward_raises {operand operand' : Parse Node} {again : Level} (r : Rank)
    (ho : Raises limit (room + 1) operand operand')
    (ha : Raises limit room (descend again) (descend' again)) :
    Raises limit (room + 1) (rightward descend operand again (table r))
      (rightward descend' operand' again (table r)) := by
  intro p
  refine (ho p).bind id ?_
  intro left q hq
  rw [peek_bind, peek_bind, raise_current]
  cases hop : table r q.current with
  | none => exact .ok hq
  | some op =>
    have hf : q.current ≠ .finish := fun hf => by simp [hf, finish_of_table] at hop
    refine .move moves_advance hf fun q' hq' => ?_
    refine (ha q').bind (by omega) fun right s hs => ?_
    exact .ok (by omega)

theorem joined_raises {operand operand' : Parse Node} (r : Rank)
    (ho : Raises limit room operand operand') (unread : List Char) (left : Node) :
    Raises limit room (joined operand (table r) left unread)
      (joined operand' (table r) left unread) := by
  intro p
  unfold joined
  rw [peek_bind, peek_bind, raise_current]
  cases hop : table r p.current with
  | none => exact .ok (Nat.le_refl _)
  | some op =>
    have hf : p.current ≠ .finish := fun hf => by simp [hf, finish_of_table] at hop
    refine .move moves_advance hf fun q hq => ?_
    refine (ho q).bind (by omega) fun right s hs => ?_
    cases unread with
    | nil => exact .ok (by omega)
    | cons c unread => exact (joined_raises r ho unread _ s).later (by omega) (by omega)
termination_by unread.length

theorem leftward_raises {operand operand' : Parse Node} (r : Rank)
    (ho : Raises limit room operand operand') :
    Raises limit room (leftward operand (table r)) (leftward operand' (table r)) := by
  intro p
  refine (ho p).bind id fun left q hq => ?_
  rw [get_bind, get_bind, raise_lexer]
  exact (joined_raises r ho _ left q).later hq (by omega)

theorem conditional_raises (ho : Raises limit (room + 1) (or descend) (or descend'))
    (hd : Raises limit room (descend .conditional) (descend' .conditional)) :
    Raises limit (room + 1) (conditional descend) (conditional descend') := by
  intro p
  refine (ho p).bind id fun condition q hq => ?_
  rw [peek_bind, peek_bind, raise_current]
  by_cases hc : q.current = .question
  · rw [if_pos hc, if_pos hc]
    refine .move moves_advance (by simp [hc]) fun q₁ h₁ => ?_
    refine (hd q₁).bind (by omega) fun yes q₂ h₂ => ?_
    refine .expect (by simp) fun q₃ h₃ => ?_
    refine (hd q₃).bind (by omega) fun no q₄ h₄ => ?_
    exact .ok (by omega)
  · rw [if_neg hc, if_neg hc]
    exact .ok hq

theorem group_raises (hd : Raises limit room (descend .conditional) (descend' .conditional))
    (closing : Token) (hc : closing ≠ .finish) (p : Parser) (hf : p.current ≠ .finish) :
    Raised limit (room + 1) p (group descend closing p)
      (group descend' closing (p.raise limit)) := by
  refine .move moves_consume hf fun q hq => ?_
  refine (hd q).bind (by omega) fun inner q₁ h₁ => ?_
  refine .expect hc fun q₂ h₂ => ?_
  exact .ok (by omega)

theorem arguments_raises (hd : Raises limit room (descend .conditional) (descend' .conditional))
    (unread : List Char) (last : Node) (earlier : List Node) :
    Raises limit room (arguments descend last earlier unread)
      (arguments descend' last earlier unread) := by
  intro p
  unfold arguments
  rw [peek_bind, peek_bind, raise_current]
  by_cases hc : p.current = .comma
  · rw [if_pos hc, if_pos hc]
    refine .move moves_advance (by simp [hc]) fun q hq => ?_
    refine (hd q).bind (by omega) fun argument s hs => ?_
    cases unread with
    | nil => exact .ok (by omega)
    | cons c unread => exact (arguments_raises hd unread _ _ s).later (by omega) (by omega)
  · rw [if_neg hc, if_neg hc]
    exact .ok (Nat.le_refl _)
termination_by unread.length

theorem call_raises (hd : Raises limit room (descend .conditional) (descend' .conditional))
    (name : String) (p : Parser) (hc : p.current = .leftParen) :
    Raised limit (room + 1) p (call descend name p) (call descend' name (p.raise limit)) := by
  refine .move moves_advance (by simp [hc]) fun q hq => ?_
  rw [peek_bind, peek_bind, raise_current]
  by_cases hr : q.current = .rightParen
  · rw [if_pos hr, if_pos hr]
    refine .move moves_advance (by simp [hr]) fun q₁ h₁ => ?_
    exact .ok (by omega)
  · rw [if_neg hr, if_neg hr]
    refine (hd q).bind (by omega) fun first q₁ h₁ => ?_
    rw [get_bind, get_bind, raise_lexer]
    refine (arguments_raises hd _ first [] q₁).bind (by omega) fun all q₂ h₂ => ?_
    refine .expect (by simp) fun q₃ h₃ => ?_
    exact .ok (by omega)

theorem atom_raises (hd : Raises limit room (descend .conditional) (descend' .conditional)) :
    Raises limit (room + 1) (atom descend) (atom descend') := by
  intro p
  unfold atom
  rw [peek_bind, peek_bind, raise_current]
  cases hc : p.current with
  | number text =>
    refine .move moves_consume (by simp [hc]) fun q hq => ?_
    exact .ok (by omega)
  | identifier name =>
    refine .move moves_consume (by simp [hc]) fun q hq => ?_
    rw [peek_bind, peek_bind, raise_current]
    by_cases hq' : q.current = .leftParen
    · rw [if_pos hq', if_pos hq']
      exact (call_raises hd name q hq').later (by omega) (by omega)
    · rw [if_neg hq', if_neg hq']
      exact .ok (by omega)
  | leftParen => exact group_raises hd .rightParen (by simp) p (by simp [hc])
  | leftBracket => exact group_raises hd .rightBracket (by simp) p (by simp [hc])
  | leftBrace => exact group_raises hd .rightBrace (by simp) p (by simp [hc])
  | _ => exact .error fun n hn => by cases hn

theorem signed_raises (hd : ∀ l, Raises limit room (descend l) (descend' l)) :
    Raises limit (room + 1) (signed descend) (signed descend') := by
  intro p
  unfold signed
  rw [peek_bind, peek_bind, raise_current]
  cases hs : signOf? p.current with
  | some s =>
    have hf : p.current ≠ .finish := fun hf => by simp [hf, signOf?] at hs
    refine .move moves_advance hf fun q hq => ?_
    refine (hd .signed q).bind (by omega) fun operand r hr => ?_
    exact .ok (by omega)
  | none => exact atom_raises (hd .conditional) p

theorem level_raises (hd : ∀ l, Raises limit room (descend l) (descend' l)) (l : Level) :
    Raises limit (room + 1) (level descend l) (level descend' l) := by
  have hsigned := signed_raises hd
  have hpower : Raises limit (room + 1) (power descend) (power descend') :=
    rightward_raises .power hsigned (hd .power)
  have hmultiplicative : Raises limit (room + 1) (multiplicative descend)
      (multiplicative descend') := leftward_raises .multiplicative hpower
  have hadditive : Raises limit (room + 1) (additive descend) (additive descend') :=
    leftward_raises .additive hmultiplicative
  have hrelation : Raises limit (room + 1) (relation descend) (relation descend') :=
    rightward_raises .relation hadditive (hd .relation)
  have hequality : Raises limit (room + 1) (equality descend) (equality descend') :=
    rightward_raises .equality hrelation (hd .equality)
  have hand : Raises limit (room + 1) (and descend) (and descend') :=
    rightward_raises .and hequality (hd .and)
  have hor : Raises limit (room + 1) (or descend) (or descend') :=
    rightward_raises .or hand (hd .or)
  cases l with
  | conditional => exact conditional_raises hor (hd .conditional)
  | or => exact hor
  | and => exact hand
  | equality => exact hequality
  | relation => exact hrelation
  | power => exact hpower
  | signed => exact hsigned

end

/-- Reading with more room ends alike unless the smaller room is used up. -/
theorem nested_raises (limit : Nat) (h : room ≤ room') (l : Level) :
    Raises limit room (nested room l) (nested room' l) := by
  induction room generalizing room' l with
  | zero => exact fun p => .tooDeep rfl (Nat.zero_le _)
  | succ room ih =>
    obtain ⟨more, rfl⟩ := Nat.exists_eq_add_of_le' h
    exact level_raises (fun l => ih (Nat.le_add_left room more) l) l

theorem parse_raises (limit : Nat) (p : Parser) (h : p.limit ≤ limit) :
    Raised limit p.limit p (parse p) (parse (p.raise limit)) := by
  have hexpression : Raised limit p.limit p (expression p) (expression (p.raise limit)) :=
    nested_raises limit h .conditional p
  refine hexpression.bind id fun root q hq => ?_
  rw [peek_bind, peek_bind, raise_current]
  cases hc : q.current with
  | finish => exact .ok hq
  | _ => exact .error fun n hn => by cases hn

theorem start?_raise {limit : Nat} {lexer : Lexer} (limit' : Nat) (h : start? limit lexer = .ok p) :
    start? limit' lexer = .ok (p.raise limit') := by
  obtain ⟨hn, -⟩ := start?_ok h
  rw [start?, hn]
  rfl

theorem start?_error {limit : Nat} {lexer : Lexer} (limit' : Nat)
    (h : start? limit lexer = .error e) : start? limit' lexer = .error e := by
  obtain ⟨cause, after, hn, rfl⟩ := start?_failed h
  rw [start?, hn]

theorem lexical_of_start?_error {limit : Nat} {lexer : Lexer} (h : start? limit lexer = .error e) :
    ∃ fault, e.fault = .lexical fault := by
  obtain ⟨cause, after, -, rfl⟩ := start?_failed h
  exact ⟨cause.fault, rfl⟩

/-- Every token takes a character, the first one included. -/
theorem unread_start?_le {limit : Nat} {lexer : Lexer} (h : start? limit lexer = .ok p) :
    p.unread ≤ lexer.rest.length := by
  obtain ⟨hn, -⟩ := start?_ok h
  have hle := Lexer.next_length_le hn
  by_cases hf : p.current = .finish
  · simp only [unread, hf, ↓reduceIte]
    omega
  · have hlt := Lexer.next_length_lt hn hf
    simp only [unread, hf, ↓reduceIte]
    omega

end Parser

namespace Builder

/-- Either a text is not nested too deep for a limit and is read alike with any larger one, or it
has a character for each level of the limit. -/
theorem parse_raises (builder : Builder V F) (text : String) (h : m ≤ n) :
    ({ builder with limit := n }.parse text = { builder with limit := m }.parse text ∧
      ∀ e limit, { builder with limit := m }.parse text = .error e → e.fault ≠ .tooDeep limit) ∨
    (m ≤ text.length ∧
      ∃ e limit, { builder with limit := m }.parse text = .error e ∧ e.fault = .tooDeep limit) := by
  unfold parse
  cases hs : Parser.start? m (.ofText text) with
  | error e =>
    rw [Parser.start?_error n hs]
    obtain ⟨fault, hfault⟩ := Parser.lexical_of_start?_error hs
    refine .inl ⟨rfl, ?_⟩
    rintro e' limit he hdeep
    cases he
    cases hfault.symm.trans hdeep
  | ok p =>
    have hlimit : p.limit = m := (Parser.start?_ok hs).2
    have hr := Parser.parse_raises n p (hlimit ▸ h)
    simp only [Parser.start?_raise n hs, bind, Except.bind]
    generalize hp : Parser.parse p = result at hr
    generalize hq : Parser.parse (p.raise n) = result' at hr
    cases hr with
    | ok fewer => exact .inl ⟨rfl, fun e limit he => by cases he⟩
    | error shallow =>
      refine .inl ⟨rfl, ?_⟩
      rintro e limit he
      cases he
      exact shallow limit
    | tooDeep deep used =>
      have hlength : (Lexer.ofText text).rest.length = text.length := String.length_toList
      have hunread := Parser.unread_start?_le hs
      exact .inr ⟨by omega, _, _, rfl, deep⟩

/-- Raising the limit changes nothing where it has not been exceeded, and a limit of more levels
than the text has characters never is. -/
theorem parse_raised (builder : Builder V F) (text : String) :
    (∀ m n, m ≤ n →
      (∀ e limit, { builder with limit := m }.parse text = .error e → e.fault ≠ .tooDeep limit) →
      { builder with limit := n }.parse text = { builder with limit := m }.parse text) ∧
    (∀ m, text.length < m → ∀ e limit, { builder with limit := m }.parse text = .error e →
      e.fault ≠ .tooDeep limit) ∧
    ∀ m n, text.length < m → m ≤ n →
      { builder with limit := n }.parse text = { builder with limit := m }.parse text := by
  refine ⟨?_, ?_, ?_⟩
  · intro m n h shallow
    rcases parse_raises builder text h with ⟨hsame, -⟩ | ⟨-, e, limit, he, hdeep⟩
    · exact hsame
    · exact absurd hdeep (shallow e limit he)
  · intro m hm
    rcases parse_raises builder text (Nat.le_refl m) with ⟨-, shallow⟩ | ⟨hle, -⟩
    · exact shallow
    · omega
  · intro m n hm h
    rcases parse_raises builder text h with ⟨hsame, -⟩ | ⟨hle, -⟩
    · exact hsame
    · omega

/-- Two levels are enough to find the bracket that is missing, and one level is not. -/
theorem parse_raised_unclosed :
    (({ limit := 300 } : Builder Empty Empty).parse "[1+2" =
      ({ limit := 2 } : Builder Empty Empty).parse "[1+2") ∧
    (∀ e limit, ({ limit := 5 } : Builder Empty Empty).parse "[1+2" = .error e →
      e.fault ≠ .tooDeep limit) ∧
    ({ limit := 2 } : Builder Empty Empty).parse "[1+2" =
      .error ⟨"[1+2", .expected .rightBracket .finish, 4⟩ ∧
    ({ limit := 1 } : Builder Empty Empty).parse "[1+2" = .error ⟨"[1+2", .tooDeep 1, 1⟩ := by
  have h := parse_raised (V := Empty) (F := Empty) .empty "[1+2"
  have hmissing : ({ limit := 2 } : Builder Empty Empty).parse "[1+2" =
      .error ⟨"[1+2", .expected .rightBracket .finish, 4⟩ := by cbv
  refine ⟨h.1 2 300 (by decide) ?_, h.2.1 5 (by decide), hmissing, by cbv⟩
  intro e limit he hdeep
  cases hmissing.symm.trans he
  cases hdeep

end Builder
end Formula
