import Formula.Parser
import Formula.Proofs.Openings
import Formula.Proofs.TokenStream

namespace Formula
namespace Parser

theorem bind_ok {x : Parse α} {f : α → Parse β} (h : x p = .ok a q) : (x >>= f) p = f a q := by
  simp [bind, EStateM.bind, h]

theorem bind_error {x : Parse α} {f : α → Parse β} (h : x p = .error e q) :
    (x >>= f) p = .error e q := by
  simp [bind, EStateM.bind, h]

theorem peek_bind (f : Token → Parse α) (p : Parser) : (peek >>= f) p = f p.current p := rfl

theorem get_bind (f : Parser → Parse α) (p : Parser) : (get >>= f) p = f p p := rfl

/-- A fault at the current token. -/
def faultAt (p : Parser) (fault : SyntaxFault) : SyntaxError :=
  ⟨p.lexer.source, fault, p.lexer.tokenStart⟩

theorem fail_apply (fault : SyntaxFault) (p : Parser) :
    (fail fault : Parse α) p = .error (p.faultAt fault) p := rfl

/-- Moving on over some tokens, the current one being the first, leads from one state to
another. -/
inductive Passes : Parser → List Token → Parser → Prop where
  | none : Passes p [] p
  | more (next : Lexer.next p.lexer = .ok t after)
      (others : Passes { p with lexer := after, current := t } ts q) : Passes p (p.current :: ts) q

namespace Passes

theorem append (h : Passes p ts q) (h' : Passes q us r) : Passes p (ts ++ us) r := by
  induction h with
  | none => exact h'
  | more next _ ih => exact .more next (ih h')

theorem limit (h : Passes p ts q) : q.limit = p.limit := by
  induction h with
  | none => rfl
  | more _ _ ih => exact ih

/-- The tokens passed and the one reached start with the current one. -/
theorem ahead (h : Passes p ts q) : ∃ us, ts ++ [q.current] = p.current :: us := by
  cases h with
  | none => exact ⟨[], rfl⟩
  | more _ _ => exact ⟨_, rfl⟩

theorem headD (h : Passes p ts q) : ts.headD q.current = p.current := by
  cases h with
  | none => rfl
  | more _ _ => rfl

theorem length_le (h : Passes p ts q) : q.lexer.rest.length ≤ p.lexer.rest.length := by
  induction h with
  | none => exact Nat.le_refl _
  | more next _ ih => exact Nat.le_trans ih (Lexer.next_length_le next)

/-- Each token that is passed behind the first one takes a character. -/
theorem length_lt (h : Passes p [a] q) (h' : Passes q ts r) (hts : ts ≠ [])
    (hf : Token.finish ∉ ts) : r.lexer.rest.length < p.lexer.rest.length := by
  have hle := h'.length_le
  cases h' with
  | none => exact absurd rfl hts
  | more next' others' =>
    cases h with
    | more next others =>
      cases others with
      | none =>
        simp only [List.mem_cons, not_or] at hf
        exact Nat.lt_of_le_of_lt hle (Lexer.next_length_lt next (Ne.symm hf.1))

/-- The lexer has read the tokens passed and the one reached. -/
theorem reads (h : Passes p ts q) (hp : Lexer.next start = .ok p.current p.lexer)
    (hts : Token.finish ∉ ts) :
    ∃ last, Lexer.Reads start ts last ∧ Lexer.next last = .ok q.current q.lexer := by
  induction h generalizing start with
  | none => exact ⟨start, .none, hp⟩
  | more next _ ih =>
    simp only [List.mem_cons, not_or] at hts
    obtain ⟨last, hr, hl⟩ := ih next hts.2
    exact ⟨last, .more hp (Ne.symm hts.1) hr, hl⟩

end Passes

/-- A step to the next token, if there is one. -/
def Moves (step : Parse Unit) : Prop :=
  ∀ p, (∃ q, Passes p [p.current] q ∧ step p = .ok () q) ∨
    ∃ e after q, Lexer.next p.lexer = .error e after ∧ step p = .error (lexicalError after e) q

theorem moves_advance : Moves advance := by
  intro p
  cases h : Lexer.next p.lexer with
  | ok t lexer => exact .inl ⟨_, .more h .none, by simp [advance, h]⟩
  | error e lexer => exact .inr ⟨e, lexer, _, rfl, by simp [advance, h]; rfl⟩

theorem consume_apply (p : Parser) : consume p = advance { p with current := .finish } := rfl

theorem moves_consume : Moves consume := by
  intro p
  rw [consume_apply]
  cases h : Lexer.next p.lexer with
  | ok t lexer => exact .inl ⟨_, .more h .none, by simp [advance, h]⟩
  | error e lexer => exact .inr ⟨e, lexer, _, rfl, by simp [advance, h]; rfl⟩

theorem expect_of_eq (h : p.current = wanted) : expect wanted p = advance p := by
  rw [expect, peek_bind, if_pos h]

theorem expect_of_ne (h : p.current ≠ wanted) :
    expect wanted p = .error (p.faultAt (.expected wanted p.current)) p := by
  rw [expect, peek_bind, if_neg h, fail_apply]

/-- How reading a phrase fails: at a lexical fault behind tokens that could be completed, at a token
that no phrase goes on with, or where all phrases that go on are nested too deep. -/
inductive Fails (φ : Phrase) (bound : Nat) (p : Parser) (e : SyntaxError) : Prop where
  | lexical (passes : Passes p ts q) (next : Lexer.next q.lexer = .error le after)
      (error : e = lexicalError after le) (viable : Viable φ (ts ++ [q.current]))
  | misplaced (passes : Passes p ts q) (error : e = q.faultAt fault)
      (found : fault = .unexpected q.current ∨ ∃ wanted, fault = .expected wanted q.current)
      (viable : Viable φ ts) (blocked : ∀ t, ¬ Starts φ (ts ++ [q.current]) t)
  | tooDeep (passes : Passes p ts q) (error : e = q.faultAt (.tooDeep q.limit))
      (viable : Viable φ ts) (deep : ∀ t, Starts φ (ts ++ [q.current]) t → bound ≤ t.nesting)

/-- Reading a phrase of less than so many levels either moves on over tokens that form it, as far
as the phrase goes, or fails. -/
def Outcome (φ : Phrase) (bound : Nat) (p : Parser) : EStateM.Result SyntaxError Parser Node → Prop
  | .ok t q => ∃ ts, Passes p ts q ∧ Derives φ ts q.current t ∧ φ.Stops q.current ∧
      t.nesting < bound
  | .error e _ => Fails φ bound p e

/-- A phrase fails where a phrase that it needs to go on fails. -/
theorem Fails.within (h : Fails ψ bound q e) (passes : Passes p before q)
    (opens : Opens φ before q.current ψ deeper) (hb : bound' ≤ bound + deeper) :
    Fails φ bound' p e := by
  cases h with
  | lexical passes' next error viable =>
    refine .lexical (passes.append passes') next error ?_
    rw [List.append_assoc]
    exact opens.completes _ viable
  | misplaced passes' error found viable blocked =>
    refine .misplaced (passes.append passes') error found (opens.completes _ viable) ?_
    intro t hs
    obtain ⟨us, hus⟩ := passes'.ahead
    rw [List.append_assoc, hus] at hs
    obtain ⟨u, hu, -⟩ := opens.continues _ _ hs
    exact blocked u (hus ▸ hu)
  | tooDeep passes' error viable deep =>
    refine .tooDeep (passes.append passes') error (opens.completes _ viable) ?_
    intro t hs
    obtain ⟨us, hus⟩ := passes'.ahead
    rw [List.append_assoc, hus] at hs
    obtain ⟨u, hu, hn⟩ := opens.continues _ _ hs
    have := deep u (hus ▸ hu)
    omega

namespace Outcome

variable {read : Parse Node} {sequel : Node → Parse Node} {step : Parse Unit}
  {onward : Unit → Parse Node}

/-- Reading a part of a phrase and then the rest of it. -/
theorem bind (h : Outcome ψ bound q (read q)) (passes : Passes p before q)
    (opens : Opens φ before q.current ψ deeper) (hb : bound' ≤ bound + deeper)
    (rest : ∀ t r ts, Passes q ts r → Derives ψ ts r.current t → ψ.Stops r.current →
      t.nesting < bound → Outcome φ bound' p (sequel t r)) :
    Outcome φ bound' p ((read >>= sequel) q) := by
  cases hr : read q with
  | ok t r =>
    rw [bind_ok hr]
    rw [hr] at h
    obtain ⟨ts, hp, ht, hs, hn⟩ := h
    exact rest t r ts hp ht hs hn
  | error e r =>
    rw [bind_error hr]
    rw [hr] at h
    exact Fails.within h passes opens hb

/-- A phrase that ends with another one. -/
theorem last (h : Outcome ψ bound q result) (passes : Passes p before q)
    (opens : Opens φ before q.current ψ deeper) (hb : bound' ≤ bound + deeper)
    (rest : ∀ t r ts, Passes q ts r → Derives ψ ts r.current t → ψ.Stops r.current →
      t.nesting < bound → Outcome φ bound' p (.ok t r)) : Outcome φ bound' p result := by
  cases result with
  | ok t r =>
    obtain ⟨ts, hp, ht, hs, hn⟩ := h
    exact rest t r ts hp ht hs hn
  | error e r => exact Fails.within h passes opens hb

/-- Moving on within a phrase. -/
theorem move (moves : Moves step) (passes : Passes p before q)
    (viable : Viable φ (before ++ [q.current]))
    (rest : ∀ r, Passes q [q.current] r → Outcome φ bound p (onward () r)) :
    Outcome φ bound p ((step >>= onward) q) := by
  rcases moves q with ⟨r, hr, hs⟩ | ⟨e, after, r, hn, hs⟩
  · rw [bind_ok hs]
    exact rest r hr
  · rw [bind_error hs]
    exact .lexical passes hn rfl viable

/-- Moving on from a token that a phrase needs. -/
theorem expect (passes : Passes p before q) (viable : Viable φ before)
    (closed : q.current = wanted → Viable φ (before ++ [wanted]))
    (blocked : q.current ≠ wanted → ∀ t, ¬ Starts φ (before ++ [q.current]) t)
    (rest : ∀ r, q.current = wanted → Passes q [wanted] r → Outcome φ bound p (onward () r)) :
    Outcome φ bound p ((expect wanted >>= onward) q) := by
  by_cases hc : q.current = wanted
  · have he : (Parser.expect wanted >>= onward) q = (advance >>= onward) q := by
      cases ha : advance q with
      | ok u r => rw [bind_ok ha, bind_ok ((expect_of_eq hc).trans ha)]
      | error e r => rw [bind_error ha, bind_error ((expect_of_eq hc).trans ha)]
    rw [he]
    exact move moves_advance passes (hc ▸ closed hc) (fun r hr => rest r hc (hc ▸ hr))
  · rw [bind_error (expect_of_ne hc)]
    exact .misplaced passes rfl (.inr ⟨wanted, rfl⟩) viable (blocked hc)

end Outcome

end Parser
end Formula
