import Formula.Proofs.Filling

namespace Formula

/-- A token refers to a variable of a name, which no parenthesis behind it makes a function. -/
def RefersTo (x : String) (t next : Token) : Prop :=
  ∃ name, t = .identifier name ∧ Text.lower name = Text.lower x ∧ next ≠ .leftParen

/-- Other tokens, in brackets, in place of each that refers to a variable of a name. The last token
given is the one behind all of them. -/
inductive FilledTokens (x : String) (us : List Token) : List Token → Token → List Token → Prop where
  | none : FilledTokens x us [] next []
  | keep (other : ¬ RefersTo x t (ts.headD next)) (others : FilledTokens x us ts next ts') :
      FilledTokens x us (t :: ts) next (t :: ts')
  | fill (refers : RefersTo x t (ts.headD next)) (b : Bracket)
      (others : FilledTokens x us ts next ts') :
      FilledTokens x us (t :: ts) next (b.opening :: (us ++ b.closing :: ts'))

namespace FilledTokens

variable {x : String} {us ts ts' : List Token} {next t : Token}

theorem split (h : FilledTokens x us (ts ++ vs) next ts') : ∃ ws zs, ts' = ws ++ zs ∧
    FilledTokens x us ts (vs.headD next) ws ∧ FilledTokens x us vs next zs := by
  induction ts generalizing ts' with
  | nil => exact ⟨[], ts', rfl, .none, h⟩
  | cons t ts ih =>
    have hnext : (ts ++ vs).headD next = ts.headD (vs.headD next) := by
      cases ts <;> rfl
    cases h with
    | keep other others =>
      obtain ⟨ws, zs, rfl, hws, hzs⟩ := ih others
      exact ⟨t :: ws, zs, rfl, .keep (hnext ▸ other) hws, hzs⟩
    | fill refers b others =>
      obtain ⟨ws, zs, rfl, hws, hzs⟩ := ih others
      exact ⟨b.opening :: (us ++ b.closing :: ws), zs, by simp, .fill (hnext ▸ refers) b hws, hzs⟩

/-- A token that is no name is kept. -/
theorem kept (h : FilledTokens x us (t :: ts) next ts') (ht : ∀ name, t ≠ .identifier name) :
    ∃ ws, ts' = t :: ws ∧ FilledTokens x us ts next ws := by
  cases h with
  | keep other others => exact ⟨_, rfl, others⟩
  | fill refers b others =>
    obtain ⟨name, rfl, -⟩ := refers
    exact absurd rfl (ht name)

theorem kept_last (h : FilledTokens x us [t] next ts') (ht : ∀ name, t ≠ .identifier name) :
    ts' = [t] := by
  obtain ⟨ws, rfl, hws⟩ := h.kept ht
  cases hws
  rfl

/-- The name of a function is kept. -/
theorem called (h : FilledTokens x us (.identifier name :: .leftParen :: ts) next ts') :
    ∃ ws, ts' = .identifier name :: .leftParen :: ws ∧ FilledTokens x us ts next ws := by
  cases h with
  | keep other others =>
    obtain ⟨ws, rfl, hws⟩ := others.kept (by simp)
    exact ⟨ws, rfl, hws⟩
  | fill refers b others =>
    obtain ⟨name, -, -, hne⟩ := refers
    exact absurd rfl hne

end FilledTokens

/-- What is filled in in a phrase is filled in in what it holds. -/
def Phrase.fill (φ : Phrase) (x : String) (u : Node) : Phrase :=
  match φ with
  | joined r left => joined r (left.fill x u)
  | further first => further (first.fill x u)
  | φ => φ

theorem Rank.fill_operand (r : Rank) : r.operand.fill x u = r.operand := by
  cases r <;> rfl

namespace Derives

variable {x : String} {us ts ts' : List Token} {next : Token} {u : Node}

/-- The token that goes on with operands or arguments is kept. -/
theorem joined_filled_ahead (h : Derives (.joined r t) ts next v)
    (hf : FilledTokens x us ts next ts') : ts'.headD next = ts.headD next := by
  cases h with
  | joinedNone =>
    cases hf
    rfl
  | joinedMore op level operand others =>
    obtain ⟨ws, rfl, -⟩ := hf.kept op.symbol_ne_identifier
    rfl

theorem further_filled_ahead (h : Derives (.further t) ts next v)
    (hf : FilledTokens x us ts next ts') : ts'.headD next = ts.headD next := by
  cases h with
  | furtherNone =>
    cases hf
    rfl
  | furtherMore others =>
    obtain ⟨ws, rfl, -⟩ := hf.kept (by simp)
    rfl

/-- A phrase stays one when an expression in brackets is put in place of each variable of a name. -/
theorem fill (h : Derives φ ts next t) (hu : Sentence us u) (hf : FilledTokens x us ts next ts') :
    Derives (φ.fill x u) ts' next (t.fill x u) := by
  induction h generalizing ts' with
  | number =>
    rw [hf.kept_last (by simp)]
    exact .number
  | @identifier next name open? =>
    cases hf with
    | keep other others =>
      cases others
      have hne : Text.lower name ≠ Text.lower x := fun he => other ⟨name, rfl, he, open?⟩
      rw [Node.fill_other hne]
      exact .identifier open?
    | fill refers b others =>
      cases others
      obtain ⟨name', heq, he, -⟩ := refers
      cases heq
      rw [Node.fill_variable he]
      -- in front of the bracket the expression ends as it does at the end of its own text
      exact .group b (hu.behind b.closing_ne_leftParen)
  | emptyCall =>
    obtain ⟨ws, rfl, hws⟩ := hf.called
    rw [hws.kept_last (by simp)]
    exact .emptyCall
  | call all ih =>
    obtain ⟨ws, rfl, hws⟩ := hf.called
    obtain ⟨as, zs, rfl, has, hzs⟩ := hws.split
    rw [hzs.kept_last (by simp)]
    exact .call (ih has)
  | group b inner ih =>
    obtain ⟨ws, rfl, hws⟩ := hf.kept b.opening_ne_identifier
    obtain ⟨as, zs, rfl, has, hzs⟩ := hws.split
    rw [hzs.kept_last b.closing_ne_identifier]
    exact .group b (ih has)
  | unsigned alone ih => exact .unsigned (ih hf)
  | sign s operand ih =>
    obtain ⟨ws, rfl, hws⟩ := hf.kept s.symbol_ne_identifier
    exact .sign s (ih hws)
  | @operand r _ _ _ right alone ih =>
    have h := ih hf
    rw [Rank.fill_operand] at h
    exact .operand right h
  | @rightward r _ _ _ _ _ op level right left again ih ih' =>
    obtain ⟨as, _, rfl, has, hrest⟩ := hf.split
    obtain ⟨zs, rfl, hzs⟩ := hrest.kept op.symbol_ne_identifier
    have h := ih has
    rw [Rank.fill_operand] at h
    exact .rightward op level right h (ih' hzs)
  | @leftward r _ _ _ _ _ left first others ih ih' =>
    obtain ⟨as, zs, rfl, has, hzs⟩ := hf.split
    have h := ih has
    rw [Rank.fill_operand, ← others.joined_filled_ahead hzs] at h
    exact .leftward left h (ih' hzs)
  | unconditional alone ih => exact .unconditional (ih hf)
  | conditional condition yes no ih ih' ih'' =>
    obtain ⟨cs, _, rfl, hcs, hchoices⟩ := hf.split
    obtain ⟨_, rfl, hrest⟩ := hchoices.kept (by simp)
    obtain ⟨ys, _, rfl, hys, hno⟩ := hrest.split
    obtain ⟨ns, rfl, hns⟩ := hno.kept (by simp)
    exact .conditional (ih hcs) (ih' hys) (ih'' hns)
  | joinedNone =>
    cases hf
    exact .joinedNone
  | @joinedMore r _ _ _ _ _ _ op level operand others ih ih' =>
    obtain ⟨_, rfl, hrest⟩ := hf.kept op.symbol_ne_identifier
    obtain ⟨as, zs, rfl, has, hzs⟩ := hrest.split
    have h := ih has
    rw [Rank.fill_operand, ← others.joined_filled_ahead hzs] at h
    exact .joinedMore op level h (ih' hzs)
  | arguments first others ih ih' =>
    obtain ⟨as, zs, rfl, has, hzs⟩ := hf.split
    have h := ih has
    rw [← others.further_filled_ahead hzs] at h
    exact .arguments h (ih' hzs)
  | furtherNone =>
    cases hf
    exact .furtherNone
  | furtherMore others ih =>
    obtain ⟨zs, rfl, hzs⟩ := hf.kept (by simp)
    exact .furtherMore (ih hzs)

end Derives
end Formula
