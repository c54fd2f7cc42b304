import Formula.Proofs.Unambiguous
import Formula.Proofs.Nesting

namespace Formula

/-- Some tokens can be completed to a phrase. -/
def Viable (φ : Phrase) (ts : List Token) : Prop :=
  ∃ us t, Derives φ (ts ++ us) .finish t

/-- Some tokens are the start of a text that starts with a phrase, the token at which the phrase
stops included. -/
def Starts (φ : Phrase) (ts : List Token) (t : Node) : Prop :=
  ∃ us next rest, Derives φ us next t ∧ φ.Stops next ∧ ts <+: us ++ next :: rest

/-- When a phrase starts with the tokens `before` and the token `ahead` comes next, a second phrase
has to start there, which may be `deeper` by some levels. -/
structure Opens (φ : Phrase) (before : List Token) (ahead : Token) (ψ : Phrase)
    (deeper : Nat) : Prop where
  completes : ∀ ts, Viable ψ ts → Viable φ (before ++ ts)
  continues : ∀ ts t, Starts φ (before ++ ahead :: ts) t →
    ∃ u, Starts ψ (ahead :: ts) u ∧ u.nesting + deeper ≤ t.nesting
theorem Opens.trans (h : Opens φ before ahead ψ m) (h' : Opens ψ before' ahead' χ n)
    (ha : before' ++ [ahead'] = ahead :: tail) :
    Opens φ (before ++ before') ahead' χ (m + n) where
  completes ts hv := by
    rw [List.append_assoc]
    exact h.completes _ (h'.completes ts hv)
  continues ts t hs := by
    have he : before' ++ ahead' :: ts = ahead :: (tail ++ ts) := by
      rw [← List.cons_append, ← ha, List.append_assoc, List.singleton_append]
    rw [List.append_assoc, he] at hs
    obtain ⟨u, hu, hn⟩ := h.continues _ t hs
    obtain ⟨v, hv, hn'⟩ := h'.continues ts u (he ▸ hu)
    exact ⟨v, hv, by omega⟩

/-- An operand that stands alone is a phrase of every sort. -/
theorem Derives.of_atom (h : Derives .atom ts next t) (hφ : φ.Solid) : Derives φ ts next t := by
  have hsigned : Derives .signed ts next t := .unsigned h
  have hpower := Derives.binary (r := .power) hsigned
  have hmultiplicative := Derives.binary (r := .multiplicative) hpower
  have hadditive := Derives.binary (r := .additive) hmultiplicative
  have hrelation := Derives.binary (r := .relation) hadditive
  have hequality := Derives.binary (r := .equality) hrelation
  have hand := Derives.binary (r := .and) hequality
  have hor := Derives.binary (r := .or) hand
  have hconditional : Derives .conditional ts next t := .unconditional hor
  cases φ with
  | conditional => exact hconditional
  | binary r => cases r <;> assumption
  | signed => exact hsigned
  | atom => exact h
  | arguments =>
    rw [← List.append_nil ts]
    exact .arguments hconditional .furtherNone
  | joined r left => exact hφ.elim
  | further first => exact hφ.elim

/-- An operand of any rank is an expression. -/
theorem Derives.of_binary : (r : Rank) → Derives (.binary r) ts next t →
    Derives .conditional ts next t
  | .or, h => .unconditional h
  | .and, h => of_binary .or (.binary h)
  | .equality, h => of_binary .and (.binary h)
  | .relation, h => of_binary .equality (.binary h)
  | .additive, h => of_binary .relation (.binary h)
  | .multiplicative, h => of_binary .additive (.binary h)
  | .power, h => of_binary .multiplicative (.binary h)
termination_by r => r.tightness
decreasing_by all_goals decide

theorem Derives.of_signed (h : Derives .signed ts next t) : Derives .conditional ts next t :=
  of_binary .power (.binary h)

/-- An operator between operands that stand alone makes a phrase of its rank. -/
theorem Derives.joining {op : Operator} (left : ∀ next, Derives .atom ts next t)
    (right : ∀ next, Derives .atom us next u) :
    Derives (.binary op.rank) (ts ++ op.symbol :: us) next (.operator (.operator op) [t, u]) := by
  have hleft : Derives op.rank.operand ts op.symbol t :=
    (left _).of_atom (Phrase.solid_operand op.rank)
  cases hgroups : op.rank.groupsLeft with
  | false => exact .rightward op rfl hgroups hleft ((right next).of_atom trivial)
  | true =>
    have hright : Derives op.rank.operand us next u :=
      (right next).of_atom (Phrase.solid_operand op.rank)
    have hjoined : Derives (.joined op.rank t) (op.symbol :: (us ++ [])) next
        (.operator (.operator op) [t, u]) := .joinedMore op rfl hright .joinedNone
    rw [List.append_nil] at hjoined
    exact .leftward hgroups hleft hjoined

/-- The smallest phrase. -/
theorem derives_number (φ : Phrase) (h : φ.Solid) (word : String) (next : Token) :
    Derives φ [.number word] next (.leaf .number word) :=
  Derives.number.of_atom h

theorem viable_nil (h : φ.Solid) : Viable φ [] :=
  ⟨_, _, derives_number φ h "0" .finish⟩

theorem Opens.viable (h : Opens φ before ahead ψ deeper) (hψ : ψ.Solid) : Viable φ before := by
  have hv := h.completes [] (viable_nil hψ)
  rwa [List.append_nil] at hv

theorem Derives.viable (h : Derives φ ts next t) : Viable φ ts :=
  ⟨[], t, by rw [List.append_nil]; exact h.behind (by simp)⟩

theorem Viable.finish_not_mem (h : Viable φ ts) : Token.finish ∉ ts := by
  obtain ⟨us, t, hd⟩ := h
  intro hm
  exact hd.finish_not_mem (List.mem_append_left us hm)

theorem Sentence.starts (h : Sentence us t) (hp : ts <+: us ++ [.finish]) :
    Starts .conditional ts t :=
  ⟨us, .finish, [], h, Phrase.stops_finish, hp⟩

end Formula
