import Formula.Proofs.Prospects

namespace Formula

/-- The token behind an operand opens no parenthesis unless the one behind the phrase does. -/
theorem Derives.joined_ahead_ne (h : Derives (.joined r t) ts next u) (hn : next ≠ .leftParen) :
    ts.headD next ≠ .leftParen := by
  cases h with
  | joinedNone => exact hn
  | joinedMore op _ _ _ => cases op <;> simp [Operator.symbol]

theorem Derives.further_ahead_ne (h : Derives (.further t) ts next u) (hn : next ≠ .leftParen) :
    ts.headD next ≠ .leftParen := by
  cases h with
  | furtherNone => exact hn
  | furtherMore _ => simp

/-! Signs and atoms. -/

theorem opens_atom (ha : ∀ s : Sign, ahead ≠ s.symbol) : Opens .signed [] ahead .atom 0 where
  completes ts hv := by
    obtain ⟨us, t, h⟩ := hv
    exact ⟨us, t, .unsigned h⟩
  continues ts t hs := by
    obtain ⟨us, next, rest, h, hn, w, hw⟩ := hs
    cases h with
    | unsigned alone => exact ⟨t, ⟨us, next, rest, alone, trivial, w, hw⟩, Nat.le_refl _⟩
    | sign s _ => exact absurd (List.cons.inj hw).1 (ha s)

theorem opens_sign (s : Sign) (ahead : Token) : Opens .signed [s.symbol] ahead .signed 1 where
  completes ts hv := by
    obtain ⟨us, t, h⟩ := hv
    exact ⟨us, _, .sign s h⟩
  continues ts t hs := by
    obtain ⟨us, next, rest, h, hn, w, hw⟩ := hs
    cases h with
    | unsigned alone =>
      obtain ⟨a, vs, rfl, -⟩ := alone.head trivial
      obtain ⟨rfl, -⟩ := List.cons.inj hw
      exact absurd rfl (alone.atom_ne_sign s vs)
    | @sign vs _ u _ operand =>
      refine ⟨u, ⟨vs, next, rest, operand, trivial, w, (List.cons.inj hw).2⟩, ?_⟩
      rw [Node.nesting_sign]
      omega

/-! Operators that group to the right. -/

theorem opens_operand : Opens (.binary r) [] ahead r.operand 0 where
  completes ts hv := by
    obtain ⟨us, t, h⟩ := hv
    exact ⟨us, t, h.binary⟩
  continues ts t hs := by
    obtain ⟨us, next, rest, h, hn, hw⟩ := hs
    rw [List.nil_append] at hw
    cases h with
    | operand _ alone => exact ⟨t, ⟨us, next, rest, alone, hn.operand, hw⟩, Nat.le_refl _⟩
    | rightward op level _ left again =>
      subst level
      rw [List.append_assoc] at hw
      refine ⟨_, ⟨_, _, _, left, Phrase.stops_symbol op, hw⟩, ?_⟩
      rw [Node.nesting_operator]
      omega
    | leftward _ first others =>
      rw [List.append_assoc, append_ahead] at hw
      exact ⟨_, ⟨_, _, _, first, others.joined_ahead hn, hw⟩, others.joined_nesting⟩

theorem opens_rightward (op : Operator) (right : op.rank.groupsLeft = false)
    (left : Derives op.rank.operand us op.symbol t) (ahead : Token) :
    Opens (.binary op.rank) (us ++ [op.symbol]) ahead (.binary op.rank) 1 where
  completes ts hv := by
    obtain ⟨vs, u, h⟩ := hv
    have hmore := Derives.rightward op rfl right left h
    exact ⟨vs, _, by simpa using hmore⟩
  continues ts u hs := by
    obtain ⟨vs, next, rest, h, hn, w, hw⟩ := hs
    simp only [List.append_assoc, List.cons_append, List.nil_append] at hw
    cases h with
    | operand _ alone =>
      obtain ⟨rfl, -⟩ := left.unique alone (Phrase.stops_symbol op) hn.operand hw
      exact absurd (List.cons.inj (List.append_cancel_left hw)).1.symm hn.ne_symbol
    | rightward op' level _ left' again =>
      rw [List.append_assoc] at hw
      obtain ⟨rfl, -⟩ := left.unique left' (Phrase.stops_symbol op)
        (level ▸ Phrase.stops_symbol op') hw
      obtain ⟨-, hw⟩ := List.cons.inj (List.append_cancel_left hw)
      refine ⟨_, ⟨_, next, rest, again, hn, w, hw⟩, ?_⟩
      rw [Node.nesting_operator, level, right]
      simp only [Bool.false_eq_true, ↓reduceIte]
      omega
    | leftward left => simp [left] at right

/-! Operators that group to the left. -/

theorem opens_joined (left : r.groupsLeft = true) (first : Derives r.operand us ahead t)
    (ha : r.operand.Stops ahead) : Opens (.binary r) us ahead (.joined r t) 0 where
  completes ts hv := by
    obtain ⟨vs, u, h⟩ := hv
    refine ⟨vs, u, ?_⟩
    rw [List.append_assoc]
    exact .leftward left (first.behind (h.joined_ahead_ne (by simp))) h
  continues ts u hs := by
    obtain ⟨vs, next, rest, h, hn, w, hw⟩ := hs
    rw [List.append_assoc] at hw
    cases h with
    | operand right _ | rightward _ _ right => simp [left] at right
    | leftward _ first' others =>
      rw [List.append_assoc] at hw
      obtain ⟨rfl, rfl⟩ := first.unique_first first' ha (others.joined_ahead hn) hw
      exact ⟨u, ⟨_, next, rest, others, hn, w, List.append_cancel_left hw⟩, Nat.le_refl _⟩

theorem opens_joined_operand (op : Operator) (ahead : Token) :
    Opens (.joined op.rank t) [op.symbol] ahead op.rank.operand 0 where
  completes ts hv := by
    obtain ⟨us, u, h⟩ := hv
    have hmore : Derives (.joined op.rank t) (op.symbol :: ((ts ++ us) ++ [])) .finish
        (.operator (.operator op) [t, u]) := .joinedMore op rfl h .joinedNone
    exact ⟨us, _, by simpa using hmore⟩
  continues ts u hs := by
    obtain ⟨us, next, rest, h, hn, w, hw⟩ := hs
    cases h with
    | joinedNone => exact absurd (List.cons.inj hw).1.symm (Phrase.Stops.ne_symbol hn)
    | joinedMore op' level operand others =>
      simp only [List.cons_append, List.nil_append, List.append_assoc, List.cons.injEq] at hw
      rw [append_ahead] at hw
      replace hw := hw.2
      exact ⟨_, ⟨_, _, _, operand, others.joined_ahead hn, w, hw⟩,
        Nat.le_trans Node.nesting_right_le others.joined_nesting⟩

theorem opens_joined_more (op : Operator) (operand : Derives op.rank.operand us ahead u)
    (ha : op.rank.operand.Stops ahead) : Opens (.joined op.rank t) (op.symbol :: us) ahead
      (.joined op.rank (.operator (.operator op) [t, u])) 0 where
  completes ts hv := by
    obtain ⟨vs, v, h⟩ := hv
    refine ⟨vs, v, ?_⟩
    rw [List.append_assoc]
    exact .joinedMore op rfl (operand.behind (h.joined_ahead_ne (by simp))) h
  continues ts v hs := by
    obtain ⟨vs, next, rest, h, hn, w, hw⟩ := hs
    cases h with
    | joinedNone => exact absurd (List.cons.inj hw).1.symm (Phrase.Stops.ne_symbol hn)
    | joinedMore op' level operand' others =>
      simp only [List.cons_append, List.append_assoc, List.cons.injEq] at hw
      obtain ⟨hop, hw⟩ := hw
      obtain rfl := Operator.symbol_injective hop
      obtain ⟨rfl, rfl⟩ := operand.unique_first operand' ha (others.joined_ahead hn) hw
      exact ⟨v, ⟨_, next, rest, others, hn, w, List.append_cancel_left hw⟩, Nat.le_refl _⟩

/-! Conditionals. -/

theorem opens_condition : Opens .conditional [] ahead (.binary .or) 0 where
  completes ts hv := by
    obtain ⟨us, t, h⟩ := hv
    exact ⟨us, t, .unconditional h⟩
  continues ts t hs := by
    obtain ⟨us, next, rest, h, hn, hw⟩ := hs
    cases h with
    | unconditional alone => exact ⟨t, ⟨us, next, rest, alone, hn.binary, hw⟩, Nat.le_refl _⟩
    | conditional condition yes no =>
      rw [List.append_assoc] at hw
      refine ⟨_, ⟨_, _, _, condition, Phrase.stops_question, hw⟩, ?_⟩
      rw [Node.nesting_conditional]
      omega

/-- Behind a condition and a question mark stand the two choices. -/
theorem Starts.choices (condition : Derives (.binary .or) cs .question c)
    (h : Starts .conditional (cs ++ .question :: ts) t) :
    ∃ ys y ns n next rest, Derives .conditional ys .colon y ∧ Derives .conditional ns next n ∧
      Phrase.conditional.Stops next ∧ ts <+: ys ++ .colon :: (ns ++ next :: rest) ∧
      1 + y.nesting ≤ t.nesting ∧ 1 + n.nesting ≤ t.nesting := by
  obtain ⟨us, next, rest, h, hn, w, hw⟩ := h
  rw [List.append_assoc] at hw
  cases h with
  | unconditional alone =>
    obtain ⟨rfl, -⟩ := condition.unique alone Phrase.stops_question hn.binary hw
    exact absurd (List.cons.inj (List.append_cancel_left hw)).1.symm hn.2
  | @conditional _ _ ys y ns _ n condition' yes no =>
    simp only [List.append_assoc, List.cons_append] at hw
    obtain ⟨rfl, rfl⟩ :=
      condition.unique condition' Phrase.stops_question Phrase.stops_question hw
    refine ⟨ys, y, ns, n, next, rest, yes, no, hn,
      ⟨w, (List.cons.inj (List.append_cancel_left hw)).2⟩, ?_⟩
    rw [Node.nesting_conditional]
    omega

theorem opens_yes (condition : Derives (.binary .or) cs .question c) (ahead : Token) :
    Opens .conditional (cs ++ [.question]) ahead .conditional 1 where
  completes ts hv := by
    obtain ⟨us, t, h⟩ := hv
    have hmore := Derives.conditional condition (h.behind (by simp))
      (derives_number .conditional trivial "0" .finish)
    exact ⟨us ++ [.colon, .number "0"], _, by simpa using hmore⟩
  continues ts t hs := by
    rw [List.append_assoc, List.singleton_append] at hs
    obtain ⟨ys, y, ns, n, next, rest, yes, -, -, hw, hy, -⟩ := hs.choices condition
    exact ⟨y, ⟨ys, .colon, _, yes, Phrase.stops_colon, hw⟩, by omega⟩

theorem opens_no (condition : Derives (.binary .or) cs .question c)
    (yes : Derives .conditional ys .colon y) (ahead : Token) :
    Opens .conditional (cs ++ .question :: (ys ++ [.colon])) ahead .conditional 1 where
  completes ts hv := by
    obtain ⟨us, t, h⟩ := hv
    have hmore := Derives.conditional condition yes h
    exact ⟨us, _, by simpa using hmore⟩
  continues ts t hs := by
    rw [List.append_assoc, List.cons_append, List.append_assoc, List.singleton_append] at hs
    obtain ⟨ys', y', ns, n, next, rest, yes', no, hn, ⟨w, hw⟩, -, hd⟩ := hs.choices condition
    simp only [List.append_assoc, List.cons_append] at hw
    obtain ⟨rfl, rfl⟩ := yes.unique yes' Phrase.stops_colon Phrase.stops_colon hw
    exact ⟨n, ⟨ns, next, rest, no, hn, w, (List.cons.inj (List.append_cancel_left hw)).2⟩,
      by omega⟩

theorem no_colon (condition : Derives (.binary .or) cs .question c)
    (yes : Derives .conditional ys next y) (hs : Phrase.conditional.Stops next)
    (hn : next ≠ .colon) : ¬ Starts .conditional (cs ++ .question :: (ys ++ [next])) t := by
  intro h
  obtain ⟨ys', y', ns, n, next', rest, yes', -, -, ⟨w, hw⟩, -, -⟩ := h.choices condition
  rw [List.append_assoc, List.singleton_append] at hw
  obtain ⟨rfl, -⟩ := yes.unique yes' hs Phrase.stops_colon hw
  exact hn (List.cons.inj (List.append_cancel_left hw)).1

/-! Brackets and calls. -/

theorem Starts.inside {b : Bracket} (h : Starts .atom (b.opening :: ts) t) :
    ∃ us u rest, Derives .conditional us b.closing u ∧ ts <+: us ++ b.closing :: rest ∧
      1 + u.nesting ≤ t.nesting := by
  obtain ⟨us, next, rest, h, hn, w, hw⟩ := h
  cases h with
  | number | identifier _ | emptyCall | call _ => cases b <;> simp [Bracket.opening] at hw
  | @group vs u _ b' inner =>
    simp only [List.append_assoc, List.cons_append, List.nil_append, List.cons.injEq] at hw
    obtain rfl := Bracket.opening_injective hw.1
    exact ⟨vs, u, next :: rest, inner, ⟨w, hw.2⟩, Nat.le_of_eq Node.nesting_group.symm⟩

theorem opens_group (b : Bracket) (ahead : Token) :
    Opens .atom [b.opening] ahead .conditional 1 where
  completes ts hv := by
    obtain ⟨us, t, h⟩ := hv
    refine ⟨us ++ [b.closing], .operator .group [t], ?_⟩
    rw [← List.append_assoc]
    exact .group b (h.behind (by cases b <;> simp [Bracket.closing]))
  continues ts t hs := by
    obtain ⟨us, u, rest, inner, hw, hd⟩ := hs.inside
    exact ⟨u, ⟨us, _, rest, inner, Phrase.stops_closing b, hw⟩, by omega⟩

theorem no_closing {b : Bracket} (inner : Derives .conditional us next u)
    (hs : Phrase.conditional.Stops next) (hn : next ≠ b.closing) :
    ¬ Starts .atom (b.opening :: (us ++ [next])) t := by
  intro h
  obtain ⟨us', u', rest, inner', ⟨w, hw⟩, -⟩ := h.inside
  rw [List.append_assoc, List.singleton_append] at hw
  obtain ⟨rfl, -⟩ := inner.unique inner' hs (Phrase.stops_closing b) hw
  exact hn (List.cons.inj (List.append_cancel_left hw)).1

theorem Starts.inside_call (ha : ahead ≠ .rightParen)
    (h : Starts .atom (.identifier name :: .leftParen :: ahead :: ts) t) :
    ∃ us u rest, Derives .arguments us .rightParen u ∧
      ahead :: ts <+: us ++ .rightParen :: rest ∧ 1 + u.nesting ≤ t.nesting := by
  obtain ⟨us, next, rest, h, hn, w, hw⟩ := h
  cases h with
  | number => simp at hw
  | identifier open? => simp_all
  | emptyCall => simp_all
  | group b inner => cases b <;> simp [Bracket.opening] at hw
  | @call vs u _ _ all =>
    simp only [List.append_assoc, List.cons_append, List.nil_append, List.cons.injEq] at hw
    exact ⟨vs, u, next :: rest, all, ⟨w, hw.2.2⟩, Nat.le_of_eq Node.nesting_call.symm⟩

theorem opens_call (ha : ahead ≠ .rightParen) :
    Opens .atom [.identifier name, .leftParen] ahead .arguments 1 where
  completes ts hv := by
    obtain ⟨us, t, h⟩ := hv
    refine ⟨us ++ [.rightParen], ⟨.call, name, [t]⟩, ?_⟩
    rw [← List.append_assoc]
    exact .call (h.behind (by simp))
  continues ts t hs := by
    obtain ⟨us, u, rest, all, hw, hd⟩ := hs.inside_call ha
    exact ⟨u, ⟨us, _, rest, all, Phrase.stops_arguments, hw⟩, by omega⟩

theorem no_closing_call (all : Derives .arguments us next u)
    (hs : Phrase.arguments.Stops next) (hn : next ≠ .rightParen) :
    ¬ Starts .atom (.identifier name :: .leftParen :: (us ++ [next])) t := by
  intro h
  obtain ⟨a, vs, e, ha⟩ := all.head trivial
  have hne : a ≠ .rightParen := by
    rintro rfl
    cases ha
  rw [e] at h
  obtain ⟨us', u', rest, all', ⟨w, hw⟩, -⟩ := Starts.inside_call hne h
  have hw' : us ++ next :: w = us' ++ .rightParen :: rest := by simpa [e] using hw
  obtain ⟨rfl, -⟩ := all.unique all' hs Phrase.stops_arguments hw'
  exact hn (List.cons.inj (List.append_cancel_left hw')).1

theorem no_atom (hn : ∀ word, ahead ≠ .number word) (hi : ∀ name, ahead ≠ .identifier name)
    (hb : ∀ b : Bracket, ahead ≠ b.opening) : ¬ Starts .atom [ahead] t := by
  rintro ⟨us, next, rest, h, -, w, hw⟩
  cases h with
  | number => exact hn _ (List.cons.inj hw).1
  | identifier _ | emptyCall | call _ => exact hi _ (List.cons.inj hw).1
  | group b _ => exact hb b (List.cons.inj hw).1

/-! Arguments. -/

theorem opens_argument : Opens .arguments [] ahead .conditional 0 where
  completes ts hv := by
    obtain ⟨us, t, h⟩ := hv
    have hmore : Derives .arguments ((ts ++ us) ++ []) .finish t := .arguments h .furtherNone
    exact ⟨us, t, by simpa using hmore⟩
  continues ts t hs := by
    obtain ⟨us, next, rest, h, hn, hw⟩ := hs
    rw [List.nil_append] at hw
    cases h with
    | arguments first others =>
      rw [List.append_assoc, append_ahead] at hw
      exact ⟨_, ⟨_, _, _, first, others.further_ahead hn, hw⟩, others.further_nesting⟩

theorem opens_further (first : Derives .conditional us ahead t)
    (ha : Phrase.conditional.Stops ahead) : Opens .arguments us ahead (.further t) 0 where
  completes ts hv := by
    obtain ⟨vs, u, h⟩ := hv
    refine ⟨vs, u, ?_⟩
    rw [List.append_assoc]
    exact .arguments (first.behind (h.further_ahead_ne (by simp))) h
  continues ts u hs := by
    obtain ⟨vs, next, rest, h, hn, w, hw⟩ := hs
    cases h with
    | arguments first' others =>
      simp only [List.append_assoc, List.cons_append] at hw
      obtain ⟨rfl, rfl⟩ := first.unique_first first' ha (others.further_ahead hn) hw
      exact ⟨u, ⟨_, next, rest, others, hn, w, List.append_cancel_left hw⟩, Nat.le_refl _⟩

theorem opens_others (ahead : Token) : Opens (.further t) [.comma] ahead .arguments 0 where
  completes ts hv := by
    obtain ⟨us, u, h⟩ := hv
    exact ⟨us, _, .furtherMore h⟩
  continues ts u hs := by
    obtain ⟨us, next, rest, h, hn, w, hw⟩ := hs
    cases h with
    | furtherNone => exact absurd (List.cons.inj hw).1.symm hn.2.2
    | furtherMore others =>
      refine ⟨_, ⟨_, next, rest, others, hn, w, (List.cons.inj hw).2⟩, ?_⟩
      rw [Node.nesting_arguments]
      omega

end Formula
