import Formula.Proofs.Grammar

namespace Formula

theorem append_ahead (us : List Token) (next : Token) (rest : List Token) :
    us ++ next :: rest = us.headD next :: (us ++ next :: rest).tail := by
  cases us <;> rfl

/-- Of two rows that agree, the first parts and what stands right behind them agree too. -/
theorem first_parts {ts ts' us us' w z : List Token}
    (e : ts ++ (us ++ m :: w) = ts' ++ (us' ++ n :: z)) :
    ts ++ us.headD m :: (us ++ m :: w).tail = ts' ++ us'.headD n :: (us' ++ n :: z).tail := by
  rw [← append_ahead, ← append_ahead]
  exact e

/-- An atom does not start with a sign. -/
theorem Derives.atom_ne_sign (h : Derives .atom ts next t) (s : Sign) (us : List Token) :
    ts ≠ s.symbol :: us := by
  intro e
  cases h with
  | number | identifier _ | emptyCall | call _ => cases s <;> simp [Sign.symbol] at e
  | group b inner => cases s <;> cases b <;> simp [Sign.symbol, Bracket.opening] at e

/-- No argument starts with the parenthesis that closes a call. -/
theorem Derives.arguments_ne_closing (h : Derives .arguments ts next t) (us rest : List Token) :
    ts ++ us ≠ .rightParen :: rest := by
  intro e
  obtain ⟨a, vs, rfl, ha⟩ := h.head trivial
  obtain ⟨rfl, -⟩ := List.cons.inj e
  cases ha

/-- A row of tokens starts with at most one phrase that ends in front of a token it stops at, and
with one tree. The induction is on the first derivation, and the token behind each part of it tells
where the same part of the second one ends. -/
theorem Derives.unique (h : Derives φ ts m t) (h' : Derives φ us n u)
    (hm : φ.Stops m) (hn : φ.Stops n) (e : ts ++ m :: w = us ++ n :: z) : ts = us ∧ t = u := by
  induction h generalizing us n u w z with
  | number =>
    cases h' with
    | group b inner => cases b <;> simp [Bracket.opening] at e
    | _ => simp_all
  | identifier open? =>
    cases h' with
    | number | identifier _ => simp_all
    | emptyCall | call _ => simp_all
    | group b inner => cases b <;> simp [Bracket.opening] at e
  | emptyCall =>
    cases h' with
    | number => simp at e
    | identifier open? => simp_all
    | emptyCall => simp_all
    | call all =>
      simp only [List.cons_append, List.append_assoc, List.nil_append, List.cons.injEq] at e
      exact absurd e.2.2.symm (all.arguments_ne_closing _ _)
    | group b inner => cases b <;> simp [Bracket.opening] at e
  | call all ih =>
    cases h' with
    | number => simp at e
    | identifier open? => simp_all
    | emptyCall =>
      simp only [List.cons_append, List.append_assoc, List.nil_append, List.cons.injEq] at e
      exact absurd e.2.2 (all.arguments_ne_closing _ _)
    | call all' =>
      simp only [List.cons_append, List.append_assoc, List.nil_append, List.cons.injEq] at e
      obtain ⟨hname, -, e⟩ := e
      obtain ⟨rfl, rfl⟩ := ih all' Phrase.stops_arguments Phrase.stops_arguments e
      cases hname
      exact ⟨rfl, rfl⟩
    | group b inner => cases b <;> simp [Bracket.opening] at e
  | group b inner ih =>
    cases h' with
    | number | identifier _ | emptyCall | call _ => cases b <;> simp [Bracket.opening] at e
    | group b' inner' =>
      simp only [List.cons_append, List.append_assoc, List.nil_append, List.cons.injEq] at e
      obtain rfl := Bracket.opening_injective e.1
      obtain ⟨rfl, rfl⟩ := ih inner' (Phrase.stops_closing b) (Phrase.stops_closing b) e.2
      exact ⟨rfl, rfl⟩
  | unsigned alone ih =>
    cases h' with
    | unsigned alone' => exact ih alone' trivial trivial e
    | sign s operand =>
      obtain ⟨a, vs, rfl, -⟩ := alone.head trivial
      obtain ⟨rfl, -⟩ := List.cons.inj e
      exact absurd rfl (alone.atom_ne_sign s vs)
  | sign s operand ih =>
    cases h' with
    | unsigned alone =>
      obtain ⟨a, vs, rfl, -⟩ := alone.head trivial
      obtain ⟨rfl, -⟩ := List.cons.inj e
      exact absurd rfl (alone.atom_ne_sign s vs)
    | sign s' operand' =>
      obtain ⟨hs, rest⟩ := List.cons.inj e
      obtain rfl := Sign.symbol_injective hs
      obtain ⟨rfl, rfl⟩ := ih operand' trivial trivial rest
      exact ⟨rfl, rfl⟩
  | operand right alone ih =>
    cases h' with
    | operand _ alone' => exact ih alone' hm.operand hn.operand e
    | rightward op level _ left again =>
      -- the second phrase goes on with the operator in front of which the first one stops
      subst level
      rw [List.append_assoc] at e
      obtain ⟨rfl, -⟩ := ih left hm.operand (Phrase.stops_symbol op) e
      exact absurd (List.cons.inj (List.append_cancel_left e)).1 hm.ne_symbol
    | leftward left => simp [left] at right
  | rightward op level right left again ih ih' =>
    subst level
    rw [List.append_assoc] at e
    cases h' with
    | operand _ alone' =>
      obtain ⟨rfl, -⟩ := ih alone' (Phrase.stops_symbol op) hn.operand e
      exact absurd (List.cons.inj (List.append_cancel_left e)).1.symm hn.ne_symbol
    | rightward op' level' _ left' again' =>
      rw [List.append_assoc] at e
      obtain ⟨rfl, rfl⟩ := ih left' (Phrase.stops_symbol op) (level' ▸ Phrase.stops_symbol op') e
      obtain ⟨hop, rest⟩ := List.cons.inj (List.append_cancel_left e)
      obtain rfl := Operator.symbol_injective hop
      obtain ⟨rfl, rfl⟩ := ih' again' hm hn rest
      exact ⟨rfl, rfl⟩
    | leftward left => simp [left] at right
  | leftward left first others ih ih' =>
    cases h' with
    | operand right _ | rightward _ _ right => simp [left] at right
    | leftward _ first' others' =>
      simp only [List.append_assoc] at e
      obtain ⟨rfl, rfl⟩ :=
        ih first' (others.joined_ahead hm) (others'.joined_ahead hn) (first_parts e)
      obtain ⟨rfl, rfl⟩ := ih' others' hm hn (List.append_cancel_left e)
      exact ⟨rfl, rfl⟩
  | unconditional alone ih =>
    cases h' with
    | unconditional alone' => exact ih alone' hm.binary hn.binary e
    | conditional condition yes no =>
      rw [List.append_assoc] at e
      obtain ⟨rfl, -⟩ := ih condition hm.binary Phrase.stops_question e
      exact absurd (List.cons.inj (List.append_cancel_left e)).1 hm.2
  | conditional condition yes no ih ih' ih'' =>
    rw [List.append_assoc] at e
    cases h' with
    | unconditional alone =>
      obtain ⟨rfl, -⟩ := ih alone Phrase.stops_question hn.binary e
      exact absurd (List.cons.inj (List.append_cancel_left e)).1.symm hn.2
    | conditional condition' yes' no' =>
      rw [List.append_assoc] at e
      obtain ⟨rfl, rfl⟩ := ih condition' Phrase.stops_question Phrase.stops_question e
      simp only [List.append_cancel_left_eq, List.cons_append, List.append_assoc,
        List.cons.injEq, true_and] at e
      obtain ⟨rfl, rfl⟩ := ih' yes' Phrase.stops_colon Phrase.stops_colon e
      obtain ⟨rfl, rfl⟩ := ih'' no' hm hn (List.cons.inj (List.append_cancel_left e)).2
      exact ⟨rfl, rfl⟩
  | joinedNone =>
    cases h' with
    | joinedNone => exact ⟨rfl, rfl⟩
    | joinedMore op level operand others =>
      subst level
      exact absurd (List.cons.inj e).1 (Phrase.Stops.ne_symbol hm)
  | joinedMore op level operand others ih ih' =>
    subst level
    cases h' with
    | joinedNone => exact absurd (List.cons.inj e).1.symm (Phrase.Stops.ne_symbol hn)
    | joinedMore op' level' operand' others' =>
      obtain ⟨hop, rest⟩ := List.cons.inj e
      obtain rfl := Operator.symbol_injective hop
      rw [List.append_eq, List.append_eq, List.append_assoc, List.append_assoc] at rest
      obtain ⟨rfl, rfl⟩ :=
        ih operand' (others.joined_ahead hm) (others'.joined_ahead hn) (first_parts rest)
      obtain ⟨rfl, rfl⟩ := ih' others' hm hn (List.append_cancel_left rest)
      exact ⟨rfl, rfl⟩
  | arguments first others ih ih' =>
    cases h' with
    | arguments first' others' =>
      simp only [List.append_assoc] at e
      obtain ⟨rfl, rfl⟩ :=
        ih first' (others.further_ahead hm) (others'.further_ahead hn) (first_parts e)
      obtain ⟨rfl, rfl⟩ := ih' others' hm hn (List.append_cancel_left e)
      exact ⟨rfl, rfl⟩
  | furtherNone =>
    cases h' with
    | furtherNone => exact ⟨rfl, rfl⟩
    | furtherMore others => exact absurd (List.cons.inj e).1 hm.2.2
  | furtherMore others ih =>
    cases h' with
    | furtherNone => exact absurd (List.cons.inj e).1.symm hn.2.2
    | furtherMore others' =>
      obtain ⟨rfl, rfl⟩ := ih others' hm hn (List.cons.inj e).2
      exact ⟨rfl, rfl⟩

/-- The same where more of the second phrase follows in front of the token it stops at. -/
theorem Derives.unique_first (h : Derives φ ts m t) (h' : Derives φ us (vs.headD n) u)
    (hm : φ.Stops m) (hn : φ.Stops (vs.headD n)) (e : ts ++ m :: w = us ++ (vs ++ n :: z)) :
    ts = us ∧ t = u := by
  rw [append_ahead vs] at e
  exact h.unique h' hm hn e

theorem Sentence.unique (h : Sentence ts t) (h' : Sentence ts u) : t = u := by
  have e : ts ++ [Token.finish] = ts ++ [Token.finish] := rfl
  exact (Derives.unique h h' Phrase.stops_finish Phrase.stops_finish e).2

end Formula
