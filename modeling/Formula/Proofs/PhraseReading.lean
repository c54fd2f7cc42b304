import Formula.Proofs.ParserSteps

namespace Formula

/-- What a level of precedence reads. -/
def Level.phrase : Level → Phrase
  | .conditional => .conditional
  | .or => .binary .or
  | .and => .binary .and
  | .equality => .binary .equality
  | .relation => .binary .relation
  | .power => .binary .power
  | .signed => .signed

theorem Level.solid_phrase (l : Level) : l.phrase.Solid := by
  cases l <;> exact trivial

theorem Rank.tightness_injective {r s : Rank} (h : r.tightness = s.tightness) : r = s := by
  cases r <;> cases s <;> first | rfl | cases h

/-- Behind the operands of a rank only its own operators could go on. -/
theorem Phrase.stops_binary (h : r.operand.Stops next)
    (hn : ∀ op : Operator, op.rank = r → next ≠ op.symbol) : (binary r).Stops next := by
  intro op hop
  have hne : op.rank.tightness ≠ r.tightness :=
    fun ht => hn op (Rank.tightness_injective ht) hop
  cases r
  case power =>
    cases hr : op.rank <;> simp [hr, Rank.tightness] at hne ⊢
  all_goals
    have hlt := h op hop
    simp only [Rank.tightness] at hlt hne ⊢
    omega

theorem Phrase.stops_conditional (h : (binary .or).Stops next) (hn : next ≠ .question) :
    conditional.Stops next :=
  ⟨fun op hop => absurd (h op hop) (Nat.not_lt_zero _), hn⟩

namespace Parser

/-! Which operators the levels read. -/

def table : Rank → Token → Option Operator
  | .or => or?
  | .and => and?
  | .equality => equality?
  | .relation => relation?
  | .additive => additive?
  | .multiplicative => multiplicative?
  | .power => power?

theorem table_some {r : Rank} {t : Token} {op : Operator} :
    table r t = some op ↔ op.rank = r ∧ t = op.symbol := by
  constructor
  · intro h
    cases r
    all_goals
      simp only [table, or?, and?, equality?, relation?, additive?, multiplicative?, power?] at h
      split at h <;> cases h <;> exact ⟨rfl, rfl⟩
  · rintro ⟨rfl, rfl⟩
    cases op <;> rfl

theorem signOf?_some {t : Token} {s : Sign} : signOf? t = some s ↔ t = s.symbol := by
  constructor
  · intro h; unfold signOf? at h; split at h <;> cases h <;> rfl
  · rintro rfl; cases s <;> rfl

theorem stops_of_table (hs : r.operand.Stops next) (hn : table r next = none) :
    (Phrase.binary r).Stops next := by
  refine Phrase.stops_binary hs ?_
  rintro op hr rfl
  rw [table_some.mpr ⟨hr, rfl⟩] at hn
  cases hn

/-! What each level reads, provided that nested levels read less than `room` levels. -/

section

variable {descend : Level → Parse Node} {room : Nat}

theorem rightward_outcome {operand : Parse Node} {again : Level} (right : r.groupsLeft = false)
    (hoperand : ∀ p, Outcome r.operand (room + 1) p (operand p))
    (hagain : ∀ p, Outcome (.binary r) room p (descend again p)) (p : Parser) :
    Outcome (.binary r) (room + 1) p (rightward descend operand again (table r) p) := by
  refine (hoperand p).bind .none opens_operand (Nat.le_refl _) ?_
  intro t q ts hp ht hs hn
  rw [peek_bind]
  cases ho : table r q.current with
  | none => exact ⟨ts, hp, .operand right ht, stops_of_table hs ho, hn⟩
  | some op =>
    obtain ⟨rfl, hc⟩ := table_some.mp ho
    rw [hc] at ht
    refine Outcome.move moves_advance hp ?_ ?_
    · rw [hc]
      exact (opens_rightward op right ht .finish).viable trivial
    · intro q' hp'
      rw [hc] at hp'
      refine (hagain q').bind (hp.append hp') (opens_rightward op right ht _) (Nat.le_refl _) ?_
      intro u r us hp'' hu hs' hn'
      refine ⟨_, (hp.append hp').append hp'', ?_, hs', ?_⟩
      · rw [List.append_assoc]
        exact .rightward op rfl right ht hu
      · rw [Node.nesting_operator, right]
        simp only [Bool.false_eq_true, ↓reduceIte]
        omega

/-- The characters that are `unread` last until the operators do, since every operand takes one. -/
theorem joined_outcome {operand : Parse Node} (left : r.groupsLeft = true)
    (hoperand : ∀ p, Outcome r.operand bound p (operand p)) (unread : List Char) (t : Node)
    (p : Parser) (hlength : p.lexer.rest.length ≤ unread.length) (hn : t.nesting < bound)
    (hs : r.operand.Stops p.current) :
    Outcome (.joined r t) bound p (joined operand (table r) t unread p) := by
  unfold joined
  rw [peek_bind]
  cases ho : table r p.current with
  | none => exact ⟨[], .none, .joinedNone, stops_of_table hs ho, hn⟩
  | some op =>
    obtain ⟨rfl, hc⟩ := table_some.mp ho
    have hsolid := Phrase.solid_operand op.rank
    refine Outcome.move moves_advance .none ?_ ?_
    · rw [hc]
      exact (opens_joined_operand op .finish).viable hsolid
    · intro q hp
      rw [hc] at hp
      refine (hoperand q).bind hp (opens_joined_operand op _) (Nat.le_refl _) ?_
      intro u q' ts hp' hu hs' hn'
      have hlt := hp.length_lt hp' (hu.ne_nil hsolid) hu.finish_not_mem
      cases unread with
      | nil =>
        -- the operand has taken a character, and there was none
        rw [List.length_nil] at hlength
        omega
      | cons c unread =>
        have hjoined : (Node.operator (.operator op) [t, u]).nesting < bound := by
          rw [Node.nesting_operator, left]
          simp only [↓reduceIte]
          omega
        rw [List.length_cons] at hlength
        refine (joined_outcome left hoperand unread _ q' (by omega) hjoined hs').last
          (hp.append hp') (opens_joined_more op hu hs') (Nat.le_refl _) ?_
        intro v r us hp'' hv hs'' hn''
        refine ⟨_, (hp.append hp').append hp'', ?_, hs'', hn''⟩
        rw [← hp''.headD] at hu
        rw [List.append_assoc, List.singleton_append]
        exact .joinedMore op rfl hu hv
termination_by unread.length

theorem leftward_outcome {operand : Parse Node} (left : r.groupsLeft = true)
    (hoperand : ∀ p, Outcome r.operand bound p (operand p)) (p : Parser) :
    Outcome (.binary r) bound p (leftward operand (table r) p) := by
  refine (hoperand p).bind .none opens_operand (Nat.le_refl _) ?_
  intro t q ts hp ht hs hn
  rw [get_bind]
  refine (joined_outcome left hoperand q.lexer.rest t q (Nat.le_refl _) hn hs).last hp
    (opens_joined left ht hs) (Nat.le_refl _) ?_
  intro u r us hp' hu hs' hn'
  refine ⟨_, hp.append hp', ?_, hs', hn'⟩
  rw [← hp'.headD] at ht
  exact .leftward left ht hu

theorem conditional_outcome (hor : ∀ p, Outcome (.binary .or) (room + 1) p (or descend p))
    (hd : ∀ p, Outcome .conditional room p (descend .conditional p)) (p : Parser) :
    Outcome .conditional (room + 1) p (conditional descend p) := by
  refine (hor p).bind .none opens_condition (Nat.le_refl _) ?_
  intro c q cs hp hc hs hn
  rw [peek_bind]
  by_cases hq : q.current = .question
  · rw [if_pos hq]
    rw [hq] at hc
    refine Outcome.move moves_advance hp ?_ ?_
    · rw [hq]
      exact (opens_yes hc .finish).viable trivial
    intro r hq'
    rw [hq] at hq'
    refine (hd r).bind (hp.append hq') (opens_yes hc _) (Nat.le_refl _) ?_
    intro y s ys hr hy hsy hny
    have passes : Passes p (cs ++ .question :: ys) s := by
      simpa using (hp.append hq').append hr
    refine Outcome.expect passes ?_ ?_ ?_ ?_
    · have hv := (opens_yes hc .finish).completes ys hy.viable
      simpa using hv
    · intro hcolon
      rw [hcolon] at hy
      simpa using (opens_no hc hy .finish).viable trivial
    · intro hne u
      simpa using no_colon hc hy hsy hne
    intro s' hcolon hs'
    rw [hcolon] at hy
    have passes' : Passes p (cs ++ .question :: (ys ++ [.colon])) s' := by
      simpa using passes.append hs'
    refine (hd s').bind passes' (opens_no hc hy _) (Nat.le_refl _) ?_
    intro n z ns hz hno hsn hnn
    refine ⟨_, passes'.append hz, ?_, hsn, ?_⟩
    · simpa using Derives.conditional hc hy hno
    · rw [Node.nesting_conditional]
      omega
  · rw [if_neg hq]
    exact ⟨cs, hp, .unconditional hc, Phrase.stops_conditional hs hq, hn⟩

theorem group_outcome (b : Bracket) (hd : ∀ p, Outcome .conditional room p (descend .conditional p))
    (p : Parser) (hc : p.current = b.opening) :
    Outcome .atom (room + 1) p (group descend b.closing p) := by
  refine Outcome.move moves_consume .none ?_ ?_
  · rw [hc]
    exact (opens_group b .finish).viable trivial
  · intro q hp
    rw [hc] at hp
    refine (hd q).bind hp (opens_group b _) (Nat.le_refl _) ?_
    intro t r ts hp' ht hs hn
    refine Outcome.expect (hp.append hp') ?_ ?_ ?_ ?_
    · exact (opens_group b .finish).completes _ ht.viable
    · intro hr
      rw [hr] at ht
      have hgroup : Derives .atom (b.opening :: (ts ++ [b.closing])) .finish _ := .group b ht
      exact hgroup.viable
    · intro hr u
      exact no_closing ht hs hr
    · intro r' hr hp''
      rw [hr] at ht
      refine ⟨_, (hp.append hp').append hp'', .group b ht, trivial, ?_⟩
      rw [Node.nesting_group]
      omega

/-- Arguments that have been read wait in front of all later ones. -/
theorem arguments_earlier (t last : Node) (earlier : List Node) (unread : List Char) :
    arguments descend last (earlier ++ [t]) unread =
      (do return .operator .arguments [t, ← arguments descend last earlier unread]) := by
  induction unread generalizing last earlier with
  | nil =>
    unfold arguments
    rw [bind_assoc]
    refine bind_congr fun found => ?_
    by_cases hc : found = .comma
    · simp [hc, pairUp]
    · simp [hc, pairUp]
  | cons c unread ih =>
    unfold arguments
    rw [bind_assoc]
    refine bind_congr fun found => ?_
    by_cases hc : found = .comma
    · simp only [hc, ↓reduceIte, bind_assoc, ← List.cons_append, ih]
    · simp [hc, pairUp]

theorem arguments_outcome (hd : ∀ p, Outcome .conditional room p (descend .conditional p))
    (unread : List Char) (first : Node) (p : Parser)
    (hlength : p.lexer.rest.length ≤ unread.length) (hn : first.nesting < room)
    (hs : Phrase.conditional.Stops p.current) :
    Outcome (.further first) room p (arguments descend first [] unread p) := by
  unfold arguments
  rw [peek_bind]
  by_cases hc : p.current = .comma
  · rw [if_pos hc]
    refine Outcome.move moves_advance .none ?_ ?_
    · rw [hc]
      exact (opens_others .finish).viable trivial
    intro q hp
    rw [hc] at hp
    refine (hd q).bind hp ((opens_others _).trans opens_argument rfl) (Nat.le_refl _) ?_
    intro t r ts hq ht hst hnt
    have hlt := hp.length_lt hq (ht.ne_nil trivial) ht.finish_not_mem
    cases unread with
    | nil =>
      rw [List.length_nil] at hlength
      omega
    | cons c unread =>
      rw [List.length_cons] at hlength
      have hlater : arguments descend t [first] unread = _ := arguments_earlier first t [] unread
      dsimp only
      rw [hlater]
      obtain ⟨tail, ha⟩ := hq.ahead
      refine (arguments_outcome hd unread t r (by omega) hnt hst).bind (hp.append hq)
        ((opens_others _).trans (opens_further ht hst) ha) (Nat.le_refl _) ?_
      intro u s us hr hu hsu hnu
      refine ⟨_, (hp.append hq).append hr, ?_, hsu, ?_⟩
      · rw [← hr.headD] at ht
        exact .furtherMore (.arguments ht hu)
      · rw [Node.nesting_arguments]
        omega
  · rw [if_neg hc]
    exact ⟨[], .none, .furtherNone, ⟨hs.1, hs.2, hc⟩, hn⟩
termination_by unread.length

theorem call_outcome (hd : ∀ p, Outcome .conditional room p (descend .conditional p))
    (hp : Passes p [.identifier name] q) (hc : q.current = .leftParen) :
    Outcome .atom (room + 1) p (call descend name q) := by
  have hopen : Opens .atom [.identifier name, .leftParen] .finish .arguments 1 :=
    opens_call (by simp)
  refine Outcome.move moves_advance hp ?_ ?_
  · rw [hc]
    exact hopen.viable trivial
  intro r hq
  rw [hc] at hq
  have passes : Passes p [.identifier name, .leftParen] r := hp.append hq
  rw [peek_bind]
  by_cases hr : r.current = .rightParen
  · rw [if_pos hr]
    have hempty : Derives .atom [.identifier name, .leftParen, .rightParen] .finish _ := .emptyCall
    refine Outcome.move moves_advance passes ?_ ?_
    · rw [hr]
      exact hempty.viable
    intro s hs
    rw [hr] at hs
    refine ⟨_, passes.append hs, .emptyCall, trivial, ?_⟩
    rw [Node.nesting_emptyCall]
    exact Nat.succ_pos room
  · rw [if_neg hr]
    refine (hd r).bind passes ((opens_call hr).trans opens_argument rfl) (Nat.le_refl _) ?_
    intro t s ts hs ht hst hnt
    rw [get_bind]
    obtain ⟨tail, ha⟩ := hs.ahead
    refine (arguments_outcome hd s.lexer.rest t s (Nat.le_refl _) hnt hst).bind
      (passes.append hs) ((opens_call hr).trans (opens_further ht hst) ha) (Nat.le_refl _) ?_
    intro u z us hz hu hsu hnu
    rw [← hz.headD] at ht
    have hall : Derives .arguments (ts ++ us) z.current u := .arguments ht hu
    have passes' : Passes p (.identifier name :: .leftParen :: (ts ++ us)) z := by
      simpa using (passes.append hs).append hz
    refine Outcome.expect passes' (hopen.completes _ hall.viable) ?_ ?_ ?_
    · intro hclose
      rw [hclose] at hall
      have hcall : Derives .atom
        (.identifier name :: .leftParen :: ((ts ++ us) ++ [.rightParen])) .finish _ := .call hall
      exact hcall.viable
    · intro hne v
      exact no_closing_call hall hsu hne
    · intro z' hclose hz'
      rw [hclose] at hall
      refine ⟨_, passes'.append hz', .call hall, trivial, ?_⟩
      rw [Node.nesting_call]
      omega

theorem atom_outcome (hd : ∀ p, Outcome .conditional room p (descend .conditional p))
    (p : Parser) : Outcome .atom (room + 1) p (atom descend p) := by
  unfold atom
  rw [peek_bind]
  cases hc : p.current with
  | number word =>
    refine Outcome.move moves_consume .none ?_ ?_
    · rw [hc]
      exact (derives_number .atom trivial word .finish).viable
    · intro q hp
      rw [hc] at hp
      refine ⟨_, hp, .number, trivial, ?_⟩
      rw [Node.nesting_number]
      exact Nat.succ_pos room
  | identifier name =>
    have hname : Derives .atom [.identifier name] .finish _ := .identifier (by simp)
    refine Outcome.move moves_consume .none ?_ ?_
    · rw [hc]
      exact hname.viable
    · intro q hp
      rw [hc] at hp
      rw [peek_bind]
      by_cases hq : q.current = .leftParen
      · rw [if_pos hq]
        exact call_outcome hd hp hq
      · rw [if_neg hq]
        refine ⟨_, hp, .identifier hq, trivial, ?_⟩
        rw [Node.nesting_identifier]
        exact Nat.succ_pos room
  | leftParen => exact group_outcome .round hd p hc
  | leftBracket => exact group_outcome .square hd p hc
  | leftBrace => exact group_outcome .curly hd p hc
  | _ =>
    refine .misplaced .none rfl (.inl (by rw [hc])) (viable_nil trivial) fun t => ?_
    rw [hc]
    exact no_atom (by simp) (by simp) (by intro b; cases b <;> simp [Bracket.opening])

theorem signed_outcome (hd : ∀ l p, Outcome l.phrase room p (descend l p)) (p : Parser) :
    Outcome .signed (room + 1) p (signed descend p) := by
  unfold signed
  rw [peek_bind]
  cases hc : signOf? p.current with
  | some s =>
    have hs := signOf?_some.mp hc
    refine Outcome.move moves_advance .none ?_ ?_
    · rw [hs]
      exact (opens_sign s .finish).viable trivial
    · intro q hp
      rw [hs] at hp
      refine (hd .signed q).bind hp (opens_sign s _) (Nat.le_refl _) ?_
      intro t r ts hr ht hst hnt
      refine ⟨_, hp.append hr, .sign s ht, trivial, ?_⟩
      rw [Node.nesting_sign]
      omega
  | none =>
    have hne : ∀ s : Sign, p.current ≠ s.symbol := by
      intro s hs
      rw [signOf?_some.mpr hs] at hc
      cases hc
    refine (atom_outcome (hd .conditional) p).last .none (opens_atom hne) (Nat.le_refl _) ?_
    intro t r ts hr ht hst hnt
    exact ⟨ts, hr, .unsigned ht, trivial, hnt⟩

/-- Every level of precedence reads its phrase when the levels that it nests do. -/
theorem level_outcome (hd : ∀ l p, Outcome l.phrase room p (descend l p)) (l : Level)
    (p : Parser) : Outcome l.phrase (room + 1) p (level descend l p) := by
  have hsigned := signed_outcome hd
  have hpower : ∀ p, Outcome (.binary .power) (room + 1) p (power descend p) :=
    rightward_outcome rfl hsigned (hd .power)
  have hmultiplicative : ∀ p,
      Outcome (.binary .multiplicative) (room + 1) p (multiplicative descend p) :=
    leftward_outcome rfl hpower
  have hadditive : ∀ p, Outcome (.binary .additive) (room + 1) p (additive descend p) :=
    leftward_outcome rfl hmultiplicative
  have hrelation : ∀ p, Outcome (.binary .relation) (room + 1) p (relation descend p) :=
    rightward_outcome rfl hadditive (hd .relation)
  have hequality : ∀ p, Outcome (.binary .equality) (room + 1) p (equality descend p) :=
    rightward_outcome rfl hrelation (hd .equality)
  have hand : ∀ p, Outcome (.binary .and) (room + 1) p (and descend p) :=
    rightward_outcome rfl hequality (hd .and)
  have hor : ∀ p, Outcome (.binary .or) (room + 1) p (or descend p) :=
    rightward_outcome rfl hand (hd .or)
  cases l with
  | conditional => exact conditional_outcome hor (hd .conditional) p
  | or => exact hor p
  | and => exact hand p
  | equality => exact hequality p
  | relation => exact hrelation p
  | power => exact hpower p
  | signed => exact hsigned p

end

theorem nested_outcome (room : Nat) (l : Level) (p : Parser) :
    Outcome l.phrase room p (nested room l p) := by
  induction room generalizing l p with
  | zero =>
    exact .tooDeep .none rfl (viable_nil l.solid_phrase) (fun _ _ => Nat.zero_le _)
  | succ room ih => exact level_outcome ih l p

end Parser
end Formula
