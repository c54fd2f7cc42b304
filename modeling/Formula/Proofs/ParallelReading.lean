import Formula.Proofs.PhraseReading

namespace Formula
namespace Parser

/-- A fault that names the token it is found at. -/
def Names (fault : SyntaxFault) (found : Token) : Prop :=
  fault = .unexpected found ∨ ∃ wanted, fault = .expected wanted found

/-- A relation between two ways to read on from a state, the first of which goes through the state.
It holds of the steps that all levels are made of, and of one step behind another if it holds of
both. -/
structure Parallel where
  Holds : {α : Type} → Parser → Parse α → Parse α → Prop
  of_pure : ∀ {α : Type} {p : Parser} (a : α), Holds p (pure a) (pure a)
  of_bind : ∀ {α β : Type} {p : Parser} {x y : Parse α} {f g : α → Parse β},
    Holds p x y → (∀ a q, Holds q (f a) (g a)) → Holds p (x >>= f) (y >>= g)
  of_peek : ∀ {α : Type} {p : Parser} {f g : Token → Parse α},
    Holds p (f p.current) (g p.current) → Holds p (peek >>= f) (peek >>= g)
  of_unread : ∀ {α : Type} {p : Parser} {f g : Parser → Parse α},
    (∀ q, q.lexer.rest = p.lexer.rest → f q = f p ∧ g q = g p) →
      Holds p (f p) (g p) → Holds p (get >>= f) (get >>= g)
  of_fail : ∀ {α : Type} {p : Parser} {fault : SyntaxFault}, Names fault p.current →
    Holds (α := α) p (fail fault) (fail fault)
  of_advance : ∀ {p : Parser}, Holds p advance advance
  of_consume : ∀ {p : Parser}, Holds p consume consume

namespace Parallel

variable (parallel : Parallel) {descend descend' : Level → Parse Node}

/-- The relation holds from every state. -/
def Always (read read' : Parse α) : Prop :=
  ∀ p, parallel.Holds p read read'

theorem of_expect (wanted : Token) : parallel.Always (expect wanted) (expect wanted) := by
  intro p
  refine parallel.of_peek ?_
  by_cases hc : p.current = wanted
  · rw [if_pos hc]
    exact parallel.of_advance
  · rw [if_neg hc]
    exact parallel.of_fail (.inr ⟨wanted, rfl⟩)

/-! Each level is read in parallel when the levels that it nests are. -/

theorem of_rightward {operand operand' : Parse Node} {again : Level}
    (operator? : Token → Option Operator) (ho : parallel.Always operand operand')
    (ha : parallel.Always (descend again) (descend' again)) :
    parallel.Always (rightward descend operand again operator?)
      (rightward descend' operand' again operator?) := by
  intro p
  refine parallel.of_bind (ho p) fun left q => parallel.of_peek ?_
  cases operator? q.current with
  | none => exact parallel.of_pure left
  | some op =>
    refine parallel.of_bind parallel.of_advance fun _ r => ?_
    exact parallel.of_bind (ha r) fun right _ => parallel.of_pure _

theorem of_joined {operand operand' : Parse Node} (operator? : Token → Option Operator)
    (ho : parallel.Always operand operand') (unread : List Char) (left : Node) :
    parallel.Always (joined operand operator? left unread)
      (joined operand' operator? left unread) := by
  induction unread generalizing left with
  | nil =>
    intro p
    unfold joined
    refine parallel.of_peek ?_
    cases operator? p.current with
    | none => exact parallel.of_pure left
    | some op =>
      refine parallel.of_bind parallel.of_advance fun _ q => ?_
      exact parallel.of_bind (ho q) fun right _ => parallel.of_pure _
  | cons c unread ih =>
    intro p
    unfold joined
    refine parallel.of_peek ?_
    cases operator? p.current with
    | none => exact parallel.of_pure left
    | some op =>
      refine parallel.of_bind parallel.of_advance fun _ q => ?_
      exact parallel.of_bind (ho q) fun right r => ih _ r

theorem of_leftward {operand operand' : Parse Node} (operator? : Token → Option Operator)
    (ho : parallel.Always operand operand') :
    parallel.Always (leftward operand operator?) (leftward operand' operator?) := by
  intro p
  refine parallel.of_bind (ho p) fun left q => parallel.of_unread ?_ ?_
  · intro q' same
    rw [same]
    exact ⟨rfl, rfl⟩
  · exact parallel.of_joined operator? ho q.lexer.rest left q

theorem of_conditional (hor : parallel.Always (or descend) (or descend'))
    (hd : parallel.Always (descend .conditional) (descend' .conditional)) :
    parallel.Always (conditional descend) (conditional descend') := by
  intro p
  refine parallel.of_bind (hor p) fun condition q => parallel.of_peek ?_
  by_cases hq : q.current = .question
  · rw [if_pos hq, if_pos hq]
    refine parallel.of_bind parallel.of_advance fun _ r => ?_
    refine parallel.of_bind (hd r) fun yes s => ?_
    refine parallel.of_bind (parallel.of_expect .colon s) fun _ s' => ?_
    exact parallel.of_bind (hd s') fun no _ => parallel.of_pure _
  · rw [if_neg hq, if_neg hq]
    exact parallel.of_pure condition

theorem of_group (closing : Token)
    (hd : parallel.Always (descend .conditional) (descend' .conditional)) :
    parallel.Always (group descend closing) (group descend' closing) := by
  intro p
  refine parallel.of_bind parallel.of_consume fun _ q => ?_
  refine parallel.of_bind (hd q) fun inner r => ?_
  exact parallel.of_bind (parallel.of_expect closing r) fun _ _ => parallel.of_pure _

theorem of_arguments (hd : parallel.Always (descend .conditional) (descend' .conditional))
    (unread : List Char) (last : Node) (earlier : List Node) :
    parallel.Always (arguments descend last earlier unread)
      (arguments descend' last earlier unread) := by
  induction unread generalizing last earlier with
  | nil =>
    intro p
    unfold arguments
    refine parallel.of_peek ?_
    by_cases hc : p.current = .comma
    · rw [if_pos hc, if_pos hc]
      refine parallel.of_bind parallel.of_advance fun _ q => ?_
      exact parallel.of_bind (hd q) fun argument _ => parallel.of_pure _
    · rw [if_neg hc, if_neg hc]
      exact parallel.of_pure _
  | cons c unread ih =>
    intro p
    unfold arguments
    refine parallel.of_peek ?_
    by_cases hc : p.current = .comma
    · rw [if_pos hc, if_pos hc]
      refine parallel.of_bind parallel.of_advance fun _ q => ?_
      exact parallel.of_bind (hd q) fun argument r => ih _ _ r
    · rw [if_neg hc, if_neg hc]
      exact parallel.of_pure _

theorem of_call (hd : parallel.Always (descend .conditional) (descend' .conditional))
    (name : String) : parallel.Always (call descend name) (call descend' name) := by
  intro p
  refine parallel.of_bind parallel.of_advance fun _ q => parallel.of_peek ?_
  by_cases hc : q.current = .rightParen
  · rw [if_pos hc, if_pos hc]
    exact parallel.of_bind parallel.of_advance fun _ _ => parallel.of_pure _
  · rw [if_neg hc, if_neg hc]
    refine parallel.of_bind (hd q) fun first r => parallel.of_unread ?_ ?_
    · intro r' same
      rw [same]
      exact ⟨rfl, rfl⟩
    · refine parallel.of_bind (parallel.of_arguments hd _ first [] r) fun all s => ?_
      exact parallel.of_bind (parallel.of_expect .rightParen s) fun _ _ => parallel.of_pure _

theorem of_atom (hd : parallel.Always (descend .conditional) (descend' .conditional)) :
    parallel.Always (atom descend) (atom descend') := by
  intro p
  refine parallel.of_peek ?_
  cases hc : p.current with
  | number text => exact parallel.of_bind parallel.of_consume fun _ _ => parallel.of_pure _
  | identifier name =>
    refine parallel.of_bind parallel.of_consume fun _ q => parallel.of_peek ?_
    by_cases hq : q.current = .leftParen
    · rw [if_pos hq, if_pos hq]
      exact parallel.of_call hd name q
    · rw [if_neg hq, if_neg hq]
      exact parallel.of_pure _
  | leftParen => exact parallel.of_group .rightParen hd p
  | leftBracket => exact parallel.of_group .rightBracket hd p
  | leftBrace => exact parallel.of_group .rightBrace hd p
  | _ => exact parallel.of_fail (.inl (by rw [hc]))

theorem of_signed (hd : ∀ l, parallel.Always (descend l) (descend' l)) :
    parallel.Always (signed descend) (signed descend') := by
  intro p
  refine parallel.of_peek ?_
  cases signOf? p.current with
  | some s =>
    refine parallel.of_bind parallel.of_advance fun _ q => ?_
    exact parallel.of_bind (hd .signed q) fun operand _ => parallel.of_pure _
  | none => exact parallel.of_atom (hd .conditional) p

theorem of_level (hd : ∀ l, parallel.Always (descend l) (descend' l)) (l : Level) :
    parallel.Always (level descend l) (level descend' l) := by
  have hsigned := parallel.of_signed hd
  have hpower := parallel.of_rightward power? hsigned (hd .power)
  have hmultiplicative := parallel.of_leftward multiplicative? hpower
  have hadditive := parallel.of_leftward additive? hmultiplicative
  have hrelation := parallel.of_rightward relation? hadditive (hd .relation)
  have hequality := parallel.of_rightward equality? hrelation (hd .equality)
  have hand := parallel.of_rightward and? hequality (hd .and)
  have hor := parallel.of_rightward or? hand (hd .or)
  cases l with
  | conditional => exact parallel.of_conditional hor (hd .conditional)
  | or => exact hor
  | and => exact hand
  | equality => exact hequality
  | relation => exact hrelation
  | power => exact hpower
  | signed => exact hsigned

theorem of_nested (deep : ∀ l, parallel.Always (nested 0 l) (nested 0 l)) (room : Nat)
    (l : Level) : parallel.Always (nested room l) (nested room l) := by
  induction room generalizing l with
  | zero => exact deep l
  | succ room ih => exact parallel.of_level ih l

theorem of_parse (part : parallel.Always expression expression) :
    parallel.Always parse parse := by
  intro p
  refine parallel.of_bind (part p) fun root q => parallel.of_peek ?_
  cases hc : q.current with
  | finish => exact parallel.of_pure root
  | _ => exact parallel.of_fail (.inl (by rw [hc]))

end Parallel

end Parser
end Formula
