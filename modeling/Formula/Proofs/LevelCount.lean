import Formula.Proofs.ParallelReading
import Formula.Proofs.RaisedLimit

namespace Formula
namespace Parser

variable {p : Parser} {limit : Nat}

/-- Reads something nested one level deeper. While it is read one level less is left. -/
def deeper (read : Parse Node) : Parse Node := fun p =>
  match read { p with limit := p.limit - 1 } with
  | .ok t q => .ok t { q with limit := q.limit + 1 }
  | .error e q => .error e { q with limit := q.limit + 1 }

/-- Reads a level if any is left of the limit. The recursion ends where the limit does, at the
latest. -/
def counted (limit : Nat) : (rounds : Nat) → Level → Parse Node
  | 0, _ => fail (.tooDeep limit)
  | rounds + 1, l => do
    if (← get).limit = 0 then fail (.tooDeep limit) else deeper (level (counted limit rounds) l)

/-- The same answer, given by a parser that counts the levels left, as many as before. -/
def Recounted (limit left : Nat) :
    EStateM.Result SyntaxError Parser α → EStateM.Result SyntaxError Parser α → Prop
  | .ok a q, result => result = .ok a (q.raise limit) ∧ q.limit = left
  | .error e q, result => result = .error e (q.raise limit) ∧ q.limit = left

theorem recounted_advance (current : Token) (p : Parser) :
    Recounted limit p.limit (advance { p with current })
      (advance (Parser.raise limit { p with current })) := by
  cases hn : Lexer.next p.lexer with
  | ok t after => simp [advance, raise, hn, Recounted]
  | error e after => simp [advance, raise, hn, Recounted]

/-- Reading with as many levels left before and behind it. -/
def counting (limit left : Nat) : Parallel where
  Holds p read read' := p.limit = left → Recounted limit left (read p) (read' (p.raise limit))
  of_pure _ same := ⟨rfl, same⟩
  of_bind := by
    intro α β p x y f g first rest same
    replace first := first same
    cases hx : x p with
    | ok a q =>
      rw [hx] at first
      rw [bind_ok hx, bind_ok first.1]
      exact rest a q first.2
    | error e q =>
      rw [hx] at first
      rw [bind_error hx, bind_error first.1]
      exact ⟨rfl, first.2⟩
  of_peek holds := holds
  of_unread := by
    intro α p f g unread holds same
    have raised : g (p.raise limit) = g p := (unread (p.raise limit) rfl).2
    rw [get_bind, get_bind, raised]
    exact holds same
  of_fail _ same := ⟨rfl, same⟩
  of_advance := by
    rintro p rfl
    exact recounted_advance p.current p
  of_consume := by
    rintro p rfl
    exact recounted_advance .finish p

theorem counted_nested (rounds left : Nat) (h : left ≤ rounds) (l : Level) :
    (counting limit left).Always (counted limit rounds l) (nested left l) := by
  induction rounds generalizing left l with
  | zero =>
    intro p same
    obtain rfl := Nat.le_zero.mp h
    exact ⟨rfl, same⟩
  | succ rounds ih =>
    intro p same
    cases left with
    | zero =>
      have none : counted limit (rounds + 1) l p = fail (.tooDeep limit) p := by
        rw [counted, get_bind, if_pos same]
      rw [none]
      exact ⟨rfl, same⟩
    | succ left =>
      have some : counted limit (rounds + 1) l p = deeper (level (counted limit rounds) l) p := by
        rw [counted, get_bind, if_neg (by omega)]
      have inner := (counting limit left).of_level (fun l => ih left (by omega) l) l
        { p with limit := left } rfl
      have below : deeper (level (counted limit rounds) l) p =
          match level (counted limit rounds) l { p with limit := left } with
          | .ok t q => .ok t { q with limit := q.limit + 1 }
          | .error e q => .error e { q with limit := q.limit + 1 } := by
        simp only [deeper, same, Nat.add_sub_cancel]
      rw [some, below]
      cases hr : level (counted limit rounds) l { p with limit := left } with
      | ok t q =>
        rw [hr] at inner
        exact ⟨inner.1, congrArg (· + 1) inner.2⟩
      | error e q =>
        rw [hr] at inner
        exact ⟨inner.1, congrArg (· + 1) inner.2⟩

/-- Counting the levels left in the state makes no difference to an expression, and all of them are
left again behind it. -/
theorem counted_expression (rounds : Nat) (h : p.limit ≤ rounds) :
    counted p.limit rounds .conditional p = expression p := by
  have same : Recounted p.limit p.limit (counted p.limit rounds .conditional p) (expression p) :=
    counted_nested rounds p.limit h .conditional p rfl
  cases hr : counted p.limit rounds .conditional p with
  | ok t q =>
    rw [hr] at same
    rw [same.1, ← same.2]
    rfl
  | error e q =>
    rw [hr] at same
    rw [same.1, ← same.2]
    rfl

end Parser
end Formula
