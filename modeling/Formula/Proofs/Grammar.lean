import Formula.Node
import Formula.Token

namespace Formula

/-- How tightly an operator holds its operands together, from the loosest to the tightest. -/
inductive Rank where
  | or
  | and
  | equality
  | relation
  | additive
  | multiplicative
  | power
deriving DecidableEq

namespace Rank

/-- Operators of these ranks group to the left, those of the others to the right. -/
def groupsLeft : Rank → Bool
  | additive | multiplicative => true
  | _ => false

def tightness : Rank → Nat
  | or => 0
  | and => 1
  | equality => 2
  | relation => 3
  | additive => 4
  | multiplicative => 5
  | power => 6

end Rank

def Operator.rank : Operator → Rank
  | .power => .power
  | .multiply | .divide | .quotient => .multiplicative
  | .add | .subtract => .additive
  | .less | .lessEqual | .greater | .greaterEqual => .relation
  | .equal | .notEqual => .equality
  | .and => .and
  | .or => .or

def Operator.symbol : Operator → Token
  | .power => .caret
  | .multiply => .star
  | .divide => .slash
  | .quotient => .backslash
  | .add => .plus
  | .subtract => .minus
  | .less => .less
  | .lessEqual => .lessEqual
  | .greater => .greater
  | .greaterEqual => .greaterEqual
  | .equal => .equal
  | .notEqual => .notEqual
  | .and => .and
  | .or => .or

def Sign.symbol : Sign → Token
  | .plus => .plus
  | .minus => .minus
  | .not => .exclamation

/-- Brackets group an expression in any style. -/
inductive Bracket where
  | round
  | square
  | curly
deriving DecidableEq

def Bracket.opening : Bracket → Token
  | .round => .leftParen
  | .square => .leftBracket
  | .curly => .leftBrace

def Bracket.closing : Bracket → Token
  | .round => .rightParen
  | .square => .rightBracket
  | .curly => .rightBrace

/-- What some tokens are read as. -/
inductive Phrase where
  | conditional
  | binary (r : Rank)
  | signed
  | atom
  /-- Operators of a rank with an operand each, joined to what stands on their left. -/
  | joined (r : Rank) (left : Node)
  /-- The arguments of a call, of which there is at least one. -/
  | arguments
  /-- Arguments behind a first one, each after a comma. -/
  | further (first : Node)

/-- The operands of the operators of a rank are of the next tighter rank. -/
def Rank.operand : Rank → Phrase
  | or => .binary .and
  | and => .binary .equality
  | equality => .binary .relation
  | relation => .binary .additive
  | additive => .binary .multiplicative
  | multiplicative => .binary .power
  | power => .signed

/-- Some tokens form a tree when they are read as a phrase and one more token stands behind them.
That token matters only to a name, which is a variable unless a parenthesis opens behind it. -/
inductive Derives : Phrase → List Token → Token → Node → Prop where
  | number : Derives .atom [.number text] next (.leaf .number text)
  | identifier (open? : next ≠ .leftParen) :
      Derives .atom [.identifier name] next (.leaf .identifier name)
  | emptyCall : Derives .atom [.identifier name, .leftParen, .rightParen] next (.leaf .call name)
  | call (all : Derives .arguments ts .rightParen t) :
      Derives .atom (.identifier name :: .leftParen :: (ts ++ [.rightParen])) next
        ⟨.call, name, [t]⟩
  | group (b : Bracket) (inner : Derives .conditional ts b.closing t) :
      Derives .atom (b.opening :: (ts ++ [b.closing])) next (.operator .group [t])
  | unsigned (alone : Derives .atom ts next t) : Derives .signed ts next t
  | sign (s : Sign) (operand : Derives .signed ts next t) :
      Derives .signed (s.symbol :: ts) next (.operator (.sign s) [t])
  | operand (right : r.groupsLeft = false) (alone : Derives r.operand ts next t) :
      Derives (.binary r) ts next t
  | rightward (op : Operator) (level : op.rank = r) (right : r.groupsLeft = false)
      (left : Derives r.operand ts op.symbol t) (again : Derives (.binary r) us next u) :
      Derives (.binary r) (ts ++ op.symbol :: us) next (.operator (.operator op) [t, u])
  | leftward (left : r.groupsLeft = true) (first : Derives r.operand ts (us.headD next) t)
      (others : Derives (.joined r t) us next u) :
      Derives (.binary r) (ts ++ us) next u
  | unconditional (alone : Derives (.binary .or) ts next t) : Derives .conditional ts next t
  | conditional (condition : Derives (.binary .or) cs .question c)
      (yes : Derives .conditional ys .colon y) (no : Derives .conditional ns next n) :
      Derives .conditional (cs ++ .question :: (ys ++ .colon :: ns)) next
        (.operator .conditional [c, y, n])
  | joinedNone : Derives (.joined r t) [] next t
  | joinedMore (op : Operator) (level : op.rank = r)
      (operand : Derives r.operand ts (us.headD next) u)
      (others : Derives (.joined r (.operator (.operator op) [t, u])) us next v) :
      Derives (.joined r t) (op.symbol :: (ts ++ us)) next v
  | arguments (first : Derives .conditional ts (us.headD next) t)
      (others : Derives (.further t) us next u) :
      Derives .arguments (ts ++ us) next u
  | furtherNone : Derives (.further t) [] next t
  | furtherMore (others : Derives .arguments us next u) :
      Derives (.further t) (.comma :: us) next (.operator .arguments [t, u])

/-- The tokens of a whole expression and its tree. -/
def Sentence (ts : List Token) (t : Node) : Prop :=
  Derives .conditional ts .finish t

namespace Operator

theorem symbol_injective {op op' : Operator} (h : op.symbol = op'.symbol) : op = op' := by
  cases op <;> cases op' <;> first | rfl | cases h

theorem symbol_ne_finish (op : Operator) : op.symbol ≠ .finish := by
  cases op <;> simp [symbol]

theorem symbol_ne_identifier (op : Operator) (name : String) : op.symbol ≠ .identifier name := by
  cases op <;> simp [symbol]

end Operator

theorem Sign.symbol_injective {s s' : Sign} (h : s.symbol = s'.symbol) : s = s' := by
  cases s <;> cases s' <;> first | rfl | cases h

theorem Sign.symbol_ne_finish (s : Sign) : s.symbol ≠ .finish := by
  cases s <;> simp [symbol]

theorem Sign.symbol_ne_identifier (s : Sign) (name : String) : s.symbol ≠ .identifier name := by
  cases s <;> simp [symbol]

theorem Bracket.opening_injective {b b' : Bracket} (h : b.opening = b'.opening) : b = b' := by
  cases b <;> cases b' <;> first | rfl | cases h

theorem Bracket.closing_ne_leftParen (b : Bracket) : b.closing ≠ .leftParen := by
  cases b <;> simp [closing]

theorem Bracket.opening_ne_identifier (b : Bracket) (name : String) :
    b.opening ≠ .identifier name := by
  cases b <;> simp [opening]

theorem Bracket.closing_ne_identifier (b : Bracket) (name : String) :
    b.closing ≠ .identifier name := by
  cases b <;> simp [closing]

namespace Phrase

/-- A phrase ends in front of a token that could be no operator of it or of its last operand. -/
def Stops : Phrase → Token → Prop
  | conditional, next => (∀ op : Operator, next ≠ op.symbol) ∧ next ≠ .question
  | binary r, next | joined r _, next =>
    ∀ op : Operator, next = op.symbol → op.rank.tightness < r.tightness
  | signed, _ | atom, _ => True
  | arguments, next | further _, next =>
    (∀ op : Operator, next ≠ op.symbol) ∧ next ≠ .question ∧ next ≠ .comma

/-- Phrases that take at least one token. -/
def Solid : Phrase → Prop
  | joined _ _ | further _ => False
  | _ => True

theorem solid_operand (r : Rank) : r.operand.Solid := by
  cases r <;> exact trivial

theorem Stops.operand {r : Rank} (h : (binary r).Stops next) : r.operand.Stops next := by
  cases r
  case power => exact trivial
  all_goals
    intro op hop
    exact Nat.lt_succ_of_lt (h op hop)

/-- An operator ends its left operand. -/
theorem stops_symbol (op : Operator) : op.rank.operand.Stops op.symbol := by
  cases hr : op.rank
  case power => exact trivial
  all_goals
    intro op' h
    rw [← Operator.symbol_injective h, hr]
    exact Nat.lt_succ_self _

theorem Stops.ne_symbol {op : Operator} (h : (binary op.rank).Stops next) : next ≠ op.symbol :=
  fun hop => Nat.lt_irrefl _ (h op hop)

theorem Stops.binary (h : conditional.Stops next) : (binary r).Stops next :=
  fun op hop => absurd hop (h.1 op)

theorem stops_question : (Phrase.binary .or).Stops .question := by
  intro op; cases op <;> simp [Operator.symbol]

theorem stops_closing (b : Bracket) : conditional.Stops b.closing := by
  refine ⟨fun op => ?_, ?_⟩
  · cases b <;> cases op <;> simp [Bracket.closing, Operator.symbol]
  · cases b <;> simp [Bracket.closing]

theorem stops_colon : conditional.Stops .colon :=
  ⟨by intro op; cases op <;> simp [Operator.symbol], by simp⟩

theorem stops_comma : conditional.Stops .comma :=
  ⟨by intro op; cases op <;> simp [Operator.symbol], by simp⟩

theorem stops_finish : conditional.Stops .finish :=
  ⟨by intro op; cases op <;> simp [Operator.symbol], by simp⟩

theorem stops_arguments : arguments.Stops .rightParen :=
  ⟨by intro op; cases op <;> simp [Operator.symbol], by simp, by simp⟩

theorem Stops.argument (h : arguments.Stops next) : conditional.Stops next :=
  ⟨h.1, h.2.1⟩

end Phrase

/-- No operator has to stand behind an operand. -/
theorem Derives.binary (h : Derives r.operand ts next t) : Derives (.binary r) ts next t := by
  cases hr : r.groupsLeft with
  | false => exact .operand hr h
  | true =>
    rw [← List.append_nil ts]
    exact .leftward hr h .joinedNone

/-- The token behind an operand is the next operator, if there is one. -/
theorem Derives.joined_ahead (h : Derives (.joined r t) ts next u)
    (hs : (Phrase.binary r).Stops next) : r.operand.Stops (ts.headD next) := by
  cases h with
  | joinedNone => exact hs.operand
  | joinedMore op level operand others => exact level ▸ Phrase.stops_symbol op

/-- The token behind an argument is a comma, if there is one more. -/
theorem Derives.further_ahead (h : Derives (.further t) ts next u)
    (hs : Phrase.arguments.Stops next) : Phrase.conditional.Stops (ts.headD next) := by
  cases h with
  | furtherNone => exact hs.argument
  | furtherMore others => exact Phrase.stops_comma

/-- Tokens an expression can start with. -/
def Token.startsExpression : Token → Bool
  | .number _ | .identifier _ | .plus | .minus | .exclamation => true
  | .leftParen | .leftBracket | .leftBrace => true
  | _ => false

theorem Sign.symbol_starts (s : Sign) : s.symbol.startsExpression = true := by
  cases s <;> rfl

theorem Bracket.opening_starts (b : Bracket) : b.opening.startsExpression = true := by
  cases b <;> rfl

theorem Derives.head (h : Derives φ ts next t) (hφ : φ.Solid) :
    ∃ a us, ts = a :: us ∧ a.startsExpression = true := by
  induction h with
  | number | identifier _ | emptyCall | call _ => exact ⟨_, _, rfl, rfl⟩
  | group b => exact ⟨_, _, rfl, b.opening_starts⟩
  | sign s => exact ⟨_, _, rfl, s.symbol_starts⟩
  | unsigned _ ih | unconditional _ ih => exact ih trivial
  | operand _ _ ih => exact ih (Phrase.solid_operand _)
  | rightward _ _ _ _ _ ih | leftward _ _ _ ih =>
    obtain ⟨a, us, rfl, ha⟩ := ih (Phrase.solid_operand _)
    exact ⟨a, _, rfl, ha⟩
  | conditional _ _ _ ih | arguments _ _ ih =>
    obtain ⟨a, us, rfl, ha⟩ := ih trivial
    exact ⟨a, _, rfl, ha⟩
  | joinedNone | joinedMore | furtherNone | furtherMore => exact hφ.elim

theorem Derives.ne_nil (h : Derives φ ts next t) (hφ : φ.Solid) : ts ≠ [] := by
  obtain ⟨a, us, rfl, -⟩ := h.head hφ
  exact List.cons_ne_nil _ _

/-- The end of a text is no part of an expression. -/
theorem Derives.finish_not_mem (h : Derives φ ts next t) : Token.finish ∉ ts := by
  induction h with
  | number | identifier _ | emptyCall | joinedNone | furtherNone => simp
  | unsigned _ ih | operand _ _ ih | unconditional _ ih => exact ih
  | call _ ih | furtherMore _ ih => simpa using ih
  | group b _ ih => cases b <;> simpa [Bracket.opening, Bracket.closing] using ih
  | sign s _ ih => simpa [s.symbol_ne_finish.symm] using ih
  | rightward op _ _ _ _ ih ih' | joinedMore op _ _ _ ih ih' =>
    simpa [op.symbol_ne_finish.symm] using ⟨ih, ih'⟩
  | leftward _ _ _ ih ih' | arguments _ _ ih ih' => simpa using ⟨ih, ih'⟩
  | conditional _ _ _ ih ih' ih'' => simpa using ⟨ih, ih', ih''⟩

/-- What stands behind a phrase can be anything but a parenthesis that opens. -/
theorem Derives.behind (h : Derives φ ts next t) (hn : next' ≠ .leftParen) :
    Derives φ ts next' t := by
  induction h with
  | number => exact .number
  | identifier _ => exact .identifier hn
  | emptyCall => exact .emptyCall
  | call all => exact .call all
  | group b inner => exact .group b inner
  | unsigned _ ih => exact .unsigned ih
  | sign s _ ih => exact .sign s ih
  | operand right _ ih => exact .operand right ih
  | rightward op level right left _ _ ih => exact .rightward op level right left ih
  | @leftward _ _ _ us _ _ left first _ ih ih' =>
    cases us with
    | nil => exact .leftward left ih ih'
    | cons a us => exact .leftward left first ih'
  | unconditional _ ih => exact .unconditional ih
  | conditional condition yes _ _ _ ih => exact .conditional condition yes ih
  | joinedNone => exact .joinedNone
  | @joinedMore _ _ _ _ us _ _ op level operand _ ih ih' =>
    cases us with
    | nil => exact .joinedMore op level ih ih'
    | cons a us => exact .joinedMore op level operand ih'
  | @arguments _ _ us _ _ first _ ih ih' =>
    cases us with
    | nil => exact .arguments ih ih'
    | cons a us => exact .arguments first ih'
  | furtherNone => exact .furtherNone
  | furtherMore _ ih => exact .furtherMore ih

end Formula
