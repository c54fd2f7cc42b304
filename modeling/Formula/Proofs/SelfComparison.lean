import Formula.Proofs.Layouts
import Formula.Proofs.Prospects
import Formula.Proofs.Stateless
import Mathlib

namespace Formula

section

open Float.Model

/-- A number less itself is zero, but an infinity less itself is no number. -/
theorem unpacked_sub_self (u : UnpackedFloat) :
    u.sub .binary64 u = if u.isFinite then .zero .positive else .notANumber := by
  cases u with
  | notANumber => rfl
  | infinity s => cases s <;> rfl
  | zero s => cases s <;> rfl
  | finite s m e pos =>
    simp [UnpackedFloat.sub, UnpackedFloat.normalize, UnpackedFloat.isFinite]

theorem nearZero_sub_self (x : Float) : nearZero (x - x) = x.isFinite := by
  have difference : x - x = .ofModel (.pack (x.toModel.unpack.sub .binary64 x.toModel.unpack)) := rfl
  have finite : x.isFinite = x.toModel.unpack.isFinite := rfl
  rw [difference, unpacked_sub_self, finite]
  cases x.toModel.unpack.isFinite with
  | true => decide
  | false => decide

end

/-- Brackets around an expression that is compared with itself. -/
def Node.selfCompared (op : Operator) (t : Node) : Node :=
  .operator (.operator op) [.operator .group [t], .operator .group [t]]

/-- The text of a comparison of an expression with itself. -/
def selfComparedText (symbol source : String) : String :=
  "(" ++ source ++ ") " ++ symbol ++ " (" ++ source ++ ")"

/-- The tokens in brackets on both sides of an operator. -/
def selfComparedTokens (op : Operator) (ts : List Token) : List Token :=
  .leftParen :: (ts ++ .rightParen :: op.symbol :: .leftParen :: (ts ++ [.rightParen]))

theorem layout_opened {text : List Char} (blank : Blank blanks) (inside : Layout text ts) :
    Layout (blanks ++ '(' :: text) (.leftParen :: ts) := by
  have read : Reading.ofText (['('] ++ text) = .token .leftParen ['('].length :=
    Reading.ofText_single (Bracket.lexeme_opening .round) (apart_opening .round) text
  exact .word blank read (by simp) inside

theorem layout_selfCompared {source symbol : String} (h : Layout source.toList ts)
    (spells : Lexeme symbol.toList op.symbol) :
    Layout (selfComparedText symbol source).toList (selfComparedTokens op ts) := by
  have space : Text.isBlank ' ' = true := by decide
  have blank : Blank [' '] := by simpa [Blank] using space
  have closed {text : List Char} {us : List Token} (behind : Layout text us) :
      Layout (source.toList ++ ')' :: text) (ts ++ .rightParen :: us) :=
    h.append (Bracket.lexeme_closing .round) (apart_closing .round) behind
  have right := layout_opened blank (closed (.finish blank_nil))
  have read := Reading.ofText_apart spells (apart_of_isBlank space)
    ('(' :: (source.toList ++ [')']))
  have joined := Layout.word blank read op.symbol_ne_finish right
  simpa [selfComparedText, selfComparedTokens] using layout_opened blank_nil (closed joined)

theorem sentence_selfCompared (h : Sentence ts t) (op : Operator) :
    Sentence (selfComparedTokens op ts) (t.selfCompared op) := by
  have atom (next : Token) : Derives .atom (.leftParen :: (ts ++ [.rightParen])) next
      (.operator .group [t]) :=
    .group .round (h.behind Bracket.round.closing_ne_leftParen)
  have both : Derives (.binary op.rank) (.leftParen :: (ts ++ [.rightParen]) ++ op.symbol ::
      (.leftParen :: (ts ++ [.rightParen]))) .finish (t.selfCompared op) := .joining atom atom
  simpa [selfComparedTokens, Sentence] using both.of_binary

theorem Node.nesting_selfCompared_le (op : Operator) (t : Node) :
    (t.selfCompared op).nesting ≤ t.nesting + 2 := by
  rw [selfCompared, nesting_operator, nesting_group]
  split <;> omega

namespace Node

variable {host : Host V F σ} {context : Context V F} {t : Node} {x : Float}

/-- Both sides of a comparison have the same value. -/
theorem eval_selfCompared {op : Operator} {holds : Float → Float → Bool}
    (settled : op.settle? v = v.toDouble >>= fun _ => pure none)
    (combined : op.combine = Operator.comparison holds)
    (value : eval host context t = pure v) (double : v.toDouble = .ok x) :
    eval host context (t.selfCompared op) = pure (.boolean (holds x x)) := by
  have group : eval host context (.operator .group [t]) = pure v := by
    rw [operator, eval, value]
  have unsettled : op.settle? v = .ok none := by
    rw [settled, double]
    rfl
  have result : op.combine v v = .ok (.boolean (holds x x)) := by
    rw [combined, Operator.comparison, double]
    rfl
  rw [selfCompared, operator, eval, group]
  simp only [pure_bind, unsettled, result, converted]

theorem eval_selfEqual (value : eval host context t = pure v) (double : v.toDouble = .ok x) :
    eval host context (t.selfCompared .equal) = pure (.boolean x.isFinite) := by
  have combined : Operator.equal.combine = Operator.comparison fun x y => nearZero (x - y) := rfl
  rw [← nearZero_sub_self]
  exact eval_selfCompared rfl combined value double

theorem eval_selfDifferent (value : eval host context t = pure v) (double : v.toDouble = .ok x) :
    eval host context (t.selfCompared .notEqual) = pure (.boolean (!x.isFinite)) := by
  have combined : Operator.notEqual.combine = Operator.comparison fun x y => !nearZero (x - y) := rfl
  rw [← nearZero_sub_self]
  exact eval_selfCompared rfl combined value double

end Node

namespace Builder

theorem parse_selfCompared (builder : Builder V F) {source symbol : String} {op : Operator}
    {limit : Nat}
    (parsed : builder.parse source = .ok expression) (spells : Lexeme symbol.toList op.symbol)
    (room : builder.limit + 2 ≤ limit) :
    { builder with limit }.parse (selfComparedText symbol source) =
      .ok ⟨expression.root.selfCompared op, builder.context⟩ := by
  obtain ⟨ts, layout, hs, deep⟩ := layout_of_parse parsed
  refine parse_of_layout { builder with limit } (layout_selfCompared layout spells)
    (sentence_selfCompared hs op) ?_
  have nesting := Node.nesting_selfCompared_le op expression.root
  dsimp only
  omega

/-- An expression is equal to itself where its value is a finite number. Otherwise it is not, since
numbers are compared by their difference, and the difference of an infinity and itself is no
number. -/
theorem parse_eval_selfCompared (builder : Builder V F) (source : String)
    (expression : Expression V F) (parsed : builder.parse source = .ok expression) :
    (∀ limit, builder.limit + 2 ≤ limit →
      { builder with limit }.parse (selfComparedText "==" source) =
        .ok ⟨expression.root.selfCompared .equal, builder.context⟩ ∧
      { builder with limit }.parse (selfComparedText "!=" source) =
        .ok ⟨expression.root.selfCompared .notEqual, builder.context⟩) ∧
    ∀ (σ : Type) (host : Host V F σ) (context : Context V F), Stateless host context →
      ∀ s v s' x, Expression.eval host ⟨expression.root, context⟩ s = .ok v s' →
        v.toDouble = .ok x →
        Expression.eval host ⟨expression.root.selfCompared .equal, context⟩ s =
          .ok (.boolean x.isFinite) s ∧
        Expression.eval host ⟨expression.root.selfCompared .notEqual, context⟩ s =
          .ok (.boolean (!x.isFinite)) s := by
  constructor
  · intro limit room
    exact ⟨parse_selfCompared builder parsed (.symbol (by decide)) room,
      parse_selfCompared builder parsed (.symbol (by decide)) room⟩
  · intro σ host context stateless s v s' x value double
    have value := stateless.eval_pure value
    constructor
    · rw [Expression.eval, Node.eval_selfEqual value double]
      rfl
    · rw [Expression.eval, Node.eval_selfDifferent value double]
      rfl

/-- A context in which a variable stands for a number. -/
def numberContext (x : Float) : Context Value Value :=
  empty.context.change (.setVariable "x" (.double x))

theorem eval_numberContext (x : Float) :
    Expression.eval .constants ⟨.leaf .identifier "x", numberContext x⟩ () =
      .ok (.double x) () := by
  cbv

set_option maxRecDepth 1024 in
/-- The smallest positive number is equal to itself, although every number as small counts as
zero. -/
theorem parse_eval_selfCompared_smallest :
    ({ limit := 3 } : Builder Value Value).parse "(x) == (x)" =
        .ok ⟨(Node.leaf .identifier "x").selfCompared .equal, empty.context⟩ ∧
      Expression.eval .constants
        ⟨(Node.leaf .identifier "x").selfCompared .equal, numberContext (.ofBits 1)⟩ () =
        .ok (.boolean true) () := by
  have parsed : ({ limit := 1 } : Builder Value Value).parse "x" =
      .ok ⟨.leaf .identifier "x", empty.context⟩ := by cbv
  obtain ⟨read, compared⟩ := parse_eval_selfCompared _ "x" _ parsed
  have equal := (compared Unit .constants _ (stateless_constants (numberContext (.ofBits 1))) ()
    _ _ _ (eval_numberContext (.ofBits 1)) rfl).1
  have finite : (Float.ofBits 1).isFinite = true := by decide
  rw [finite] at equal
  exact ⟨(read 3 (by decide)).1, equal⟩

def ratio : Node :=
  .operator (.operator .divide) [.leaf .number "1", .leaf .number "0"]

theorem eval_ratio (host : Host V F σ) (context : Context V F) :
    ratio.eval host context = pure (.double (1 / 0)) := by
  have one : Value.ofNumber "1" = .ok (.double 1) := by
    have read : Double.read? "1" = some 1 := by decide +kernel
    rw [Value.ofNumber, read]
  have zero : Value.ofNumber "0" = .ok (.double 0) := by
    have read : Double.read? "0" = some 0 := by decide +kernel
    rw [Value.ofNumber, read]
  rw [ratio, Node.operator, Node.eval, Node.leaf, Node.leaf, Node.eval, Node.eval, one, zero]
  rfl

/-- An infinity is not equal to itself, although it is a number. -/
theorem infinity_selfCompared :
    (empty : Builder Value Value).parse "1/0" = .ok ⟨ratio, empty.context⟩ ∧
      Stateless .constants (empty.context : Context Value Value) ∧
      Expression.eval .constants ⟨ratio, empty.context⟩ () = .ok (.double (1 / 0)) () ∧
      (1 / 0 : Float).isNaN = false ∧
      (empty : Builder Value Value).parse "(1/0) == (1/0)" =
        .ok ⟨ratio.selfCompared .equal, empty.context⟩ ∧
      Expression.eval .constants ⟨ratio.selfCompared .equal, empty.context⟩ () =
        .ok (.boolean false) () := by
  refine ⟨by cbv, stateless_constants _, ?_, by decide, by cbv, ?_⟩
  · rw [Expression.eval, eval_ratio]
    rfl
  · rw [Expression.eval, Node.eval_selfEqual (eval_ratio _ _) rfl]
    rfl

end Builder
end Formula
