import Formula.Proofs.Numerals
import Formula.Proofs.Verdict
import Mathlib.Data.List.Forall2

namespace Formula
namespace Node

/-- A node of a tree, which can be the root. -/
inductive Within : Node → Node → Prop where
  | here : Within node node
  | under (operand : child ∈ root.operands) (inside : Within node child) : Within node root

/-- A node with the operands that its kind wants. Arguments stand in a call, or behind the first of
several arguments, and a number has a value. -/
structure Sound (node : Node) : Prop where
  arity : ∀ n, node.kind.arity = some n → node.operands.length = n
  call : node.kind = .call → node.operands.length ≤ 1
  arguments : ∀ i operand, node.operands[i]? = some operand → operand.kind = .arguments →
    node.kind = .call ∨ (node.kind = .arguments ∧ i = 1)
  number : node.kind = .number → ∃ v, Value.ofNumber node.text = .ok v

/-- A tree of sound nodes that is no list of arguments. -/
structure WellFormed (root : Node) : Prop where
  single : root.kind ≠ .arguments
  sound : ∀ node, Within node root → node.Sound

theorem Within.trans (h : Within node child) (h' : Within child root) : Within node root := by
  induction h' with
  | here => exact h
  | under operand _ ih => exact .under operand (ih h)

theorem sizes_of_mem (h : t ∈ ts) : t.size ≤ sizes ts := by
  obtain ⟨before, after, rfl⟩ := List.append_of_mem h
  rw [sizes_append, sizes]
  omega

theorem size_lt (h : t ∈ operands root) : t.size < root.size := by
  rw [size_eq root]
  exact Nat.lt_succ_of_le (sizes_of_mem h)

/-- To relate the operands of two nodes it is enough to look at trees smaller than the first. -/
theorem forall₂_of_smaller {R S : Node → Node → Prop} (h : List.Forall₂ R ts us)
    (step : ∀ t u, t.size < sizes ts + 1 → R t u → S t u) : List.Forall₂ S ts us := by
  induction h with
  | nil => exact .nil
  | @cons t u ts us first _ ih =>
    have hsizes : sizes (t :: ts) = t.size + sizes ts := rfl
    refine .cons (step t u (by omega) first) (ih fun v w smaller => step v w ?_)
    omega

theorem Within.size_le (h : Within node root) : node.size ≤ root.size := by
  induction h with
  | here => exact Nat.le_refl _
  | @under child node root operand _ ih =>
    have hle := sizes_of_mem operand
    have hroot := size_eq root
    omega

theorem within_leaf (h : Within node (leaf k name)) : node = leaf k name := by
  cases h with
  | here => rfl
  | under operand _ => cases operand

theorem sound_of_operands (h : root.Sound)
    (hs : ∀ operand ∈ root.operands, ∀ node, Within node operand → node.Sound) (node : Node)
    (hn : Within node root) : node.Sound := by
  cases hn with
  | here => exact h
  | under operand inside => exact hs _ operand node inside

theorem wellFormed_number (h : Value.ofNumber word = .ok v) : (leaf .number word).WellFormed := by
  refine ⟨by simp [leaf], ?_⟩
  intro node hn
  rw [within_leaf hn]
  exact ⟨by simp [leaf, Kind.arity], by simp [leaf], by simp [leaf], fun _ => ⟨v, h⟩⟩

theorem wellFormed_leaf (h : k = .identifier ∨ k = .call) :
    (leaf k name).WellFormed := by
  refine ⟨by rcases h with rfl | rfl <;> simp [leaf], ?_⟩
  intro node hn
  rw [within_leaf hn]
  rcases h with rfl | rfl
  · exact ⟨by simp [leaf, Kind.arity], by simp [leaf], by simp [leaf], by simp [leaf]⟩
  · exact ⟨by simp [leaf, Kind.arity], by simp [leaf], by simp [leaf], by simp [leaf]⟩

theorem wellFormed_call (h : ∀ node, Within node t → node.Sound) :
    WellFormed ⟨.call, name, [t]⟩ := by
  refine ⟨by simp, sound_of_operands ?_ (by simpa using h)⟩
  exact ⟨by simp [Kind.arity], by simp, by simp, by simp⟩

/-- Operators, brackets, signs and conditionals over trees of their own. -/
theorem wellFormed_operator {ts : List Node} (hk : k = .group ∨ (∃ s, k = .sign s) ∨
      (∃ op, k = .operator op) ∨ k = .conditional)
    (ha : k.arity = some ts.length) (hs : ∀ t ∈ ts, t.WellFormed) :
    (operator k ts).WellFormed := by
  have hne : k ≠ .arguments ∧ k ≠ .call ∧ k ≠ .number := by
    rcases hk with rfl | ⟨s, rfl⟩ | ⟨op, rfl⟩ | rfl <;> simp
  refine ⟨hne.1, sound_of_operands ⟨?_, ?_, ?_, ?_⟩ (fun t ht => (hs t ht).sound)⟩
  · intro n hn
    rw [operator, ha] at hn
    exact Option.some.inj hn
  · intro hc
    exact absurd hc hne.2.1
  · intro i t ht hc
    exact absurd hc (hs t (List.mem_of_getElem? ht)).single
  · intro hc
    exact absurd hc hne.2.2

theorem sound_arguments (ht : t.WellFormed) (hu : ∀ node, Within node u → node.Sound) (node : Node)
    (hn : Within node (operator .arguments [t, u])) : node.Sound := by
  refine sound_of_operands ⟨by simp [operator, Kind.arity], by simp [operator], ?_,
    by simp [operator]⟩ ?_ node hn
  · intro i child hi hc
    rcases i with - | - | i
    · cases hi
      exact absurd hc ht.single
    · exact .inr ⟨rfl, rfl⟩
    · cases hi
  · intro child hchild
    simp only [operator, List.mem_cons, List.not_mem_nil, or_false] at hchild
    rcases hchild with rfl | rfl
    · exact ht.sound
    · exact hu

end Node

namespace Phrase

/-- Only the arguments of a call form a list. -/
def Forms : Phrase → Node → Prop
  | arguments, t | further _, t => ∀ node, Node.Within node t → node.Sound
  | _, t => t.WellFormed

/-- What a phrase holds already is no list. -/
def Holds : Phrase → Prop
  | joined _ t | further t => t.WellFormed
  | _ => True

theorem forms_operand {r : Rank} : r.operand.Forms t ↔ t.WellFormed := by
  cases r <;> exact Iff.rfl

theorem holds_operand (r : Rank) : r.operand.Holds := by
  cases r <;> exact trivial

end Phrase

/-- A number has a value, and other tokens need none. -/
def Token.HasValue : Token → Prop
  | .number word => ∃ v, Value.ofNumber word = .ok v
  | _ => True

/-- The tree of a phrase is well formed if its numbers have values. -/
theorem Derives.forms (h : Derives φ ts next t) (values : ∀ x ∈ ts, x.HasValue)
    (holds : φ.Holds) : φ.Forms t := by
  induction h with
  | number =>
    obtain ⟨v, hv⟩ := values _ (List.mem_cons_self ..)
    exact Node.wellFormed_number hv
  | identifier _ => exact Node.wellFormed_leaf (.inl rfl)
  | emptyCall => exact Node.wellFormed_leaf (.inr rfl)
  | call _ ih =>
    simp only [List.forall_mem_cons, List.forall_mem_append] at values
    obtain ⟨-, -, hts, -⟩ := values
    exact Node.wellFormed_call (ih hts trivial)
  | group b _ ih =>
    simp only [List.forall_mem_cons, List.forall_mem_append] at values
    obtain ⟨-, hts, -⟩ := values
    have ht : Node.WellFormed _ := ih hts trivial
    exact Node.wellFormed_operator (.inl rfl) rfl (by simpa using ht)
  | unsigned _ ih | unconditional _ ih => exact ih values trivial
  | sign s _ ih =>
    simp only [List.forall_mem_cons] at values
    have ht : Node.WellFormed _ := ih values.2 trivial
    exact Node.wellFormed_operator (.inr (.inl ⟨s, rfl⟩)) rfl (by simpa using ht)
  | operand _ _ ih => exact Phrase.forms_operand.mp (ih values (Phrase.holds_operand _))
  | rightward op _ _ _ _ ih ih' =>
    simp only [List.forall_mem_cons, List.forall_mem_append] at values
    obtain ⟨hts, -, hus⟩ := values
    have ht := Phrase.forms_operand.mp (ih hts (Phrase.holds_operand _))
    have hu := ih' hus trivial
    exact Node.wellFormed_operator (.inr (.inr (.inl ⟨op, rfl⟩))) rfl (by simpa using ⟨ht, hu⟩)
  | leftward _ _ _ ih ih' =>
    simp only [List.forall_mem_append] at values
    exact ih' values.2 (Phrase.forms_operand.mp (ih values.1 (Phrase.holds_operand _)))
  | conditional _ _ _ ih ih' ih'' =>
    simp only [List.forall_mem_cons, List.forall_mem_append] at values
    obtain ⟨hcs, -, hys, -, hns⟩ := values
    have hc := ih hcs trivial
    have hy := ih' hys trivial
    have hn := ih'' hns trivial
    exact Node.wellFormed_operator (.inr (.inr (.inr rfl))) rfl (by simpa using ⟨hc, hy, hn⟩)
  | joinedNone => exact holds
  | joinedMore op _ _ _ ih ih' =>
    simp only [List.forall_mem_cons, List.forall_mem_append] at values
    obtain ⟨-, hts, hus⟩ := values
    have hu := Phrase.forms_operand.mp (ih hts (Phrase.holds_operand _))
    refine ih' hus ?_
    exact Node.wellFormed_operator (.inr (.inr (.inl ⟨op, rfl⟩))) rfl (by simpa using ⟨holds, hu⟩)
  | arguments _ _ ih ih' =>
    simp only [List.forall_mem_append] at values
    exact ih' values.2 (ih values.1 trivial)
  | furtherNone => exact holds.sound
  | furtherMore _ ih =>
    simp only [List.forall_mem_cons] at values
    exact Node.sound_arguments holds (ih values.2 trivial)

/-- All tokens that a lexer reads have the values they need. -/
theorem Lexer.Reads.hasValue (h : Reads lexer ts last) (x : Token) (hx : x ∈ ts) : x.HasValue := by
  cases x with
  | number word => exact h.number_value hx
  | _ => trivial

namespace Builder

theorem parse_wellFormed {builder : Builder V F} (h : builder.parse text = .ok expression) :
    expression.root.WellFormed := by
  obtain ⟨ts, last, after, hr, -, hs, -⟩ := sentence_of_parse h
  exact Derives.forms hs hr.hasValue trivial

end Builder
end Formula
