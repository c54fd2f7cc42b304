import Formula.Kind
import Formula.Text.LowerCase
import Std.Data.TreeSet

namespace Formula

/-- A tree of operands. The text is that of a number or a name, and empty elsewhere. Any kind can
have any number of operands. -/
structure Node where
  kind : Kind
  text : String
  operands : List Node

/-- Names in order. -/
abbrev Names := Std.TreeSet String

namespace Node

def leaf (kind : Kind) (text : String) : Node := ⟨kind, text, []⟩

def operator (kind : Kind) (operands : List Node) : Node := ⟨kind, "", operands⟩

mutual

/-- The number of nodes. -/
def size : Node → Nat
  | ⟨_, _, operands⟩ => sizes operands + 1

/-- The number of nodes in several trees. -/
def sizes : List Node → Nat
  | [] => 0
  | node :: rest => node.size + sizes rest

end

theorem size_mk (kind : Kind) (text : String) (operands : List Node) :
    size ⟨kind, text, operands⟩ = sizes operands + 1 := rfl

theorem size_eq (node : Node) : node.size = sizes node.operands + 1 := by
  cases node; rfl

theorem size_pos (node : Node) : 0 < node.size := by
  rw [size_eq]; omega

theorem sizes_append (xs ys : List Node) : sizes (xs ++ ys) = sizes xs + sizes ys := by
  induction xs with
  | nil => simp [sizes]
  | cons x xs ih => simp [sizes, ih, Nat.add_assoc]

/-- What holds of a tree if it holds of its operands holds of all trees. -/
theorem induction {motive : Node → Prop}
    (node : ∀ kind text operands, (∀ t ∈ operands, motive t) → motive ⟨kind, text, operands⟩) :
    ∀ t, motive t :=
  Node.rec node (by simp) (fun _ _ first others => List.forall_mem_cons.mpr ⟨first, others⟩)

/-- The row of all operands of a row of nodes. -/
def rowBelow (row : List Node) : List Node :=
  row.flatMap operands

theorem sizes_rowBelow (row : List Node) : sizes (rowBelow row) + row.length = sizes row := by
  induction row with
  | nil => rfl
  | cons x xs ih =>
    have h : rowBelow (x :: xs) = x.operands ++ rowBelow xs := List.flatMap_cons
    rw [h, sizes_append, sizes, size_eq, List.length_cons]
    omega

/-- A stack of trees with a row of trees put on it, the last of them on top. -/
def stacked (row stack : List Node) : List Node :=
  row.reverse ++ stack

theorem mem_stacked {node : Node} {row stack : List Node} :
    node ∈ stacked row stack ↔ node ∈ row ∨ node ∈ stack := by
  simp [stacked]

theorem sizes_stacked (row stack : List Node) :
    sizes (stacked row stack) = sizes row + sizes stack := by
  induction row generalizing stack with
  | nil => simp [stacked, sizes]
  | cons x xs ih =>
    have h : stacked (x :: xs) stack = stacked xs (x :: stack) := by simp [stacked]
    rw [h, ih, sizes, sizes]
    omega

/-- The nodes of a stack of trees, each before its operands, which are put on the stack. -/
def preorderFrom (visited : Array Node) : (pending : List Node) → Array Node
  | [] => visited
  | node :: rest => preorderFrom (visited.push node) (stacked node.operands rest)
termination_by pending => sizes pending
decreasing_by rw [sizes_stacked, sizes, size_eq]; omega

def preorder (node : Node) : List Node :=
  (preorderFrom #[] [node]).toList

def count (node : Node) : Nat :=
  node.preorder.length

/-- The number of rows from a row of nodes down. -/
def rowsFrom (rows : Nat) (row : List Node) : Nat :=
  if h : row = [] then rows else rowsFrom (rows + 1) (rowBelow row)
termination_by sizes row
decreasing_by
  have := sizes_rowBelow row
  have := List.length_pos_iff.mpr h
  omega

/-- The number of nodes on the longest way from the root to a leaf. -/
def height (node : Node) : Nat :=
  rowsFrom 0 [node]

/-- The texts of the nodes of a kind in lower case. -/
def namesOf (kind : Kind) (node : Node) : Names :=
  node.preorder.foldl
    (fun names n => if n.kind = kind then names.insert (Text.lower n.text) else names) ∅

/-- Whether two rows of trees are the same. -/
def sameRows : List Node → List Node → Bool
  | [], [] => true
  | x :: xs, y :: ys =>
    if x.kind = y.kind ∧ x.text = y.text ∧ x.operands.length = y.operands.length then
      sameRows (x.operands ++ xs) (y.operands ++ ys)
    else
      false
  | _, _ => false
termination_by row => sizes row
decreasing_by rw [sizes_append, sizes, size_eq]; omega

def same (x y : Node) : Bool :=
  sameRows [x] [y]

/-- How trees are written: what comes before and after the operands of a node, and between them. -/
structure Style where
  before : Node → String
  between : String
  after : Node → String

/-- A part of a text that is being written: words, or a tree with the words in front of it. -/
inductive Piece where
  | words (words : String)
  | tree (lead : String) (node : Node)

namespace Piece

def weight : Piece → Nat
  | .words _ => 1
  | .tree _ node => 2 * node.size

def weights : List Piece → Nat
  | [] => 0
  | piece :: rest => piece.weight + weights rest

theorem weights_append (xs ys : List Piece) : weights (xs ++ ys) = weights xs + weights ys := by
  induction xs with
  | nil => simp [weights]
  | cons x xs ih => simp [weights, ih, Nat.add_assoc]

theorem weights_map_tree (lead : String) (nodes : List Node) :
    weights (nodes.map (tree lead)) = 2 * sizes nodes := by
  induction nodes with
  | nil => rfl
  | cons x xs ih => simp only [List.map_cons, weights, weight, ih, sizes]; omega

/-- The operands of a node with what stands between them. -/
def row (between : String) : List Node → List Piece
  | [] => []
  | first :: others => .tree "" first :: others.map (.tree between)

theorem weights_row (between : String) (nodes : List Node) :
    weights (row between nodes) = 2 * sizes nodes := by
  cases nodes with
  | nil => rfl
  | cons x xs => simp only [row, weights, weight, weights_map_tree, sizes]; omega

end Piece

def Style.writeFrom (style : Style) (written : String) : List Piece → String
  | [] => written
  | .words words :: rest => style.writeFrom (written ++ words) rest
  | .tree lead node :: rest =>
    style.writeFrom (written ++ lead ++ style.before node)
      (Piece.row style.between node.operands ++ .words (style.after node) :: rest)
termination_by pieces => Piece.weights pieces
decreasing_by
  · simp [Piece.weights, Piece.weight]
  · simp only [Piece.weights_append, Piece.weights_row, Piece.weights, Piece.weight, size_eq node]
    omega

/-- The text of a tree in a style. -/
def Style.write (style : Style) (node : Node) : String :=
  style.writeFrom "" [.tree "" node]

/-- The outline of a tree: the kind of each node, its text behind a colon and its operands in
parentheses, where it has them. -/
def outlined : Style where
  before node :=
    node.kind.name ++ (if node.text.isEmpty then "" else ":" ++ node.text) ++
      (if node.operands.isEmpty then "" else "(")
  between := ","
  after node := if node.operands.isEmpty then "" else ")"

def outline (node : Node) : String :=
  outlined.write node

end Node
end Formula
