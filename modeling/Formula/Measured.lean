import Formula.Node

namespace Formula

/-- A tree that keeps the height of each of its nodes. -/
structure Measured where
  kind : Kind
  text : String
  operands : List Measured
  height : Nat

namespace Measured

/-- A node over given operands. It is one higher than the highest of them. -/
def new (kind : Kind) (text : String) (operands : List Measured) : Measured :=
  ⟨kind, text, operands, 1 + (operands.map height).max?.getD 0⟩

def leaf (kind : Kind) (text : String) : Measured := new kind text []

def operator (kind : Kind) (operands : List Measured) : Measured := new kind "" operands

mutual

/-- A copy of every node. The heights are copied as they are kept. -/
def copy : Measured → Measured
  | ⟨kind, text, operands, height⟩ => ⟨kind, text, copies operands, height⟩

def copies : List Measured → List Measured
  | [] => []
  | node :: rest => node.copy :: copies rest

end

mutual

/-- The tree without the heights. -/
def tree : Measured → Node
  | ⟨kind, text, operands, _⟩ => ⟨kind, text, trees operands⟩

def trees : List Measured → List Node
  | [] => []
  | node :: rest => node.tree :: trees rest

end

mutual

/-- A tree with heights, built from the leaves up. -/
def ofNode : Node → Measured
  | ⟨kind, text, operands⟩ => new kind text (ofNodes operands)

def ofNodes : List Node → List Measured
  | [] => []
  | node :: rest => ofNode node :: ofNodes rest

end

/-- What holds of a node if it holds of its operands holds of all nodes. -/
@[induction_eliminator]
theorem induction {motive : Measured → Prop}
    (node : ∀ kind text operands height, (∀ m ∈ operands, motive m) →
      motive ⟨kind, text, operands, height⟩) : ∀ m, motive m :=
  Measured.rec node (by simp) (fun _ _ first others => List.forall_mem_cons.mpr ⟨first, others⟩)

theorem copies_eq_map (ms : List Measured) : copies ms = ms.map copy := by
  induction ms with
  | nil => rfl
  | cons m ms ih => rw [copies, ih, List.map_cons]

theorem trees_eq_map (ms : List Measured) : trees ms = ms.map tree := by
  induction ms with
  | nil => rfl
  | cons m ms ih => rw [trees, ih, List.map_cons]

theorem ofNodes_eq_map (ts : List Node) : ofNodes ts = ts.map ofNode := by
  induction ts with
  | nil => rfl
  | cons t ts ih => rw [ofNodes, ih, List.map_cons]

theorem tree_new (kind : Kind) (text : String) (ms : List Measured) :
    (new kind text ms).tree = ⟨kind, text, ms.map tree⟩ :=
  congrArg (Node.mk kind text) (trees_eq_map ms)

theorem ofNode_mk (kind : Kind) (text : String) (ts : List Node) :
    ofNode ⟨kind, text, ts⟩ = new kind text (ts.map ofNode) :=
  congrArg (new kind text) (ofNodes_eq_map ts)

theorem operands_ofNode (t : Node) : (ofNode t).operands = t.operands.map ofNode := by
  obtain ⟨kind, text, operands⟩ := t
  exact ofNodes_eq_map operands

theorem tree_ofNode (t : Node) : (ofNode t).tree = t := by
  induction t using Node.induction with
  | node kind text operands ih =>
    have same : operands.map (fun t => (ofNode t).tree) = operands.map id := List.map_congr_left ih
    rw [ofNode_mk, tree_new, List.map_map]
    exact congrArg (Node.mk kind text) (same.trans (List.map_id operands))

/-- A copy is no different from what is copied. -/
theorem copy_eq (m : Measured) : m.copy = m := by
  induction m with
  | node kind text operands height ih =>
    rw [copy, copies_eq_map, List.map_congr_left ih, List.map_id']

end Measured
end Formula
