import Formula.Measured
import Formula.Proofs.ParserCalls
import Formula.Proofs.Visits

namespace Formula
namespace Node

/-- The nodes on a way from the root of a tree down to a leaf, both of these among them. -/
inductive Way : Node → List Node → Prop where
  | leaf (bare : root.operands = []) : Way root [root]
  | down (operand : child ∈ root.operands) (below : Way child nodes) : Way root (root :: nodes)

/-- The number of nodes on the longest way from the root of a tree down to a leaf. -/
def IsHeight (root : Node) (n : Nat) : Prop :=
  (∃ nodes, Way root nodes ∧ nodes.length = n) ∧ ∀ nodes, Way root nodes → nodes.length ≤ n

theorem IsHeight.unique (h : IsHeight root n) (h' : IsHeight root n') : n = n' := by
  obtain ⟨⟨nodes, way, longest⟩, bound⟩ := h
  obtain ⟨⟨nodes', way', longest'⟩, bound'⟩ := h'
  have := bound nodes' way'
  have := bound' nodes way
  omega

theorem le_rowsFrom (rows : Nat) (row : List Node) : rows ≤ rowsFrom rows row := by
  fun_induction rowsFrom rows row with
  | case1 rows => exact Nat.le_refl _
  | case2 rows row more ih => omega

/-- A way takes a node from every row that it comes through. -/
theorem Way.le_rowsFrom (way : Way top nodes) (mem : top ∈ row) (rows : Nat) :
    rows + nodes.length ≤ rowsFrom rows row := by
  induction way generalizing rows row with
  | leaf bare =>
    rw [rowsFrom, dif_neg (List.ne_nil_of_mem mem)]
    exact Node.le_rowsFrom ..
  | @down child nodes root operand below ih =>
    have next : child ∈ rowBelow row := List.mem_flatMap.mpr ⟨root, mem, operand⟩
    have h := ih next (rows + 1)
    rw [rowsFrom, dif_neg (List.ne_nil_of_mem mem), List.length_cons]
    omega

/-- Some way takes a node from every row down to the last. -/
theorem exists_way_rowsFrom (rows : Nat) (row : List Node) (h : row ≠ []) :
    ∃ top ∈ row, ∃ nodes, Way top nodes ∧ rowsFrom rows row = rows + nodes.length := by
  fun_induction rowsFrom rows row with
  | case1 rows => exact absurd rfl h
  | case2 rows row more ih =>
    by_cases hb : rowBelow row = []
    -- This row is the last, so that all its nodes are leaves.
    · obtain ⟨top, mem⟩ := List.exists_mem_of_ne_nil row h
      have bare : top.operands = [] := List.flatMap_eq_nil_iff.mp hb top mem
      refine ⟨top, mem, [top], .leaf bare, ?_⟩
      rw [hb, rowsFrom, dif_pos rfl, List.length_singleton]
    · obtain ⟨child, mem, nodes, below, same⟩ := ih hb
      obtain ⟨top, mem, operand⟩ := List.mem_flatMap.mp mem
      refine ⟨top, mem, top :: nodes, .down operand below, ?_⟩
      rw [same, List.length_cons]
      omega

/-- There are as many rows as nodes on the longest way. -/
theorem isHeight_height (root : Node) : root.IsHeight root.height := by
  constructor
  · obtain ⟨top, mem, nodes, way, same⟩ := exists_way_rowsFrom 0 [root] (by simp)
    cases List.mem_singleton.mp mem
    exact ⟨nodes, way, by rw [height, same, Nat.zero_add]⟩
  · intro nodes way
    rw [height, ← Nat.zero_add nodes.length]
    exact way.le_rowsFrom (List.mem_singleton_self root) 0

end Node

namespace Measured

theorem height_new (k : Kind) (word : String) (ms : List Measured) :
    (new k word ms).height = 1 + (ms.map height).max?.getD 0 := rfl

/-- If operands keep their heights, so does a new node over them. -/
theorem isHeight_new (h : ∀ m ∈ ms, m.tree.IsHeight m.height) :
    (new k word ms).tree.IsHeight (new k word ms).height := by
  rw [tree_new, height_new]
  constructor
  · cases hg : (ms.map height).max? with
    | none =>
      have bare : ms.map tree = [] := by simpa using hg
      exact ⟨_, .leaf bare, rfl⟩
    | some greatest =>
      obtain ⟨top, mem, rfl⟩ := List.mem_map.mp (List.max?_mem hg)
      obtain ⟨nodes, below, longest⟩ := (h top mem).1
      refine ⟨_, .down (List.mem_map_of_mem mem) below, ?_⟩
      rw [List.length_cons, longest, Option.getD_some, Nat.add_comm]
  · intro nodes way
    cases way with
    | leaf bare => exact Nat.le_add_right ..
    | @down child nodes _ operand below =>
      obtain ⟨m, mem, rfl⟩ := List.mem_map.mp operand
      have shorter := (h m mem).2 nodes below
      have greatest : m.height ≤ (ms.map height).max?.getD 0 :=
        List.le_max?_getD_of_mem (List.mem_map_of_mem mem)
      rw [List.length_cons]
      omega

theorem isHeight_ofNode (t : Node) : t.IsHeight (ofNode t).height := by
  induction t using Node.induction with
  | node kind text operands ih =>
    have h : ∀ m ∈ operands.map ofNode, m.tree.IsHeight m.height := by
      intro m mem
      obtain ⟨t, inside, rfl⟩ := List.mem_map.mp mem
      rw [tree_ofNode]
      exact ih t inside
    have tree := tree_ofNode ⟨kind, text, operands⟩
    rw [ofNode_mk] at tree ⊢
    exact tree ▸ isHeight_new h

/-- How nodes come about: by the constructors, as copies, and as answers of a parser, which builds
them by the constructors. An operand of a node can be taken for itself. -/
inductive Made : Measured → Prop where
  | new (operands : ∀ m ∈ ms, Made m) : Made (new k word ms)
  | leaf : Made (leaf k word)
  | operator (operands : ∀ m ∈ ms, Made m) : Made (operator k ms)
  | copy (original : Made m) : Made m.copy
  | operand (whole : Made m) (stands : below ∈ m.operands) : Made below
  | parsed (answer : Parser.Request.run request p = .ok t q) : Made (ofNode t)

theorem new_eq_ofNode (h : ∀ m ∈ ms, m = ofNode m.tree) :
    new k word ms = ofNode (new k word ms).tree := by
  have same : ms.map (fun m => ofNode m.tree) = ms.map id :=
    List.map_congr_left fun m mem => (h m mem).symm
  rw [tree_new, ofNode_mk, List.map_map]
  exact congrArg (Measured.new k word) (same.trans (List.map_id ms)).symm

/-- Nothing but the tree decides what a node keeps. -/
theorem Made.eq_ofNode (made : Made m) : m = ofNode m.tree := by
  induction made with
  | new _ ih | operator _ ih => exact new_eq_ofNode ih
  | leaf => exact new_eq_ofNode (by simp)
  | copy _ ih => rwa [copy_eq]
  -- That the root keeps its height says nothing of the operands, but that all of it is rebuilt does.
  | @operand m below _ stands ih =>
    rw [ih, operands_ofNode] at stands
    obtain ⟨t, -, rfl⟩ := List.mem_map.mp stands
    rw [tree_ofNode]
  | parsed => rw [tree_ofNode]

theorem Made.eq_of_same (made : Made m) (made' : Made m') (h : m.tree.same m'.tree = true) :
    m = m' := by
  rw [made.eq_ofNode, made'.eq_ofNode, Node.same_iff.mp h]

theorem Made.isHeight (made : Made m) : m.tree.IsHeight m.height := by
  have h := isHeight_ofNode m.tree
  rwa [← made.eq_ofNode] at h

/-- However a node has come about, the height that it keeps is the number of nodes on the longest
way down to a leaf. The nodes at all places are visited, each of them once, so that as many are
counted as there are, and the names found are those of the nodes there. Nodes that are found to be
the same have all of this in common. -/
theorem made_measures (made : Made m) :
    m.tree.IsHeight m.height ∧ m.tree.height = m.height ∧
    (m.tree.places.Nodup ∧ ∀ place, place ∈ m.tree.places ↔ (m.tree.at? place).isSome) ∧
    (m.tree.preorder.map some).Perm (m.tree.places.map m.tree.at?) ∧
    m.tree.count = m.tree.size ∧
    (∀ kind name, name ∈ m.tree.namesOf kind ↔
      ∃ n, Node.Within n m.tree ∧ n.kind = kind ∧ Text.lower n.text = name) ∧
    ∀ m', Made m' → m.tree.same m'.tree = true →
      m.height = m'.height ∧ m.tree.count = m'.tree.count ∧
        ∀ kind, m.tree.namesOf kind = m'.tree.namesOf kind := by
  have height := (Node.isHeight_height m.tree).unique made.isHeight
  refine ⟨made.isHeight, height, ⟨Node.nodup_places _, fun _ => Node.mem_places⟩,
    Node.preorder_perm _, Node.count_eq_size _, fun _ _ => Node.mem_namesOf,
    fun m' made' same => ?_⟩
  cases made.eq_of_same made' same
  exact ⟨rfl, rfl, fun _ => rfl⟩

/-- A call that a parser reads. -/
def calledTree : Node :=
  ⟨.call, "F", [.operator .arguments
    [.leaf .identifier "x", .operator (.sign .minus) [.leaf .identifier "X"]]]⟩

/-- The product of what a parser has read and a copy. -/
def product : Measured :=
  operator (.operator .multiply) [ofNode calledTree, (leaf .identifier "x").copy]

/-- The same product, built node by node. -/
def productByHand : Measured :=
  operator (.operator .multiply) [new .call "F" [operator .arguments
    [leaf .identifier "x", operator (.sign .minus) [leaf .identifier "X"]]], leaf .identifier "x"]

theorem run_calledTree :
    Parser.Request.whole.run ⟨⟨"F(x,-X)", "(x,-X)".toList, 1, 0⟩, .identifier "F", 4⟩ =
      .ok calledTree ⟨⟨"F(x,-X)", [], 7, 7⟩, .finish, 4⟩ := by
  cbv

theorem made_measures_product : Made product ∧ Made productByHand ∧
    product.tree.same productByHand.tree = true ∧ product.tree.IsHeight 5 ∧
    product.tree.height = 5 ∧ product.tree.count = 7 ∧ "f" ∈ product.tree.namesOf .call ∧
    productByHand.height = 5 ∧ productByHand.tree.count = 7 := by
  have read : Made (ofNode calledTree) := .parsed run_calledTree
  have made : Made product := .operator (by simp [read, Made.leaf.copy])
  have negated : Made (operator (.sign .minus) [leaf .identifier "X"]) :=
    .operator (by simp [Made.leaf])
  have arguments : Made (operator .arguments
      [leaf .identifier "x", operator (.sign .minus) [leaf .identifier "X"]]) :=
    .operator (by simp [Made.leaf, negated])
  have call : Made (new .call "F" [operator .arguments
      [leaf .identifier "x", operator (.sign .minus) [leaf .identifier "X"]]]) :=
    .new (by simp [arguments])
  have made' : Made productByHand := .operator (by simp [Made.leaf, call])
  have same : product.tree.same productByHand.tree = true := Node.same_iff.mpr rfl
  obtain ⟨height, rows, -, -, count, names, equal⟩ := made_measures made
  obtain ⟨height', count', -⟩ := equal _ made' same
  have within : Node.Within calledTree product.tree := .under (List.mem_cons_self ..) .here
  have lower : Text.lower "F" = "f" := by cbv
  exact ⟨made, made', same, height, rows, count, (names _ _).mpr ⟨_, within, rfl, lower⟩,
    height'.symm, count'.symm.trans count⟩

end Measured
end Formula
