import Stencil.Proofs.Template.Nesting
import Stencil.Template.Listing

/-! Nodes in the bodies of other nodes, and where they stand in a listing. Main statement: the lines of a node stand
together at its depth, and the line behind them is not deeper than the node. -/
namespace Stencil

/-- The bodies of a block. -/
def Node.bodies : Node → List (List Node)
  | .conditional branches otherwise => branches.map Prod.snd ++ otherwise.toList
  | .whileLoop _ body | .forLoop _ body => [body]
  | .literal _ | .substitute _ | .script _ | .eval _ => []

/-- The nodes that so many bodies enclose, one inside the other. -/
def nodesAt : Nat → List Node → List Node
  | 0, nodes => nodes
  | depth + 1, nodes => nodes.flatMap fun block => block.bodies.flatMap (nodesAt depth)

section Nested

variable {nodes body : List Node} {node : Node} {depth : Nat}

theorem mem_nodesAt_succ : node ∈ nodesAt (depth + 1) nodes ↔
    ∃ block ∈ nodes, ∃ body ∈ block.bodies, node ∈ nodesAt depth body := by
  simp only [nodesAt, List.mem_flatMap]

theorem ne_nil_of_mem_nodesAt (nested : node ∈ nodesAt depth nodes) : nodes ≠ [] := by
  cases depth with
  | zero => exact List.ne_nil_of_mem nested
  | succ depth =>
    obtain ⟨block, member, _⟩ := mem_nodesAt_succ.mp nested
    exact List.ne_nil_of_mem member

/-- A body of a conditional is that of a branch or of the `else`. -/
theorem mem_bodies_conditional {branches : List (Code Expr × List Node)} {otherwise : Option (List Node)}
    (has : body ∈ (Node.conditional branches otherwise).bodies) :
    (∃ branch ∈ branches, branch.2 = body) ∨ otherwise = some body := by
  rcases List.mem_append.mp has with inside | last
  · exact .inl (List.mem_map.mp inside)
  · exact .inr (Option.mem_toList.mp last)

end Nested

section Marks

variable {nodes : List Node} {node : Node}

theorem Machine.nodeMarks_subset (member : node ∈ nodes) : Machine.nodeMarks node ⊆ Machine.marks nodes := by
  induction nodes with
  | nil => cases member
  | cons first rest ih =>
    rw [Machine.marks]
    rcases List.mem_cons.mp member with rfl | later
    · exact List.subset_append_left _ _
    · exact List.subset_append_of_subset_right _ (ih later)

theorem Machine.branchMarks_subset {branches : List (Code Expr × List Node)} {branch : Code Expr × List Node}
    (member : branch ∈ branches) (first : Code Expr → Machine.Mark) :
    Machine.marks branch.2 ⊆ Machine.branchMarks first branches := by
  induction branches generalizing first with
  | nil => cases member
  | cons other rest ih =>
    obtain ⟨condition, body⟩ := other
    rw [Machine.branchMarks]
    refine List.subset_cons_of_subset _ ?_
    rcases List.mem_cons.mp member with rfl | later
    · exact List.subset_append_left _ _
    · exact List.subset_append_of_subset_right _ (ih later _)

theorem Machine.marks_subset_of_body {body : List Node} (has : body ∈ node.bodies) :
    Machine.marks body ⊆ Machine.nodeMarks node := by
  cases node with
  | conditional branches otherwise =>
    rw [Machine.nodeMarks]
    rcases mem_bodies_conditional has with ⟨branch, member, rfl⟩ | rfl
    · exact List.subset_append_of_subset_left _ (Machine.branchMarks_subset member _)
    · refine List.subset_append_of_subset_right _ (List.subset_append_of_subset_left _ ?_)
      rw [Machine.otherwiseMarks]
      exact List.subset_cons_self _ _
  | whileLoop condition own =>
    obtain rfl := List.mem_singleton.mp has
    rw [Machine.nodeMarks]
    exact List.subset_cons_of_subset _ (List.subset_append_left _ _)
  | forLoop header own =>
    obtain rfl := List.mem_singleton.mp has
    rw [Machine.nodeMarks]
    exact List.subset_cons_of_subset _ (List.subset_append_left _ _)
  | _ => cases has

theorem Machine.marks_subset_of_nested {depth : Nat} (nested : node ∈ nodesAt depth nodes) :
    Machine.nodeMarks node ⊆ Machine.marks nodes := by
  induction depth generalizing nodes with
  | zero => exact Machine.nodeMarks_subset nested
  | succ depth ih =>
    obtain ⟨block, member, body, has, inside⟩ := mem_nodesAt_succ.mp nested
    have outer := List.Subset.trans (Machine.marks_subset_of_body has) (Machine.nodeMarks_subset member)
    exact List.Subset.trans (ih inside) outer

end Marks

section Depth

/-- Lines that end what is deeper than a depth: the first of them, if any, is not. -/
def Outside (depth : Nat) (lines : List ListedLine) : Prop := ∀ line ∈ lines.head?, line.depth ≤ depth

theorem outside_nil (depth : Nat) : Outside depth [] := nofun

theorem outside_cons {depth : Nat} {line : ListedLine} (shallow : line.depth ≤ depth) (lines : List ListedLine) :
    Outside depth (line :: lines) := by
  rintro _ ⟨⟩
  exact shallow

theorem Outside.append {depth : Nat} {front back : List ListedLine} (first : Outside depth front)
    (second : Outside depth back) : Outside depth (front ++ back) := by
  cases front with
  | nil => exact second
  | cons line front => exact first

theorem Outside.mono {depth deeper : Nat} {lines : List ListedLine} (outside : Outside depth lines)
    (le : depth ≤ deeper) : Outside deeper lines :=
  fun line isHead => Nat.le_trans (outside line isHead) le

theorem outside_branchLines (depth : Nat) (word : String) (branches : List (Code Expr × List Node)) :
    Outside depth (branchLines depth word branches) := by
  cases branches with
  | nil => exact outside_nil depth
  | cons branch rest => exact outside_cons (Nat.le_refl depth) _

theorem outside_otherwiseLines (depth : Nat) (otherwise : Option (List Node)) :
    Outside depth (otherwiseLines depth otherwise) := by
  cases otherwise with
  | none => exact outside_nil depth
  | some body => exact outside_cons (Nat.le_refl depth) _

theorem outside_nodeLines (depth : Nat) (node : Node) : Outside depth (nodeLines depth node) := by
  cases node with
  | conditional branches otherwise =>
    rw [nodeLines]
    exact (outside_branchLines depth _ branches).append (outside_otherwiseLines depth otherwise)
  | script code =>
    rw [nodeLines, scriptLines]
    split
    next => exact outside_cons (Nat.le_refl depth) _
    next =>
      cases shownCode code.text with
      | nil => exact outside_nil depth
      | cons line lines => exact outside_cons (Nat.le_refl depth) _
  | eval code =>
    rw [nodeLines, evalLines]
    split <;> exact outside_cons (Nat.le_refl depth) _
  | _ =>
    rw [nodeLines]
    exact outside_cons (Nat.le_refl depth) _

theorem outside_nodesLines (depth : Nat) (nodes : List Node) : Outside depth (nodesLines depth nodes) := by
  induction nodes with
  | nil => exact outside_nil depth
  | cons node rest ih => exact (outside_nodeLines depth node).append ih

end Depth

section Deep

/-- Lines of a depth or deeper. -/
def Deep (depth : Nat) (lines : List ListedLine) : Prop := ∀ line ∈ lines, depth ≤ line.depth

variable {depth : Nat}

theorem deep_here (code : List Char) : Deep depth [⟨depth, code⟩] :=
  List.forall_mem_singleton.mpr (Nat.le_refl depth)

theorem Deep.append {front back : List ListedLine} (first : Deep depth front) (second : Deep depth back) :
    Deep depth (front ++ back) :=
  List.forall_mem_append.mpr ⟨first, second⟩

theorem deep_cons {line : ListedLine} {lines : List ListedLine} (first : line.depth = depth)
    (others : Deep (depth + 1) lines) : Deep depth (line :: lines) :=
  List.forall_mem_cons.mpr ⟨Nat.le_of_eq first.symm, fun other member => Nat.le_of_succ_le (others other member)⟩

theorem deep_map (lines : List (List Char)) : Deep depth (lines.map (⟨depth, ·⟩)) :=
  List.forall_mem_map.mpr fun _ _ => Nat.le_refl depth

theorem deep_scriptLines (depth : Nat) (text : List Char) : Deep depth (scriptLines depth text) := by
  unfold scriptLines
  split
  next => exact deep_here _
  next => exact deep_map _

theorem deep_evalLines (depth : Nat) (text : List Char) : Deep depth (evalLines depth text) := by
  unfold evalLines
  split
  next => exact deep_here _
  next => exact deep_here _
  next => exact (deep_cons rfl (deep_map _)).append (deep_here _)

mutual
theorem deep_nodeLines (depth : Nat) (node : Node) : Deep depth (nodeLines depth node) := by
  match node with
  | .literal _ =>
    rw [nodeLines]
    exact deep_here _
  | .substitute _ =>
    rw [nodeLines]
    exact deep_here _
  | .conditional branches otherwise =>
    rw [nodeLines]
    exact (deep_branchLines depth _ branches).append (deep_otherwiseLines depth otherwise)
  | .whileLoop _ body =>
    rw [nodeLines]
    exact deep_cons rfl (deep_bodyLines (depth + 1) body)
  | .forLoop _ body =>
    rw [nodeLines]
    exact deep_cons rfl (deep_bodyLines (depth + 1) body)
  | .script code =>
    rw [nodeLines]
    exact deep_scriptLines depth code.text
  | .eval code =>
    rw [nodeLines]
    exact deep_evalLines depth code.text

theorem deep_nodesLines (depth : Nat) (nodes : List Node) : Deep depth (nodesLines depth nodes) := by
  match nodes with
  | [] =>
    rw [nodesLines]
    exact List.forall_mem_nil _
  | node :: rest =>
    rw [nodesLines]
    exact (deep_nodeLines depth node).append (deep_nodesLines depth rest)

theorem deep_bodyLines (depth : Nat) (body : List Node) : Deep depth (bodyLines depth body) := by
  match body with
  | [] =>
    rw [bodyLines]
    exact deep_here _
  | node :: rest =>
    rw [bodyLines]
    exact (deep_nodeLines depth node).append (deep_nodesLines depth rest)

theorem deep_branchLines (depth : Nat) (word : String) (branches : List (Code Expr × List Node)) :
    Deep depth (branchLines depth word branches) := by
  match branches with
  | [] =>
    rw [branchLines]
    exact List.forall_mem_nil _
  | (condition, body) :: rest =>
    rw [branchLines]
    exact (deep_cons rfl (deep_bodyLines (depth + 1) body)).append (deep_branchLines depth _ rest)

theorem deep_otherwiseLines (depth : Nat) (otherwise : Option (List Node)) :
    Deep depth (otherwiseLines depth otherwise) := by
  match otherwise with
  | none =>
    rw [otherwiseLines]
    exact List.forall_mem_nil _
  | some body =>
    rw [otherwiseLines]
    exact deep_cons rfl (deep_bodyLines (depth + 1) body)
end

end Deep

section Lines

variable {nodes body : List Node} {node : Node}

theorem bodyLines_of_ne_nil (any : body ≠ []) (depth : Nat) : bodyLines depth body = nodesLines depth body := by
  cases body with
  | nil => exact absurd rfl any
  | cons node rest => rfl

theorem lines_of_member (member : node ∈ nodes) (depth : Nat) : ∃ front back,
    nodesLines depth nodes = front ++ nodeLines depth node ++ back ∧ Outside depth back := by
  induction nodes with
  | nil => cases member
  | cons first rest ih =>
    rw [nodesLines]
    rcases List.mem_cons.mp member with rfl | later
    · exact ⟨[], nodesLines depth rest, rfl, outside_nodesLines depth rest⟩
    · obtain ⟨front, back, whole, outside⟩ := ih later
      exact ⟨nodeLines depth first ++ front, back, by simp [whole], outside⟩

theorem lines_of_branch {branches : List (Code Expr × List Node)} {branch : Code Expr × List Node}
    (member : branch ∈ branches) (depth : Nat) (word : String) : ∃ front header back,
      branchLines depth word branches = front ++ header :: (bodyLines (depth + 1) branch.2 ++ back) ∧
        header.depth = depth ∧ Outside depth back := by
  induction branches generalizing word with
  | nil => cases member
  | cons other rest ih =>
    obtain ⟨condition, body⟩ := other
    rw [branchLines]
    rcases List.mem_cons.mp member with rfl | later
    · exact ⟨[], headerLine depth word condition.text, _, rfl, rfl, outside_branchLines depth _ rest⟩
    · obtain ⟨front, header, back, whole, same, outside⟩ := ih later Keyword.elif.word
      refine ⟨headerLine depth word condition.text :: (bodyLines (depth + 1) body ++ front), header, back, ?_, same,
        outside⟩
      simp [whole]

/-- A body stands behind a header of the block, and ends where the lines are no deeper than the header. -/
theorem lines_of_body (has : body ∈ node.bodies) (depth : Nat) : ∃ front header back,
    nodeLines depth node = front ++ header :: (bodyLines (depth + 1) body ++ back) ∧
      header.depth = depth ∧ Outside depth back := by
  cases node with
  | conditional branches otherwise =>
    rw [nodeLines]
    rcases mem_bodies_conditional has with ⟨branch, member, rfl⟩ | rfl
    · obtain ⟨front, header, back, whole, same, outside⟩ := lines_of_branch member depth Construct.conditional.word
      have behind := outside.append (outside_otherwiseLines depth otherwise)
      refine ⟨front, header, back ++ otherwiseLines depth otherwise, ?_, same, behind⟩
      rw [whole, List.append_assoc, List.cons_append, List.append_assoc]
    · refine ⟨branchLines depth Construct.conditional.word branches,
        ⟨depth, Keyword.otherwise.word.toList ++ [':']⟩, [], ?_, rfl, outside_nil depth⟩
      rw [otherwiseLines, List.append_nil]
  | whileLoop condition own =>
    obtain rfl := List.mem_singleton.mp has
    refine ⟨[], headerLine depth Construct.whileLoop.word condition.text, [], ?_, rfl, outside_nil depth⟩
    rw [nodeLines, List.append_nil, List.nil_append]
  | forLoop header own =>
    obtain rfl := List.mem_singleton.mp has
    refine ⟨[], headerLine depth Construct.forLoop.word header.text, [], ?_, rfl, outside_nil depth⟩
    rw [nodeLines, List.append_nil, List.nil_append]
  | _ => cases has

theorem lines_of_nested {depth : Nat} (nested : node ∈ nodesAt depth nodes) (start : Nat) : ∃ front back,
    nodesLines start nodes = front ++ nodeLines (start + depth) node ++ back ∧ Outside (start + depth) back := by
  induction depth generalizing nodes start with
  | zero => exact lines_of_member nested start
  | succ depth ih =>
    -- The listing has the lines of the block, and these have those of its body, where the node is less deep by one.
    obtain ⟨block, member, body, has, inside⟩ := mem_nodesAt_succ.mp nested
    obtain ⟨before, after, whole, outer⟩ := lines_of_member member start
    obtain ⟨above, header, below, bodies, _, middle⟩ := lines_of_body has start
    obtain ⟨front, back, own, inner⟩ := ih inside (start + 1)
    have deeper : start + 1 + depth = start + (depth + 1) := by omega
    rw [bodyLines_of_ne_nil (ne_nil_of_mem_nodesAt inside), own, deeper] at bodies
    rw [deeper] at inner
    refine ⟨before ++ above ++ header :: front, back ++ (below ++ after), by rw [whole, bodies]; simp, ?_⟩
    exact inner.append ((middle.append outer).mono (Nat.le_add_right start _))

/-- The lines of a node stand together in the listing of all nodes, and what follows is no deeper than the node. -/
theorem listed_together {depth : Nat} (nested : node ∈ nodesAt depth nodes) : ∃ front back,
    nodesLines 0 nodes = front ++ nodeLines depth node ++ back ∧ Outside depth back := by
  obtain ⟨front, back, whole, outside⟩ := lines_of_nested nested 0
  rw [Nat.zero_add] at whole outside
  exact ⟨front, back, whole, outside⟩

theorem takeWhile_deep {depth : Nat} {front back : List ListedLine} (deep : Deep (depth + 1) front)
    (outside : Outside depth back) : (front ++ back).takeWhile (depth < ·.depth) = front := by
  have inside : ∀ line ∈ front, decide (depth < line.depth) = true :=
    fun line member => decide_eq_true (deep line member)
  rw [List.takeWhile_append_of_pos inside]
  cases back with
  | nil => rw [List.takeWhile_nil, List.append_nil]
  | cons line back =>
    rw [List.takeWhile_cons_of_neg (by simpa using outside line rfl), List.append_nil]

/-- A body of a nested block is all that is deeper behind a header of the block. -/
theorem body_listed {depth : Nat} (nested : node ∈ nodesAt depth nodes) (has : body ∈ node.bodies) :
    ∃ front header back, nodesLines 0 nodes = front ++ header :: back ∧ header.depth = depth ∧
      back.takeWhile (depth < ·.depth) = bodyLines (depth + 1) body := by
  obtain ⟨before, after, whole, outer⟩ := listed_together nested
  obtain ⟨front, header, back, own, same, inner⟩ := lines_of_body has depth
  refine ⟨before ++ front, header, bodyLines (depth + 1) body ++ (back ++ after), ?_, same, ?_⟩
  · rw [whole, own]
    simp
  · exact takeWhile_deep (deep_bodyLines (depth + 1) body) (inner.append outer)

end Lines

end Stencil
