/-
FastNetMon/TreeWalk.lean

Binary trees: cursors, and walks with a stack.

A cursor is a subtree and the frames around it, innermost first; `plug` puts the subtree
back, and `preorder_plug` says what an edit at a cursor leaves alone.

`walk` is the loop that goes through a tree without recursion: it keeps the right
subtrees that it has still to visit on a stack of bounded capacity.  Main result: on a tree
that is not too high for the stack the walk visits every node once, in preorder
(`walk_eq`).
-/
import Mathlib.Data.Tree.Basic
import Mathlib.Tactic

namespace FastNetMon

open BinaryTree

variable {α σ : Type*}

/-! ### Preorder and cursors -/

/-- The values of a tree, each node in front of its subtrees. -/
def preorder : BinaryTree α → List α
  | .nil => []
  | .node v l r => v :: (preorder l ++ preorder r)

@[simp] theorem preorder_nil : preorder (.nil : BinaryTree α) = [] := rfl

@[simp] theorem preorder_node (v : α) (l r : BinaryTree α) :
    preorder (.node v l r) = v :: (preorder l ++ preorder r) := rfl

theorem node_ne_nil {v : α} {l r : BinaryTree α} : BinaryTree.node v l r ≠ .nil := by
  intro h
  cases h

/-- Every node is visited once. -/
theorem length_preorder (t : BinaryTree α) : (preorder t).length = t.numNodes := by
  induction t with
  | nil => rfl
  | node v l r ihl ihr =>
      simp only [preorder_node, List.length_cons, List.length_append, ihl, ihr, numNodes]

/-- A node on the way to a cursor: its value, the side on which the way goes on, and the
subtree on the other side. -/
structure Frame (α : Type*) where
  value : α
  side : Bool
  sibling : BinaryTree α

/-- A node from its value and its subtrees on a side and on the other side. -/
def branch (v : α) (side : Bool) (t sibling : BinaryTree α) : BinaryTree α :=
  if side then .node v sibling t else .node v t sibling

/-- The node of a frame, with a subtree on the side of the way. -/
def Frame.plug (f : Frame α) (t : BinaryTree α) : BinaryTree α :=
  branch f.value f.side t f.sibling

/-- The whole tree around a cursor; the first frame is the innermost. -/
def plug : List (Frame α) → BinaryTree α → BinaryTree α
  | [], t => t
  | f :: fs, t => plug fs (f.plug t)

@[simp] theorem plug_nil (t : BinaryTree α) : plug [] t = t := rfl

@[simp] theorem plug_cons (f : Frame α) (fs : List (Frame α)) (t : BinaryTree α) :
    plug (f :: fs) t = plug fs (f.plug t) := rfl

/-- Frames are put around a tree from the inside out. -/
theorem plug_append (fs gs : List (Frame α)) (t : BinaryTree α) :
    plug (fs ++ gs) t = plug gs (plug fs t) := by
  induction fs generalizing t with
  | nil => rfl
  | cons f fs ih => exact ih (f.plug t)

theorem branch_ne_nil (v : α) (side : Bool) (t sibling : BinaryTree α) :
    branch v side t sibling ≠ .nil := by
  intro h
  cases side with
  | false => cases h
  | true => cases h

/-- A node adds itself to its two subtrees. -/
theorem numNodes_branch (v : α) (side : Bool) (t sibling : BinaryTree α) :
    (branch v side t sibling).numNodes = t.numNodes + sibling.numNodes + 1 := by
  cases side with
  | false => rfl
  | true =>
      show sibling.numNodes + t.numNodes + 1 = _
      rw [Nat.add_comm sibling.numNodes]

/-- The values of a node are its own and those of both sides. -/
theorem mem_preorder_branch {v w : α} {side : Bool} {t sibling : BinaryTree α} :
    w ∈ preorder (branch v side t sibling)
      ↔ w = v ∨ w ∈ preorder t ∨ w ∈ preorder sibling := by
  cases side with
  | false => simp [branch]
  | true => simp [branch, or_comm]

/-- The subtree on a side. -/
def childOn (side : Bool) (t : BinaryTree α) : BinaryTree α :=
  if side then t.right else t.left

@[simp] theorem childOn_false (v : α) (l r : BinaryTree α) :
    childOn false (.node v l r) = l := rfl

@[simp] theorem childOn_true (v : α) (l r : BinaryTree α) :
    childOn true (.node v l r) = r := rfl

/-- What is in a subtree is in the tree. -/
theorem mem_of_mem_childOn {v w : α} {l r : BinaryTree α} (side : Bool)
    (h : w ∈ preorder (childOn side (.node v l r))) : w ∈ preorder (.node v l r) := by
  cases side with
  | false => exact List.mem_cons_of_mem _ (List.mem_append_left _ h)
  | true => exact List.mem_cons_of_mem _ (List.mem_append_right _ h)

/-- The subtree on the side of the way. -/
theorem childOn_branch (v : α) (side : Bool) (t sibling : BinaryTree α) :
    childOn side (branch v side t sibling) = t := by
  cases side <;> rfl

/-- The subtree on the other side. -/
theorem childOn_branch_not (v : α) (side : Bool) (t sibling : BinaryTree α) :
    childOn (!side) (branch v side t sibling) = sibling := by
  cases side <;> rfl

/-- At a side, the root of a node is a node. -/
theorem exists_node_branch (v : α) (side : Bool) (t sibling : BinaryTree α) :
    ∃ l r, branch v side t sibling = .node v l r := by
  cases side with
  | false => exact ⟨t, sibling, rfl⟩
  | true => exact ⟨sibling, t, rfl⟩

/-- What an edit at a cursor leaves alone. -/
theorem preorder_plug (fs : List (Frame α)) :
    ∃ front back, ∀ t, preorder (plug fs t) = front ++ preorder t ++ back := by
  induction fs with
  | nil => exact ⟨[], [], fun t => by simp⟩
  | cons f fs ih =>
      obtain ⟨front, back, h⟩ := ih
      rcases hside : f.side with - | -
      · refine ⟨front ++ [f.value], preorder f.sibling ++ back, fun t => ?_⟩
        simp [h, Frame.plug, branch, hside]
      · refine ⟨front ++ f.value :: preorder f.sibling, back, fun t => ?_⟩
        simp [h, Frame.plug, branch, hside]

/-- A cursor adds the same nodes to every tree in its place. -/
theorem numNodes_plug (fs : List (Frame α)) (t t' : BinaryTree α) :
    (plug fs t').numNodes + t.numNodes = (plug fs t).numNodes + t'.numNodes := by
  obtain ⟨front, back, h⟩ := preorder_plug fs
  rw [← length_preorder, ← length_preorder, ← length_preorder, ← length_preorder, h, h]
  simp only [List.length_append]
  omega

/-! ### Walks -/

/-- The tree is empty. -/
def isNil : BinaryTree α → Bool
  | .nil => true
  | .node _ _ _ => false

@[simp] theorem isNil_nil : isNil (.nil : BinaryTree α) = true := rfl

@[simp] theorem isNil_node (v : α) (l r : BinaryTree α) : isNil (.node v l r) = false := rfl

/-- The test tells the empty tree from all others. -/
theorem isNil_iff {t : BinaryTree α} : isNil t = true ↔ t = .nil := by
  cases t with
  | nil => simp
  | node v l r => simp

/-- Where a walk goes behind a node with the subtrees `l` and `r`, and its stack there; `none`
if the stack has no room. -/
def walkNext (capacity : ℕ) (l r : BinaryTree α) (stack : List (BinaryTree α)) :
    Option (BinaryTree α × List (BinaryTree α)) :=
  if !isNil l then
    if !isNil r then
      if stack.length < capacity then some (l, r :: stack) else none
    else some (l, stack)
  else if !isNil r then some (r, stack)
  else
    match stack with
    | t :: stack => some (t, stack)
    | [] => some (.nil, [])

/-- The nodes that are still to be visited. -/
def pending (t : BinaryTree α) (stack : List (BinaryTree α)) : List α :=
  preorder t ++ stack.flatMap preorder

/-- A step of the walk leaves to be visited what was there, without the node. -/
theorem walkNext_pending {capacity : ℕ} {l r t : BinaryTree α} {stack stack' : List (BinaryTree α)}
    (h : walkNext capacity l r stack = some (t, stack')) :
    pending t stack' = preorder l ++ preorder r ++ stack.flatMap preorder := by
  cases l with
  | node v ll lr =>
      cases r with
      | node w rl rr =>
          simp only [walkNext, isNil_node, Bool.not_false, if_true] at h
          split at h
          · cases h
            simp [pending]
          · cases h
      | nil =>
          cases h
          simp [pending]
  | nil =>
      cases r with
      | node w rl rr =>
          cases h
          simp [pending]
      | nil =>
          cases stack with
          | nil =>
              cases h
              rfl
          | cons t stack =>
              cases h
              simp [pending]

/-- The walk through `t` and then through the trees on the stack. -/
def walk (capacity : ℕ) (visit : σ → α → Option σ) (t : BinaryTree α)
    (stack : List (BinaryTree α)) (s : σ) : Option σ :=
  match t with
  | .nil => some s
  | .node v l r =>
    match visit s v, _hnext : walkNext capacity l r stack with
    | some s, some (t, stack) => walk capacity visit t stack s
    | _, _ => none
termination_by (pending t stack).length
decreasing_by
  rw [walkNext_pending _hnext]
  simp [pending]

/-- There is room for the trees on the stack, the top first, and for what a walk through
them pushes. -/
def StackFits (capacity : ℕ) : List (BinaryTree α) → Prop
  | [] => True
  | t :: stack => t ≠ .nil ∧ t.height + stack.length ≤ capacity + 1 ∧ StackFits capacity stack

variable {capacity : ℕ} {stack : List (BinaryTree α)}

/-- A tree that fits on top of the stack is left to one that fits. -/
theorem walkNext_fits {v : α} {l r : BinaryTree α} (hstack : StackFits capacity stack)
    (hheight : (BinaryTree.node v l r).height + stack.length ≤ capacity + 1) :
    ∃ t stack', walkNext capacity l r stack = some (t, stack') ∧ (t = .nil → stack' = []) ∧
      t.height + stack'.length ≤ capacity + 1 ∧ StackFits capacity stack' := by
  rw [height] at hheight
  cases l with
  | node v ll lr =>
      cases r with
      | node w rl rr =>
          simp only [height] at hheight
          -- the right child waits while the left one is visited
          have hroom : stack.length < capacity := by omega
          refine ⟨_, .node w rl rr :: stack, if_pos hroom, (absurd · node_ne_nil), ?_,
            node_ne_nil, ?_, hstack⟩
          · simp only [height, List.length_cons]
            omega
          · simp only [height]
            omega
      | nil =>
          refine ⟨_, stack, rfl, (absurd · node_ne_nil), ?_, hstack⟩
          simp only [height] at hheight ⊢
          omega
  | nil =>
      cases r with
      | node w rl rr =>
          refine ⟨_, stack, rfl, (absurd · node_ne_nil), ?_, hstack⟩
          simp only [height] at hheight ⊢
          omega
      | nil =>
          cases stack with
          | nil => exact ⟨.nil, [], rfl, fun _ => rfl, Nat.zero_le _, trivial⟩
          | cons t stack =>
              obtain ⟨ht, hfits, hstack⟩ := hstack
              exact ⟨t, stack, rfl, fun hnil => absurd hnil ht, hfits, hstack⟩

/-- **A walk visits the pending nodes in order.** -/
theorem walk_pending (visit : σ → α → Option σ) {t : BinaryTree α} (s : σ)
    (hstack : StackFits capacity stack) (hheight : t.height + stack.length ≤ capacity + 1)
    (hnil : t = .nil → stack = []) :
    walk capacity visit t stack s = (pending t stack).foldlM visit s := by
  -- by induction on the nodes that are left: the tree itself may become larger
  induction hn : (pending t stack).length using Nat.strong_induction_on generalizing t stack s with
  | h n ih =>
      cases t with
      | nil =>
          rw [hnil rfl, walk]
          rfl
      | node v l r =>
          obtain ⟨t', stack', hnext, hnil', hheight', hstack'⟩ := walkNext_fits hstack hheight
          have hpending : pending (.node v l r) stack = v :: pending t' stack' := by
            rw [walkNext_pending hnext]
            rfl
          rw [hpending, List.foldlM_cons, walk]
          rcases visit s v with - | s'
          · rfl
          · rw [hnext]
            exact ih _ (by rw [← hn, hpending]; simp) s' hstack' hheight' hnil' rfl

/-- **A walk visits the nodes of a tree in preorder**, if the stack has room for its height. -/
theorem walk_eq (visit : σ → α → Option σ) {t : BinaryTree α} (s : σ)
    (hheight : t.height ≤ capacity + 1) :
    walk capacity visit t [] s = (preorder t).foldlM visit s := by
  have hempty : StackFits capacity ([] : List (BinaryTree α)) := trivial
  rw [walk_pending visit s hempty hheight fun _ => rfl, pending, List.flatMap_nil,
    List.append_nil]

end FastNetMon
