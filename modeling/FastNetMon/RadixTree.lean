/-
FastNetMon/RadixTree.lean

Path-compressed binary trees over keys that are lists of bits.

A node branches on the bit at its depth and may hold an entry, whose key is then the
path to the node; a node without an entry has two children.  How the values at the nodes
are read (the depth, the key of the entry) is a `Labelling`, so that any node type can be
used.  `Routed L stem t` says that `t` is such a tree and that all its keys extend `stem`.

Edits are made at a cursor: a routed tree put into the frames around it is routed
(`RoutedAround.routed_plug`), and the entries of the other keys stay (`RoutedAround.find_edit`).

Main results: an entry is found by its key (`Routed.find_eq_some_iff`), the keys come in
lexicographic order (`Routed.keys_sorted`), the tree is determined by its entries
(`Routed.ext`), it is no higher than its longest key (`Routed.height_le`) and has fewer
than twice as many nodes as entries (`Routed.numNodes_lt`).
-/
import FastNetMon.TreeWalk
import Mathlib.Data.List.Infix
import Mathlib.Tactic

namespace FastNetMon

open BinaryTree

variable {α : Type*}

/-! ### Routed trees -/

/-- How the values at the nodes are read: the depth, the key of the entry if there is
one, and the value of a node without an entry. -/
structure Labelling (α : Type*) where
  depth : α → ℕ
  key : α → Option (List Bool)
  glue : ℕ → α

variable {L : Labelling α} {stem path k : List Bool} {v w : α} {l r t : BinaryTree α}

variable (L) in
/-- The value of a node at the end of `path`. -/
structure Labelling.Fits (path : List Bool) (v : α) : Prop where
  depth : path.length = L.depth v
  key : ∀ k, L.key v = some k → k = path
  glue : L.key v = none → v = L.glue path.length

variable (L) in
/-- A path-compressed tree all of whose keys extend `stem`. -/
inductive Routed : List Bool → BinaryTree α → Prop
  | nil (stem : List Bool) : Routed stem .nil
  | node {stem : List Bool} (path : List Bool) {v : α} {l r : BinaryTree α}
      (hstem : stem <+: path) (hfits : L.Fits path v)
      (hglue : L.key v = none → l ≠ .nil ∧ r ≠ .nil)
      (hl : Routed (path ++ [false]) l) (hr : Routed (path ++ [true]) r) :
      Routed stem (.node v l r)

theorem Labelling.Fits.path_unique {path path' : List Bool} (h : L.Fits path v)
    (h' : L.Fits path' v) (hkey : L.key v ≠ none) : path = path' := by
  obtain ⟨k, hk⟩ := Option.ne_none_iff_exists'.mp hkey
  rw [← h.key k hk, ← h'.key k hk]

/-- The two subtrees of a node, by the side. -/
theorem routed_branch_iff (side : Bool) {t sibling : BinaryTree α} :
    Routed L stem (branch v side t sibling) ↔
      ∃ path, stem <+: path ∧ L.Fits path v ∧
        (L.key v = none → t ≠ .nil ∧ sibling ≠ .nil) ∧
        Routed L (path ++ [side]) t ∧ Routed L (path ++ [!side]) sibling := by
  cases side with
  | false =>
      show Routed L stem (.node v t sibling) ↔ _
      constructor
      · intro h
        cases h with
        | node path hstem hfits hglue hl hr => exact ⟨path, hstem, hfits, hglue, hl, hr⟩
      · rintro ⟨path, hstem, hfits, hglue, hl, hr⟩
        exact .node path hstem hfits hglue hl hr
  | true =>
      show Routed L stem (.node v sibling t) ↔ _
      constructor
      · intro h
        cases h with
        | node path hstem hfits hglue hl hr =>
            exact ⟨path, hstem, hfits, fun hnone => (hglue hnone).symm, hr, hl⟩
      · rintro ⟨path, hstem, hfits, hglue, hl, hr⟩
        exact .node path hstem hfits (fun hnone => (hglue hnone).symm) hr hl

theorem Routed.mono {stem' : List Bool} (h : Routed L stem t) (hstem : stem' <+: stem) :
    Routed L stem' t := by
  cases h with
  | nil => exact .nil _
  | node path hpath hfits hglue hl hr => exact .node path (hstem.trans hpath) hfits hglue hl hr

/-- Every key extends the stem. -/
theorem Routed.stem_isPrefix (h : Routed L stem t) (hv : v ∈ preorder t)
    (hk : L.key v = some k) : stem <+: k := by
  induction h with
  | nil => cases hv
  | node path hstem hfits hglue hl hr ihl ihr =>
      rcases List.mem_cons.mp hv with rfl | hv
      · rw [hfits.key k hk]
        exact hstem
      · rcases List.mem_append.mp hv with hv | hv
        · exact hstem.trans ((List.prefix_append _ _).trans (ihl hv))
        · exact hstem.trans ((List.prefix_append _ _).trans (ihr hv))

/-- Every value fits a path below the stem. -/
theorem Routed.exists_fits (h : Routed L stem t) (hv : v ∈ preorder t) :
    ∃ path, stem <+: path ∧ L.Fits path v := by
  induction h with
  | nil => cases hv
  | node path hstem hfits hglue hl hr ihl ihr =>
      rcases List.mem_cons.mp hv with rfl | hv
      · exact ⟨path, hstem, hfits⟩
      · rcases List.mem_append.mp hv with hv | hv
        · obtain ⟨p, hp, hfits⟩ := ihl hv
          exact ⟨p, hstem.trans ((List.prefix_append _ _).trans hp), hfits⟩
        · obtain ⟨p, hp, hfits⟩ := ihr hv
          exact ⟨p, hstem.trans ((List.prefix_append _ _).trans hp), hfits⟩

/-- A tree with a node has an entry. -/
theorem Routed.exists_key (h : Routed L stem t) (ht : t ≠ .nil) :
    ∃ v ∈ preorder t, ∃ k, L.key v = some k := by
  induction h with
  | nil => exact absurd rfl ht
  | @node _ path v l r hstem hfits hglue hl hr ihl ihr =>
      rcases hkey : L.key v with - | k
      · obtain ⟨w, hw, k, hk⟩ := ihl (hglue hkey).1
        exact ⟨w, List.mem_cons_of_mem _ (List.mem_append_left _ hw), k, hk⟩
      · exact ⟨v, List.mem_cons_self, k, hkey⟩

/-- A tree of which one key extends a stem that is not longer than the path to its root. -/
theorem Routed.restem {s : List Bool} (h : Routed L stem (.node v l r))
    (hw : w ∈ preorder (.node v l r)) (hk : L.key w = some k) (hs : s <+: k)
    (hlength : s.length ≤ L.depth v) : Routed L s (.node v l r) := by
  cases h with
  | node path hstem hfits hglue hl hr =>
      have hpath := (Routed.node path (List.prefix_refl path) hfits hglue hl hr).stem_isPrefix hw hk
      have hspath := List.prefix_of_prefix_length_le hs hpath (hlength.trans hfits.depth.ge)
      exact .node path hspath hfits hglue hl hr

/-- A leaf. -/
theorem routed_leaf (hstem : stem <+: k) (hkey : L.key v = some k)
    (hdepth : k.length = L.depth v) : Routed L stem (.node v .nil .nil) := by
  refine .node k hstem ⟨hdepth, fun k' hk' => ?_, fun hnone => ?_⟩ (fun hnone => ?_)
    (.nil _) (.nil _)
  · exact Option.some.inj (hk'.symm.trans hkey)
  · exact absurd hnone (by rw [hkey]; exact Option.some_ne_none k)
  · exact absurd hnone (by rw [hkey]; exact Option.some_ne_none k)

/-! ### Finding an entry -/

/-- A path goes on to the side that the next bit of the key names. -/
theorem concat_prefix_iff {b : Bool} :
    path ++ [b] <+: k ↔ path <+: k ∧ k[path.length]? = some b := by
  constructor
  · rintro ⟨rest, rfl⟩
    simp
  · rintro ⟨⟨rest, rfl⟩, hbit⟩
    rw [List.getElem?_append_right le_rfl, Nat.sub_self, ← List.head?_eq_getElem?] at hbit
    obtain ⟨rest, rfl⟩ := List.head?_eq_some_iff.mp hbit
    exact ⟨rest, by simp⟩

/-- A routed node: the path to it, and the subtrees that the path goes on to. -/
theorem Routed.node_inv (h : Routed L stem (.node v l r)) :
    ∃ path, stem <+: path ∧ L.Fits path v ∧
      ∀ side, Routed L (path ++ [side]) (childOn side (.node v l r)) := by
  cases h with
  | node path hstem hfits hglue hl hr =>
      refine ⟨path, hstem, hfits, fun side => ?_⟩
      cases side with
      | false => exact hl
      | true => exact hr

theorem getElem?_of_isPrefix {k' : List Bool} (h : k <+: k') {i : ℕ} {b : Bool}
    (hb : k[i]? = some b) : k'[i]? = some b := by
  obtain ⟨rest, rfl⟩ := h
  rw [List.getElem?_append_left (List.getElem?_eq_some_iff.mp hb).1, hb]

/-- **An entry is at the node or on the side that its key names.** -/
theorem Routed.mem_cases (h : Routed L stem (.node v l r)) (hw : w ∈ preorder (.node v l r))
    (hk : L.key w = some k) :
    w = v ∧ k.length = L.depth v ∨
      ∃ side, k[L.depth v]? = some side ∧ w ∈ preorder (childOn side (.node v l r)) := by
  cases h with
  | node path hstem hfits hglue hl hr =>
      rw [← hfits.depth]
      rcases List.mem_cons.mp hw with rfl | hw
      · exact .inl ⟨rfl, congrArg List.length (hfits.key k hk)⟩
      · rcases List.mem_append.mp hw with hw | hw
        · exact .inr ⟨false, (concat_prefix_iff.mp (hl.stem_isPrefix hw hk)).2, hw⟩
        · exact .inr ⟨true, (concat_prefix_iff.mp (hr.stem_isPrefix hw hk)).2, hw⟩

/-- A key has one entry. -/
theorem Routed.eq_of_key (h : Routed L stem t) (hv : v ∈ preorder t) (hw : w ∈ preorder t)
    (hvk : L.key v = some k) (hwk : L.key w = some k) : v = w := by
  induction t generalizing stem with
  | nil => cases hv
  | node u l r ihl ihr =>
      obtain ⟨path, -, -, hchild⟩ := h.node_inv
      -- the key says whether the node is the root, and on which side it is otherwise
      rcases h.mem_cases hv hvk with ⟨rfl, hlength⟩ | ⟨side, hside, hv⟩ <;>
        rcases h.mem_cases hw hwk with ⟨rfl, hlength'⟩ | ⟨side', hside', hw⟩
      · rfl
      · rw [List.getElem?_eq_none hlength.le] at hside'
        cases hside'
      · rw [List.getElem?_eq_none hlength'.le] at hside
        cases hside
      · obtain rfl := Option.some.inj (hside.symm.trans hside')
        cases side with
        | false => exact ihl (hchild false) hv hw
        | true => exact ihr (hchild true) hv hw

/-- The entry of a key. -/
def Labelling.find (L : Labelling α) (t : BinaryTree α) (k : List Bool) : Option α :=
  (preorder t).find? fun v => L.key v == some k

theorem Labelling.mem_of_find (h : L.find t k = some v) :
    v ∈ preorder t ∧ L.key v = some k :=
  ⟨List.mem_of_find?_eq_some h, by simpa using List.find?_some h⟩

/-- **An entry is found by its key.** -/
theorem Routed.find_eq_some_iff (h : Routed L stem t) :
    L.find t k = some v ↔ v ∈ preorder t ∧ L.key v = some k := by
  constructor
  · exact Labelling.mem_of_find
  · rintro ⟨hv, hk⟩
    rcases hfind : L.find t k with - | w
    · have hnone := List.find?_eq_none.mp hfind v hv
      exact absurd (beq_iff_eq.mpr hk) hnone
    · obtain ⟨hw, hwk⟩ := Labelling.mem_of_find hfind
      rw [h.eq_of_key hv hw hk hwk]

/-- Two trees with the same values under `k` find the same entry. -/
theorem Routed.find_congr {stem' : List Bool} {t' : BinaryTree α} (h : Routed L stem t)
    (h' : Routed L stem' t')
    (hmem : ∀ v, L.key v = some k → (v ∈ preorder t ↔ v ∈ preorder t')) :
    L.find t k = L.find t' k := by
  refine Option.ext fun v => ?_
  rw [h.find_eq_some_iff, h'.find_eq_some_iff]
  exact ⟨fun hv => ⟨(hmem v hv.2).mp hv.1, hv.2⟩, fun hv => ⟨(hmem v hv.2).mpr hv.1, hv.2⟩⟩

/-- Below the depth of the node a key is looked for on the side that it names. -/
theorem Routed.find_child {side : Bool} (h : Routed L stem (.node v l r))
    (hside : k[L.depth v]? = some side) :
    L.find (.node v l r) k = L.find (childOn side (.node v l r)) k := by
  obtain ⟨path, -, -, hchild⟩ := h.node_inv
  refine h.find_congr (hchild side) fun w hw => ⟨fun hmem => ?_, mem_of_mem_childOn side⟩
  rcases h.mem_cases hmem hw with ⟨rfl, hlength⟩ | ⟨side', hside', hmem⟩
  · rw [List.getElem?_eq_none hlength.le] at hside
    cases hside
  · obtain rfl := Option.some.inj (hside.symm.trans hside')
    exact hmem

/-- At the depth of the node a key is that of the node, or it has no entry. -/
theorem Routed.find_root (h : Routed L stem (.node v l r)) (hlength : k.length ≤ L.depth v) :
    L.find (.node v l r) k = if L.key v = some k then some v else none := by
  split
  · rename_i hk
    exact h.find_eq_some_iff.mpr ⟨List.mem_cons_self, hk⟩
  · rename_i hk
    rcases hfind : L.find (.node v l r) k with - | w
    · rfl
    · obtain ⟨hw, hwk⟩ := Labelling.mem_of_find hfind
      rcases h.mem_cases hw hwk with ⟨rfl, -⟩ | ⟨side, hside, -⟩
      · exact absurd hwk hk
      · rw [List.getElem?_eq_none hlength] at hside
        cases hside

theorem Routed.find_eq_none (h : Routed L stem t) (hk : ¬ stem <+: k) : L.find t k = none := by
  rcases hfind : L.find t k with - | v
  · rfl
  · obtain ⟨hv, hvk⟩ := Labelling.mem_of_find hfind
    exact absurd (h.stem_isPrefix hv hvk) hk

/-! ### The longest prefix -/

/-- `k` is the longest of the keys that are prefixes of `q`. -/
structure IsLongestPrefix (keys : Set (List Bool)) (q k : List Bool) : Prop where
  mem : k ∈ keys
  isPrefix : k <+: q
  longest : ∀ k' ∈ keys, k' <+: q → k'.length ≤ k.length

theorem IsLongestPrefix.unique {keys : Set (List Bool)} {q k k' : List Bool}
    (h : IsLongestPrefix keys q k) (h' : IsLongestPrefix keys q k') : k = k' :=
  (List.prefix_of_prefix_length_le h.isPrefix h'.isPrefix
    (h'.longest k h.mem h.isPrefix)).eq_of_length_le (h.longest k' h'.mem h'.isPrefix)

/-- What a map from keys holds for the longest prefix of `q` in its domain. -/
def longestMatch {β : Type*} (map : List Bool → Option β) (q : List Bool) : Option β :=
  q.inits.reverse.findSome? map

theorem pairwise_inits (q : List Bool) :
    q.inits.Pairwise fun k k' => k.length < k'.length := by
  refine List.pairwise_iff_getElem.mpr fun i j hi hj hlt => ?_
  rw [List.length_inits] at hi hj
  simp only [List.getElem_inits, List.length_take]
  omega

theorem exists_isLongestPrefix {β : Type*} {map : List Bool → Option β} {q : List Bool} {data : β}
    (h : longestMatch map q = some data) :
    ∃ k, IsLongestPrefix { k | (map k).isSome } q k ∧ map k = some data := by
  obtain ⟨longer, k, shorter, hinits, hdata, hnone⟩ := List.findSome?_eq_some_iff.mp h
  have hsorted := List.pairwise_reverse.mpr (pairwise_inits q)
  rw [hinits] at hsorted
  have hmem : k ∈ q.inits.reverse := by simp [hinits]
  refine ⟨k, ⟨by simp [hdata], (List.mem_inits _ _).mp (List.mem_reverse.mp hmem), ?_⟩, hdata⟩
  intro k' hk' hpref
  have hk'mem := List.mem_reverse.mpr ((List.mem_inits _ _).mpr hpref)
  rw [hinits, List.mem_append, List.mem_cons] at hk'mem
  rcases hk'mem with hlonger | rfl | hshorter
  · have hsome : (map k').isSome := hk'
    rw [hnone k' hlonger] at hsome
    cases hsome
  · exact le_refl _
  · exact (List.rel_of_pairwise_cons (List.pairwise_append.mp hsorted).2.1 hshorter).le

theorem longestMatch_eq_none_iff {β : Type*} {map : List Bool → Option β} {q : List Bool} :
    longestMatch map q = none ↔ ∀ k, (map k).isSome → ¬ k <+: q := by
  rw [longestMatch, List.findSome?_eq_none_iff]
  constructor
  · intro hnone k hk hpref
    rw [hnone k (List.mem_reverse.mpr ((List.mem_inits _ _).mpr hpref))] at hk
    cases hk
  · intro hnone k hk
    have hpref := (List.mem_inits _ _).mp (List.mem_reverse.mp hk)
    exact Option.not_isSome_iff_eq_none.mp fun hsome => hnone k hsome hpref

/-- The longest prefix is the one that is matched. -/
theorem IsLongestPrefix.longestMatch_eq {β : Type*} {map : List Bool → Option β} {q k : List Bool}
    (h : IsLongestPrefix { k | (map k).isSome } q k) : longestMatch map q = map k := by
  rcases hmatch : longestMatch map q with - | data
  · exact absurd h.isPrefix (longestMatch_eq_none_iff.mp hmatch k h.mem)
  · obtain ⟨k', hlongest, hdata⟩ := exists_isLongestPrefix hmatch
    rw [h.unique hlongest, hdata]

/-- The values at the nodes from the root along `q`. -/
def Labelling.along (L : Labelling α) (q : List Bool) : BinaryTree α → List α
  | .nil => []
  | .node v l r =>
    v :: match q[L.depth v]? with
      | some true => L.along q r
      | some false => L.along q l
      | none => []

variable {q : List Bool}

theorem Labelling.along_node (L : Labelling α) (q : List Bool) (v : α) (l r : BinaryTree α) :
    L.along q (.node v l r) = v :: match q[L.depth v]? with
      | some side => L.along q (childOn side (.node v l r))
      | none => [] := by
  rw [along]
  rcases q[L.depth v]? with - | - | - <;> rfl

theorem Labelling.mem_of_mem_along (h : w ∈ L.along q t) : w ∈ preorder t := by
  induction t with
  | nil => cases h
  | node v l r ihl ihr =>
      rw [Labelling.along_node] at h
      rcases List.mem_cons.mp h with rfl | h
      · exact List.mem_cons_self
      · rcases hq : q[L.depth v]? with - | - | - <;> rw [hq] at h
        · cases h
        · exact mem_of_mem_childOn false (ihl h)
        · exact mem_of_mem_childOn true (ihr h)

/-- **The prefixes of `q` are the keys of nodes along `q`.** -/
theorem Routed.mem_along (h : Routed L stem t) (hw : w ∈ preorder t) (hk : L.key w = some k)
    (hpref : k <+: q) : w ∈ L.along q t := by
  induction t generalizing stem with
  | nil => cases hw
  | node v l r ihl ihr =>
      obtain ⟨path, -, -, hchild⟩ := h.node_inv
      rw [Labelling.along_node]
      rcases h.mem_cases hw hk with ⟨rfl, -⟩ | ⟨side, hside, hw⟩
      · exact List.mem_cons_self
      · rw [getElem?_of_isPrefix hpref hside]
        refine List.mem_cons_of_mem _ ?_
        cases side with
        | false => exact ihl (hchild false) hw
        | true => exact ihr (hchild true) hw

/-- The nodes along `q` lie deeper and deeper. -/
theorem Routed.along_sorted (h : Routed L stem t) :
    (L.along q t).Pairwise fun v w => L.depth v < L.depth w := by
  induction t generalizing stem with
  | nil => exact .nil
  | node v l r ihl ihr =>
      obtain ⟨path, -, hfits, hchild⟩ := h.node_inv
      rw [Labelling.along_node]
      rcases hq : q[L.depth v]? with - | side
      · exact List.pairwise_singleton _ _
      · refine List.pairwise_cons.mpr ⟨fun w hw => ?_, ?_⟩
        · obtain ⟨path', hpath, hfits'⟩ := (hchild side).exists_fits (Labelling.mem_of_mem_along hw)
          have hlength := hpath.length_le
          rw [List.length_append, List.length_singleton, hfits.depth, hfits'.depth] at hlength
          exact hlength
        · cases side with
          | false => exact ihl (hchild false)
          | true => exact ihr (hchild true)

theorem Labelling.length_along_le (L : Labelling α) (q : List Bool) (t : BinaryTree α) :
    (L.along q t).length ≤ t.height := by
  induction t with
  | nil => exact Nat.zero_le _
  | node v l r ihl ihr =>
      rw [Labelling.along_node, height, List.length_cons]
      refine Nat.succ_le_succ ?_
      rcases q[L.depth v]? with - | - | -
      · exact Nat.zero_le _
      · exact ihl.trans (le_max_left _ _)
      · exact ihr.trans (le_max_right _ _)

/-- In a list that is sorted by depth, the last value with a property is the deepest. -/
theorem find?_reverse_eq_some {L : Labelling α} {vs : List α} {p : α → Bool}
    (hsorted : vs.Pairwise fun v w => L.depth v < L.depth w) (h : vs.reverse.find? p = some v) :
    v ∈ vs ∧ p v = true ∧ ∀ w ∈ vs, p w = true → L.depth w ≤ L.depth v := by
  obtain ⟨hv, front, back, hvs, hfront⟩ := List.find?_eq_some_iff_append.mp h
  obtain rfl : vs = back.reverse ++ v :: front.reverse := by
    rw [← List.reverse_inj, hvs]
    simp
  refine ⟨by simp, hv, fun w hw hpw => ?_⟩
  rw [List.mem_append, List.mem_cons, List.mem_reverse, List.mem_reverse] at hw
  rcases hw with hw | rfl | hw
  · exact ((List.pairwise_append.mp hsorted).2.2 w (List.mem_reverse.mpr hw) v
      List.mem_cons_self).le
  · exact le_rfl
  · have hnot := hfront w hw
    rw [hpw] at hnot
    cases hnot

/-! ### Edits at a cursor -/

variable (L) in
/-- The frames around a subtree whose keys extend `stem`. -/
inductive RoutedAround : List (Frame α) → List Bool → Prop
  | nil : RoutedAround [] []
  | cons {f : Frame α} {fs : List (Frame α)} {stem : List Bool} (path : List Bool)
      (hstem : stem <+: path) (hfits : L.Fits path f.value)
      (hglue : L.key f.value = none → f.sibling ≠ .nil)
      (hsibling : Routed L (path ++ [!f.side]) f.sibling) (hfs : RoutedAround fs stem) :
      RoutedAround (f :: fs) (path ++ [f.side])

variable {f : Frame α} {fs popped : List (Frame α)}

theorem Routed.frame_plug {outer : List Bool} (hstem : outer <+: path)
    (hfits : L.Fits path f.value) (hglue : L.key f.value = none → f.sibling ≠ .nil)
    (hsibling : Routed L (path ++ [!f.side]) f.sibling) (h : Routed L (path ++ [f.side]) t)
    (ht : t ≠ .nil) : Routed L outer (f.plug t) :=
  (routed_branch_iff f.side).mpr
    ⟨path, hstem, hfits, fun hnone => ⟨ht, hglue hnone⟩, h, hsibling⟩

/-- Going up through some of the frames. -/
theorem RoutedAround.up (hfs : RoutedAround L (popped ++ fs) stem) (h : Routed L stem t)
    (ht : t ≠ .nil) :
    ∃ outer, RoutedAround L fs outer ∧ Routed L outer (plug popped t) ∧ plug popped t ≠ .nil := by
  induction popped generalizing stem t with
  | nil => exact ⟨stem, hfs, h, ht⟩
  | cons f popped ih =>
      cases hfs with
      | cons path hstem hfits hglue hsibling hfs =>
          exact ih hfs (.frame_plug hstem hfits hglue hsibling h ht)
            (branch_ne_nil f.value f.side t f.sibling)

/-- **A routed tree put into the frames around it is routed.** -/
theorem RoutedAround.routed_plug (hfs : RoutedAround L fs stem) (h : Routed L stem t)
    (ht : t ≠ .nil) : Routed L [] (plug fs t) := by
  rw [← List.append_nil fs] at hfs
  obtain ⟨outer, hnil, hplug, -⟩ := hfs.up h ht
  cases hnil
  exact hplug

theorem RoutedAround.head (hfs : RoutedAround L (f :: fs) stem) :
    stem.length = L.depth f.value + 1 ∧ stem[L.depth f.value]? = some f.side := by
  cases hfs with
  | cons path hstem hfits hglue hsibling hfs =>
      rw [← hfits.depth]
      simp

theorem RoutedAround.depth_lt (hfs : RoutedAround L fs stem) (hf : f ∈ fs) :
    L.depth f.value < stem.length := by
  induction hfs with
  | nil => cases hf
  | @cons g gs outer path hstem hfits hglue hsibling hfs ih =>
      rw [List.length_append, List.length_singleton, hfits.depth]
      rcases List.mem_cons.mp hf with rfl | hf
      · exact Nat.lt_succ_self _
      · have hlength := hstem.length_le
        rw [hfits.depth] at hlength
        exact (ih hf).trans_le (hlength.trans (Nat.le_succ _))

/-- An entry on the way is looked for at the cursor. -/
theorem RoutedAround.find_plug (hfs : RoutedAround L fs stem) (h : Routed L stem t)
    (ht : t ≠ .nil) (hk : stem <+: k) : L.find (plug fs t) k = L.find t k := by
  induction hfs generalizing t with
  | nil => rfl
  | @cons f fs outer path hstem hfits hglue hsibling hfs ih =>
      have hplug := Routed.frame_plug hstem hfits hglue hsibling h ht
      obtain ⟨hpath, hside⟩ := concat_prefix_iff.mp hk
      rw [plug_cons, ih hplug (branch_ne_nil _ _ _ _) (hstem.trans hpath)]
      obtain ⟨l, r, hnode⟩ := exists_node_branch f.value f.side t f.sibling
      have hchild := childOn_branch f.value f.side t f.sibling
      rw [hnode] at hchild
      rw [Frame.plug, hnode] at hplug ⊢
      rw [hplug.find_child (hfits.depth ▸ hside), hchild]

/-- An edit at a cursor changes the entries of no other key than those that it changes in
the subtree. -/
theorem RoutedAround.find_edit {t' : BinaryTree α} (hfs : RoutedAround L fs stem)
    (h : Routed L stem t) (ht : t ≠ .nil) (h' : Routed L stem t') (ht' : t' ≠ .nil)
    (hmem : ∀ v, L.key v = some k → (v ∈ preorder t' ↔ v ∈ preorder t)) :
    L.find (plug fs t') k = L.find (plug fs t) k := by
  obtain ⟨front, back, hpreorder⟩ := preorder_plug fs
  refine (hfs.routed_plug h' ht').find_congr (hfs.routed_plug h ht) fun v hv => ?_
  simp only [hpreorder, List.mem_append, hmem v hv]

/-! ### The tree of a set of entries -/

/-- What all keys below a node start with, the path to the node starts with. -/
theorem Labelling.Fits.prefix_path {s : List Bool} (hfits : L.Fits path v)
    (hglue : L.key v = none → l ≠ .nil ∧ r ≠ .nil) (hl : Routed L (path ++ [false]) l)
    (hr : Routed L (path ++ [true]) r)
    (hs : ∀ k, (∃ w ∈ preorder (.node v l r), L.key w = some k) → s <+: k) : s <+: path := by
  rcases hkey : L.key v with - | k
  · -- both subtrees have a key, and these differ behind the path
    obtain ⟨wl, hwl, kl, hkl⟩ := hl.exists_key (hglue hkey).1
    obtain ⟨wr, hwr, kr, hkr⟩ := hr.exists_key (hglue hkey).2
    have hsl := hs kl ⟨wl, List.mem_cons_of_mem _ (List.mem_append_left _ hwl), hkl⟩
    have hsr := hs kr ⟨wr, List.mem_cons_of_mem _ (List.mem_append_right _ hwr), hkr⟩
    have hpl := hl.stem_isPrefix hwl hkl
    have hpr := hr.stem_isPrefix hwr hkr
    rcases Nat.lt_or_ge path.length s.length with hlength | hlength
    · have hps : path ++ [false] <+: s :=
        List.prefix_of_prefix_length_le hpl hsl (by simpa using hlength)
      have hfalse := (concat_prefix_iff.mp (hps.trans hsr)).2
      rw [(concat_prefix_iff.mp hpr).2] at hfalse
      cases hfalse
    · exact List.prefix_of_prefix_length_le hsl ((List.prefix_append _ _).trans hpl) hlength
  · rw [← hfits.key k hkey]
    exact hs k ⟨v, List.mem_cons_self, hkey⟩

/-- At one path, the value of a node is known from its entry. -/
theorem Labelling.Fits.eq_of_entry {v' : α} (h : L.Fits path v) (h' : L.Fits path v')
    (hentry : (if L.key v = some path then some v else none)
      = if L.key v' = some path then some v' else none) : v = v' := by
  have hnone : ∀ {u}, L.Fits path u → ¬ L.key u = some path → u = L.glue path.length := by
    intro u hu hne
    refine hu.glue (Option.eq_none_iff_forall_ne_some.mpr fun k hk => hne ?_)
    rw [hk, hu.key k hk]
  by_cases hv : L.key v = some path
  · by_cases hv' : L.key v' = some path
    · rw [if_pos hv, if_pos hv'] at hentry
      exact Option.some.inj hentry
    · rw [if_pos hv, if_neg hv'] at hentry
      cases hentry
  · by_cases hv' : L.key v' = some path
    · rw [if_neg hv, if_pos hv'] at hentry
      cases hentry
    · rw [hnone h hv, hnone h' hv']

theorem Routed.isSome_find_iff (h : Routed L stem t) :
    (L.find t k).isSome ↔ ∃ v ∈ preorder t, L.key v = some k := by
  rw [Option.isSome_iff_exists]
  exact exists_congr fun v => h.find_eq_some_iff

theorem Routed.keys_congr {stem' : List Bool} {t' : BinaryTree α} (h : Routed L stem t)
    (h' : Routed L stem' t') (hfind : ∀ k, L.find t k = L.find t' k) (k : List Bool) :
    (∃ v ∈ preorder t, L.key v = some k) ↔ ∃ v ∈ preorder t', L.key v = some k := by
  rw [← h.isSome_find_iff, ← h'.isSome_find_iff, hfind]

/-- **A path-compressed tree is determined by its entries.** -/
theorem Routed.ext {stem' : List Bool} {t' : BinaryTree α} (h : Routed L stem t)
    (h' : Routed L stem' t') (hfind : ∀ k, L.find t k = L.find t' k) : t = t' := by
  induction t generalizing stem stem' t' with
  | nil =>
      by_contra hne
      obtain ⟨v, hv, k, hk⟩ := h'.exists_key (Ne.symm hne)
      obtain ⟨w, hw, -⟩ := (h.keys_congr h' hfind k).mpr ⟨v, hv, hk⟩
      cases hw
  | node v l r ihl ihr =>
      have hkeys := h.keys_congr h' hfind
      cases t' with
      | nil =>
          obtain ⟨w, hw, k, hk⟩ := h.exists_key node_ne_nil
          obtain ⟨w, hw, -⟩ := (hkeys k).mp ⟨w, hw, hk⟩
          cases hw
      | node v' l' r' =>
          cases h with
          | node path hstem hfits hglue hl hr =>
          cases h' with
          | node path' hstem' hfits' hglue' hl' hr' =>
          have h := Routed.node path (List.prefix_refl path) hfits hglue hl hr
          have h' := Routed.node path' (List.prefix_refl path') hfits' hglue' hl' hr'
          -- each path is the longest prefix that all keys have in common
          have hle : path' <+: path := hfits.prefix_path hglue hl hr fun k hk => by
            obtain ⟨w, hw, hwk⟩ := (hkeys k).mp hk
            exact h'.stem_isPrefix hw hwk
          have hge : path <+: path' := hfits'.prefix_path hglue' hl' hr' fun k hk => by
            obtain ⟨w, hw, hwk⟩ := (hkeys k).mpr hk
            exact h.stem_isPrefix hw hwk
          obtain rfl : path = path' := hge.eq_of_length_le hle.length_le
          have hroot := hfind path
          rw [h.find_root hfits.depth.le, h'.find_root hfits'.depth.le] at hroot
          obtain rfl := hfits.eq_of_entry hfits' hroot
          -- keys of other sides are found in neither child
          have hside : ∀ side k, L.find (childOn side (.node v l r)) k
              = L.find (childOn side (.node v l' r')) k := by
            intro side k
            by_cases hk : path ++ [side] <+: k
            · have hbit := (concat_prefix_iff.mp hk).2
              rw [← h.find_child (hfits.depth ▸ hbit), ← h'.find_child (hfits.depth ▸ hbit), hfind]
            · cases side with
              | false => rw [childOn_false, childOn_false, hl.find_eq_none hk, hl'.find_eq_none hk]
              | true => rw [childOn_true, childOn_true, hr.find_eq_none hk, hr'.find_eq_none hk]
          rw [ihl hl hl' (hside false), ihr hr hr' (hside true)]

/-! ### Order and size -/

theorem lt_of_concat_prefix {side : Bool} (h : path ++ [side] <+: k) : path < k := by
  obtain ⟨rest, rfl⟩ := h
  have hlt : path ++ [] < path ++ ([side] ++ rest) := List.append_left_lt (List.nil_lt_cons _ _)
  rwa [List.append_nil, ← List.append_assoc] at hlt

theorem lt_of_sides {k' : List Bool} (h : path ++ [false] <+: k) (h' : path ++ [true] <+: k') :
    k < k' := by
  obtain ⟨rest, rfl⟩ := h
  obtain ⟨rest', rfl⟩ := h'
  rw [List.append_assoc, List.append_assoc]
  apply List.append_left_lt
  exact List.cons_lt_cons_iff.mpr (.inl (by decide))

/-- The keys of a tree in preorder. -/
def Labelling.keys (L : Labelling α) (t : BinaryTree α) : List (List Bool) :=
  (preorder t).filterMap L.key

theorem Labelling.mem_keys : k ∈ L.keys t ↔ ∃ v ∈ preorder t, L.key v = some k :=
  List.mem_filterMap

theorem Routed.prefix_of_mem_keys (h : Routed L stem t) (hk : k ∈ L.keys t) : stem <+: k := by
  obtain ⟨v, hv, hvk⟩ := Labelling.mem_keys.mp hk
  exact h.stem_isPrefix hv hvk

theorem Labelling.keys_node (L : Labelling α) (v : α) (l r : BinaryTree α) :
    L.keys (.node v l r) = (L.key v).toList ++ (L.keys l ++ L.keys r) := by
  rw [keys, keys, keys, preorder_node, List.filterMap_cons]
  rcases L.key v with - | k
  · rw [List.filterMap_append]
    rfl
  · rw [List.filterMap_append]
    rfl

/-- **The keys come in lexicographic order**, shorter keys in front of those that extend
them. -/
theorem Routed.keys_sorted (h : Routed L stem t) : (L.keys t).Pairwise (· < ·) := by
  induction h with
  | nil => exact .nil
  | @node _ path v l r hstem hfits hglue hl hr ihl ihr =>
      have hbelow : (L.keys l ++ L.keys r).Pairwise (· < ·) := by
        refine List.pairwise_append.mpr ⟨ihl, ihr, fun k hk k' hk' => ?_⟩
        exact lt_of_sides (hl.prefix_of_mem_keys hk) (hr.prefix_of_mem_keys hk')
      rw [Labelling.keys_node]
      rcases hkey : L.key v with - | k
      · exact hbelow
      · show (k :: (L.keys l ++ L.keys r)).Pairwise (· < ·)
        refine List.pairwise_cons.mpr ⟨fun k' hk' => ?_, hbelow⟩
        rw [hfits.key k hkey]
        rcases List.mem_append.mp hk' with hk' | hk'
        · exact lt_of_concat_prefix (hl.prefix_of_mem_keys hk')
        · exact lt_of_concat_prefix (hr.prefix_of_mem_keys hk')

/-- A tree is no higher than the depths of its nodes allow. -/
theorem Routed.height_le {n : ℕ} (h : Routed L stem t) (hn : ∀ v ∈ preorder t, L.depth v ≤ n)
    (hstem : stem.length ≤ n + 1) : stem.length + t.height ≤ n + 1 := by
  induction h with
  | nil => exact hstem
  | @node stem path v l r hpath hfits hglue hl hr ihl ihr =>
      have hdepth : path.length ≤ n := hfits.depth ▸ hn v List.mem_cons_self
      have hlength : ∀ side : Bool, (path ++ [side]).length = path.length + 1 :=
        fun side => by simp
      have hleft := ihl (fun w hw => hn w (List.mem_cons_of_mem _ (List.mem_append_left _ hw)))
        (by rw [hlength]; omega)
      have hright := ihr (fun w hw => hn w (List.mem_cons_of_mem _ (List.mem_append_right _ hw)))
        (by rw [hlength]; omega)
      rw [hlength] at hleft hright
      have hle := hpath.length_le
      rw [height]
      omega

/-- Nodes without an entry are fewer than the entries. -/
theorem Routed.numNodes_lt (h : Routed L stem t) (ht : t ≠ .nil) :
    t.numNodes < 2 * (L.keys t).length := by
  induction h with
  | nil => exact absurd rfl ht
  | @node _ path v l r hstem hfits hglue hl hr ihl ihr =>
      have hside : ∀ t : BinaryTree α, (t ≠ .nil → t.numNodes < 2 * (L.keys t).length) →
          t.numNodes ≤ 2 * (L.keys t).length := by
        intro t iht
        cases t with
        | nil => exact Nat.zero_le _
        | node u l r => exact (iht node_ne_nil).le
      have hleft := hside l ihl
      have hright := hside r ihr
      rw [Labelling.keys_node, numNodes]
      rcases hkey : L.key v with - | k
      -- a node without an entry has two children, and each of them has one entry to spare
      · have hl' := ihl (hglue hkey).1
        have hr' := ihr (hglue hkey).2
        simp only [Option.toList_none, List.nil_append, List.length_append]
        omega
      · simp only [Option.toList_some, List.singleton_append, List.length_cons,
          List.length_append]
        omega

end FastNetMon
