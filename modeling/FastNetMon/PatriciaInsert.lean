/-
FastNetMon/PatriciaInsert.lean

Insertions into a Patricia tree refine updates of a finite map.
-/
import FastNetMon.PatriciaInvariant
import FastNetMon.Transition

namespace FastNetMon

variable {size : ℕ} {δ : Type} [Zero δ] {stem : List Bool}
  {frames : List (Frame (PatriciaFields size δ))}

/-! ### The finite map behind a tree -/

/-- What is stored for each key: a prefix with this key, and data. -/
abbrev PrefixTable (size : ℕ) (δ : Type) := List Bool → Option (Prefix size × δ)

/-- The table of a tree. -/
def PatriciaTree.table (patricia : PatriciaTree size δ) : PrefixTable size δ := fun key =>
  (patricia.entry key).bind fun fields => fields.pfx.map (·, fields.data)

/-- What a call does to the table: the first prefix that was given for a key stays. -/
def PatriciaCall.update (table : PrefixTable size δ) : PatriciaCall size δ → PrefixTable size δ
  | makeAndLookup pfx =>
    Function.update table pfx.key (some ((table pfx.key).getD (pfx, 0)))
  | makeAndLookupWithData pfx userData =>
    Function.update table pfx.key (some (((table pfx.key).getD (pfx, 0)).1, userData))

/-! ### Placing a prefix -/

/-- What `patricia_lookup` has found out when it places a prefix: the node, which has the prefix
that the bits were compared with below it, and the first bit that differs. -/
structure ReadyToPlace (pfx testPrefix : Prefix size) (differBit : ℕ)
    (fields : PatriciaFields size δ) (l r : PatriciaNode size δ)
    (frames : List (Frame (PatriciaFields size δ))) (stem : List Bool) : Prop where
  frames : RoutedAround (patriciaLabels size δ) frames stem
  node : Routed (patriciaLabels size δ) stem (.node fields l r)
  test : ∃ below ∈ preorder (.node fields l r), below.pfx = some testPrefix
  stem_le : stem.length ≤ differBit
  le_bit : differBit ≤ fields.bit
  le_bitlen : differBit ≤ pfx.bitlen
  agree : AgreeOn differBit pfx.add.toList testPrefix.add.toList
  differ : differBit < pfx.bitlen → differBit < fields.bit →
    addressBit pfx.add.toList differBit ≠ addressBit testPrefix.add.toList differBit
  room : fields.bit = differBit → differBit < pfx.bitlen →
    childOn (goesRight size pfx.add.toList fields.bit) (.node fields l r) = .nil

/-- What `patricia_lookup` returns: a pointer to the node of the prefix.  Its fields are those
that were stored for the prefix, or fresh ones; the entries of the other prefixes stay. -/
structure PatriciaTree.Located (patricia : PatriciaTree size δ) (pfx : Prefix size)
    (cursor : PatriciaCursor size δ) (fields : PatriciaFields size δ)
    (l r : PatriciaNode size δ) : Prop where
  node_eq : cursor.node = .node fields l r
  routed : ∃ stem, RoutedAround (patriciaLabels size δ) cursor.frames stem ∧
    Routed (patriciaLabels size δ) stem cursor.node
  wellFormed : cursor.tree.WellFormed
  fields_eq : fields = (patricia.entry pfx.key).getD ⟨pfx.bitlen, some pfx, 0⟩
  entry_eq : ∀ key ≠ pfx.key, cursor.tree.entry key = patricia.entry key

variable {patricia : PatriciaTree size δ} {pfx testPrefix : Prefix size} {differBit : ℕ}
  {fields : PatriciaFields size δ} {l r : PatriciaNode size δ}

section Placing

variable (h : ReadyToPlace pfx testPrefix differBit fields l r frames stem)
include h

theorem ReadyToPlace.exists_below : ∃ below ∈ preorder (.node fields l r),
    (patriciaLabels size δ).key below = some testPrefix.key := by
  obtain ⟨below, hbelow, hpfx⟩ := h.test
  exact ⟨below, hbelow, key_patriciaLabels_eq_some.mpr ⟨testPrefix, hpfx, rfl⟩⟩

/-- The path to the node is that of both prefixes up to the first bit that differs. -/
theorem ReadyToPlace.bit_le_test : fields.bit ≤ testPrefix.bitlen := by
  obtain ⟨below, hbelow, hkey⟩ := h.exists_below
  rcases h.node.mem_cases hbelow hkey with ⟨-, hlength⟩ | ⟨side, hside, -⟩
  · exact (hlength.symm.trans testPrefix.length_key).le
  · have hlt := (List.getElem?_eq_some_iff.mp hside).1
    rw [Prefix.length_key] at hlt
    exact hlt.le

theorem ReadyToPlace.bits_eq {n : ℕ} (hn : n ≤ differBit) :
    bitsOf pfx.add.toList n = bitsOf testPrefix.add.toList n :=
  bitsOf_eq_iff.mpr fun i hi => h.agree i (hi.trans_le hn)

theorem ReadyToPlace.stem_isPrefix : stem <+: pfx.key := by
  obtain ⟨below, hbelow, hkey⟩ := h.exists_below
  have hstem := List.prefix_iff_eq_take.mp (h.node.stem_isPrefix hbelow hkey)
  have hle : stem.length ≤ testPrefix.bitlen :=
    h.stem_le.trans (h.le_bit.trans h.bit_le_test)
  rw [Prefix.key, take_bitsOf hle, ← h.bits_eq h.stem_le] at hstem
  rw [hstem]
  exact bitsOf_isPrefix (h.stem_le.trans h.le_bitlen)

theorem ReadyToPlace.entry_eq (hhead : patricia.head = plug frames (.node fields l r)) :
    patricia.entry pfx.key = (patriciaLabels size δ).find (.node fields l r) pfx.key := by
  rw [PatriciaTree.entry, hhead]
  exact h.frames.find_plug h.node node_ne_nil h.stem_isPrefix

/-- An edit at the node. -/
theorem ReadyToPlace.wellFormed_edit {node : PatriciaNode size δ} {numActiveNode : ℤ}
    (hwf : patricia.WellFormed) (hhead : patricia.head = plug frames (.node fields l r))
    (hnode : Routed (patriciaLabels size δ) stem node) (hne : node ≠ .nil)
    (hbits : ∀ v ∈ preorder node, v ∈ preorder (.node fields l r) ∨ v.bit ≤ maxbits size)
    (hcount : numActiveNode + (BinaryTree.node fields l r).numNodes
      = patricia.numActiveNode + node.numNodes) :
    (PatriciaTree.mk (plug frames node) numActiveNode).WellFormed := by
  refine ⟨h.frames.routed_plug hnode hne, fun v hv => ?_, ?_⟩
  · obtain ⟨front, back, hpreorder⟩ := preorder_plug frames
    have hold := hwf.bit_le v
    rw [hhead] at hold
    simp only [hpreorder, List.mem_append] at hv hold
    have hnew := hbits v
    tauto
  · have hnodes := numNodes_plug frames (.node fields l r) node
    have hcounted := hwf.counted
    rw [hhead] at hcounted
    show numActiveNode = ((plug frames node).numNodes : ℤ)
    omega

theorem ReadyToPlace.entry_edit {node : PatriciaNode size δ} {numActiveNode : ℤ} {key : List Bool}
    (hhead : patricia.head = plug frames (.node fields l r))
    (hnode : Routed (patriciaLabels size δ) stem node) (hne : node ≠ .nil)
    (hmem : ∀ v, (patriciaLabels size δ).key v = some key →
      (v ∈ preorder node ↔ v ∈ preorder (.node fields l r))) :
    (PatriciaTree.mk (plug frames node) numActiveNode).entry key = patricia.entry key := by
  rw [PatriciaTree.entry, PatriciaTree.entry, hhead]
  exact h.frames.find_edit h.node node_ne_nil hnode hne hmem

end Placing

/-! ### The four ways to place a prefix -/

theorem ReadyToPlace.routed_test (h : ReadyToPlace pfx testPrefix differBit fields l r frames stem)
    {n : ℕ} (hn : n ≤ fields.bit) :
    Routed (patriciaLabels size δ) (bitsOf testPrefix.add.toList n) (.node fields l r) := by
  obtain ⟨below, hbelow, hkey⟩ := h.exists_below
  refine h.node.restem hbelow hkey (bitsOf_isPrefix (hn.trans h.bit_le_test)) ?_
  rw [length_bitsOf]
  exact hn

/-- The path to the node, as bits of the prefix below it. -/
theorem ReadyToPlace.node_at (h : ReadyToPlace pfx testPrefix differBit fields l r frames stem) :
    (patriciaLabels size δ).Fits (bitsOf testPrefix.add.toList fields.bit) fields ∧
    ((patriciaLabels size δ).key fields = none → l ≠ .nil ∧ r ≠ .nil) ∧
    Routed (patriciaLabels size δ) (bitsOf testPrefix.add.toList fields.bit ++ [false]) l ∧
    Routed (patriciaLabels size δ) (bitsOf testPrefix.add.toList fields.bit ++ [true]) r := by
  cases h.routed_test le_rfl with
  | node path hstem hfits hglue hl hr =>
      have hpath : bitsOf testPrefix.add.toList fields.bit = path :=
        hstem.eq_of_length (by rw [length_bitsOf]; exact hfits.depth.symm)
      rw [hpath]
      exact ⟨hfits, hglue, hl, hr⟩

theorem ReadyToPlace.stem_bits (h : ReadyToPlace pfx testPrefix differBit fields l r frames stem) :
    stem <+: bitsOf pfx.add.toList differBit :=
  List.prefix_of_prefix_length_le h.stem_isPrefix (bitsOf_isPrefix h.le_bitlen)
    (by rw [length_bitsOf]; exact h.stem_le)

theorem key_of_pfx (pfx : Prefix size) (data : δ) :
    (patriciaLabels size δ).key ⟨pfx.bitlen, some pfx, data⟩ = some pfx.key := rfl

theorem fits_pfx (pfx : Prefix size) (data : δ) :
    (patriciaLabels size δ).Fits pfx.key ⟨pfx.bitlen, some pfx, data⟩ where
  depth := pfx.length_key
  key _ hk := (Option.some.inj hk).symm
  glue hnone := by cases hnone

theorem fits_glue (bytes : ByteString) (bit : ℕ) :
    (patriciaLabels size δ).Fits (bitsOf bytes bit) ⟨bit, none, 0⟩ where
  depth := length_bitsOf bytes bit
  key _ hk := by cases hk
  glue _ := by
    show _ = (PatriciaFields.mk (bitsOf bytes bit).length none 0)
    rw [length_bitsOf]

section Ways

variable (hwf : patricia.WellFormed) (hbitlen : pfx.bitlen ≤ maxbits size)
  (hhead : patricia.head = plug frames (.node fields l r))
  (h : ReadyToPlace pfx testPrefix differBit fields l r frames stem)

include hwf hbitlen hhead h

omit hbitlen in
/-- The node is that of the prefix. -/
theorem ReadyToPlace.located_found (hdiffer : differBit = pfx.bitlen)
    (hbit : fields.bit = pfx.bitlen) (hpfx : fields.pfx ≠ none) :
    patricia.Located pfx ⟨.node fields l r, frames, patricia.numActiveNode⟩ fields l r := by
  have htree : (PatriciaCursor.mk (.node fields l r) frames patricia.numActiveNode).tree
      = patricia := by
    rw [PatriciaCursor.tree, ← hhead]
  obtain ⟨found, hfound⟩ := Option.ne_none_iff_exists'.mp hpfx
  have hkey : (patriciaLabels size δ).key fields = some pfx.key := by
    have hfits := h.node_at.1
    rw [hbit, ← h.bits_eq hdiffer.ge] at hfits
    have hsome := key_patriciaLabels_eq_some.mpr ⟨found, hfound, rfl⟩
    rw [hsome, hfits.key _ hsome]
    rfl
  have hentry : patricia.entry pfx.key = some fields := by
    rw [h.entry_eq hhead, h.node.find_root (by rw [Prefix.length_key]; exact hbit.ge), if_pos hkey]
  refine ⟨rfl, ⟨stem, h.frames, h.node⟩, htree ▸ hwf, ?_, fun key _ => by rw [htree]⟩
  rw [hentry, Option.getD_some]

/-- The node is a glue node at the place of the prefix. -/
theorem ReadyToPlace.located_glue (hdiffer : differBit = pfx.bitlen)
    (hbit : fields.bit = pfx.bitlen) (hpfx : fields.pfx = none) :
    fields.data = 0 ∧
    patricia.Located pfx
      ⟨.node { fields with pfx := some pfx } l r, frames, patricia.numActiveNode⟩
      { fields with pfx := some pfx } l r := by
  obtain ⟨hfits, -, hl, hr⟩ := h.node_at
  have hnone := key_patriciaLabels_eq_none.mpr hpfx
  have hglue := hfits.glue hnone
  have hdata : fields.data = 0 := by
    rw [hglue]
    rfl
  have hpath : bitsOf testPrefix.add.toList fields.bit = pfx.key := by
    rw [hbit, ← h.bits_eq hdiffer.ge]
    rfl
  -- a glue node has no data, so with the prefix it is like a fresh one
  have hfields : ({ fields with pfx := some pfx } : PatriciaFields size δ)
      = ⟨pfx.bitlen, some pfx, 0⟩ := by
    rw [← hbit, ← hdata]
  rw [hpath] at hl hr
  have hnode : Routed (patriciaLabels size δ) stem (.node ⟨pfx.bitlen, some pfx, 0⟩ l r) :=
    .node pfx.key h.stem_isPrefix (fits_pfx pfx 0) (fun hnone => by cases hnone) hl hr
  rw [hfields]
  refine ⟨hdata, rfl, ⟨stem, h.frames, hnode⟩, ?_, ?_, fun key hkey => ?_⟩
  · refine h.wellFormed_edit hwf hhead hnode node_ne_nil (fun v hv => ?_) rfl
    rcases List.mem_cons.mp hv with rfl | hv
    · exact .inr hbitlen
    · exact .inl (List.mem_cons_of_mem _ hv)
  · rw [h.entry_eq hhead, h.node.find_root (by rw [Prefix.length_key]; exact hbit.ge), hnone]
    rfl
  · refine h.entry_edit hhead hnode node_ne_nil fun v hv => ?_
    simp only [preorder_node, List.mem_cons]
    refine or_congr_left ⟨fun heq => ?_, fun heq => ?_⟩
    · rw [heq, key_of_pfx] at hv
      exact absurd (Option.some.inj hv).symm hkey
    · rw [heq, hnone] at hv
      cases hv

/-- A fresh node, of which the whole edit is known. -/
theorem ReadyToPlace.located_fresh {frames' : List (Frame (PatriciaFields size δ))}
    {l' r' : PatriciaNode size δ} (node : PatriciaNode size δ) {numActiveNode : ℤ}
    (hplug : plug frames' (.node ⟨pfx.bitlen, some pfx, 0⟩ l' r') = plug frames node)
    (hrouted : ∃ stem, RoutedAround (patriciaLabels size δ) frames' stem ∧
      Routed (patriciaLabels size δ) stem (.node ⟨pfx.bitlen, some pfx, 0⟩ l' r'))
    (hnode : Routed (patriciaLabels size δ) stem node) (hne : node ≠ .nil)
    (hnew : ∀ v ∈ preorder node, v = ⟨pfx.bitlen, some pfx, 0⟩ ∨
      v ∈ preorder (.node fields l r) ∨ v = ⟨differBit, none, 0⟩)
    (hold : ∀ v ∈ preorder (.node fields l r), v ∈ preorder node)
    (hcount : numActiveNode + (BinaryTree.node fields l r).numNodes
      = patricia.numActiveNode + node.numNodes)
    (hentry : (patriciaLabels size δ).find (.node fields l r) pfx.key = none) :
    patricia.Located pfx ⟨.node ⟨pfx.bitlen, some pfx, 0⟩ l' r', frames', numActiveNode⟩
      ⟨pfx.bitlen, some pfx, 0⟩ l' r' := by
  have htree : (PatriciaCursor.mk (.node ⟨pfx.bitlen, some pfx, 0⟩ l' r') frames'
      numActiveNode).tree = ⟨plug frames node, numActiveNode⟩ := by
    rw [PatriciaCursor.tree, hplug]
  refine ⟨rfl, hrouted, ?_, ?_, fun key hkey => ?_⟩
  · rw [htree]
    refine h.wellFormed_edit hwf hhead hnode hne (fun v hv => ?_) hcount
    rcases hnew v hv with rfl | hv | rfl
    · exact .inr hbitlen
    · exact .inl hv
    · exact .inr (h.le_bitlen.trans hbitlen)
  · rw [h.entry_eq hhead, hentry]
    rfl
  · rw [htree]
    refine h.entry_edit hhead hnode hne fun v hv => ⟨fun hmem => ?_, hold v⟩
    rcases hnew v hmem with rfl | hmem | rfl
    · exact absurd (Option.some.inj hv).symm hkey
    · exact hmem
    · cases hv

/-- The prefix becomes a leaf below the node. -/
theorem ReadyToPlace.located_leaf (hdiffer : differBit < pfx.bitlen)
    (hbit : fields.bit = differBit) :
    patricia.Located pfx
      ⟨.node ⟨pfx.bitlen, some pfx, 0⟩ .nil .nil,
        ⟨fields, goesRight size pfx.add.toList fields.bit,
          childOn (!goesRight size pfx.add.toList fields.bit) (.node fields l r)⟩ :: frames,
        patricia.numActiveNode + 1⟩
      ⟨pfx.bitlen, some pfx, 0⟩ .nil .nil := by
  have hroom := h.room hbit hdiffer
  have hside : goesRight size pfx.add.toList fields.bit = addressBit pfx.add.toList differBit := by
    rw [hbit, goesRight_eq (hdiffer.trans_le hbitlen)]
  obtain ⟨hfits, hglue, hl, hr⟩ := h.node_at
  generalize hright : goesRight size pfx.add.toList fields.bit = right at hroom hside
  -- up to the bit of the node the two prefixes are the same path
  have hpath : bitsOf testPrefix.add.toList fields.bit = bitsOf pfx.add.toList differBit := by
    rw [hbit, h.bits_eq le_rfl]
  rw [hpath] at hfits hl hr
  have hleaf : Routed (patriciaLabels size δ) (bitsOf pfx.add.toList differBit ++ [right])
      (.node ⟨pfx.bitlen, some pfx, 0⟩ .nil .nil) := by
    rw [hside, ← bitsOf_succ]
    exact routed_leaf (bitsOf_isPrefix hdiffer) (key_of_pfx pfx 0) pfx.length_key
  have hother : Routed (patriciaLabels size δ) (bitsOf pfx.add.toList differBit ++ [!right])
      (childOn (!right) (.node fields l r)) := by
    cases right with
    | false => exact hr
    | true => exact hl
  have hsibling : (patriciaLabels size δ).key fields = none →
      childOn (!right) (.node fields l r) ≠ .nil := by
    intro hnone
    cases right with
    | false => exact (hglue hnone).2
    | true => exact (hglue hnone).1
  -- the node as it was: nothing on the side of the prefix
  have hbranch : branch fields right .nil (childOn (!right) (.node fields l r))
      = .node fields l r := by
    cases right with
    | false =>
        rw [← hroom]
        rfl
    | true =>
        rw [← hroom]
        rfl
  have hmem : ∀ v, v ∈ preorder (.node fields l r) ↔
      v = fields ∨ v ∈ preorder (childOn (!right) (.node fields l r)) := by
    intro v
    rw [← hbranch, mem_preorder_branch, childOn_branch_not]
    simp
  refine h.located_fresh hwf hbitlen hhead
    (branch fields right (.node ⟨pfx.bitlen, some pfx, 0⟩ .nil .nil)
      (childOn (!right) (.node fields l r))) rfl
    ⟨_, .cons (bitsOf pfx.add.toList differBit) h.stem_bits hfits hsibling hother h.frames, hleaf⟩
    ((routed_branch_iff right).mpr ⟨_, h.stem_bits, hfits,
      fun hnone => ⟨node_ne_nil, hsibling hnone⟩, hleaf, hother⟩)
    (branch_ne_nil _ _ _ _) (fun v hv => ?_) (fun v hv => ?_) ?_ ?_
  · rw [hmem]
    rw [mem_preorder_branch] at hv
    simp only [preorder_node, preorder_nil, List.append_nil, List.mem_singleton] at hv
    tauto
  · rw [hmem] at hv
    rw [mem_preorder_branch]
    tauto
  · have hnodes := numNodes_branch fields right .nil (childOn (!right) (.node fields l r))
    rw [hbranch] at hnodes
    rw [numNodes_branch, hnodes]
    simp only [BinaryTree.numNodes]
    omega
  -- the prefix had no entry: its side was empty
  · have hbitAt : pfx.key[fields.bit]? = some right := by
      rw [hbit, Prefix.key, getElem?_bitsOf hdiffer, hside]
    rw [h.node.find_child hbitAt, hroom]
    rfl

/-- The prefix is put above the node. -/
theorem ReadyToPlace.located_parent (hdiffer : differBit = pfx.bitlen)
    (hbit : pfx.bitlen < fields.bit) (l' r' : PatriciaNode size δ)
    (hnode : branch ⟨pfx.bitlen, some pfx, 0⟩ (goesRight size testPrefix.add.toList pfx.bitlen)
      (.node fields l r) .nil = .node ⟨pfx.bitlen, some pfx, 0⟩ l' r') :
    patricia.Located pfx
      ⟨.node ⟨pfx.bitlen, some pfx, 0⟩ l' r', frames, patricia.numActiveNode + 1⟩
      ⟨pfx.bitlen, some pfx, 0⟩ l' r' := by
  have hmaxbits : pfx.bitlen < maxbits size := by
    refine hbit.trans_le (hwf.bit_le fields ?_)
    obtain ⟨front, back, hpreorder⟩ := preorder_plug frames
    rw [hhead, hpreorder]
    simp
  have hkey : pfx.key = bitsOf testPrefix.add.toList pfx.bitlen := h.bits_eq hdiffer.ge
  -- what is below the node continues the prefix, on the side of the prefix it was compared with
  have hbelow : Routed (patriciaLabels size δ)
      (pfx.key ++ [goesRight size testPrefix.add.toList pfx.bitlen]) (.node fields l r) := by
    rw [hkey, goesRight_eq hmaxbits, ← bitsOf_succ]
    exact h.routed_test hbit
  have hkeyed : (patriciaLabels size δ).key ⟨pfx.bitlen, some pfx, 0⟩ = none →
      BinaryTree.node fields l r ≠ .nil ∧ (.nil : PatriciaNode size δ) ≠ .nil := by
    intro hnone
    cases hnone
  have hrouted := (routed_branch_iff (goesRight size testPrefix.add.toList pfx.bitlen)).mpr
    ⟨pfx.key, h.stem_isPrefix, fits_pfx pfx (0 : δ), hkeyed, hbelow, .nil _⟩
  rw [hnode] at hrouted
  refine h.located_fresh hwf hbitlen hhead (.node ⟨pfx.bitlen, some pfx, 0⟩ l' r') rfl
    ⟨stem, h.frames, hrouted⟩ hrouted node_ne_nil (fun v hv => ?_) (fun v hv => ?_) ?_ ?_
  · rw [← hnode, mem_preorder_branch] at hv
    simp only [preorder_nil, List.not_mem_nil, or_false] at hv
    tauto
  · rw [← hnode, mem_preorder_branch]
    exact .inr (.inl hv)
  · rw [← hnode, numNodes_branch]
    simp only [BinaryTree.numNodes]
    omega
  · rw [h.node.find_root (by rw [Prefix.length_key]; exact hbit.le), if_neg]
    intro hfields
    have hlength := congrArg List.length (h.node_at.1.key _ hfields)
    rw [Prefix.length_key, length_bitsOf] at hlength
    exact absurd hlength hbit.ne

/-- The prefix and the node are put below a glue node. -/
theorem ReadyToPlace.located_sibling (hdiffer : differBit < pfx.bitlen)
    (hbit : differBit < fields.bit) :
    patricia.Located pfx
      ⟨.node ⟨pfx.bitlen, some pfx, 0⟩ .nil .nil,
        ⟨⟨differBit, none, 0⟩, goesRight size pfx.add.toList differBit, .node fields l r⟩ :: frames,
        patricia.numActiveNode + 2⟩
      ⟨pfx.bitlen, some pfx, 0⟩ .nil .nil := by
  rw [goesRight_eq (hdiffer.trans_le hbitlen)]
  generalize hright : addressBit pfx.add.toList differBit = right
  -- the prefix that was compared goes to the other side
  have hother : addressBit testPrefix.add.toList differBit = !right := by
    rw [← hright]
    exact Bool.eq_not_of_ne (h.differ hdiffer hbit).symm
  have hleaf : Routed (patriciaLabels size δ) (bitsOf pfx.add.toList differBit ++ [right])
      (.node ⟨pfx.bitlen, some pfx, 0⟩ .nil .nil) := by
    rw [← hright, ← bitsOf_succ]
    exact routed_leaf (bitsOf_isPrefix hdiffer) (key_of_pfx pfx 0) pfx.length_key
  have hnode : Routed (patriciaLabels size δ) (bitsOf pfx.add.toList differBit ++ [!right])
      (.node fields l r) := by
    rw [h.bits_eq le_rfl, ← hother, ← bitsOf_succ]
    exact h.routed_test hbit
  refine h.located_fresh hwf hbitlen hhead
    (branch ⟨differBit, none, 0⟩ right (.node ⟨pfx.bitlen, some pfx, 0⟩ .nil .nil)
      (.node fields l r)) rfl
    ⟨_, .cons (bitsOf pfx.add.toList differBit) h.stem_bits (fits_glue _ _)
      (fun _ => node_ne_nil) hnode h.frames, hleaf⟩
    ((routed_branch_iff right).mpr ⟨_, h.stem_bits, fits_glue _ _,
      fun _ => ⟨node_ne_nil, node_ne_nil⟩, hleaf, hnode⟩)
    (branch_ne_nil _ _ _ _) (fun v hv => ?_) (fun v hv => ?_) ?_ ?_
  · rw [mem_preorder_branch] at hv
    simp only [preorder_node, preorder_nil, List.append_nil, List.mem_singleton] at hv ⊢
    tauto
  · rw [mem_preorder_branch]
    exact .inr (.inr hv)
  · rw [numNodes_branch]
    simp only [BinaryTree.numNodes]
    omega
  · refine hnode.find_eq_none fun hpref => ?_
    have hbitAt := (concat_prefix_iff.mp hpref).2
    rw [length_bitsOf, Prefix.key, getElem?_bitsOf hdiffer, hright] at hbitAt
    cases right <;> cases hbitAt

variable [DecidableEq δ]

/-- **A prefix is placed in every case**: no assertion fails. -/
theorem ReadyToPlace.place_spec : ∃ cursor fields' l' r',
    patriciaPlace pfx testPrefix differBit fields l r frames patricia.numActiveNode = some cursor ∧
    patricia.Located pfx cursor fields' l' r' := by
  rw [patriciaPlace]
  by_cases hhere : differBit = pfx.bitlen ∧ fields.bit = pfx.bitlen
  -- the node is the one of the prefix
  · rw [if_pos hhere]
    rcases hpfx : fields.pfx with - | found
    · obtain ⟨hdata, hlocated⟩ := h.located_glue hwf hbitlen hhead hhere.1 hhere.2 hpfx
      refine ⟨_, _, _, _, ?_, hlocated⟩
      rw [if_neg (by simp), if_pos hdata]
    · refine ⟨_, _, _, _, ?_, h.located_found hwf hhead hhere.1 hhere.2 (by simp [hpfx])⟩
      rw [if_pos (by simp)]
  · rw [if_neg hhere]
    dsimp only
    by_cases hbit : fields.bit = differBit
    · have hdiffer : differBit < pfx.bitlen :=
        lt_of_le_of_ne h.le_bitlen fun heq => hhere ⟨heq, hbit.trans heq⟩
      refine ⟨_, _, _, _, ?_, h.located_leaf hwf hbitlen hhead hdiffer hbit⟩
      rw [if_pos hbit, if_pos (isNil_iff.mpr (h.room hbit hdiffer))]
    · have hlt : differBit < fields.bit := lt_of_le_of_ne h.le_bit (Ne.symm hbit)
      rw [if_neg hbit]
      -- the node is deeper than the first different bit
      by_cases hend : pfx.bitlen = differBit
      · rw [if_pos hend]
        obtain ⟨l', r', hnode⟩ := exists_node_branch
          (PatriciaFields.mk pfx.bitlen (some pfx) (0 : δ))
          (goesRight size testPrefix.add.toList pfx.bitlen) (.node fields l r) .nil
        have hlocated := h.located_parent hwf hbitlen hhead hend.symm (hend ▸ hlt) l' r' hnode
        rw [hnode]
        exact ⟨_, _, l', r', rfl, hlocated⟩
      · rw [if_neg hend]
        exact ⟨_, _, _, _, rfl, h.located_sibling hwf hbitlen hhead
          (lt_of_le_of_ne h.le_bitlen (Ne.symm hend)) hlt⟩

omit h hhead

omit [DecidableEq δ] in
/-- The first prefix of a tree. -/
theorem PatriciaTree.WellFormed.located_head (hhead : patricia.head = .nil) :
    patricia.Located pfx
      ⟨.node ⟨pfx.bitlen, some pfx, 0⟩ .nil .nil, [], patricia.numActiveNode + 1⟩
      ⟨pfx.bitlen, some pfx, 0⟩ .nil .nil := by
  have hleaf : Routed (patriciaLabels size δ) [] (.node ⟨pfx.bitlen, some pfx, 0⟩ .nil .nil) :=
    routed_leaf (List.nil_prefix) (key_of_pfx pfx 0) pfx.length_key
  have hnone : ∀ key, patricia.entry key = none := by
    intro key
    rw [PatriciaTree.entry, hhead]
    rfl
  refine ⟨rfl, ⟨[], .nil, hleaf⟩, ⟨hleaf, fun v hv => ?_, ?_⟩, ?_, fun key hkey => ?_⟩
  · rw [List.mem_singleton.mp hv]
    exact hbitlen
  · show patricia.numActiveNode + 1 = 1
    rw [hwf.counted, hhead]
    rfl
  · rw [hnone]
    rfl
  · rw [hnone]
    rcases hfind : (patriciaLabels size δ).find (.node ⟨pfx.bitlen, some pfx, 0⟩ .nil .nil) key
      with - | v
    · exact hfind
    · obtain ⟨hv, hvkey⟩ := Labelling.mem_of_find hfind
      rw [List.mem_singleton.mp hv] at hvkey
      exact absurd (Option.some.inj hvkey).symm hkey

omit hwf [DecidableEq δ] in
/-- The way down and up has found out what is needed to place a prefix. -/
theorem EndsAt.ready {node : PatriciaNode size δ}
    {popped up rest : List (Frame (PatriciaFields size δ))}
    {stop : PatriciaFields size δ} {left right : PatriciaNode size δ}
    (h : EndsAt pfx.add.toList pfx.bitlen node [] popped stop left right)
    (hpfx : stop.pfx = some testPrefix) (hpopped : popped = up ++ rest)
    (hup : ∀ f ∈ up, differBit ≤ f.value.bit) (hrest : ∀ f ∈ rest.head?, f.value.bit < differBit)
    (hle : differBit ≤ if stop.bit < pfx.bitlen then stop.bit else pfx.bitlen)
    (hagree : AgreeOn differBit pfx.add.toList testPrefix.add.toList)
    (hdiffer : differBit < (if stop.bit < pfx.bitlen then stop.bit else pfx.bitlen) →
      DifferAt pfx.add.toList testPrefix.add.toList differBit) :
    ∃ fields l r stem, plug up (.node stop left right) = .node fields l r ∧
      ReadyToPlace pfx testPrefix differBit fields l r rest stem := by
  subst hpopped
  obtain ⟨inner, hframes, hstop⟩ := h.routed
  rw [List.append_nil] at hframes
  have hkey : (patriciaLabels size δ).key stop = some testPrefix.key :=
    key_patriciaLabels_eq_some.mpr ⟨testPrefix, hpfx, rfl⟩
  obtain ⟨path, hinner, hfits, -⟩ := hstop.node_inv
  -- the frames on the way lie above the node where it ends
  have habove : ∀ f ∈ up ++ rest, f.value.bit < stop.bit := fun f hf =>
    (hframes.depth_lt hf).trans_le (hinner.length_le.trans hfits.depth.le)
  have hstopBit : stop.bit = testPrefix.bitlen := by
    have hpath := congrArg List.length (hfits.key _ hkey)
    rw [Prefix.length_key] at hpath
    exact (hpath.trans hfits.depth).symm
  obtain ⟨stem, hrestFrames, hnode, -⟩ := hframes.up hstop node_ne_nil
  have hstem : stem.length ≤ differBit := by
    cases rest with
    | nil =>
        cases hrestFrames
        exact Nat.zero_le _
    | cons f rest =>
        rw [hrestFrames.head.1]
        exact hrest f rfl
  have hbelow : ∀ frames, stop ∈ preorder (plug frames (.node stop left right)) := by
    intro frames
    obtain ⟨front, back, hpreorder⟩ := preorder_plug frames
    rw [hpreorder]
    simp
  rcases List.eq_nil_or_concat' up with rfl | ⟨init, f, rfl⟩
  · -- the node is the one where the way ended
    refine ⟨stop, left, right, stem, rfl, hrestFrames, hnode, ⟨stop, hbelow [], hpfx⟩, hstem,
      ?_, ?_, hagree, fun hlt hlt' => (hdiffer ?_).differ, fun hbit hlt => ?_⟩
    · exact hle.trans (by split <;> omega)
    · exact hle.trans (by split <;> omega)
    · split <;> assumption
    · exact h.stops (hbit.trans_lt hlt)
  · -- the node is one that the way went through
    have hf := habove f (by simp)
    obtain ⟨l, r, hplug⟩ := exists_node_branch f.value f.side (plug init (.node stop left right))
      f.sibling
    have hwhole : plug (init ++ [f]) (.node stop left right) = .node f.value l r := by
      rw [plug_append]
      exact hplug
    rw [hwhole] at hnode
    refine ⟨f.value, l, r, stem, hwhole, hrestFrames, hnode,
      ⟨stop, hwhole ▸ hbelow (init ++ [f]), hpfx⟩, hstem, hup f (by simp), ?_, hagree,
      fun hlt hlt' => (hdiffer ?_).differ, fun hbit hlt => ?_⟩
    · exact hle.trans (by split <;> omega)
    · have hlt'' := hlt'.trans hf
      split <;> assumption
    · -- the way went on by the bit that differs
      exfalso
      rw [List.append_assoc] at hframes
      obtain ⟨outer, hfFrames, hsub, -⟩ := hframes.up hstop node_ne_nil
      have hside := getElem?_of_isPrefix (hsub.stem_isPrefix (hbelow init) hkey) hfFrames.head.2
      have hway : f.side = addressBit pfx.add.toList differBit := by
        rw [h.onTheWay f (by simp), hbit, goesRight_eq (hlt.trans_le hbitlen)]
      have hdepth : (patriciaLabels size δ).depth f.value = differBit := hbit
      rw [hdepth, Prefix.key, getElem?_bitsOf (by omega), Option.some.injEq] at hside
      refine (hdiffer ?_).differ (hway.symm.trans hside.symm)
      split <;> omega

/-- **`patricia_lookup` returns the node of the prefix**: no assertion fails, the tree stays
well-formed, and no other prefix is touched. -/
theorem patriciaLookup_spec : ∃ cursor fields l r,
    patriciaLookup patricia pfx = some cursor ∧ patricia.Located pfx cursor fields l r := by
  rw [patriciaLookup, if_pos hbitlen]
  rcases hhead : patricia.head with - | ⟨root, left, right⟩
  · exact ⟨_, _, _, _, if_pos rfl, hwf.located_head hbitlen hhead⟩
  · rw [if_neg (by simp)]
    have hrouted := hwf.routed
    rw [hhead] at hrouted
    obtain ⟨popped, stop, stopLeft, stopRight, hdescend, hends⟩ :=
      patriciaDescend_spec pfx.add.toList pfx.bitlen .nil hrouted node_ne_nil
    rw [List.append_nil] at hdescend
    -- down to a node with a prefix, and up again to where the prefixes part
    obtain ⟨testPrefix, hpfx⟩ := Option.ne_none_iff_exists'.mp hends.hasPrefix
    obtain ⟨d, hloop, differBit, hdiffer, hle, hagree, hdifferAt⟩ := differBit_spec
      (if stop.bit < pfx.bitlen then stop.bit else pfx.bitlen) pfx.add testPrefix.add
      (by split <;> omega)
    obtain ⟨up, rest, hpopped, hclimb, hup, hrest⟩ :=
      patriciaClimb_spec differBit (.node stop stopLeft stopRight) popped
    obtain ⟨fields, l, r, stem, hplug, hready⟩ :=
      hends.ready hbitlen hpfx hpopped hup hrest hle hagree hdifferAt
    rw [hplug] at hclimb
    simp only [hdescend, hpfx, Option.bind_eq_bind, Option.bind_some, hloop, hdiffer, hclimb]
    refine hready.place_spec hwf hbitlen ?_
    rw [hhead, ← hends.plug_eq, hpopped, plug_append, hplug]

end Ways

/-! ### Runs -/

variable [DecidableEq δ]

section Entry

omit [DecidableEq δ]

/-- An entry has a prefix with its key. -/
theorem PatriciaTree.pfx_of_entry {key : List Bool} (h : patricia.entry key = some fields) :
    ∃ found, fields.pfx = some found ∧ found.key = key :=
  key_patriciaLabels_eq_some.mp (Labelling.mem_of_find h).2

theorem PatriciaTree.table_of_entry {key : List Bool} {found : Prefix size}
    (h : patricia.entry key = some fields) (hpfx : fields.pfx = some found) :
    patricia.table key = some (found, fields.data) := by
  rw [PatriciaTree.table, h, Option.bind_some, hpfx]
  rfl

variable {cursor : PatriciaCursor size δ} (h : patricia.Located pfx cursor fields l r)
include h

theorem PatriciaTree.Located.key_eq : (patriciaLabels size δ).key fields = some pfx.key := by
  rw [h.fields_eq]
  rcases hentry : patricia.entry pfx.key with - | old
  · exact key_of_pfx pfx 0
  · exact (Labelling.mem_of_find hentry).2

/-- The tree with any data behind the pointer that `patricia_lookup` returns. -/
theorem PatriciaTree.Located.withData (userData : δ) {patricia' : PatriciaTree size δ}
    (htree : patricia' = ⟨plug cursor.frames (.node { fields with data := userData } l r),
      cursor.numActiveNode⟩) :
    patricia'.WellFormed ∧ patricia'.entry pfx.key = some { fields with data := userData } ∧
      ∀ key ≠ pfx.key, patricia'.entry key = patricia.entry key := by
  obtain ⟨stem, hframes, hnode⟩ := h.routed
  rw [h.node_eq] at hnode
  have hkey : (patriciaLabels size δ).key { fields with data := userData } = some pfx.key :=
    h.key_eq
  have hcursor : cursor.tree = ⟨plug cursor.frames (.node fields l r), cursor.numActiveNode⟩ := by
    rw [PatriciaCursor.tree, h.node_eq]
  -- the data have no part in the way through the tree
  have hnode' : Routed (patriciaLabels size δ) stem
      (.node { fields with data := userData } l r) := by
    cases hnode with
    | node path hstem hfits hglue hl hr =>
        refine .node path hstem ⟨hfits.depth, hfits.key, fun hnone => ?_⟩ hglue hl hr
        rw [hkey] at hnone
        cases hnone
  have hstem : stem <+: pfx.key := hnode'.stem_isPrefix List.mem_cons_self hkey
  have hlength : pfx.key.length ≤ fields.bit := by
    obtain ⟨path, -, hfits, -⟩ := hnode.node_inv
    rw [hfits.key _ h.key_eq]
    exact hfits.depth.le
  have hwf := h.wellFormed
  rw [hcursor] at hwf
  subst htree
  refine ⟨⟨hframes.routed_plug hnode' node_ne_nil, fun v hv => ?_, ?_⟩, ?_, fun key hne => ?_⟩
  · obtain ⟨front, back, hpreorder⟩ := preorder_plug cursor.frames
    have hbits := hwf.bit_le
    simp only [hpreorder, List.mem_append, preorder_node, List.mem_cons] at hv hbits
    rcases hv with (hv | rfl | hv) | hv
    · exact hbits v (.inl (.inl hv))
    · exact hbits fields (.inl (.inr (.inl rfl)))
    · exact hbits v (.inl (.inr (.inr hv)))
    · exact hbits v (.inr hv)
  · have hcount := hwf.counted
    have hnodes := numNodes_plug cursor.frames (.node fields l r)
      (.node { fields with data := userData } l r)
    simp only [BinaryTree.numNodes] at hcount hnodes ⊢
    omega
  · rw [PatriciaTree.entry, hframes.find_plug hnode' node_ne_nil hstem,
      hnode'.find_root hlength, if_pos hkey]
  · rw [← h.entry_eq key hne, hcursor]
    refine hframes.find_edit hnode node_ne_nil hnode' node_ne_nil fun v hv => ?_
    simp only [preorder_node, List.mem_cons]
    refine or_congr_left ⟨fun heq => ?_, fun heq => ?_⟩
    · rw [heq, hkey] at hv
      exact absurd (Option.some.inj hv).symm hne
    · rw [heq, h.key_eq] at hv
      exact absurd (Option.some.inj hv).symm hne

end Entry

/-- **One call updates the table**, and no assertion fails. -/
theorem patriciaStep_spec (hwf : patricia.WellFormed) (call : PatriciaCall size δ)
    (hbitlen : call.pfx.bitlen ≤ maxbits size) :
    ∃ patricia', patriciaStep patricia call = some patricia' ∧ patricia'.WellFormed ∧
      patricia'.table = call.update patricia.table := by
  obtain ⟨cursor, fields, l, r, hlookup, hlocated⟩ := patriciaLookup_spec hwf hbitlen
  have hfields : fields.pfx.map (·, fields.data)
      = some ((patricia.table call.pfx.key).getD (call.pfx, 0)) := by
    rw [hlocated.fields_eq, PatriciaTree.table]
    rcases hentry : patricia.entry call.pfx.key with - | old
    · rfl
    · obtain ⟨found, hfound, -⟩ := patricia.pfx_of_entry hentry
      simp [hfound]
  obtain ⟨found, hfound, hdata⟩ := Option.map_eq_some_iff.mp hfields
  -- each call writes the entry of its key, under the prefix that was stored first
  have htable : ∀ (patricia' : PatriciaTree size δ) (userData : δ),
      patricia'.entry call.pfx.key = some { fields with data := userData } →
      (∀ key ≠ call.pfx.key, patricia'.entry key = patricia.entry key) →
      patricia'.table = Function.update patricia.table call.pfx.key (some (found, userData)) := by
    intro patricia' userData hentry hother
    funext key
    by_cases hkey : key = call.pfx.key
    · subst hkey
      rw [Function.update_self, PatriciaTree.table_of_entry hentry hfound]
    · rw [Function.update_of_ne hkey, PatriciaTree.table, hother key hkey]
      rfl
  rw [patriciaStep, hlookup]
  cases call with
  | makeAndLookup pfx =>
      obtain ⟨hwf', hentry, hother⟩ := hlocated.withData fields.data rfl
      rw [← hlocated.node_eq] at hwf' hentry hother
      refine ⟨cursor.tree, rfl, hwf', ?_⟩
      have hstored : (found, fields.data) = (patricia.table pfx.key).getD (pfx, 0) := hdata
      rw [PatriciaCall.update, ← hstored]
      exact htable _ fields.data hentry hother
  | makeAndLookupWithData pfx userData =>
      obtain ⟨hwf', hentry, hother⟩ := hlocated.withData userData rfl
      have hset : (cursor.setData userData).tree
          = ⟨plug cursor.frames (.node { fields with data := userData } l r),
            cursor.numActiveNode⟩ := by
        rw [PatriciaCursor.setData, hlocated.node_eq]
        rfl
      refine ⟨(cursor.setData userData).tree, rfl, hset ▸ hwf', ?_⟩
      have hstored : (found, fields.data) = (patricia.table pfx.key).getD (pfx, 0) := hdata
      rw [PatriciaCall.update, ← hstored]
      exact htable _ userData (hset ▸ hentry) (hset ▸ hother)

omit [DecidableEq δ] in
theorem wellFormed_newPatricia : (({} : PatriciaTree size δ)).WellFormed :=
  ⟨.nil _, fun _ hv => (List.not_mem_nil hv).elim, rfl⟩

/-- **A run of insertions** never fails an assertion, keeps the tree well-formed, and updates the
table call by call. -/
theorem PatriciaTree.WellFormed.run (hwf : patricia.WellFormed) (calls : List (PatriciaCall size δ))
    (hbitlen : ∀ call ∈ calls, call.pfx.bitlen ≤ maxbits size) :
    ∃ patricia', runEvents patriciaStep patricia calls = some patricia' ∧ patricia'.WellFormed ∧
      patricia'.table = calls.foldl PatriciaCall.update patricia.table := by
  induction calls generalizing patricia with
  | nil => exact ⟨patricia, rfl, hwf, rfl⟩
  | cons call calls ih =>
      obtain ⟨next, hstep, hnext, htable⟩ :=
        patriciaStep_spec hwf call (hbitlen call List.mem_cons_self)
      obtain ⟨patricia', hrun, hwf', hend⟩ :=
        ih hnext fun call hcall => hbitlen call (List.mem_cons_of_mem _ hcall)
      refine ⟨patricia', ?_, hwf', by rw [hend, htable]; rfl⟩
      rw [runEvents, List.foldlM_cons, hstep]
      exact hrun

theorem patriciaRun_spec (calls : List (PatriciaCall size δ))
    (hbitlen : ∀ call ∈ calls, call.pfx.bitlen ≤ maxbits size) :
    ∃ patricia, runEvents patriciaStep {} calls = some patricia ∧ patricia.WellFormed ∧
      patricia.table = calls.foldl PatriciaCall.update fun _ => none :=
  wellFormed_newPatricia.run calls hbitlen

end FastNetMon
