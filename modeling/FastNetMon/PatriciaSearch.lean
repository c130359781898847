/-
FastNetMon/PatriciaSearch.lean

Searching in a Patricia tree, and going through it.

Every result is about the tree that a run of insertions leaves, in terms of the table that
the run has filled: the exact search looks a key up (`patriciaSearchExact_run`), the other
one finds the longest prefix (`patriciaSearchBest2_run`), and the traversals meet every entry
once (`patriciaProcess_run`, `clearPatricia_run`).
-/
import Mathlib
import FastNetMon.PatriciaInsert

namespace FastNetMon

variable {size : ℕ} {δ : Type} [Zero δ] {stem : List Bool}
  {patricia : PatriciaTree size δ} {pfx : Prefix size}

/-! ### The exact search -/

theorem Prefix.getElem?_key {bit : ℕ} (h : bit < pfx.bitlen) :
    pfx.key[bit]? = some (bitTest pfx.add.toList bit) := by
  rw [Prefix.key, getElem?_bitsOf h, bitTest_eq]

/-- The way down ends at the node of the prefix, if it has one. -/
theorem searchDown_spec {node : PatriciaNode size δ}
    (hnode : Routed (patriciaLabels size δ) stem node) :
    (patriciaLabels size δ).find node pfx.key =
      match searchDown pfx.add.toList pfx.bitlen node with
      | .nil => none
      | .node fields _ _ =>
        if (patriciaLabels size δ).key fields = some pfx.key then some fields else none := by
  induction node generalizing stem with
  | nil => rfl
  | node fields l r ihl ihr =>
      rw [searchDown]
      obtain ⟨path, -, hfits, hchild⟩ := hnode.node_inv
      by_cases hbit : fields.bit < pfx.bitlen
      · have hside := Prefix.getElem?_key hbit
        rw [if_pos hbit, hnode.find_child hside]
        cases bitTest pfx.add.toList fields.bit with
        | false => exact ihl (hchild false)
        | true => exact ihr (hchild true)
      · rw [if_neg hbit]
        exact hnode.find_root (by rw [Prefix.length_key]; exact Nat.not_lt.mp hbit)

/-- Where the way down ends, the length of the prefix is the bit of the node. -/
theorem searchDown_fits {node l r : PatriciaNode size δ} {fields : PatriciaFields size δ}
    {addr : ByteString} {bitlen : ℕ} (hnode : Routed (patriciaLabels size δ) stem node)
    (h : searchDown addr bitlen node = .node fields l r) :
    (∃ path, (patriciaLabels size δ).Fits path fields) ∧ bitlen ≤ fields.bit := by
  induction node generalizing stem with
  | nil => cases h
  | node root left right ihl ihr =>
      obtain ⟨path, -, hfits, hchild⟩ := hnode.node_inv
      rw [searchDown] at h
      split at h
      · split at h
        · exact ihr (hchild true) h
        · exact ihl (hchild false) h
      · rename_i hbit
        obtain ⟨rfl, rfl, rfl⟩ := BinaryTree.node.inj h
        exact ⟨⟨path, hfits⟩, Nat.not_lt.mp hbit⟩

/-- **The exact search looks the key of the prefix up**, and no assertion fails. -/
theorem PatriciaTree.WellFormed.searchExact (hwf : patricia.WellFormed)
    (hbitlen : pfx.bitlen ≤ maxbits size) :
    patriciaSearchExact patricia pfx = some (patricia.entry pfx.key) := by
  rw [patriciaSearchExact, if_pos hbitlen, PatriciaTree.entry, searchDown_spec hwf.routed]
  rcases hsearch : searchDown pfx.add.toList pfx.bitlen patricia.head with - | ⟨fields, l, r⟩
  · rfl
  · obtain ⟨⟨path, hfits⟩, hle⟩ := searchDown_fits hwf.routed hsearch
    dsimp only
    rcases hpfx : fields.pfx with - | found
    · rw [key_patriciaLabels_eq_none.mpr hpfx, if_neg (Option.some_ne_none _).symm]
      split <;> rfl
    · have hkey : (patriciaLabels size δ).key fields = some found.key :=
        key_patriciaLabels_eq_some.mpr ⟨found, hpfx, rfl⟩
      have hbit : fields.bit = found.bitlen := by
        rw [← found.length_key, hfits.key _ hkey]
        exact hfits.depth.symm
      -- the way down may end at a longer prefix
      simp only [hkey, Option.some.injEq]
      by_cases hlt : fields.bit > pfx.bitlen
      · rw [if_pos hlt, if_neg]
        intro heq
        have hlength := congrArg List.length heq
        rw [Prefix.length_key, Prefix.length_key, ← hbit] at hlength
        exact absurd hlength hlt.ne'
      · have heq : fields.bit = pfx.bitlen := le_antisymm (Nat.not_lt.mp hlt) hle
        have hcomp : compWithMask found.add.toList pfx.add.toList pfx.bitlen = true
            ↔ found.key = pfx.key := by
          rw [compWithMask_iff _ _ hbitlen, Prefix.key, Prefix.key, ← hbit, heq]
        rw [if_neg hlt, if_pos ⟨heq, hbit⟩]
        by_cases hmatch : found.key = pfx.key
        · rw [if_pos (hcomp.mpr hmatch), if_pos hmatch]
        · rw [if_neg (hcomp.not.mpr hmatch), if_neg hmatch]

/-! ### The longest prefix -/

/-- The nodes that `patricia_search_best2` puts on its stack. -/
def onStack (bitlen : ℕ) (inclusive : Bool) (fields : PatriciaFields size δ) : Bool :=
  fields.pfx.isSome && (inclusive || fields.bit < bitlen)

omit [Zero δ] in
theorem pushIf_eq {stack : List (PatriciaFields size δ)}
    (hroom : stack.length < PATRICIA_MAXBITS + 1) (fields : PatriciaFields size δ) (c : Bool) :
    pushIf c stack fields = some ((if c then [fields] else []) ++ stack) := by
  cases c with
  | false => rfl
  | true => exact if_pos hroom

theorem reverse_filter_cons {α : Type*} (p : α → Bool) (x : α) (xs stack : List α) :
    ((x :: xs).filter p).reverse ++ stack
      = (xs.filter p).reverse ++ ((if p x then [x] else []) ++ stack) := by
  rw [List.filter_cons]
  cases p x with
  | false => rfl
  | true => simp

/-- The search collects the nodes along the prefix, the deepest on top, and its stack is
large enough. -/
theorem collectPrefixes_spec {inclusive : Bool} {node : PatriciaNode size δ}
    (hnode : Routed (patriciaLabels size δ) stem node) (stack : List (PatriciaFields size δ))
    (hroom : stack.length + ((patriciaLabels size δ).along pfx.key node).length
      ≤ PATRICIA_MAXBITS + 1) :
    collectPrefixes pfx.add.toList pfx.bitlen inclusive node stack
      = some ((((patriciaLabels size δ).along pfx.key node).filter
          (onStack pfx.bitlen inclusive)).reverse ++ stack) := by
  induction node generalizing stem stack with
  | nil => rfl
  | node fields l r ihl ihr =>
      obtain ⟨path, -, hfits, hchild⟩ := hnode.node_inv
      rw [collectPrefixes]
      rw [Labelling.along_node, List.length_cons] at hroom
      rw [Labelling.along_node, reverse_filter_cons]
      have hroom' : stack.length < PATRICIA_MAXBITS + 1 := by omega
      by_cases hbit : fields.bit < pfx.bitlen
      · have hdepth : pfx.key[(patriciaLabels size δ).depth fields]?
            = some (bitTest pfx.add.toList fields.bit) := Prefix.getElem?_key hbit
        have hon : onStack pfx.bitlen inclusive fields = fields.pfx.isSome := by
          rw [onStack, decide_eq_true hbit, Bool.or_true, Bool.and_true]
        rw [hdepth] at hroom ⊢
        rw [if_pos hbit, pushIf_eq hroom', hon, Option.bind_eq_bind, Option.bind_some]
        have hlength : ((if fields.pfx.isSome then [fields] else []) ++ stack).length
            ≤ stack.length + 1 := by
          cases fields.pfx.isSome <;> simp
        cases hside : bitTest pfx.add.toList fields.bit with
        | false =>
            rw [hside] at hroom
            exact ihl (hchild false) _ (by simp only [childOn_false] at hroom; omega)
        | true =>
            rw [hside] at hroom
            exact ihr (hchild true) _ (by simp only [childOn_true] at hroom; omega)
      · have hnone : pfx.key[(patriciaLabels size δ).depth fields]? = none := by
          rw [List.getElem?_eq_none]
          rw [Prefix.length_key]
          exact Nat.not_lt.mp hbit
        have hon : onStack pfx.bitlen inclusive fields = (inclusive && fields.pfx.isSome) := by
          rw [onStack, decide_eq_false hbit, Bool.or_false, Bool.and_comm]
        rw [hnone, if_neg hbit, pushIf_eq hroom', hon]
        rfl

/-- The height of a tree does not exceed the bits of an address by more than one. -/
theorem PatriciaTree.WellFormed.height_le (hwf : patricia.WellFormed) :
    patricia.head.height ≤ maxbits size + 1 := by
  have hheight := hwf.routed.height_le hwf.bit_le (Nat.zero_le _)
  rwa [List.length_nil, Nat.zero_add] at hheight

/-- A prefix of another one: it is not longer, and the bits agree. -/
theorem Prefix.key_prefix_iff_agreeOn {found : Prefix size} : found.key <+: pfx.key ↔
    found.bitlen ≤ pfx.bitlen ∧ AgreeOn found.bitlen found.add.toList pfx.add.toList := by
  rw [← bitsOf_eq_iff]
  constructor
  · intro hpref
    have hlength := hpref.length_le
    rw [Prefix.length_key, Prefix.length_key] at hlength
    have htake := List.prefix_iff_eq_take.mp hpref
    rw [Prefix.length_key, Prefix.key, Prefix.key, take_bitsOf hlength] at htake
    exact ⟨hlength, htake⟩
  · rintro ⟨hlength, hbits⟩
    rw [Prefix.key, hbits]
    exact bitsOf_isPrefix hlength

/-- A prefix of another one, as the search tests it. -/
theorem Prefix.key_prefix_iff {found : Prefix size} (hbitlen : found.bitlen ≤ maxbits size) :
    found.key <+: pfx.key ↔
      compWithMask found.add.toList pfx.add.toList found.bitlen = true ∧
        found.bitlen ≤ pfx.bitlen := by
  rw [compWithMask_iff _ _ hbitlen, bitsOf_eq_iff, Prefix.key_prefix_iff_agreeOn, and_comm]

/-- The bit of a node with a prefix is the length of this. -/
theorem PatriciaTree.WellFormed.bit_eq (hwf : patricia.WellFormed) {found : Prefix size}
    {fields : PatriciaFields size δ} (hfields : fields ∈ preorder patricia.head)
    (hpfx : fields.pfx = some found) : fields.bit = found.bitlen := by
  obtain ⟨path, -, hfits⟩ := hwf.routed.exists_fits hfields
  rw [← found.length_key, hfits.key _ (key_patriciaLabels_eq_some.mpr ⟨found, hpfx, rfl⟩)]
  exact hfits.depth.symm

theorem PatriciaTree.WellFormed.length_of_entry (hwf : patricia.WellFormed) {key : List Bool}
    {fields : PatriciaFields size δ} (h : patricia.entry key = some fields) :
    key.length = fields.bit := by
  obtain ⟨hfields, hkey⟩ := Labelling.mem_of_find h
  obtain ⟨found, hpfx, rfl⟩ := key_patriciaLabels_eq_some.mp hkey
  rw [Prefix.length_key, hwf.bit_eq hfields hpfx]

/-- The keys that a search may end at. -/
def PatriciaTree.candidates (patricia : PatriciaTree size δ) (bitlen : ℕ) (inclusive : Bool) :
    Set (List Bool) :=
  { key | (patricia.entry key).isSome ∧ (inclusive = true ∨ key.length < bitlen) }

/-- The test that `patricia_search_best2` makes at the nodes on its stack. -/
def matchesPrefix (pfx : Prefix size) (fields : PatriciaFields size δ) : Bool :=
  fields.pfx.any fun found =>
    compWithMask found.add.toList pfx.add.toList found.bitlen && found.bitlen ≤ pfx.bitlen

/-- A node is on the stack and matches exactly if its key is a candidate and a prefix. -/
theorem PatriciaTree.WellFormed.matches_iff (hwf : patricia.WellFormed) {inclusive : Bool}
    {fields : PatriciaFields size δ} :
    fields ∈ ((patriciaLabels size δ).along pfx.key patricia.head).filter
        (onStack pfx.bitlen inclusive) ∧ matchesPrefix pfx fields = true ↔
      ∃ key, patricia.entry key = some fields ∧
        key ∈ patricia.candidates pfx.bitlen inclusive ∧ key <+: pfx.key := by
  constructor
  · rintro ⟨hmem, hmatches⟩
    obtain ⟨halong, hon⟩ := List.mem_filter.mp hmem
    have hfields := Labelling.mem_of_mem_along halong
    obtain ⟨found, hpfx, htest⟩ := (Option.any_eq_true _ _).mp hmatches
    have hkey : (patriciaLabels size δ).key fields = some found.key :=
      key_patriciaLabels_eq_some.mpr ⟨found, hpfx, rfl⟩
    have hentry : patricia.entry found.key = some fields :=
      hwf.routed.find_eq_some_iff.mpr ⟨hfields, hkey⟩
    have hbit := hwf.bit_eq hfields hpfx
    rw [Bool.and_eq_true, decide_eq_true_eq] at htest
    refine ⟨found.key, hentry, ⟨by rw [hentry]; rfl, ?_⟩,
      (Prefix.key_prefix_iff (hbit ▸ hwf.bit_le fields hfields)).mpr htest⟩
    rw [Prefix.length_key, ← hbit]
    simpa [onStack, hpfx] using hon
  · rintro ⟨key, hentry, ⟨-, hinclusive⟩, hpref⟩
    obtain ⟨hfields, hkey⟩ := Labelling.mem_of_find hentry
    obtain ⟨found, hpfx, rfl⟩ := key_patriciaLabels_eq_some.mp hkey
    have hbit := hwf.bit_eq hfields hpfx
    refine ⟨List.mem_filter.mpr ⟨hwf.routed.mem_along hfields hkey hpref, ?_⟩, ?_⟩
    · rw [Prefix.length_key, ← hbit] at hinclusive
      simpa [onStack, hpfx] using hinclusive
    · have htest := (Prefix.key_prefix_iff (hbit ▸ hwf.bit_le fields hfields)).mp hpref
      rw [matchesPrefix, hpfx, Option.any_some, Bool.and_eq_true, decide_eq_true_eq]
      exact htest

/-- **The other search finds the longest prefix**, and its stack is large enough. -/
theorem PatriciaTree.WellFormed.searchBest2 (hsize : size ≤ 16) (hwf : patricia.WellFormed)
    (hbitlen : pfx.bitlen ≤ maxbits size) (inclusive : Bool) :
    ∃ result, patriciaSearchBest2 patricia pfx inclusive = some result ∧
      (∀ fields, result = some fields → ∃ key, patricia.entry key = some fields ∧
        IsLongestPrefix (patricia.candidates pfx.bitlen inclusive) pfx.key key) ∧
      (result = none → ∀ key ∈ patricia.candidates pfx.bitlen inclusive, ¬ key <+: pfx.key) := by
  have hroom : ([] : List (PatriciaFields size δ)).length
      + ((patriciaLabels size δ).along pfx.key patricia.head).length ≤ PATRICIA_MAXBITS + 1 := by
    have hlength := (patriciaLabels size δ).length_along_le pfx.key patricia.head
    have hheight := hwf.height_le
    rw [List.length_nil, PATRICIA_MAXBITS]
    rw [maxbits] at hheight
    omega
  -- the nodes on the stack get deeper, so the first of them that matches is the deepest
  have hsorted := (hwf.routed.along_sorted (q := pfx.key)).filter (onStack pfx.bitlen inclusive)
  rw [patriciaSearchBest2, if_pos hbitlen, collectPrefixes_spec hwf.routed [] hroom]
  refine ⟨_, rfl, fun fields hfields => ?_, fun hnone key hkey hpref => ?_⟩
  · rw [List.append_nil] at hfields
    obtain ⟨hmem, hmatches, hdeepest⟩ := find?_reverse_eq_some hsorted hfields
    obtain ⟨key, hentry, hcandidate, hpref⟩ := hwf.matches_iff.mp ⟨hmem, hmatches⟩
    refine ⟨key, hentry, hcandidate, hpref, fun key' hcandidate' hpref' => ?_⟩
    obtain ⟨fields', hentry'⟩ := Option.isSome_iff_exists.mp hcandidate'.1
    obtain ⟨hmem', hmatches'⟩ := hwf.matches_iff.mpr ⟨key', hentry', hcandidate', hpref'⟩
    rw [hwf.length_of_entry hentry, hwf.length_of_entry hentry']
    exact hdeepest fields' hmem' hmatches'
  · obtain ⟨fields, hentry⟩ := Option.isSome_iff_exists.mp hkey.1
    obtain ⟨hmem, hmatches⟩ := hwf.matches_iff.mpr ⟨key, hentry, hkey, hpref⟩
    rw [List.append_nil] at hnone
    exact List.find?_eq_none.mp hnone fields (List.mem_reverse.mpr hmem) hmatches

/-! ### Traversals -/

/-- The prefixes in a tree and their data, in preorder. -/
def PatriciaTree.entries (patricia : PatriciaTree size δ) : List (Prefix size × δ) :=
  (preorder patricia.head).filterMap fun fields => fields.pfx.map (·, fields.data)

omit [Zero δ] in
theorem foldlM_elim_pfx {σ : Type} (func : σ → Prefix size → δ → σ)
    (nodes : List (PatriciaFields size δ)) (s : σ) :
    nodes.foldlM (fun s fields =>
        some (fields.pfx.elim s fun pfx => func s pfx fields.data)) s
      = some ((nodes.filterMap fun fields => fields.pfx.map (·, fields.data)).foldl
          (fun s entry => func s entry.1 entry.2) s) := by
  induction nodes generalizing s with
  | nil => rfl
  | cons fields nodes ih =>
      rw [List.foldlM_cons, List.filterMap_cons]
      rcases fields.pfx with - | pfx
      · exact ih s
      · exact ih (func s pfx fields.data)

theorem PatriciaTree.WellFormed.height_le_stack (hsize : size ≤ 16) (hwf : patricia.WellFormed) :
    patricia.head.height ≤ (PATRICIA_MAXBITS + 1) + 1 := by
  have hheight := hwf.height_le
  rw [maxbits] at hheight
  rw [PATRICIA_MAXBITS]
  omega

/-- **`patricia_process` meets the entries in preorder**, and its stack is large enough. -/
theorem PatriciaTree.WellFormed.process {σ : Type} (hsize : size ≤ 16) (hwf : patricia.WellFormed)
    (func : σ → Prefix size → δ → σ) (s : σ) :
    patriciaProcess patricia func s
      = some (patricia.entries.foldl (fun s entry => func s entry.1 entry.2) s) := by
  rw [patriciaProcess, walk_eq _ s (hwf.height_le_stack hsize)]
  exact foldlM_elim_pfx func (preorder patricia.head) s

theorem PatriciaTree.map_key_entries :
    patricia.entries.map (fun entry => entry.1.key)
      = (patriciaLabels size δ).keys patricia.head := by
  rw [PatriciaTree.entries, Labelling.keys, List.map_filterMap]
  refine List.filterMap_congr fun fields _ => ?_
  show Option.map _ (Option.map _ fields.pfx) = Option.map _ fields.pfx
  rw [Option.map_map]
  rfl

theorem PatriciaTree.WellFormed.mem_entries_iff (hwf : patricia.WellFormed) {found : Prefix size}
    {data : δ} : (found, data) ∈ patricia.entries ↔
      patricia.table found.key = some (found, data) := by
  rw [PatriciaTree.entries, List.mem_filterMap]
  constructor
  · rintro ⟨fields, hfields, hsome⟩
    obtain ⟨pfx, hpfx, heq⟩ := Option.map_eq_some_iff.mp hsome
    obtain ⟨rfl, rfl⟩ := Prod.mk.inj heq
    refine PatriciaTree.table_of_entry (hwf.routed.find_eq_some_iff.mpr ⟨hfields, ?_⟩) hpfx
    exact key_patriciaLabels_eq_some.mpr ⟨pfx, hpfx, rfl⟩
  · intro htable
    obtain ⟨fields, hentry, hsome⟩ := Option.bind_eq_some_iff.mp htable
    exact ⟨fields, (Labelling.mem_of_find hentry).1, hsome⟩

section Clear

variable [DecidableEq δ]

theorem foldlM_clearNode {σ : Type} (func : σ → δ → σ)
    (nodes : List (PatriciaFields size δ))
    (hglue : ∀ fields ∈ nodes, fields.pfx = none → fields.data = 0) (n : ℤ) (s : σ) :
    nodes.foldlM (clearNode func) (n, s)
      = some (n - nodes.length,
          (((nodes.filterMap fun fields => fields.pfx.map (·, fields.data)).map Prod.snd).filter
            (· ≠ 0)).foldl func s) := by
  induction nodes generalizing n s with
  | nil => simp
  | cons fields nodes ih =>
      have ih := ih fun fields hfields => hglue fields (List.mem_cons_of_mem _ hfields)
      rw [List.foldlM_cons, List.filterMap_cons, clearNode]
      rcases hpfx : fields.pfx with - | pfx
      · rw [if_neg (by simp), if_pos (hglue fields List.mem_cons_self hpfx)]
        refine (ih (n - 1) s).trans ?_
        rw [List.length_cons, Nat.cast_succ, sub_sub, add_comm (1 : ℤ)]
        rfl
      · rw [if_pos (by simp)]
        refine (ih (n - 1) _).trans ?_
        rw [List.length_cons, Nat.cast_succ, sub_sub, add_comm (1 : ℤ)]
        simp only [Option.map_some, List.map_cons, List.filter_cons]
        by_cases hdata : fields.data = 0
        · simp [hdata]
        · simp [hdata]

/-- **`Clear_Patricia` meets the data of every entry**, and at its end no node is counted. -/
theorem PatriciaTree.WellFormed.clear {σ : Type} (hsize : size ≤ 16) (hwf : patricia.WellFormed)
    (func : σ → δ → σ) (s : σ) :
    clearPatricia patricia func s
      = some (0, ((patricia.entries.map Prod.snd).filter (· ≠ 0)).foldl func s) := by
  -- the walk skips nodes without data, and glue nodes have none
  have hglue : ∀ fields ∈ preorder patricia.head, fields.pfx = none → fields.data = 0 := by
    intro fields hfields hpfx
    obtain ⟨path, -, hfits⟩ := hwf.routed.exists_fits hfields
    rw [hfits.glue (key_patriciaLabels_eq_none.mpr hpfx)]
    rfl
  rw [clearPatricia, walk_eq _ _ (hwf.height_le_stack hsize), foldlM_clearNode func _ hglue,
    length_preorder, hwf.counted, Int.sub_self]
  rfl

end Clear

/-! ### Runs -/

variable [DecidableEq δ]

/-- What calls make of the empty table. -/
def tableOf (calls : List (PatriciaCall size δ)) : PrefixTable size δ :=
  calls.foldl PatriciaCall.update fun _ => none

omit [DecidableEq δ] in
theorem tableOf_concat (calls : List (PatriciaCall size δ)) (call : PatriciaCall size δ) :
    tableOf (calls ++ [call]) = call.update (tableOf calls) := by
  rw [tableOf, List.foldl_append]
  rfl

omit [DecidableEq δ] in
theorem PatriciaCall.update_of_ne (table : PrefixTable size δ) (call : PatriciaCall size δ)
    {key : List Bool} (hkey : key ≠ call.pfx.key) : call.update table key = table key := by
  cases call with
  | makeAndLookup pfx => exact Function.update_of_ne hkey _ _
  | makeAndLookupWithData pfx userData => exact Function.update_of_ne hkey _ _

omit [DecidableEq δ] in
/-- The address that came first stays. -/
theorem PatriciaCall.fst_of_update (call : PatriciaCall size δ) {table : PrefixTable size δ}
    {entry : Prefix size × δ} (h : call.update table call.pfx.key = some entry) :
    entry.1 = ((table call.pfx.key).getD (call.pfx, 0)).1 := by
  cases call with
  | makeAndLookup pfx =>
      simp only [update, PatriciaCall.pfx, Function.update_self, Option.some.injEq] at h
      rw [← h]
      rfl
  | makeAndLookupWithData pfx userData =>
      simp only [update, PatriciaCall.pfx, Function.update_self, Option.some.injEq] at h
      rw [← h]
      rfl

omit [DecidableEq δ] in
/-- The table has the keys of the calls. -/
theorem isSome_tableOf_iff (calls : List (PatriciaCall size δ)) (key : List Bool) :
    (tableOf calls key).isSome ↔ ∃ call ∈ calls, call.pfx.key = key := by
  induction calls using List.reverseRecOn with
  | nil => simp [tableOf]
  | append_singleton calls call ih =>
      have hupdate : (tableOf (calls ++ [call]) key).isSome
          ↔ call.pfx.key = key ∨ (tableOf calls key).isSome := by
        rw [tableOf_concat]
        by_cases hkey : key = call.pfx.key
        · subst hkey
          cases call <;> simp [PatriciaCall.update, PatriciaCall.pfx]
        · rw [PatriciaCall.update_of_ne _ call hkey]
          simp [Ne.symm hkey]
      rw [hupdate, ih]
      simp [or_comm, or_and_right, exists_or]

omit [DecidableEq δ] in
/-- What the table holds, a call has brought. -/
theorem exists_of_tableOf {calls : List (PatriciaCall size δ)} {key : List Bool}
    {entry : Prefix size × δ} (h : tableOf calls key = some entry) :
    ∃ call ∈ calls, call.pfx = entry.1 ∧ entry.1.key = key := by
  induction calls using List.reverseRecOn generalizing entry with
  | nil => cases h
  | append_singleton calls call ih =>
      rw [tableOf_concat] at h
      by_cases hkey : key = call.pfx.key
      · subst hkey
        have hfirst := PatriciaCall.fst_of_update call h
        rcases htable : tableOf calls call.pfx.key with - | old
        · rw [htable] at hfirst
          exact ⟨call, by simp, hfirst.symm, congrArg Prefix.key hfirst⟩
        · obtain ⟨call', hcall', hpfx, hkey'⟩ := ih htable
          rw [htable] at hfirst
          exact ⟨call', List.mem_append_left _ hcall', hpfx.trans hfirst.symm,
            (congrArg Prefix.key hfirst).trans hkey'⟩
      · rw [PatriciaCall.update_of_ne _ call hkey] at h
        obtain ⟨call', hcall', hpfx⟩ := ih h
        exact ⟨call', List.mem_append_left _ hcall', hpfx⟩

/-- All prefixes fit into the address. -/
def Fitting (calls : List (PatriciaCall size δ)) : Prop :=
  ∀ call ∈ calls, call.pfx.bitlen ≤ maxbits size

omit [DecidableEq δ] in
theorem PatriciaTree.entry_eq_none {key : List Bool} :
    patricia.entry key = none ↔ patricia.table key = none := by
  constructor
  · intro hentry
    rw [PatriciaTree.table, hentry]
    rfl
  · intro htable
    rcases hentry : patricia.entry key with - | fields
    · rfl
    · obtain ⟨found, hpfx, -⟩ := patricia.pfx_of_entry hentry
      rw [PatriciaTree.table_of_entry hentry hpfx] at htable
      cases htable

/-- A network inside another one, and the outer one again with other data. -/
def nestedCalls : List (PatriciaCall 4 UInt64) :=
  [.makeAndLookup ⟨8, #v[10, 0, 0, 0]⟩, .makeAndLookupWithData ⟨16, #v[10, 1, 0, 0]⟩ 7,
    .makeAndLookupWithData ⟨8, #v[10, 9, 9, 9]⟩ 5]

theorem fitting_nestedCalls : Fitting nestedCalls := by
  rw [Fitting]
  decide

/-- **The exact search after any insertions** finds what the last call for the same bits has
stored, with the address that came first, and nothing for other bits.  No assertion fails. -/
theorem patriciaSearchExact_run (calls : List (PatriciaCall size δ)) (hcalls : Fitting calls) :
    ∃ patricia, runEvents patriciaStep {} calls = some patricia ∧
      ∀ pfx : Prefix size, pfx.bitlen ≤ maxbits size →
        ∃ result, patriciaSearchExact patricia pfx = some result ∧
          result.map (fun fields => (fields.pfx, fields.data))
            = (tableOf calls pfx.key).map fun entry => (some entry.1, entry.2) := by
  obtain ⟨patricia, hrun, hwf, htable⟩ := patriciaRun_spec calls hcalls
  refine ⟨patricia, hrun, fun pfx hbitlen => ⟨_, hwf.searchExact hbitlen, ?_⟩⟩
  rw [tableOf, ← htable]
  rcases hentry : patricia.entry pfx.key with - | fields
  · rw [PatriciaTree.entry_eq_none.mp hentry]
    rfl
  · obtain ⟨found, hpfx, -⟩ := patricia.pfx_of_entry hentry
    rw [PatriciaTree.table_of_entry hentry hpfx, Option.map_some, hpfx]
    rfl

theorem patriciaSearchExact_run_nested :
    ∃ patricia, runEvents patriciaStep {} nestedCalls = some patricia ∧
      ∀ pfx : Prefix 4, pfx.bitlen ≤ maxbits 4 →
        ∃ result, patriciaSearchExact patricia pfx = some result ∧
          result.map (fun fields => (fields.pfx, fields.data))
            = (tableOf nestedCalls pfx.key).map fun entry => (some entry.1, entry.2) :=
  patriciaSearchExact_run nestedCalls fitting_nestedCalls

/-- What the search for the longest prefix finds, in terms of the table. -/
def LongestEntry (table : PrefixTable size δ) (pfx : Prefix size) (inclusive : Bool) :
    Option (PatriciaFields size δ) → Prop
  | some fields => ∃ key entry,
      IsLongestPrefix { key | (table key).isSome ∧
        (inclusive = true ∨ key.length < pfx.bitlen) } pfx.key key ∧
      table key = some entry ∧ fields.pfx = some entry.1 ∧ fields.data = entry.2
  | none => ∀ key, (table key).isSome →
      (inclusive = true ∨ key.length < pfx.bitlen) → ¬ key <+: pfx.key

omit [DecidableEq δ] in
theorem PatriciaTree.WellFormed.searchBest2_table (hsize : size ≤ 16) (hwf : patricia.WellFormed)
    (hbitlen : pfx.bitlen ≤ maxbits size) (inclusive : Bool) :
    ∃ result, patriciaSearchBest2 patricia pfx inclusive = some result ∧
      LongestEntry patricia.table pfx inclusive result := by
  obtain ⟨result, hsearch, hfound, hnone⟩ := hwf.searchBest2 hsize hbitlen inclusive
  have hisSome : ∀ key, (patricia.entry key).isSome ↔ (patricia.table key).isSome := by
    intro key
    rw [Option.isSome_iff_ne_none, Option.isSome_iff_ne_none, ne_eq, ne_eq,
      PatriciaTree.entry_eq_none]
  have hcandidates : patricia.candidates pfx.bitlen inclusive = { key |
      (patricia.table key).isSome ∧ (inclusive = true ∨ key.length < pfx.bitlen) } :=
    Set.ext fun key => and_congr_left' (hisSome key)
  rw [hcandidates] at hfound hnone
  refine ⟨result, hsearch, ?_⟩
  cases result with
  | none => exact fun key hkey hlength => hnone rfl key ⟨hkey, hlength⟩
  | some fields =>
      obtain ⟨key, hentry, hlongest⟩ := hfound fields rfl
      obtain ⟨found, hpfx, -⟩ := patricia.pfx_of_entry hentry
      exact ⟨key, (found, fields.data), hlongest, PatriciaTree.table_of_entry hentry hpfx, hpfx,
        rfl⟩

/-- **The search for the longest prefix after any insertions**: it ends at the longest of the
stored prefixes that the given one extends, with what the table holds for it.  If it is not
inclusive, the given prefix itself does not count. -/
theorem patriciaSearchBest2_run (hsize : size ≤ 16) (calls : List (PatriciaCall size δ))
    (hcalls : Fitting calls) :
    ∃ patricia, runEvents patriciaStep {} calls = some patricia ∧
      ∀ (pfx : Prefix size) (inclusive : Bool), pfx.bitlen ≤ maxbits size →
        ∃ result, patriciaSearchBest2 patricia pfx inclusive = some result ∧
          LongestEntry (tableOf calls) pfx inclusive result := by
  obtain ⟨patricia, hrun, hwf, htable⟩ := patriciaRun_spec calls hcalls
  refine ⟨patricia, hrun, fun pfx inclusive hbitlen => ?_⟩
  rw [tableOf, ← htable]
  exact hwf.searchBest2_table hsize hbitlen inclusive

theorem patriciaSearchBest2_run_nested :
    ∃ patricia, runEvents patriciaStep {} nestedCalls = some patricia ∧
      ∀ (pfx : Prefix 4) (inclusive : Bool), pfx.bitlen ≤ maxbits 4 →
        ∃ result, patriciaSearchBest2 patricia pfx inclusive = some result ∧
          LongestEntry (tableOf nestedCalls) pfx inclusive result :=
  patriciaSearchBest2_run (by decide) nestedCalls fitting_nestedCalls

omit [DecidableEq δ] in
/-- A well-formed tree is determined by its table. -/
theorem PatriciaTree.WellFormed.ext {patricia' : PatriciaTree size δ} (hwf : patricia.WellFormed)
    (hwf' : patricia'.WellFormed) (htable : patricia.table = patricia'.table) :
    patricia = patricia' := by
  have hentry : ∀ key, patricia.entry key = patricia'.entry key := by
    intro key
    rcases hentry : patricia.entry key with - | fields
    · rw [PatriciaTree.entry_eq_none, htable] at hentry
      exact (PatriciaTree.entry_eq_none.mpr hentry).symm
    · obtain ⟨found, hpfx, -⟩ := patricia.pfx_of_entry hentry
      have hsome := PatriciaTree.table_of_entry hentry hpfx
      rw [htable] at hsome
      obtain ⟨fields', hentry', hmap⟩ := Option.bind_eq_some_iff.mp hsome
      obtain ⟨found', hpfx', heq⟩ := Option.map_eq_some_iff.mp hmap
      obtain ⟨rfl, hdata⟩ := Prod.mk.inj heq
      have hbit : fields.bit = fields'.bit := by
        rw [← hwf.length_of_entry hentry, ← hwf'.length_of_entry hentry']
      obtain ⟨bit, pfx, data⟩ := fields
      obtain ⟨bit', pfx', data'⟩ := fields'
      obtain rfl : bit = bit' := hbit
      obtain rfl : data' = data := hdata
      obtain rfl : pfx = pfx' := hpfx.trans hpfx'.symm
      exact hentry'.symm
  obtain ⟨head, numActiveNode⟩ := patricia
  obtain ⟨head', numActiveNode'⟩ := patricia'
  obtain rfl : head = head' := hwf.routed.ext hwf'.routed hentry
  have hcount : numActiveNode = numActiveNode' := hwf.counted.trans hwf'.counted.symm
  rw [hcount]

/-- **The order of insertions leaves no trace**: two runs end in the same tree exactly if they
fill the same table. -/
theorem patriciaRun_eq_iff (calls calls' : List (PatriciaCall size δ)) (hcalls : Fitting calls)
    (hcalls' : Fitting calls') :
    runEvents patriciaStep {} calls = runEvents patriciaStep {} calls'
      ↔ tableOf calls = tableOf calls' := by
  obtain ⟨patricia, hrun, hwf, htable⟩ := patriciaRun_spec calls hcalls
  obtain ⟨patricia', hrun', hwf', htable'⟩ := patriciaRun_spec calls' hcalls'
  rw [hrun, hrun', Option.some.injEq, tableOf, tableOf, ← htable, ← htable']
  constructor
  · rintro rfl
    rfl
  · exact hwf.ext hwf'

theorem patriciaRun_eq_iff_nested :
    runEvents patriciaStep {} nestedCalls = runEvents patriciaStep {} nestedCalls.reverse
      ↔ tableOf nestedCalls = tableOf nestedCalls.reverse :=
  patriciaRun_eq_iff nestedCalls nestedCalls.reverse fitting_nestedCalls
    fun call hcall => fitting_nestedCalls call (List.mem_reverse.mp hcall)

/-- **Traversals after any insertions.** -/
theorem patriciaProcess_run (hsize : size ≤ 16) (calls : List (PatriciaCall size δ))
    (hcalls : Fitting calls) :
    ∃ (patricia : PatriciaTree size δ) (entries : List (Prefix size × δ)),
      runEvents patriciaStep {} calls = some patricia ∧
      (entries.map fun entry => entry.1.key).Pairwise (· < ·) ∧
      (∀ entry, entry ∈ entries ↔ tableOf calls entry.1.key = some entry) ∧
      ∀ (σ : Type) (func : σ → Prefix size → δ → σ) (s : σ),
        patriciaProcess patricia func s
          = some (entries.foldl (fun s entry => func s entry.1 entry.2) s) := by
  obtain ⟨patricia, hrun, hwf, htable⟩ := patriciaRun_spec calls hcalls
  refine ⟨patricia, patricia.entries, hrun, ?_, fun entry => ?_,
    fun σ func s => hwf.process hsize func s⟩
  · rw [PatriciaTree.map_key_entries]
    exact hwf.routed.keys_sorted
  · rw [tableOf, ← htable]
    exact hwf.mem_entries_iff

theorem patriciaProcess_run_nested :
    ∃ (patricia : PatriciaTree 4 UInt64) (entries : List (Prefix 4 × UInt64)),
      runEvents patriciaStep {} nestedCalls = some patricia ∧
      (entries.map fun entry => entry.1.key).Pairwise (· < ·) ∧
      (∀ entry, entry ∈ entries ↔ tableOf nestedCalls entry.1.key = some entry) ∧
      ∀ (σ : Type) (func : σ → Prefix 4 → UInt64 → σ) (s : σ),
        patriciaProcess patricia func s
          = some (entries.foldl (fun s entry => func s entry.1 entry.2) s) :=
  patriciaProcess_run (by decide) nestedCalls fitting_nestedCalls

/-- **`Clear_Patricia` after any insertions.** -/
theorem clearPatricia_run (hsize : size ≤ 16) (calls : List (PatriciaCall size δ))
    (hcalls : Fitting calls) :
    ∃ (patricia : PatriciaTree size δ) (entries : List (Prefix size × δ)),
      runEvents patriciaStep {} calls = some patricia ∧
      (entries.map fun entry => entry.1.key).Nodup ∧
      (∀ entry, entry ∈ entries ↔ tableOf calls entry.1.key = some entry) ∧
      (calls ≠ [] → patricia.numActiveNode < 2 * entries.length) ∧
      ∀ (σ : Type) (func : σ → δ → σ) (s : σ),
        clearPatricia patricia func s
          = some (0, ((entries.map Prod.snd).filter (· ≠ 0)).foldl func s) := by
  obtain ⟨patricia, hrun, hwf, htable⟩ := patriciaRun_spec calls hcalls
  refine ⟨patricia, patricia.entries, hrun, ?_, fun entry => ?_, fun hne => ?_,
    fun σ func s => hwf.clear hsize func s⟩
  · rw [PatriciaTree.map_key_entries]
    exact hwf.routed.keys_sorted.imp fun hlt => ne_of_lt hlt
  · rw [tableOf, ← htable]
    exact hwf.mem_entries_iff
  · obtain ⟨call, hcall⟩ := List.exists_mem_of_ne_nil calls hne
    have hkey := (isSome_tableOf_iff calls call.pfx.key).mpr ⟨call, hcall, rfl⟩
    have hhead : patricia.head ≠ .nil := by
      intro hnil
      rw [tableOf, ← htable, PatriciaTree.entry_eq_none.mp] at hkey
      · cases hkey
      · rw [PatriciaTree.entry, hnil]
        rfl
    have hnodes := hwf.routed.numNodes_lt hhead
    rw [← PatriciaTree.map_key_entries, List.length_map] at hnodes
    rw [hwf.counted]
    exact_mod_cast hnodes

theorem clearPatricia_run_nested :
    ∃ (patricia : PatriciaTree 4 UInt64) (entries : List (Prefix 4 × UInt64)),
      runEvents patriciaStep {} nestedCalls = some patricia ∧
      (entries.map fun entry => entry.1.key).Nodup ∧
      (∀ entry, entry ∈ entries ↔ tableOf nestedCalls entry.1.key = some entry) ∧
      (nestedCalls ≠ [] → patricia.numActiveNode < 2 * entries.length) ∧
      ∀ (σ : Type) (func : σ → UInt64 → σ) (s : σ),
        clearPatricia patricia func s
          = some (0, ((entries.map Prod.snd).filter (· ≠ 0)).foldl func s) :=
  clearPatricia_run (by decide) nestedCalls fitting_nestedCalls

end FastNetMon
