/-
FastNetMon/PatriciaInvariant.lean

What insertions into a Patricia tree keep.

The key of a prefix is the list of its first bits; the bits of the address behind it do
not matter.  A tree is well-formed if its nodes are routed by these keys.
-/
import FastNetMon.Patricia

namespace FastNetMon

/-! ### Bits and bytes -/

/-- The first bits of an address. -/
def bitsOf (bytes : ByteString) (n : ℕ) : List Bool :=
  (List.range n).map (addressBit bytes)

@[simp] theorem length_bitsOf (bytes : ByteString) (n : ℕ) : (bitsOf bytes n).length = n := by
  rw [bitsOf, List.length_map, List.length_range]

/-- The bits of a prefix are those of its address. -/
theorem getElem?_bitsOf {bytes : ByteString} {n i : ℕ} (h : i < n) :
    (bitsOf bytes n)[i]? = some (addressBit bytes i) := by
  rw [bitsOf, List.getElem?_map, List.getElem?_range h]
  rfl

/-- A shorter prefix of an address is the start of a longer one. -/
theorem take_bitsOf {bytes : ByteString} {m n : ℕ} (h : m ≤ n) :
    (bitsOf bytes n).take m = bitsOf bytes m := by
  rw [bitsOf, ← List.map_take, List.take_range, Nat.min_eq_left h]
  rfl

theorem bitsOf_isPrefix {bytes : ByteString} {m n : ℕ} (h : m ≤ n) :
    bitsOf bytes m <+: bitsOf bytes n := by
  rw [← take_bitsOf h]
  exact List.take_prefix _ _

/-- One bit more. -/
theorem bitsOf_succ (bytes : ByteString) (n : ℕ) :
    bitsOf bytes (n + 1) = bitsOf bytes n ++ [addressBit bytes n] := by
  rw [bitsOf, List.range_succ, List.map_append]
  rfl

/-- Prefixes are the same if the addresses agree on their bits. -/
theorem bitsOf_eq_iff {bytes bytes' : ByteString} {n : ℕ} :
    bitsOf bytes n = bitsOf bytes' n ↔ AgreeOn n bytes bytes' := by
  rw [bitsOf, bitsOf, List.map_inj_left]
  exact forall_congr' fun i => by rw [List.mem_range]

theorem toNat_shiftRight : ∀ j < 8, ((0x80 : UInt8) >>> UInt8.ofNat j).toNat = 2 ^ (7 - j) := by
  decide

/-- A bit of a byte under a mask with one bit. -/
theorem and_shiftRight_ne_zero (b : UInt8) {j : ℕ} (hj : j < 8) :
    ((b &&& (0x80 >>> UInt8.ofNat j)) != 0) = b.toNat.testBit (7 - j) := by
  have hand : (b &&& (0x80 >>> UInt8.ofNat j)).toNat
      = (b.toNat.testBit (7 - j)).toNat * 2 ^ (7 - j) := by
    rw [UInt8.toNat_and, toNat_shiftRight j hj, Nat.and_two_pow]
  rw [Bool.eq_iff_iff, bne_iff_ne, ne_eq, ← UInt8.toNat_inj, hand, UInt8.toNat_zero,
    Nat.mul_eq_zero]
  cases b.toNat.testBit (7 - j) with
  | false => simp
  | true => simp

/-- The macro tests the bit of the address. -/
theorem bitTest_eq (addr : ByteString) (bit : ℕ) : bitTest addr bit = addressBit addr bit := by
  have hplace : bit &&& 0x07 = bit % 8 := Nat.and_two_pow_sub_one_eq_mod bit 3
  have hbyte : bit >>> 3 = bit / 8 := Nat.shiftRight_eq_div_pow bit 3
  rw [bitTest, addressBit, hplace, hbyte, and_shiftRight_ne_zero _ (Nat.mod_lt _ (by decide))]

/-- The loop over the bits finds the first one. -/
theorem firstBit_spec {r : UInt8} (hr : r ≠ 0) :
    ∃ j < 8, firstBit r = some j ∧ r.toNat.testBit (7 - j) = true ∧
      ∀ j' < j, r.toNat.testBit (7 - j') = false := by
  rcases hfind : firstBit r with - | j
  · have hnone := List.find?_range_eq_none.mp hfind
    refine absurd (byte_eq_of_testBit fun i hi => ?_) hr
    have hbit := hnone (7 - i) (by omega)
    rw [and_shiftRight_ne_zero r (by omega), show 7 - (7 - i) = i by omega] at hbit
    have hfalse : r.toNat.testBit i = false := by simpa using hbit
    rw [hfalse]
    exact (Nat.zero_testBit i).symm
  · obtain ⟨hbit, hj, hbefore⟩ := List.find?_range_eq_some.mp hfind
    have hj : j < 8 := List.mem_range.mp hj
    rw [and_shiftRight_ne_zero r hj] at hbit
    refine ⟨j, hj, rfl, hbit, fun j' hj' => ?_⟩
    have hfalse := hbefore j' hj'
    rw [and_shiftRight_ne_zero r (hj'.trans hj)] at hfalse
    simpa using hfalse

/-- The first eight bits are in the first byte. -/
theorem addressBit_cons_lt (b : UInt8) (bytes : ByteString) {i : ℕ} (hi : i < 8) :
    addressBit (b :: bytes) i = b.toNat.testBit (7 - i) := by
  rw [addressBit, Nat.div_eq_of_lt hi, Nat.mod_eq_of_lt hi, List.getD_cons_zero]

/-- The other bits are in the bytes behind it. -/
theorem addressBit_cons_add (b : UInt8) (bytes : ByteString) (i : ℕ) :
    addressBit (b :: bytes) (8 + i) = addressBit bytes i := by
  rw [addressBit, addressBit, show (8 + i) / 8 = i / 8 + 1 by omega,
    show (8 + i) % 8 = i % 8 by omega, List.getD_cons_succ]

/-- Up to `d` two addresses agree, and at `d` they do not. -/
structure DifferAt (bytes bytes' : ByteString) (d : ℕ) : Prop where
  agree : AgreeOn d bytes bytes'
  differ : addressBit bytes d ≠ addressBit bytes' d

/-- Where the loop over the bytes ends, counted from byte `i`: at the first bit that differs,
or behind the last byte that matters. -/
theorem differBitLoop_spec (checkBit : ℕ) (addr : ByteString) :
    ∀ (testAddr : ByteString) (i : ℕ), addr.length = testAddr.length →
      checkBit ≤ 8 * (i + addr.length) →
      ∃ d, differBitLoop checkBit addr testAddr i (i * 8) = some (i * 8 + d) ∧
        (DifferAt addr testAddr d ∨ checkBit ≤ i * 8 + d ∧ AgreeOn d addr testAddr) := by
  induction addr with
  | nil =>
      intro testAddr i hlength hcheck
      refine ⟨0, rfl, .inr ⟨?_, fun j hj => absurd hj (Nat.not_lt_zero j)⟩⟩
      simp only [List.length_nil] at hcheck
      omega
  | cons a addr ih =>
      intro testAddr i hlength hcheck
      cases testAddr with
      | nil => cases hlength
      | cons b testAddr =>
          rw [differBitLoop]
          by_cases hi : i * 8 < checkBit
          · rw [if_pos hi]
            by_cases hr : a ^^^ b = 0
            · -- the bytes are equal
              obtain rfl : a = b := by simpa using hr
              have hlength' : addr.length = testAddr.length := Nat.succ.inj hlength
              obtain ⟨d, hd, hcases⟩ := ih testAddr (i + 1) hlength' (by
                simp only [List.length_cons] at hcheck
                omega)
              have hagree : AgreeOn d addr testAddr →
                  AgreeOn (8 + d) (a :: addr) (a :: testAddr) := by
                intro hagree j hj
                rcases Nat.lt_or_ge j 8 with hj8 | hj8
                · rw [addressBit_cons_lt _ _ hj8, addressBit_cons_lt _ _ hj8]
                · obtain ⟨j, rfl⟩ := Nat.exists_eq_add_of_le hj8
                  rw [addressBit_cons_add, addressBit_cons_add]
                  exact hagree j (by omega)
              refine ⟨8 + d, ?_, ?_⟩
              · simp only [UInt8.xor_self, if_true, hd]
                congr 1
                omega
              · rcases hcases with hdiffer | ⟨hend, hequal⟩
                · refine .inl ⟨hagree hdiffer.agree, ?_⟩
                  rw [addressBit_cons_add, addressBit_cons_add]
                  exact hdiffer.differ
                · exact .inr ⟨by omega, hagree hequal⟩
            · -- the first bit that differs is in this byte
              obtain ⟨j, hj, hfirst, hbit, hbefore⟩ := firstBit_spec hr
              refine ⟨j, ?_, .inl ⟨fun j' hj' => ?_, ?_⟩⟩
              · simp only [if_neg hr, hfirst]
                rfl
              · have hfalse := hbefore j' hj'
                rw [UInt8.toNat_xor, Nat.testBit_xor, bne_eq_false_iff_eq] at hfalse
                rw [addressBit_cons_lt _ _ (hj'.trans hj), addressBit_cons_lt _ _ (hj'.trans hj),
                  hfalse]
              · rw [UInt8.toNat_xor, Nat.testBit_xor, bne_iff_ne] at hbit
                rw [addressBit_cons_lt _ _ hj, addressBit_cons_lt _ _ hj]
                exact hbit
          · -- the bits that matter are over
            rw [if_neg hi]
            exact ⟨0, rfl, .inr ⟨by omega, fun j hj => absurd hj (Nat.not_lt_zero j)⟩⟩

/-- The position that `patricia_lookup` computes: the addresses agree in front of it, and
differ there if it is not the last one to be compared. -/
theorem differBit_spec {size : ℕ} (checkBit : ℕ) (addr testAddr : Vector UInt8 size)
    (hcheck : checkBit ≤ maxbits size) :
    ∃ d, differBitLoop checkBit addr.toList testAddr.toList 0 0 = some d ∧
      ∃ differBit, (if d > checkBit then checkBit else d) = differBit ∧ differBit ≤ checkBit ∧
        AgreeOn differBit addr.toList testAddr.toList ∧
        (differBit < checkBit → DifferAt addr.toList testAddr.toList differBit) := by
  obtain ⟨d, hd, hcases⟩ := differBitLoop_spec checkBit addr.toList testAddr.toList 0
    (by simp) (by simpa [maxbits] using hcheck)
  simp only [Nat.zero_mul, Nat.zero_add] at hd hcases
  refine ⟨d, hd, _, rfl, ?_⟩
  split
  · rename_i hlt
    refine ⟨le_rfl, fun i hi => ?_, fun hlt' => absurd hlt' (Nat.lt_irrefl _)⟩
    rcases hcases with hdiffer | ⟨-, hequal⟩
    · exact hdiffer.agree i (hi.trans hlt)
    · exact hequal i (hi.trans hlt)
  · rename_i hle
    rcases hcases with hdiffer | ⟨hend, hequal⟩
    · exact ⟨Nat.not_lt.mp hle, hdiffer.agree, fun _ => hdiffer⟩
    · exact ⟨Nat.not_lt.mp hle, hequal, fun hlt => absurd hend (Nat.not_le.mpr hlt)⟩

/-- The mask of the first `n` bits of a byte. -/
theorem testBit_byteMask : ∀ n < 8, 0 < n → ∀ j < 8,
    ((0xff : UInt8) <<< UInt8.ofNat (8 - n)).toNat.testBit (7 - j) = decide (j < n) := by
  decide

/-- Bytes are the same under a mask if they agree on its bits. -/
theorem and_byteMask_eq_iff (a b : UInt8) {n : ℕ} (hn : n < 8) (hpos : 0 < n) :
    a &&& ((0xff : UInt8) <<< UInt8.ofNat (8 - n)) = b &&& ((0xff : UInt8) <<< UInt8.ofNat (8 - n))
      ↔ ∀ j < n, a.toNat.testBit (7 - j) = b.toNat.testBit (7 - j) := by
  constructor
  · intro heq j hj
    have hbit := congrArg (fun c : UInt8 => c.toNat.testBit (7 - j)) heq
    simpa only [UInt8.toNat_and, Nat.testBit_and, testBit_byteMask n hn hpos j (by omega),
      decide_eq_true hj, Bool.and_true] using hbit
  · intro h
    refine byte_eq_of_testBit fun i hi => ?_
    obtain ⟨j, hj, rfl⟩ : ∃ j < 8, i = 7 - j := ⟨7 - i, by omega, by omega⟩
    rw [UInt8.toNat_and, UInt8.toNat_and, Nat.testBit_and, Nat.testBit_and,
      testBit_byteMask n hn hpos j hj]
    by_cases hjn : j < n
    · rw [h j hjn]
    · rw [decide_eq_false hjn, Bool.and_false, Bool.and_false]

/-- The first bits of an address are those of its first bytes and of the byte behind them. -/
theorem agreeOn_split (mask : ℕ) (addr dest : ByteString) :
    AgreeOn mask addr dest ↔ AgreeOn (8 * (mask / 8)) addr dest ∧ ∀ j < mask % 8,
      (addr.getD (mask / 8) 0).toNat.testBit (7 - j)
        = (dest.getD (mask / 8) 0).toNat.testBit (7 - j) := by
  have hbit : ∀ (bytes : ByteString), ∀ j < mask % 8, addressBit bytes (8 * (mask / 8) + j)
      = (bytes.getD (mask / 8) 0).toNat.testBit (7 - j) := by
    intro bytes j hj
    rw [addressBit, show (8 * (mask / 8) + j) / 8 = mask / 8 by omega,
      show (8 * (mask / 8) + j) % 8 = j by omega]
  constructor
  · intro h
    refine ⟨fun i hi => h i (by omega), fun j hj => ?_⟩
    rw [← hbit addr j hj, ← hbit dest j hj]
    exact h _ (by omega)
  · rintro ⟨hbytes, hlast⟩ i hi
    rcases Nat.lt_or_ge i (8 * (mask / 8)) with hlt | hge
    · exact hbytes i hlt
    · obtain ⟨j, rfl⟩ := Nat.exists_eq_add_of_le hge
      rw [hbit addr j (by omega), hbit dest j (by omega)]
      exact hlast j (by omega)

/-- `comp_with_mask` compares the first bits. -/
theorem compWithMask_iff {size mask : ℕ} (addr dest : Vector UInt8 size)
    (hmask : mask ≤ maxbits size) :
    compWithMask addr.toList dest.toList mask = true
      ↔ bitsOf addr.toList mask = bitsOf dest.toList mask := by
  have hlength : ∀ v : Vector UInt8 size, mask / 8 ≤ v.toList.length := fun v => by
    rw [Vector.length_toList]
    rw [maxbits] at hmask
    omega
  have hbytes := take_eq_take_iff (hlength addr) (hlength dest)
  rw [bitsOf_eq_iff, agreeOn_split, ← hbytes, compWithMask]
  by_cases htake : addr.toList.take (mask / 8) = dest.toList.take (mask / 8)
  · rw [if_pos htake]
    simp only [htake, true_and, Bool.or_eq_true, decide_eq_true_eq]
    rcases Nat.eq_zero_or_pos (mask % 8) with hzero | hpos
    · simp [hzero]
    · rw [and_byteMask_eq_iff _ _ (Nat.mod_lt _ (by decide)) hpos]
      simp [hpos.ne']
  · simp [htake]

/-! ### Keys -/

variable {size : ℕ} {δ : Type}

/-- The bits of a prefix. -/
def Prefix.key (pfx : Prefix size) : List Bool := bitsOf pfx.add.toList pfx.bitlen

@[simp] theorem Prefix.length_key (pfx : Prefix size) : pfx.key.length = pfx.bitlen :=
  length_bitsOf _ _

variable [Zero δ]

variable (size δ) in
/-- How the nodes of a Patricia tree are read. -/
def patriciaLabels : Labelling (PatriciaFields size δ) where
  depth := PatriciaFields.bit
  key fields := fields.pfx.map Prefix.key
  glue bit := ⟨bit, none, 0⟩

/-- What insertions keep: the nodes are routed by the keys, no bit lies outside the address,
and the nodes are counted. -/
structure PatriciaTree.WellFormed (patricia : PatriciaTree size δ) : Prop where
  routed : Routed (patriciaLabels size δ) [] patricia.head
  bit_le : ∀ fields ∈ preorder patricia.head, fields.bit ≤ maxbits size
  counted : patricia.numActiveNode = patricia.head.numNodes

/-- The prefix and the data that are stored for a key. -/
def PatriciaTree.entry (patricia : PatriciaTree size δ) (key : List Bool) :
    Option (PatriciaFields size δ) :=
  (patriciaLabels size δ).find patricia.head key

/-- Glue nodes have no key. -/
theorem key_patriciaLabels_eq_none {fields : PatriciaFields size δ} :
    (patriciaLabels size δ).key fields = none ↔ fields.pfx = none :=
  Option.map_eq_none_iff

/-- The key of any other node is that of its prefix. -/
theorem key_patriciaLabels_eq_some {fields : PatriciaFields size δ} {key : List Bool} :
    (patriciaLabels size δ).key fields = some key
      ↔ ∃ pfx, fields.pfx = some pfx ∧ pfx.key = key :=
  Option.map_eq_some_iff

/-- The walk turns by the bit of the address. -/
theorem goesRight_eq {addr : ByteString} {bit : ℕ} (h : bit < maxbits size) :
    goesRight size addr bit = addressBit addr bit := by
  rw [goesRight, decide_eq_true h, Bool.true_and, bitTest_eq]

/-! ### The way down and up -/

variable {stem : List Bool} {frames : List (Frame (PatriciaFields size δ))}

omit [Zero δ] in
/-- The way down goes on at the side that the bit of the address names. -/
theorem patriciaDescend_node (addr : ByteString) (bitlen : ℕ) (fields : PatriciaFields size δ)
    (l r : PatriciaNode size δ) (frames : List (Frame (PatriciaFields size δ))) :
    patriciaDescend addr bitlen (.node fields l r) frames =
      let side := goesRight size addr fields.bit
      let node := BinaryTree.node fields l r
      if (fields.bit < bitlen ∨ fields.pfx = none) ∧ isNil (childOn side node) = false then
        patriciaDescend addr bitlen (childOn side node)
          (⟨fields, side, childOn (!side) node⟩ :: frames)
      else (node, frames) := by
  simp only [patriciaDescend]
  by_cases hgo : fields.bit < bitlen ∨ fields.pfx = none
  · simp only [hgo, if_true, true_and]
    rcases goesRight size addr fields.bit with - | -
    · rcases hl : isNil l with - | -
      · simp [hl]
      · simp [hl]
    · rcases hr : isNil r with - | -
      · simp [hr]
      · simp [hr]
  · simp [hgo]

/-- A frame on the way down goes on at the side that the bit of the address names. -/
def OnTheWay (addr : ByteString) (f : Frame (PatriciaFields size δ)) : Prop :=
  f.side = goesRight size addr f.value.bit

/-- Where the way down from `node` ends, and the frames on it: at a node with a prefix, and
there either all bits of the prefix are used up, or the way does not go on. -/
structure EndsAt (addr : ByteString) (bitlen : ℕ) (node : PatriciaNode size δ)
    (frames popped : List (Frame (PatriciaFields size δ))) (fields : PatriciaFields size δ)
    (l r : PatriciaNode size δ) : Prop where
  plug_eq : plug popped (.node fields l r) = node
  routed : ∃ stem, RoutedAround (patriciaLabels size δ) (popped ++ frames) stem ∧
    Routed (patriciaLabels size δ) stem (.node fields l r)
  hasPrefix : fields.pfx ≠ none
  onTheWay : ∀ f ∈ popped, OnTheWay addr f
  stops : fields.bit < bitlen →
    childOn (goesRight size addr fields.bit) (.node fields l r) = .nil

/-- **The way down ends at a node with a prefix**, because a node without one has both
subtrees. -/
theorem patriciaDescend_spec (addr : ByteString) (bitlen : ℕ) {node : PatriciaNode size δ}
    (hframes : RoutedAround (patriciaLabels size δ) frames stem)
    (hnode : Routed (patriciaLabels size δ) stem node) (hne : node ≠ .nil) :
    ∃ popped fields l r,
      patriciaDescend addr bitlen node frames = (.node fields l r, popped ++ frames) ∧
      EndsAt addr bitlen node frames popped fields l r := by
  induction node generalizing frames stem with
  | nil => exact absurd rfl hne
  | node fields l r ihl ihr =>
      have hbranch : ∀ side, branch fields side (childOn side (.node fields l r))
          (childOn (!side) (.node fields l r)) = .node fields l r := by
        intro side
        cases side <;> rfl
      rw [patriciaDescend_node]
      generalize hside : goesRight size addr fields.bit = side
      have hrouted := hnode
      rw [← hbranch side] at hrouted
      obtain ⟨path, hstem, hfits, hglue, hdown, hother⟩ := (routed_branch_iff side).mp hrouted
      dsimp only
      split
      -- one node down: its frame is the deepest of those that were there before
      · rename_i hgo
        have hchild : childOn side (.node fields l r) ≠ .nil := by
          intro hnil
          rw [hnil] at hgo
          exact absurd hgo.2 (by simp)
        have hframes' := RoutedAround.cons (f := ⟨fields, side, childOn (!side) (.node fields l r)⟩)
          path hstem hfits (fun hnone => (hglue hnone).2) hother hframes
        obtain ⟨popped, fields', l', r', hdescend, hends⟩ : ∃ popped fields' l' r',
            patriciaDescend addr bitlen (childOn side (.node fields l r))
                (⟨fields, side, childOn (!side) (.node fields l r)⟩ :: frames)
              = (.node fields' l' r',
                  popped ++ ⟨fields, side, childOn (!side) (.node fields l r)⟩ :: frames) ∧
            EndsAt addr bitlen (childOn side (.node fields l r))
              (⟨fields, side, childOn (!side) (.node fields l r)⟩ :: frames) popped fields' l'
              r' := by
          cases side with
          | false => exact ihl hframes' hdown hchild
          | true => exact ihr hframes' hdown hchild
        refine ⟨popped ++ [⟨fields, side, childOn (!side) (.node fields l r)⟩], fields', l', r',
          by rw [hdescend, List.append_assoc]; rfl, ?_, ?_, hends.hasPrefix, ?_, hends.stops⟩
        · rw [plug_append, hends.plug_eq]
          exact hbranch side
        · rw [List.append_assoc]
          exact hends.routed
        · intro f hf
          rcases List.mem_append.mp hf with hf | hf
          · exact hends.onTheWay f hf
          · rw [List.mem_singleton.mp hf]
            exact hside.symm
      · rename_i hstop
        refine ⟨[], fields, l, r, rfl, rfl, ⟨stem, hframes, hnode⟩, fun hnone => ?_,
          fun f hf => (List.not_mem_nil hf).elim, fun hlt => ?_⟩
        -- a node without a prefix has a child to go on to
        · have hnil := isNil_iff.not.mpr (hglue (key_patriciaLabels_eq_none.mpr hnone)).1
          exact hstop ⟨.inr hnone, by simpa using hnil⟩
        · by_contra hnil
          rw [hside] at hnil
          exact hstop ⟨.inl hlt, by simpa using isNil_iff.not.mpr hnil⟩

omit [Zero δ] in
/-- The way up goes through the frames at or below `differBit`. -/
theorem patriciaClimb_spec (differBit : ℕ) (node : PatriciaNode size δ)
    (frames : List (Frame (PatriciaFields size δ))) :
    ∃ up rest, frames = up ++ rest ∧
      patriciaClimb differBit node frames = (plug up node, rest) ∧
      (∀ f ∈ up, differBit ≤ f.value.bit) ∧ ∀ f ∈ rest.head?, f.value.bit < differBit := by
  induction frames generalizing node with
  | nil => exact ⟨[], [], rfl, rfl, by simp, by simp⟩
  | cons f frames ih =>
      rw [patriciaClimb]
      split
      · rename_i hle
        obtain ⟨up, rest, rfl, hclimb, hup, hrest⟩ := ih (f.plug node)
        refine ⟨f :: up, rest, rfl, hclimb, fun g hg => ?_, hrest⟩
        rcases List.mem_cons.mp hg with rfl | hg
        · exact hle
        · exact hup g hg
      · rename_i hlt
        refine ⟨[], f :: frames, rfl, rfl, by simp, fun g hg => ?_⟩
        obtain rfl : f = g := by simpa using hg
        exact Nat.not_le.mp hlt

end FastNetMon
