/-
FastNetMon/Patricia.lean

The Patricia tree (`libpatricia/patricia.cpp`).

A null pointer is the empty tree.  The parent pointers are the way by which a node was
reached: functions that follow them, or return a pointer into the tree, work at a cursor.
A prefix belongs to the tree of its address family, which is the number of bytes of an
address; reference counts are not modelled.  `none` is an abort: a failed assertion, or a
write behind the end of a stack.
-/
import FastNetMon.RadixTree
import FastNetMon.PrefixEncoding

namespace FastNetMon

/-- `prefix_t`. -/
structure Prefix (size : ℕ) where
  bitlen : ℕ
  add : Vector UInt8 size
deriving DecidableEq

/-- `patricia_node_t` without its pointers. -/
structure PatriciaFields (size : ℕ) (δ : Type) where
  bit : ℕ
  pfx : Option (Prefix size)
  data : δ
deriving DecidableEq

/-- A node with all that is below it; `.nil` is the null pointer. -/
abbrev PatriciaNode (size : ℕ) (δ : Type) := BinaryTree (PatriciaFields size δ)

/-- `patricia_tree_t`; `maxbits` is that of the address family. -/
structure PatriciaTree (size : ℕ) (δ : Type) where
  head : PatriciaNode size δ := .nil
  numActiveNode : ℤ := 0

/-- `maxbits`, the bits of an address. -/
def maxbits (size : ℕ) : ℕ := 8 * size

/-- `PATRICIA_MAXBITS`. -/
def PATRICIA_MAXBITS : ℕ := 128

/-- A tree and the pointer to a node of it: the node itself, and the way to it. -/
structure PatriciaCursor (size : ℕ) (δ : Type) where
  node : PatriciaNode size δ
  frames : List (Frame (PatriciaFields size δ))
  numActiveNode : ℤ

/-- The tree of a cursor. -/
def PatriciaCursor.tree {size : ℕ} {δ : Type} (cursor : PatriciaCursor size δ) :
    PatriciaTree size δ :=
  ⟨plug cursor.frames cursor.node, cursor.numActiveNode⟩

/-! ### Bits -/

/-- `BIT_TEST(addr[bit >> 3], 0x80 >> (bit & 0x07))`. -/
def bitTest (addr : ByteString) (bit : ℕ) : Bool :=
  (addr.getD (bit >>> 3) 0 &&& (0x80 >>> UInt8.ofNat (bit &&& 0x07))) != 0

/-- `comp_with_mask`. -/
def compWithMask (addr dest : ByteString) (mask : ℕ) : Bool :=
  if addr.take (mask / 8) = dest.take (mask / 8) then
    let n := mask / 8
    let m : UInt8 := 0xff <<< UInt8.ofNat (8 - mask % 8)
    mask % 8 = 0 || addr.getD n 0 &&& m = dest.getD n 0 &&& m
  else false

/-- The loop over the bits of a byte in `patricia_lookup`. -/
def firstBit (r : UInt8) : Option ℕ :=
  (List.range 8).find? fun j => (r &&& (0x80 >>> UInt8.ofNat j)) != 0

/-- The loop over the bytes in `patricia_lookup`, from byte `i` on. -/
def differBitLoop (checkBit : ℕ) : (addr testAddr : ByteString) → (i differBit : ℕ) → Option ℕ
  | a :: addr, b :: testAddr, i, differBit =>
    if i * 8 < checkBit then
      let r := a ^^^ b
      if r = 0 then differBitLoop checkBit addr testAddr (i + 1) ((i + 1) * 8)
      else do
        -- `assert(j < 8)`
        let j ← firstBit r
        some (i * 8 + j)
    else some differBit
  | _, _, _, differBit => some differBit

/-! ### Insertion -/

variable {size : ℕ} {δ : Type}

variable (size) in
/-- `bit < patricia->maxbits && BIT_TEST(…)`. -/
def goesRight (addr : ByteString) (bit : ℕ) : Bool :=
  decide (bit < maxbits size) && bitTest addr bit

/-- The way down of `patricia_lookup`. -/
def patriciaDescend (addr : ByteString) (bitlen : ℕ) :
    PatriciaNode size δ → List (Frame (PatriciaFields size δ)) →
      PatriciaNode size δ × List (Frame (PatriciaFields size δ))
  | .nil, frames => (.nil, frames)
  | .node fields l r, frames =>
    if fields.bit < bitlen ∨ fields.pfx = none then
      if goesRight size addr fields.bit then
        if isNil r then (.node fields l r, frames)
        else patriciaDescend addr bitlen r (⟨fields, true, l⟩ :: frames)
      else if isNil l then (.node fields l r, frames)
      else patriciaDescend addr bitlen l (⟨fields, false, r⟩ :: frames)
    else (.node fields l r, frames)

/-- The way back up of `patricia_lookup`. -/
def patriciaClimb (differBit : ℕ) :
    PatriciaNode size δ → List (Frame (PatriciaFields size δ)) →
      PatriciaNode size δ × List (Frame (PatriciaFields size δ))
  | node, [] => (node, [])
  | node, parent :: frames =>
    if parent.value.bit ≥ differBit then patriciaClimb differBit (parent.plug node) frames
    else (node, parent :: frames)

variable [Zero δ] [DecidableEq δ]

/-- The end of `patricia_lookup`, at the node with `fields` and the subtrees `l` and `r`. -/
def patriciaPlace (pfx testPrefix : Prefix size) (differBit : ℕ)
    (fields : PatriciaFields size δ) (l r : PatriciaNode size δ)
    (frames : List (Frame (PatriciaFields size δ))) (numActiveNode : ℤ) :
    Option (PatriciaCursor size δ) :=
  let node := BinaryTree.node fields l r
  let addr := pfx.add.toList
  let testAddr := testPrefix.add.toList
  let bitlen := pfx.bitlen
  if differBit = bitlen ∧ fields.bit = bitlen then
    if fields.pfx.isSome then some ⟨node, frames, numActiveNode⟩
    -- `assert(node->data == NULL)`
    else if fields.data = 0 then
      some ⟨.node { fields with pfx := some pfx } l r, frames, numActiveNode⟩
    else none
  else
    let newFields : PatriciaFields size δ := ⟨bitlen, some pfx, 0⟩
    if fields.bit = differBit then
      let right := goesRight size addr fields.bit
      -- `assert(node->r == NULL)` and `assert(node->l == NULL)`
      if isNil (childOn right node) then
        some ⟨.node newFields .nil .nil, ⟨fields, right, childOn (!right) node⟩ :: frames,
          numActiveNode + 1⟩
      else none
    else if bitlen = differBit then
      let right := goesRight size testAddr bitlen
      some ⟨branch newFields right node .nil, frames, numActiveNode + 1⟩
    else
      let glue : PatriciaFields size δ := ⟨differBit, none, 0⟩
      let right := goesRight size addr differBit
      some ⟨.node newFields .nil .nil, ⟨glue, right, node⟩ :: frames, numActiveNode + 2⟩

/-- `patricia_lookup`: the tree with the prefix in it, and the node of the prefix. -/
def patriciaLookup (patricia : PatriciaTree size δ) (pfx : Prefix size) :
    Option (PatriciaCursor size δ) :=
  if pfx.bitlen ≤ maxbits size then
    if isNil patricia.head then
      some ⟨.node ⟨pfx.bitlen, some pfx, 0⟩ .nil .nil, [], patricia.numActiveNode + 1⟩
    else
      match patriciaDescend pfx.add.toList pfx.bitlen patricia.head [] with
      | (.node fields l r, frames) => do
        -- `assert(node->prefix)`
        let testPrefix ← fields.pfx
        let checkBit := if fields.bit < pfx.bitlen then fields.bit else pfx.bitlen
        let differBit ← differBitLoop checkBit pfx.add.toList testPrefix.add.toList 0 0
        let differBit := if differBit > checkBit then checkBit else differBit
        match patriciaClimb differBit (.node fields l r) frames with
        | (.node fields l r, frames) =>
          patriciaPlace pfx testPrefix differBit fields l r frames patricia.numActiveNode
        | (.nil, _) => none
      | (.nil, _) => none
  else none

/-- `node->data = user_data`. -/
def PatriciaCursor.setData (cursor : PatriciaCursor size δ) (userData : δ) :
    PatriciaCursor size δ :=
  match cursor.node with
  | .nil => cursor
  | .node fields l r => { cursor with node := .node { fields with data := userData } l r }

/-- A call of one of the functions that insert. -/
inductive PatriciaCall (size : ℕ) (δ : Type)
  | makeAndLookup (pfx : Prefix size)
  | makeAndLookupWithData (pfx : Prefix size) (userData : δ)

/-- The prefix of a call. -/
def PatriciaCall.pfx : PatriciaCall size δ → Prefix size
  | makeAndLookup pfx => pfx
  | makeAndLookupWithData pfx _ => pfx

/-- `make_and_lookup` and `make_and_lookup_with_data`, with the prefix that they have read. -/
def patriciaStep (patricia : PatriciaTree size δ) (call : PatriciaCall size δ) :
    Option (PatriciaTree size δ) := do
  let cursor ← patriciaLookup patricia call.pfx
  match call with
  | .makeAndLookup _ => some cursor.tree
  | .makeAndLookupWithData _ userData => some (cursor.setData userData).tree

/-! ### Search -/

/-- The loop of `patricia_search_exact`. -/
def searchDown (addr : ByteString) (bitlen : ℕ) : PatriciaNode size δ → PatriciaNode size δ
  | .nil => .nil
  | .node fields l r =>
    if fields.bit < bitlen then
      if bitTest addr fields.bit then searchDown addr bitlen r else searchDown addr bitlen l
    else .node fields l r

/-- `patricia_search_exact`: the fields of the node that it finds. -/
def patriciaSearchExact (patricia : PatriciaTree size δ) (pfx : Prefix size) :
    Option (Option (PatriciaFields size δ)) :=
  if pfx.bitlen ≤ maxbits size then
    match searchDown pfx.add.toList pfx.bitlen patricia.head with
    | .nil => some none
    | .node fields _ _ =>
      if fields.bit > pfx.bitlen then some none
      else
        match fields.pfx with
        | none => some none
        | some found =>
          -- `assert(node->bit == bitlen)` and `assert(node->bit == node->prefix->bitlen)`
          if fields.bit = pfx.bitlen ∧ fields.bit = found.bitlen then
            if compWithMask found.add.toList pfx.add.toList pfx.bitlen then some (some fields)
            else some none
          else none
  else none

/-- `if (c) stack[cnt++] = node`, on a stack with its top first. -/
def pushIf (c : Bool) (stack : List (PatriciaFields size δ)) (fields : PatriciaFields size δ) :
    Option (List (PatriciaFields size δ)) :=
  if c then
    if stack.length < PATRICIA_MAXBITS + 1 then some (fields :: stack) else none
  else some stack

/-- The loop of `patricia_search_best2`, and the push behind it. -/
def collectPrefixes (addr : ByteString) (bitlen : ℕ) (inclusive : Bool) :
    PatriciaNode size δ → List (PatriciaFields size δ) → Option (List (PatriciaFields size δ))
  | .nil, stack => some stack
  | .node fields l r, stack =>
    if fields.bit < bitlen then do
      let stack ← pushIf fields.pfx.isSome stack fields
      if bitTest addr fields.bit then collectPrefixes addr bitlen inclusive r stack
      else collectPrefixes addr bitlen inclusive l stack
    else pushIf (inclusive && fields.pfx.isSome) stack fields

/-- `patricia_search_best2`. -/
def patriciaSearchBest2 (patricia : PatriciaTree size δ) (pfx : Prefix size) (inclusive : Bool) :
    Option (Option (PatriciaFields size δ)) :=
  if pfx.bitlen ≤ maxbits size then do
    let stack ← collectPrefixes pfx.add.toList pfx.bitlen inclusive patricia.head []
    some <| stack.find? fun fields => fields.pfx.any fun found =>
      compWithMask found.add.toList pfx.add.toList found.bitlen && found.bitlen ≤ pfx.bitlen
  else none

/-! ### Traversal -/

/-- `patricia_process`; `func` changes a state of its own. -/
def patriciaProcess {σ : Type} (patricia : PatriciaTree size δ) (func : σ → Prefix size → δ → σ)
    (s : σ) : Option σ :=
  walk (PATRICIA_MAXBITS + 1)
    (fun s fields => some (fields.pfx.elim s fun pfx => func s pfx fields.data))
    patricia.head [] s

/-- What `Clear_Patricia` does at a node. -/
def clearNode {σ : Type} (func : σ → δ → σ) (state : ℤ × σ) (fields : PatriciaFields size δ) :
    Option (ℤ × σ) :=
  if fields.pfx.isSome then
    some (state.1 - 1, if fields.data ≠ 0 then func state.2 fields.data else state.2)
  -- `assert(Xrn->data == NULL)`
  else if fields.data = 0 then some (state.1 - 1, state.2)
  else none

/-- `Clear_Patricia`: what is left of `num_active_node`, and the state of `func`. -/
def clearPatricia {σ : Type} (patricia : PatriciaTree size δ) (func : σ → δ → σ) (s : σ) :
    Option (ℤ × σ) := do
  let (numActiveNode, s) ← walk (PATRICIA_MAXBITS + 1) (clearNode func) patricia.head []
    (patricia.numActiveNode, s)
  -- `assert(patricia->num_active_node == 0)`
  if numActiveNode = 0 then some (numActiveNode, s) else none

end FastNetMon
