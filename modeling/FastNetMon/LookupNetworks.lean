/-
FastNetMon/LookupNetworks.lean

What the lookup trees answer after any networks were added.

IPv4 networks can be added without a condition, and the answers are those of the list of
networks (`lookupNetwork_run`).  An IPv6 network with two zero groups at its start ends the
program (`lookupIpv6_run`).  A tree that is loaded from another one has its entries
(`loadInline_spec`).
-/
import FastNetMon.LookupTree

namespace FastNetMon

variable {size : ℕ} {δ ν : Type} [Zero δ] [DecidableEq δ] {family : SubnetFamily size ν}

/-! ### Adding networks -/

/-- The calls of a list of networks that are read. -/
def subnetCalls (read : ν → Prefix size) (subnets : List ν) : List (PatriciaCall size δ) :=
  subnets.map fun subnet => .makeAndLookup (read subnet)

/-- A loop of insertions is a run. -/
theorem foldlM_eq_runEvents {ε : Type*} {f : PatriciaTree size δ → ε → Option (PatriciaTree size δ)}
    {call : ε → PatriciaCall size δ} {items : List ε}
    (hf : ∀ item ∈ items, ∀ tree, f tree item = patriciaStep tree (call item))
    (start : PatriciaTree size δ) :
    items.foldlM f start = runEvents patriciaStep start (items.map call) := by
  induction items generalizing start with
  | nil => rfl
  | cons item items ih =>
      rw [List.foldlM_cons, hf item List.mem_cons_self, List.map_cons, runEvents, List.foldlM_cons]
      cases patriciaStep start (call item) with
      | none => rfl
      | some next => exact ih (fun i hi => hf i (List.mem_cons_of_mem _ hi)) next

theorem foldlM_addSubnet {read : ν → Prefix size} {subnets : List ν}
    (hread : ∀ subnet ∈ subnets, family.fromText subnet = some (read subnet))
    (start : PatriciaTree size δ) :
    subnets.foldlM (addSubnet family) start
      = runEvents patriciaStep start (subnetCalls read subnets) := by
  refine foldlM_eq_runEvents (fun subnet hsubnet tree => ?_) start
  rw [addSubnet, hread subnet hsubnet]
  rfl

/-- A network that is not read ends the program. -/
theorem foldlM_addSubnet_eq_none {subnets : List ν} {subnet : ν} (hmem : subnet ∈ subnets)
    (hnone : family.fromText subnet = none) (start : PatriciaTree size δ) :
    subnets.foldlM (addSubnet family) start = none := by
  induction subnets generalizing start with
  | nil => cases hmem
  | cons s subnets ih =>
      rw [List.foldlM_cons]
      rcases List.mem_cons.mp hmem with rfl | hmem
      · rw [addSubnet, hnone]
        rfl
      · cases addSubnet family start s with
        | none => rfl
        | some next => exact ih hmem next

/-- The networks that were added are what the tree answers by. -/
structure Answers (family : SubnetFamily size ν) (read : ν → Prefix size) (subnets : List ν)
    (tree : PatriciaTree size δ) (asked : ν) (found : Option ν) : Prop where
  network : lookupNetwork family tree asked = some found.isSome
  includes : lookupNetworkWhichIncludes family tree asked = some found
  longest : ∀ net, found = some net → ∃ subnet ∈ subnets, net = family.ofPrefix (read subnet) ∧
    (read subnet).key <+: (family.prefixForCheck asked).key ∧
    ∀ other ∈ subnets, (read other).key <+: (family.prefixForCheck asked).key →
      (read other).bitlen ≤ (read subnet).bitlen
  none : found = none → ∀ subnet ∈ subnets,
    ¬ (read subnet).key <+: (family.prefixForCheck asked).key

/-- **A tree answers by the networks that were added to it.** -/
theorem answers_run (hsize : size ≤ 16) {read : ν → Prefix size} {subnets : List ν}
    (hread : ∀ subnet ∈ subnets, family.fromText subnet = some (read subnet))
    (hbitlen : ∀ subnet ∈ subnets, (read subnet).bitlen ≤ maxbits size) :
    ∃ tree : PatriciaTree size δ, subnets.foldlM (addSubnet family) {} = some tree ∧
      ∀ asked, (family.prefixForCheck asked).bitlen ≤ maxbits size →
        ∃ found, Answers family read subnets tree asked found := by
  obtain ⟨tree, hrun, hwf, htable⟩ := patriciaRun_spec (δ := δ) (subnetCalls read subnets) (by
    intro call hcall
    obtain ⟨subnet, hsubnet, rfl⟩ := List.mem_map.mp hcall
    exact hbitlen subnet hsubnet)
  have hkeys : ∀ key, (tree.table key).isSome ↔ ∃ subnet ∈ subnets, (read subnet).key = key := by
    intro key
    rw [htable, ← tableOf, isSome_tableOf_iff]
    simp [subnetCalls, PatriciaCall.pfx]
  refine ⟨tree, (foldlM_addSubnet hread _).trans hrun, fun asked hasked => ?_⟩
  obtain ⟨result, hsearch, hresult⟩ := hwf.searchBest2_table hsize hasked true
  cases result with
  | none =>
      refine ⟨none, ?_, ?_, fun net hnet => absurd hnet.symm (Option.some_ne_none net),
        fun _ subnet hsubnet => ?_⟩
      · rw [lookupNetwork, hsearch]
        rfl
      · rw [lookupNetworkWhichIncludes, hsearch]
        rfl
      · exact hresult _ ((hkeys _).mpr ⟨subnet, hsubnet, rfl⟩) (.inl rfl)
  | some fields =>
      obtain ⟨key, entry, hlongest, hentry, hpfx, -⟩ := hresult
      rw [htable] at hentry
      -- of the networks with this key, the tree keeps the one that was added first
      obtain ⟨call, hcall, hfirst, rfl⟩ := exists_of_tableOf hentry
      obtain ⟨subnet, hsubnet, rfl⟩ := List.mem_map.mp hcall
      have hsubnetPfx : read subnet = entry.1 := hfirst
      refine ⟨some (family.ofPrefix (read subnet)), ?_, ?_, fun net hnet => ?_,
        fun hnone => absurd hnone (Option.some_ne_none _)⟩
      · rw [lookupNetwork, hsearch]
        rfl
      · rw [lookupNetworkWhichIncludes, hsearch, hsubnetPfx]
        show some (fields.pfx.map family.ofPrefix) = _
        rw [hpfx]
        rfl
      · refine ⟨subnet, hsubnet, (Option.some.inj hnet).symm, hsubnetPfx ▸ hlongest.isPrefix,
          fun other hother hpref => ?_⟩
        have hle := hlongest.longest _
          ⟨(hkeys _).mpr ⟨other, hother, rfl⟩, .inl rfl⟩ hpref
        rwa [Prefix.length_key, Prefix.length_key, ← hsubnetPfx] at hle

/-! ### IPv4 -/

/-- The prefix of an IPv4 network. -/
def ipv4Prefix (subnet : SubnetCidrMask) : Prefix 4 :=
  ⟨min subnet.cidrPrefixLength.toNat 32, inAddr subnet.subnetAddress⟩

/-- The network as a tree keeps it. -/
def SubnetCidrMask.clipped (subnet : SubnetCidrMask) : SubnetCidrMask :=
  ⟨subnet.subnetAddress, .ofNat (min subnet.cidrPrefixLength.toNat 32)⟩

theorem ofPrefix_ipv4Prefix (subnet : SubnetCidrMask) :
    ipv4Family.ofPrefix (ipv4Prefix subnet) = subnet.clipped := by
  show SubnetCidrMask.mk (sAddr (inAddr subnet.subnetAddress)) _ = _
  rw [sAddr_inAddr]
  rfl

theorem toNat_clipped (subnet : SubnetCidrMask) :
    subnet.clipped.cidrPrefixLength.toNat = min subnet.cidrPrefixLength.toNat 32 := by
  rw [SubnetCidrMask.clipped, UInt32.toNat_ofNat_of_lt']
  exact lt_of_le_of_lt (min_le_right _ _) (by decide)

theorem contains_clipped (subnet : SubnetCidrMask) (ip : UInt32) :
    subnet.clipped.Contains ip ↔ subnet.Contains ip := by
  rw [SubnetCidrMask.Contains, SubnetCidrMask.Contains, toNat_clipped, min_assoc, min_self]
  rfl

/-- All addresses of the other network are in the network. -/
def SubnetCidrMask.Includes (subnet other : SubnetCidrMask) : Prop :=
  min subnet.cidrPrefixLength.toNat 32 ≤ other.cidrPrefixLength.toNat ∧
    subnet.Contains other.subnetAddress

theorem includes_address (subnet : SubnetCidrMask) (ip : UInt32) :
    subnet.Includes ⟨ip, 32⟩ ↔ subnet.Contains ip :=
  and_iff_right (min_le_right _ _)

theorem prefixForCheck_ipv4 {subnet : SubnetCidrMask}
    (hlength : subnet.cidrPrefixLength.toNat ≤ 32) :
    ipv4Family.prefixForCheck subnet = ipv4Prefix subnet := by
  show (⟨_, _⟩ : Prefix 4) = ⟨_, _⟩
  rw [Nat.mod_eq_of_lt (by omega), min_eq_left hlength]

/-- The prefix of a network is one of another network exactly if it includes this. -/
theorem ipv4Prefix_key_prefix_iff (subnet : SubnetCidrMask) {asked : SubnetCidrMask}
    (hlength : asked.cidrPrefixLength.toNat ≤ 32) :
    (ipv4Prefix subnet).key <+: (ipv4Family.prefixForCheck asked).key
      ↔ subnet.Includes asked := by
  rw [Prefix.key_prefix_iff_agreeOn, prefixForCheck_ipv4 hlength]
  show min _ _ ≤ min _ _ ∧ _ ↔ _
  rw [min_eq_left hlength]
  rfl

/-- What a tree finds: the longest of the networks that include the one that is asked for. -/
def LongestNetwork (subnets : List SubnetCidrMask) (asked : SubnetCidrMask) :
    Option SubnetCidrMask → Prop
  | some net => net.Includes asked ∧ (∃ subnet ∈ subnets, net = subnet.clipped) ∧
      ∀ subnet ∈ subnets, subnet.Includes asked →
        min subnet.cidrPrefixLength.toNat 32 ≤ net.cidrPrefixLength.toNat
  | none => ∀ subnet ∈ subnets, ¬ subnet.Includes asked

omit [Zero δ] [DecidableEq δ] in
theorem Answers.longestNetwork {subnets : List SubnetCidrMask} {tree : PatriciaTree 4 δ}
    {asked : SubnetCidrMask} {found : Option SubnetCidrMask}
    (h : Answers ipv4Family ipv4Prefix subnets tree asked found)
    (hlength : asked.cidrPrefixLength.toNat ≤ 32) : LongestNetwork subnets asked found := by
  cases found with
  | none =>
      intro subnet hsubnet hincludes
      exact h.none rfl subnet hsubnet ((ipv4Prefix_key_prefix_iff subnet hlength).mpr hincludes)
  | some net =>
      obtain ⟨subnet, hsubnet, rfl, hpref, hlongest⟩ := h.longest net rfl
      rw [ofPrefix_ipv4Prefix]
      obtain ⟨hle, hcontains⟩ := (ipv4Prefix_key_prefix_iff subnet hlength).mp hpref
      refine ⟨⟨?_, (contains_clipped subnet _).mpr hcontains⟩, ⟨subnet, hsubnet, rfl⟩,
        fun other hother hincludes => ?_⟩
      · rw [toNat_clipped]
        exact (min_le_left _ _).trans hle
      · rw [toNat_clipped]
        exact hlongest other hother ((ipv4Prefix_key_prefix_iff other hlength).mpr hincludes)

/-- IPv4 networks can be added in any number, with any length and in any order. -/
theorem answers_ipv4 (subnets : List SubnetCidrMask) :
    ∃ tree : PatriciaTree 4 δ, subnets.foldlM (addSubnet ipv4Family) {} = some tree ∧
      ∀ asked : SubnetCidrMask, asked.cidrPrefixLength.toNat ≤ 32 →
        ∃ found, Answers ipv4Family ipv4Prefix subnets tree asked found := by
  obtain ⟨tree, hrun, hanswers⟩ := answers_run (δ := δ) (by decide)
    (fun subnet _ => ipv4Family_fromText subnet) (fun subnet _ => min_le_right _ _)
  refine ⟨tree, hrun, fun asked hlength => hanswers asked ?_⟩
  rw [prefixForCheck_ipv4 hlength]
  exact min_le_right _ _

/-- **IPv4 networks can be added in any number, with any length and in any order**, and the
tree finds the longest of them that includes a network or an address. -/
theorem lookupNetwork_run (subnets : List SubnetCidrMask) :
    ∃ tree : PatriciaTree 4 δ, subnets.foldlM (addSubnet ipv4Family) {} = some tree ∧
      ∀ asked : SubnetCidrMask, asked.cidrPrefixLength.toNat ≤ 32 →
        ∃ found, lookupNetwork ipv4Family tree asked = some found.isSome ∧
          lookupNetworkWhichIncludes ipv4Family tree asked = some found ∧
          LongestNetwork subnets asked found := by
  obtain ⟨tree, hrun, hanswers⟩ := answers_ipv4 (δ := δ) subnets
  refine ⟨tree, hrun, fun asked hlength => ?_⟩
  obtain ⟨found, hfound⟩ := hanswers asked hlength
  exact ⟨found, hfound.network, hfound.includes, hfound.longestNetwork hlength⟩

/-! ### IPv6 -/

/-- The address is in the network. -/
def SubnetIpv6CidrMask.Contains (subnet : SubnetIpv6CidrMask) (address : In6Addr) : Prop :=
  AgreeOn (min subnet.cidrPrefixLength.toNat 128) subnet.subnetAddress.toList address.toList

/-- The prefix that an IPv6 network is stored under. -/
def ipv6Prefix (subnet : SubnetIpv6CidrMask) : Prefix 16 :=
  ⟨min subnet.cidrPrefixLength.toNat 128, subnet.subnetAddress⟩

@[inherit_doc SubnetCidrMask.clipped]
def SubnetIpv6CidrMask.clipped (subnet : SubnetIpv6CidrMask) : SubnetIpv6CidrMask :=
  ⟨subnet.subnetAddress, .ofNat (min subnet.cidrPrefixLength.toNat 128)⟩

theorem toNat_clipped_ipv6 (subnet : SubnetIpv6CidrMask) :
    subnet.clipped.cidrPrefixLength.toNat = min subnet.cidrPrefixLength.toNat 128 := by
  rw [SubnetIpv6CidrMask.clipped, UInt32.toNat_ofNat_of_lt']
  exact lt_of_le_of_lt (min_le_right _ _) (by decide)

theorem contains_clipped_ipv6 (subnet : SubnetIpv6CidrMask) (address : In6Addr) :
    subnet.clipped.Contains address ↔ subnet.Contains address := by
  rw [SubnetIpv6CidrMask.Contains, SubnetIpv6CidrMask.Contains, toNat_clipped_ipv6, min_assoc,
    min_self]
  rfl

theorem ipv6Prefix_key_prefix_iff (subnet : SubnetIpv6CidrMask) (address : In6Addr) :
    (ipv6Prefix subnet).key <+: (ipv6Family.prefixForCheck ⟨address, 128⟩).key
      ↔ subnet.Contains address := by
  rw [Prefix.key_prefix_iff_agreeOn]
  have hbitlen : (ipv6Family.prefixForCheck ⟨address, 128⟩).bitlen = 128 := rfl
  rw [hbitlen]
  exact and_iff_right (min_le_right _ _)

/-- What a tree finds: the longest of the networks that contain the address. -/
def LongestNetworkIpv6 (subnets : List SubnetIpv6CidrMask) (address : In6Addr) :
    Option SubnetIpv6CidrMask → Prop
  | some net => net.Contains address ∧ (∃ subnet ∈ subnets, net = subnet.clipped) ∧
      ∀ subnet ∈ subnets, subnet.Contains address →
        min subnet.cidrPrefixLength.toNat 128 ≤ net.cidrPrefixLength.toNat
  | none => ∀ subnet ∈ subnets, ¬ subnet.Contains address

omit [Zero δ] [DecidableEq δ] in
theorem Answers.longestNetworkIpv6 {subnets : List SubnetIpv6CidrMask} {tree : PatriciaTree 16 δ}
    {address : In6Addr} {found : Option SubnetIpv6CidrMask}
    (h : Answers ipv6Family ipv6Prefix subnets tree ⟨address, 128⟩ found) :
    LongestNetworkIpv6 subnets address found := by
  cases found with
  | none =>
      intro subnet hsubnet hcontains
      exact h.none rfl subnet hsubnet ((ipv6Prefix_key_prefix_iff subnet address).mpr hcontains)
  | some net =>
      obtain ⟨subnet, hsubnet, rfl, hpref, hlongest⟩ := h.longest net rfl
      have hcontains := (ipv6Prefix_key_prefix_iff subnet address).mp hpref
      refine ⟨(contains_clipped_ipv6 subnet address).mpr hcontains, ⟨subnet, hsubnet, rfl⟩,
        fun other hother hincludes => ?_⟩
      show _ ≤ subnet.clipped.cidrPrefixLength.toNat
      rw [toNat_clipped_ipv6]
      exact hlongest other hother ((ipv6Prefix_key_prefix_iff other address).mpr hincludes)

/-- IPv6 networks that are all read can be added in any number and order. -/
theorem answers_ipv6 {subnets : List SubnetIpv6CidrMask}
    (hread : ∀ subnet ∈ subnets, NoLeadingZeros subnet.subnetAddress) :
    ∃ tree : PatriciaTree 16 δ, subnets.foldlM (addSubnet ipv6Family) {} = some tree ∧
      ∀ address, ∃ found, Answers ipv6Family ipv6Prefix subnets tree ⟨address, 128⟩ found := by
  obtain ⟨tree, hrun, hanswers⟩ := answers_run (δ := δ) (by decide)
    (fun subnet hsubnet => ipv6Family_fromText (hread subnet hsubnet))
    (fun subnet _ => min_le_right _ _)
  exact ⟨tree, hrun, fun address => hanswers ⟨address, 128⟩ (le_refl 128)⟩

/-- **One IPv6 network with two zero groups at its start ends the program**: its text is not
read back, and `patricia_lookup` gets no prefix.  Other networks can be added in any number and
order, and the tree finds the longest of them that contains an address. -/
theorem lookupIpv6_run (subnets : List SubnetIpv6CidrMask) :
    match subnets.foldlM (addSubnet ipv6Family) ({} : PatriciaTree 16 δ) with
    | none => ∃ subnet ∈ subnets, ¬ NoLeadingZeros subnet.subnetAddress
    | some tree => (∀ subnet ∈ subnets, NoLeadingZeros subnet.subnetAddress) ∧
        ∀ address, ∃ found, lookupIpv6 tree address = some found.isSome ∧
          lookupNetworkWhichIncludes ipv6Family tree ⟨address, 128⟩ = some found ∧
          LongestNetworkIpv6 subnets address found := by
  by_cases hread : ∀ subnet ∈ subnets, NoLeadingZeros subnet.subnetAddress
  · obtain ⟨tree, hrun, hanswers⟩ := answers_ipv6 (δ := δ) hread
    rw [hrun]
    refine ⟨hread, fun address => ?_⟩
    obtain ⟨found, hfound⟩ := hanswers address
    exact ⟨found, hfound.network, hfound.includes, hfound.longestNetworkIpv6⟩
  · simp only [not_forall, exists_prop] at hread
    obtain ⟨subnet, hsubnet, hzeros⟩ := hread
    rw [foldlM_addSubnet_eq_none hsubnet (ipv6Family_fromText_eq_none hzeros)]
    exact ⟨subnet, hsubnet, hzeros⟩

/-! ### Loading a tree from another one -/

omit [DecidableEq δ] in
theorem foldl_update_of_forall_ne {calls : List (PatriciaCall size δ)} {key : List Bool}
    (hkey : ∀ call ∈ calls, key ≠ call.pfx.key) (table : PrefixTable size δ) :
    calls.foldl PatriciaCall.update table key = table key := by
  induction calls generalizing table with
  | nil => rfl
  | cons call calls ih =>
      rw [List.foldl_cons, ih fun c hc => hkey c (List.mem_cons_of_mem _ hc),
        PatriciaCall.update_of_ne _ call (hkey call List.mem_cons_self)]

omit [DecidableEq δ] in
theorem PatriciaCall.update_congr {table table' : PrefixTable size δ} {call : PatriciaCall size δ}
    (h : table call.pfx.key = table' call.pfx.key) :
    call.update table call.pfx.key = call.update table' call.pfx.key := by
  cases call with
  | makeAndLookup pfx =>
      simp only [update, PatriciaCall.pfx, Function.update_self] at h ⊢
      rw [h]
  | makeAndLookupWithData pfx userData =>
      simp only [update, PatriciaCall.pfx, Function.update_self] at h ⊢
      rw [h]

omit [DecidableEq δ] in
/-- Calls with different keys do not disturb each other. -/
theorem foldl_update_of_nodup {calls : List (PatriciaCall size δ)}
    (hnodup : (calls.map fun call => call.pfx.key).Nodup) (table : PrefixTable size δ)
    {call : PatriciaCall size δ} (hcall : call ∈ calls) :
    calls.foldl PatriciaCall.update table call.pfx.key = call.update table call.pfx.key := by
  obtain ⟨front, back, rfl⟩ := List.append_of_mem hcall
  rw [List.map_append, List.map_cons, List.nodup_append, List.nodup_cons] at hnodup
  obtain ⟨-, ⟨hback, -⟩, hfront⟩ := hnodup
  rw [List.foldl_append, List.foldl_cons, foldl_update_of_forall_ne]
  · refine PatriciaCall.update_congr (foldl_update_of_forall_ne (fun c hc heq => ?_) table)
    exact hfront _ (List.mem_map_of_mem hc) _ List.mem_cons_self heq.symm
  · intro c hc heq
    exact hback (List.mem_map.mpr ⟨c, hc, heq.symm⟩)

/-- What a tree holds after another one was loaded into it: the data of the other tree, and the
addresses that came first. -/
def mergeTable (table loaded : PrefixTable size δ) : PrefixTable size δ := fun key =>
  match loaded key with
  | some (pfx, data) => some (((table key).getD (pfx, 0)).1, data)
  | none => table key

theorem foldl_bind_eq_foldlM {α β : Type*} (f : β → α → Option β) (xs : List α) (start : β) :
    xs.foldl (fun state x => state.bind fun b => f b x) (some start) = xs.foldlM f start := by
  have hnone : ∀ xs : List α, xs.foldl (fun state x => state.bind fun b => f b x) none = none := by
    intro xs
    induction xs with
    | nil => rfl
    | cons x xs ih => exact ih
  induction xs generalizing start with
  | nil => rfl
  | cons x xs ih =>
      rw [List.foldl_cons, List.foldlM_cons, Option.bind_some]
      cases f start x with
      | none => exact hnone xs
      | some next => exact ih next

/-- The calls that `load_inline` makes. -/
def entryCalls (entries : List (Prefix size × δ)) : List (PatriciaCall size δ) :=
  entries.map fun entry => .makeAndLookupWithData entry.1 entry.2

theorem loadInline_eq (hsize : size ≤ 16) {target source : PatriciaTree size δ}
    (hsource : source.WellFormed) (hread : ∀ entry ∈ source.entries,
      family.fromText (family.ofPrefix entry.1) = some entry.1) :
    loadInline family target source
      = runEvents patriciaStep target (entryCalls source.entries) := by
  have hprocess := hsource.process hsize
    (fun (tree : Option (PatriciaTree size δ)) pfx data => tree.bind fun tree =>
      addSubnetWithPayloadInline family tree (family.ofPrefix pfx) data) (some target)
  have hfold := foldl_bind_eq_foldlM (fun tree (entry : Prefix size × δ) =>
    addSubnetWithPayloadInline family tree (family.ofPrefix entry.1) entry.2) source.entries target
  rw [hfold] at hprocess
  rw [entryCalls, ← foldlM_eq_runEvents (fun entry hentry tree => ?_) target]
  · show (patriciaProcess source _ (some target)).bind id = _
    exact congrArg (Option.bind · id) hprocess
  · rw [addSubnetWithPayloadInline, hread entry hentry]
    rfl

omit [DecidableEq δ] in
theorem PatriciaTree.WellFormed.bitlen_le {patricia : PatriciaTree size δ}
    (hwf : patricia.WellFormed) {entry : Prefix size × δ} (hentry : entry ∈ patricia.entries) :
    entry.1.bitlen ≤ maxbits size := by
  obtain ⟨fields, hfields, hmap⟩ := List.mem_filterMap.mp hentry
  obtain ⟨found, hpfx, rfl⟩ := Option.map_eq_some_iff.mp hmap
  have hbit := hwf.bit_eq hfields hpfx
  rw [← hbit]
  exact hwf.bit_le fields hfields

omit [DecidableEq δ] in
/-- What a tree holds for a key has this key. -/
theorem PatriciaTree.fst_of_table {patricia : PatriciaTree size δ} {key : List Bool}
    {entry : Prefix size × δ} (h : patricia.table key = some entry) : entry.1.key = key := by
  obtain ⟨fields, hentry, hmap⟩ := Option.bind_eq_some_iff.mp h
  obtain ⟨found, hpfx, rfl⟩ := Option.map_eq_some_iff.mp hmap
  obtain ⟨found', hpfx', hkey⟩ := PatriciaTree.pfx_of_entry hentry
  obtain rfl : found = found' := Option.some.inj (hpfx.symm.trans hpfx')
  exact hkey

/-- **`load_inline` adds the entries of the other tree.** -/
theorem loadInline_spec (hsize : size ≤ 16) {target source : PatriciaTree size δ}
    (htarget : target.WellFormed) (hsource : source.WellFormed)
    (hread : ∀ entry ∈ source.entries,
      family.fromText (family.ofPrefix entry.1) = some entry.1) :
    ∃ loaded, loadInline family target source = some loaded ∧ loaded.WellFormed ∧
      loaded.table = mergeTable target.table source.table := by
  rw [loadInline_eq hsize hsource hread]
  obtain ⟨loaded, hrun, hwf, htable⟩ := htarget.run (entryCalls source.entries) (by
    intro call hcall
    obtain ⟨entry, hentry, rfl⟩ := List.mem_map.mp hcall
    exact hsource.bitlen_le hentry)
  refine ⟨loaded, hrun, hwf, ?_⟩
  rw [htable]
  -- no key is written twice, so the order of the calls does not matter
  have hnodup : ((entryCalls source.entries).map fun call => call.pfx.key).Nodup := by
    have hsorted := hsource.routed.keys_sorted
    rw [← PatriciaTree.map_key_entries] at hsorted
    rw [entryCalls, List.map_map]
    exact hsorted.imp fun hlt => ne_of_lt hlt
  funext key
  rw [mergeTable]
  rcases hsome : source.table key with - | ⟨pfx, data⟩
  · refine foldl_update_of_forall_ne (fun call hcall heq => ?_) _
    obtain ⟨entry, hentry, rfl⟩ := List.mem_map.mp hcall
    rw [heq, PatriciaCall.pfx, hsource.mem_entries_iff.mp hentry] at hsome
    cases hsome
  · have hkey := PatriciaTree.fst_of_table hsome
    subst hkey
    have hentry : (pfx, data) ∈ source.entries := hsource.mem_entries_iff.mpr hsome
    have hcall := List.mem_map_of_mem (f := fun entry : Prefix size × δ =>
      PatriciaCall.makeAndLookupWithData entry.1 entry.2) hentry
    refine (foldl_update_of_nodup hnodup _ hcall).trans ?_
    simp only [PatriciaCall.update, PatriciaCall.pfx, Function.update_self]

end FastNetMon
