/-
FastNetMon/TreeHistory.lean

Lookup trees that are filled with data and loaded from one another.

A tree with data is created, gets networks one by one, and is loaded from other trees, which
came about in the same way.  The abstract tree is a table of keys, in which loading is a
merge (`mergeTable`).  The model refines it over every history: IPv4 trees without a
condition (`treeHistory_ipv4`), IPv6 trees unless one network cannot be read back
(`treeHistory_ipv6`).
-/
import FastNetMon.LookupNetworks

namespace FastNetMon

variable {size : ℕ} {δ ν : Type} [Zero δ]

/-! ### Histories -/

/-- How a tree with data came about. -/
inductive TreeHistory (ν δ : Type)
  | created
  | addSubnetWithPayload (history : TreeHistory ν δ) (subnet : ν) (objectToStore : δ)
  | loadInline (history anotherHistory : TreeHistory ν δ)

namespace TreeHistory

/-- The tree itself, and `none` if the program ended before. -/
def build [DecidableEq δ] (family : SubnetFamily size ν) :
    TreeHistory ν δ → Option (PatriciaTree size δ)
  | created => some {}
  | addSubnetWithPayload history subnet objectToStore => do
    addSubnetWithPayloadInline family (← history.build family) subnet objectToStore
  | loadInline history anotherHistory => do
    FastNetMon.loadInline family (← history.build family) (← anotherHistory.build family)

/-- What the tree is for: the data of every network. -/
def table (read : ν → Prefix size) : TreeHistory ν δ → PrefixTable size δ
  | created => fun _ => none
  | addSubnetWithPayload history subnet objectToStore =>
    (PatriciaCall.makeAndLookupWithData (read subnet) objectToStore).update (history.table read)
  | loadInline history anotherHistory =>
    mergeTable (history.table read) (anotherHistory.table read)

/-- The networks that were given, for this tree or for one that it was loaded from. -/
def subnets : TreeHistory ν δ → List ν
  | created => []
  | addSubnetWithPayload history subnet _ => history.subnets ++ [subnet]
  | loadInline history anotherHistory => history.subnets ++ anotherHistory.subnets

/-- An address in the table is the one of a network that was given. -/
theorem exists_subnet_of_table {read : ν → Prefix size} {history : TreeHistory ν δ}
    {key : List Bool} {entry : Prefix size × δ} (h : history.table read key = some entry) :
    ∃ subnet ∈ history.subnets, read subnet = entry.1 ∧ entry.1.key = key := by
  induction history generalizing key entry with
  | created => cases h
  | addSubnetWithPayload history subnet objectToStore ih =>
      by_cases hkey : key = (read subnet).key
      · subst hkey
        have hfirst : entry.1 = ((history.table read (read subnet).key).getD (read subnet, 0)).1 :=
          PatriciaCall.fst_of_update (.makeAndLookupWithData _ objectToStore) h
        -- a prefix that is there already stays
        rcases hold : history.table read (read subnet).key with - | old
        · rw [hold] at hfirst
          exact ⟨subnet, by simp [subnets], hfirst.symm, congrArg Prefix.key hfirst⟩
        · obtain ⟨other, hother, hread, hkey⟩ := ih hold
          rw [hold] at hfirst
          exact ⟨other, List.mem_append_left _ hother, hread.trans hfirst.symm,
            (congrArg Prefix.key hfirst).trans hkey⟩
      · have hold : history.table read key = some entry := by
          rw [← h]
          exact (PatriciaCall.update_of_ne _ (.makeAndLookupWithData _ objectToStore) hkey).symm
        obtain ⟨other, hother, hread⟩ := ih hold
        exact ⟨other, List.mem_append_left _ hother, hread⟩
  | loadInline history anotherHistory ih ih' =>
      rw [table, mergeTable] at h
      rcases hloaded : anotherHistory.table read key with - | ⟨pfx, data⟩
      · rw [hloaded] at h
        obtain ⟨other, hother, hread⟩ := ih h
        exact ⟨other, List.mem_append_left _ hother, hread⟩
      · rw [hloaded] at h
        obtain ⟨loadedSubnet, hmem, hread, hkey⟩ := ih' hloaded
        -- likewise, only the object of the other tree is taken over
        rcases hold : history.table read key with - | old
        · rw [hold] at h
          obtain rfl : (pfx, data) = entry := Option.some.inj h
          exact ⟨loadedSubnet, List.mem_append_right _ hmem, hread, hkey⟩
        · rw [hold] at h
          obtain rfl : (old.1, data) = entry := Option.some.inj h
          obtain ⟨other, hother, hread⟩ := ih hold
          exact ⟨other, List.mem_append_left _ hother, hread⟩

variable [DecidableEq δ] {family : SubnetFamily size ν} {read : ν → Prefix size}

/-- **The tree refines its table**, over every history of networks that are read, and read
back.  One case for each way to change a tree. -/
theorem build_spec (hsize : size ≤ 16) (history : TreeHistory ν δ)
    (hbitlen : ∀ subnet ∈ history.subnets, (read subnet).bitlen ≤ maxbits size)
    (hread : ∀ subnet ∈ history.subnets, family.fromText subnet = some (read subnet))
    (hback : ∀ subnet ∈ history.subnets,
      family.fromText (family.ofPrefix (read subnet)) = some (read subnet)) :
    ∃ tree, history.build family = some tree ∧ tree.WellFormed ∧
      tree.table = history.table read := by
  induction history with
  | created => exact ⟨{}, rfl, wellFormed_newPatricia, rfl⟩
  | addSubnetWithPayload history subnet objectToStore ih =>
      simp only [subnets, List.forall_mem_append, List.forall_mem_singleton] at hbitlen hread hback
      obtain ⟨tree, hbuild, hwf, htable⟩ := ih hbitlen.1 hread.1 hback.1
      obtain ⟨next, hstep, hnext, htable'⟩ :=
        patriciaStep_spec hwf (.makeAndLookupWithData (read subnet) objectToStore) hbitlen.2
      refine ⟨next, ?_, hnext, by rw [htable', htable]; rfl⟩
      rw [build, hbuild, Option.bind_eq_bind, Option.bind_some, addSubnetWithPayloadInline, hread.2]
      exact hstep
  | loadInline history anotherHistory ih ih' =>
      simp only [subnets, List.forall_mem_append] at hbitlen hread hback
      obtain ⟨tree, hbuild, hwf, htable⟩ := ih hbitlen.1 hread.1 hback.1
      obtain ⟨another, hbuild', hwf', htable'⟩ := ih' hbitlen.2 hread.2 hback.2
      -- every entry of the other tree is a network it was given, so its text is read back
      obtain ⟨loaded, hload, hloaded, hmerge⟩ := loadInline_spec hsize hwf hwf'
        (fun entry hentry => by
          have hsome := hwf'.mem_entries_iff.mp hentry
          rw [htable'] at hsome
          obtain ⟨subnet, hsubnet, hfirst, -⟩ := exists_subnet_of_table hsome
          rw [← hfirst]
          exact hback.2 subnet hsubnet)
      refine ⟨loaded, ?_, hloaded, by rw [hmerge, htable, htable']; rfl⟩
      rw [build, hbuild, hbuild']
      exact hload

/-- One network that is not read ends the program. -/
theorem build_eq_none {history : TreeHistory ν δ} {subnet : ν} (hmem : subnet ∈ history.subnets)
    (hnone : family.fromText subnet = none) : history.build family = none := by
  induction history with
  | created => cases hmem
  | addSubnetWithPayload history other objectToStore ih =>
      rw [build]
      rcases List.mem_append.mp hmem with hmem | hmem
      · rw [ih hmem]
        rfl
      · rw [← List.mem_singleton.mp hmem]
        cases history.build family with
        | none => rfl
        | some tree =>
            rw [Option.bind_eq_bind, Option.bind_some, addSubnetWithPayloadInline, hnone]
            rfl
  | loadInline history anotherHistory ih ih' =>
      rw [build]
      rcases List.mem_append.mp hmem with hmem | hmem
      · rw [ih hmem]
        rfl
      · rw [ih' hmem]
        cases history.build family <;> rfl

/-! ### What the lookups answer -/

/-- The data of the networks, by their bits: a network that is added replaces the data of the
same network, and so do all networks of a tree that is loaded. -/
def payload (read : ν → Prefix size) : TreeHistory ν δ → List Bool → Option δ
  | created => fun _ => none
  | addSubnetWithPayload history subnet objectToStore =>
    Function.update (history.payload read) (read subnet).key (some objectToStore)
  | loadInline history anotherHistory => fun key =>
    (anotherHistory.payload read key).or (history.payload read key)

omit [DecidableEq δ] in
theorem map_snd_table (history : TreeHistory ν δ) (key : List Bool) :
    (history.table read key).map Prod.snd = history.payload read key := by
  induction history with
  | created => rfl
  | addSubnetWithPayload history subnet objectToStore ih =>
      by_cases hkey : key = (read subnet).key
      · subst hkey
        simp [table, payload, PatriciaCall.update]
      · rw [payload, Function.update_of_ne hkey, ← ih]
        exact congrArg (Option.map Prod.snd)
          (PatriciaCall.update_of_ne _ (.makeAndLookupWithData _ objectToStore) hkey)
  | loadInline history anotherHistory ih ih' =>
      show _ = (anotherHistory.payload read key).or (history.payload read key)
      rw [← ih, ← ih', table, mergeTable]
      rcases anotherHistory.table read key with - | ⟨pfx, data⟩ <;> rfl

omit [DecidableEq δ] in
/-- The lookups in a tree that refines its history. -/
theorem lookups_spec (hsize : size ≤ 16) {history : TreeHistory ν δ} {tree : PatriciaTree size δ}
    (hwf : tree.WellFormed) (htable : tree.table = history.table read) {subnet : ν}
    (hbitlen : (family.prefixForCheck subnet).bitlen ≤ maxbits size) :
    lookupValueInlineForSubnetExactMatch family tree subnet
        = some (history.payload read (family.prefixForCheck subnet).key) ∧
      lookupValueInlineForSubnet family tree subnet
        = some (longestMatch (history.payload read) (family.prefixForCheck subnet).key) := by
  constructor
  · rw [lookupValueInlineForSubnetExactMatch, hwf.searchExact hbitlen, ← map_snd_table, ← htable]
    rcases hentry : tree.entry (family.prefixForCheck subnet).key with - | fields
    · rw [PatriciaTree.entry_eq_none.mp hentry]
      rfl
    · obtain ⟨found, hpfx, -⟩ := tree.pfx_of_entry hentry
      rw [PatriciaTree.table_of_entry hentry hpfx]
      rfl
  · have hisSome : ∀ key, (tree.table key).isSome ↔ (history.payload read key).isSome := by
      intro key
      rw [← map_snd_table, htable, Option.isSome_map]
    obtain ⟨result, hsearch, hresult⟩ := hwf.searchBest2_table hsize hbitlen true
    rw [lookupValueInlineForSubnet, hsearch, Option.map_some, Option.some_inj]
    cases result with
    | none =>
        refine (longestMatch_eq_none_iff.mpr fun key hkey => ?_).symm
        exact hresult key ((hisSome key).mpr hkey) (.inl rfl)
    | some fields =>
        obtain ⟨key, entry, hlongest, hentry, -, hdata⟩ := hresult
        have hkeys : IsLongestPrefix { key | (history.payload read key).isSome }
            (family.prefixForCheck subnet).key key :=
          ⟨(hisSome key).mp hlongest.mem.1, hlongest.isPrefix, fun other hother =>
            hlongest.longest other ⟨(hisSome other).mpr hother, .inl rfl⟩⟩
        rw [hkeys.longestMatch_eq, ← map_snd_table, ← htable, hentry, Option.map_some,
          Option.map_some, hdata]

theorem ipv4Family_fromText_ofPrefix (subnet : SubnetCidrMask) :
    ipv4Family.fromText (ipv4Family.ofPrefix (ipv4Prefix subnet)) = some (ipv4Prefix subnet) := by
  rw [ofPrefix_ipv4Prefix, ipv4Family_fromText, toNat_clipped, min_assoc, min_self]
  rfl

/-- **IPv4 trees with data.**  Whatever the history of a tree is, the program does not end, and
the lookups of networks and addresses give the data of the same network and of the longest
network around it. -/
theorem treeHistory_ipv4 (history : TreeHistory SubnetCidrMask δ) :
    ∃ tree, history.build ipv4Family = some tree ∧
      ∀ subnet : SubnetCidrMask, subnet.cidrPrefixLength.toNat ≤ 32 →
        lookupValueInlineForSubnetExactMatch ipv4Family tree subnet
            = some (history.payload ipv4Prefix (ipv4Prefix subnet).key) ∧
          lookupValueInlineForSubnet ipv4Family tree subnet
            = some (longestMatch (history.payload ipv4Prefix) (ipv4Prefix subnet).key) := by
  obtain ⟨tree, hbuild, hwf, htable⟩ := history.build_spec (by decide)
    (fun subnet _ => min_le_right _ _) (fun subnet _ => ipv4Family_fromText subnet)
    (fun subnet _ => ipv4Family_fromText_ofPrefix subnet)
  refine ⟨tree, hbuild, fun subnet hlength => ?_⟩
  rw [← prefixForCheck_ipv4 hlength]
  refine lookups_spec (by decide) hwf htable ?_
  rw [prefixForCheck_ipv4 hlength]
  exact min_le_right _ _

theorem prefixForCheck_ipv6 {subnet : SubnetIpv6CidrMask}
    (hlength : subnet.cidrPrefixLength.toNat ≤ 128) :
    ipv6Family.prefixForCheck subnet = ipv6Prefix subnet := by
  show (⟨_, _⟩ : Prefix 16) = ⟨_, _⟩
  rw [Nat.mod_eq_of_lt (by omega), min_eq_left hlength]

theorem ipv6Family_fromText_ofPrefix {subnet : SubnetIpv6CidrMask}
    (h : NoLeadingZeros subnet.subnetAddress) :
    ipv6Family.fromText (ipv6Family.ofPrefix (ipv6Prefix subnet)) = some (ipv6Prefix subnet) := by
  have hlength : min subnet.cidrPrefixLength.toNat 128 < 2 ^ 32 :=
    lt_of_le_of_lt (min_le_right _ _) (by decide)
  have hofPrefix := ipv6Family_fromText (show NoLeadingZeros
    (ipv6Family.ofPrefix (ipv6Prefix subnet)).subnetAddress from h)
  refine hofPrefix.trans ?_
  show some (⟨min (UInt32.ofNat (min _ _)).toNat 128, _⟩ : Prefix 16) = some ⟨_, _⟩
  rw [UInt32.toNat_ofNat_of_lt' hlength, min_assoc, min_self]
  rfl

/-- **IPv6 trees with data.**  The program ends exactly if one of the networks, for this tree or
for one that it was loaded from, starts with two zero groups. -/
theorem treeHistory_ipv6 (history : TreeHistory SubnetIpv6CidrMask δ) :
    match history.build ipv6Family with
    | none => ∃ subnet ∈ history.subnets, ¬ NoLeadingZeros subnet.subnetAddress
    | some tree => (∀ subnet ∈ history.subnets, NoLeadingZeros subnet.subnetAddress) ∧
        ∀ subnet : SubnetIpv6CidrMask, subnet.cidrPrefixLength.toNat ≤ 128 →
          lookupValueInlineForSubnetExactMatch ipv6Family tree subnet
              = some (history.payload ipv6Prefix (ipv6Prefix subnet).key) ∧
            lookupValueInlineForSubnet ipv6Family tree subnet
              = some (longestMatch (history.payload ipv6Prefix) (ipv6Prefix subnet).key) := by
  by_cases hread : ∀ subnet ∈ history.subnets, NoLeadingZeros subnet.subnetAddress
  · obtain ⟨tree, hbuild, hwf, htable⟩ := history.build_spec (by decide)
      (fun subnet _ => min_le_right _ _)
      (fun subnet hsubnet => ipv6Family_fromText (hread subnet hsubnet))
      (fun subnet hsubnet => ipv6Family_fromText_ofPrefix (hread subnet hsubnet))
    rw [hbuild]
    refine ⟨hread, fun subnet hlength => ?_⟩
    rw [← prefixForCheck_ipv6 hlength]
    refine lookups_spec (by decide) hwf htable ?_
    rw [prefixForCheck_ipv6 hlength]
    exact min_le_right _ _
  · simp only [not_forall, exists_prop] at hread
    obtain ⟨subnet, hsubnet, hzeros⟩ := hread
    rw [build_eq_none hsubnet (ipv6Family_fromText_eq_none hzeros)]
    exact ⟨subnet, hsubnet, hzeros⟩

/-! ### Copies -/

/-- A new tree that is loaded from another one is the same tree. -/
theorem build_loadInline_created (hsize : size ≤ 16) {history : TreeHistory ν δ}
    (hbitlen : ∀ subnet ∈ history.subnets, (read subnet).bitlen ≤ maxbits size)
    (hread : ∀ subnet ∈ history.subnets, family.fromText subnet = some (read subnet))
    (hback : ∀ subnet ∈ history.subnets,
      family.fromText (family.ofPrefix (read subnet)) = some (read subnet)) :
    (loadInline created history).build family = history.build family := by
  obtain ⟨tree, hbuild, hwf, htable⟩ := history.build_spec hsize hbitlen hread hback
  obtain ⟨copy, hcopy, hwf', htable'⟩ :=
    (loadInline created history).build_spec hsize hbitlen hread hback
  rw [hbuild, hcopy, Option.some_inj]
  refine hwf'.ext hwf ?_
  rw [htable', htable]
  funext key
  rw [table, mergeTable]
  rcases history.table read key with - | entry <;> rfl

/-- **`load_inline` copies a tree**: every node of it, glue nodes included, for both address
families and whatever its history is. -/
theorem loadInline_created :
    (∀ history : TreeHistory SubnetCidrMask δ,
      (loadInline created history).build ipv4Family = history.build ipv4Family) ∧
    ∀ history : TreeHistory SubnetIpv6CidrMask δ,
      (loadInline created history).build ipv6Family = history.build ipv6Family := by
  constructor
  · intro history
    exact build_loadInline_created (by decide) (fun subnet _ => min_le_right _ _)
      (fun subnet _ => ipv4Family_fromText subnet)
      (fun subnet _ => ipv4Family_fromText_ofPrefix subnet)
  · intro history
    by_cases hread : ∀ subnet ∈ history.subnets, NoLeadingZeros subnet.subnetAddress
    · exact build_loadInline_created (by decide) (fun subnet _ => min_le_right _ _)
        (fun subnet hsubnet => ipv6Family_fromText (hread subnet hsubnet))
        (fun subnet hsubnet => ipv6Family_fromText_ofPrefix (hread subnet hsubnet))
    · simp only [not_forall, exists_prop] at hread
      obtain ⟨subnet, hsubnet, hzeros⟩ := hread
      have hnone := ipv6Family_fromText_eq_none hzeros
      rw [build_eq_none hsubnet hnone, build_eq_none (List.mem_append_right _ hsubnet) hnone]

end TreeHistory

end FastNetMon
