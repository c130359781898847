/-
FastNetMon/FlowSpecJsonNumbers.lean

The numbers of a JSON document in the rule that is read from it.

Each list of numbers goes through an integer type of its own before it is checked
and narrowed to the type of its field.  AS numbers and interfaces go through
`int64_t`, ports and packet lengths through `int32_t`, so that a number outside of
these types may wrap around to one that passes the check; a VLAN is not checked
against its 16 bits; a TTL is converted to `uint8_t` at once and has no check at all.
So a document that is accepted has its numbers in the rule exactly if it lists none
of these (`flow_spec_numbers_kept_iff`).
-/
import FastNetMon.FlowSpecJson

namespace FastNetMon

/-! ### Numbers of a document -/

/-- The integer that a JSON value is; beyond 64 bits it is a `double` without a fraction. -/
def Json.integer? : Json → Option ℤ
  | numberUnsigned n => some n.toNat
  | numberInteger n => some n.toInt
  | numberFloat value => if value.den = 1 then some value.num else none
  | _ => none

/-- The values listed under a key. -/
def listedValues (document : Json) (key : String) : List Json :=
  match document.member? key with
  | some (.array values) => values
  | _ => []

/-- The integers listed under a key. -/
def listedIntegers (document : Json) (key : String) : List ℤ :=
  (listedValues document key).filterMap Json.integer?

/-- Each integer listed under a key satisfies a condition. -/
def EachListed (document : Json) (key : String) (condition : ℤ → Prop) : Prop :=
  ∀ i ∈ listedIntegers document key, condition i

theorem eachListed_iff {document : Json} {key : String} {condition : ℤ → Prop} :
    EachListed document key condition ↔
      ∀ value ∈ listedValues document key, ∀ i, value.integer? = some i → condition i := by
  simp only [EachListed, listedIntegers, List.mem_filterMap, forall_exists_index, and_imp]
  exact ⟨fun h value hvalue i hi => h i value hvalue hi, fun h i value hvalue hi => h value hvalue i hi⟩

/-- What is listed under a key is appended to a list of the rule in its order, each
integer with exactly its value. -/
def KeptUnder {β : Type} (document : Json) (key : String) (toNat : β → ℕ) (before after : List β) :
    Prop :=
  ∃ stored, after = before ++ stored ∧
    List.Forall₂ (fun value x => ∀ i, value.integer? = some i → (toNat x : ℤ) = i)
      (listedValues document key) stored

/-- The numbers of a document are in the rule with exactly their values and in their
order. -/
structure NumbersKept (document : Json) (rule rule' : FlowSpecRule) : Prop where
  destinationPorts : KeptUnder document "destination_ports" UInt16.toNat
    rule.destinationPorts rule'.destinationPorts
  sourcePorts : KeptUnder document "source_ports" UInt16.toNat
    rule.sourcePorts rule'.sourcePorts
  packetLengths : KeptUnder document "packet_lengths" UInt16.toNat
    rule.packetLengths rule'.packetLengths
  vlans : KeptUnder document "vlans" UInt16.toNat rule.vlans rule'.vlans
  ttls : KeptUnder document "ttls" UInt8.toNat rule.ttls rule'.ttls
  sourceAsns : KeptUnder document "source_asns" UInt32.toNat rule.sourceAsns rule'.sourceAsns
  destinationAsns : KeptUnder document "destination_asns" UInt32.toNat
    rule.destinationAsns rule'.destinationAsns
  inputInterfaces : KeptUnder document "input_interfaces" UInt32.toNat
    rule.inputInterfaces rule'.inputInterfaces
  outputInterfaces : KeptUnder document "output_interfaces" UInt32.toNat
    rule.outputInterfaces rule'.outputInterfaces

/-- A number fits an unsigned type of so many bits. -/
def FitsBits (bits : ℕ) (i : ℤ) : Prop := 0 ≤ i ∧ i < 2 ^ bits

/-- Each number of a document fits the type of its field. -/
structure NumbersFit (document : Json) : Prop where
  destinationPorts : EachListed document "destination_ports" (FitsBits 16)
  sourcePorts : EachListed document "source_ports" (FitsBits 16)
  packetLengths : EachListed document "packet_lengths" (FitsBits 16)
  vlans : EachListed document "vlans" (FitsBits 16)
  ttls : EachListed document "ttls" (FitsBits 8)
  sourceAsns : EachListed document "source_asns" (FitsBits 32)
  destinationAsns : EachListed document "destination_asns" (FitsBits 32)
  inputInterfaces : EachListed document "input_interfaces" (FitsBits 32)
  outputInterfaces : EachListed document "output_interfaces" (FitsBits 32)

/-- The range of `int32_t`. -/
def InInt32 (i : ℤ) : Prop := -2147483648 ≤ i ∧ i ≤ 2147483647

/-- The range of `int64_t`. -/
def InInt64 (i : ℤ) : Prop := -9223372036854775808 ≤ i ∧ i ≤ 9223372036854775807

/-- No number of a document wraps around where the reader does not see it: ports and
packet lengths are in the range of `int32_t`, AS numbers and interfaces in that of
`int64_t`, no VLAN takes more than 16 bits and no TTL is outside of 8 bits. -/
structure NumbersInReach (document : Json) : Prop where
  destinationPorts : EachListed document "destination_ports" InInt32
  sourcePorts : EachListed document "source_ports" InInt32
  packetLengths : EachListed document "packet_lengths" InInt32
  vlans : EachListed document "vlans" fun i => -2147483648 ≤ i ∧ i ≤ 65535
  ttls : EachListed document "ttls" fun i => 0 ≤ i ∧ i ≤ 255
  sourceAsns : EachListed document "source_asns" InInt64
  destinationAsns : EachListed document "destination_asns" InInt64
  inputInterfaces : EachListed document "input_interfaces" InInt64
  outputInterfaces : EachListed document "output_interfaces" InInt64

/-! ### Conversions -/

theorem uInt8_toNat_ofInt (i : ℤ) : ((UInt8.ofInt i).toNat : ℤ) = i % 256 := by
  rw [UInt8.ofInt, UInt8.toNat_ofNat']
  omega

theorem uInt16_toNat_ofInt (i : ℤ) : ((UInt16.ofInt i).toNat : ℤ) = i % 65536 := by
  rw [UInt16.ofInt, UInt16.toNat_ofNat']
  omega

theorem uInt32_toNat_ofInt (i : ℤ) : ((UInt32.ofInt i).toNat : ℤ) = i % 4294967296 := by
  rw [UInt32.ofInt, UInt32.toNat_ofNat']
  omega

/-- A conversion to `int32_t` moves a number by a multiple of 2^32 into its range. -/
theorem bmod_int32 (i : ℤ) :
    ∃ k : ℤ, i.bmod 4294967296 = i + 4294967296 * k ∧ InInt32 (i.bmod 4294967296) := by
  refine ⟨i.bmod 4294967296 / 4294967296 - i / 4294967296, ?_, ?_⟩
  · have h := Int.bmod_emod (x := i) (m := 4294967296)
    omega
  · have hle := Int.le_bmod (x := i) (m := 4294967296) (by decide)
    have hlt := Int.bmod_lt (x := i) (m := 4294967296) (by decide)
    simp only [InInt32]
    omega

/-- The same of `int64_t`. -/
theorem bmod_int64 (i : ℤ) :
    ∃ k : ℤ, i.bmod 18446744073709551616 = i + 18446744073709551616 * k ∧
      InInt64 (i.bmod 18446744073709551616) := by
  refine ⟨i.bmod 18446744073709551616 / 18446744073709551616 - i / 18446744073709551616, ?_, ?_⟩
  · have h := Int.bmod_emod (x := i) (m := 18446744073709551616)
    omega
  · have hle := Int.le_bmod (x := i) (m := 18446744073709551616) (by decide)
    have hlt := Int.bmod_lt (x := i) (m := 18446744073709551616) (by decide)
    simp only [InInt64]
    omega

/-- An integer is converted as the number that it is. -/
theorem Json.getNumber_of_integer? {value : Json} {i : ℤ} (h : value.integer? = some i) :
    value.getNumber = some i := by
  cases value with
  | numberUnsigned n => exact h
  | numberInteger n => exact h
  | numberFloat value =>
    rw [integer?] at h
    split at h
    · rename_i hone
      rw [getNumber, hone, Int.natCast_one, Int.tdiv_one]
      exact h
    · cases h
  | _ => exact absurd h (by simp [integer?])

theorem Json.getArithmetic_of_integer? {value : Json} {i : ℤ} (h : value.integer? = some i) :
    value.getArithmetic = some i := by
  cases value with
  | boolean b => cases h
  | _ => exact getNumber_of_integer? h

/-! ### One number -/

/-- A port is stored as it is exactly if it is in the range of `int32_t`. -/
theorem port_kept_iff {value : Json} {port : UInt16} {i : ℤ}
    (hread : value.getInt32.bind checkPort = some port) (hi : value.integer? = some i) :
    (port.toNat : ℤ) = i ↔ InInt32 i := by
  rw [Json.getInt32, Json.getArithmetic_of_integer? hi, Option.map_some, Option.bind_some,
    checkPort] at hread
  split at hread
  · rename_i hvalid
    obtain rfl := Option.some.inj hread
    rw [uInt16_toNat_ofInt]
    obtain ⟨k, hk, hrange⟩ := bmod_int32 i
    simp only [validPort, Bool.and_eq_true, decide_eq_true_eq] at hvalid
    simp only [InInt32] at hrange ⊢
    omega
  · exact absurd hread (by simp)

theorem packetLength_kept_iff {value : Json} {packetLength : UInt16} {i : ℤ}
    (hread : value.getInt32.bind checkPacketLength = some packetLength)
    (hi : value.integer? = some i) : (packetLength.toNat : ℤ) = i ↔ InInt32 i := by
  rw [Json.getInt32, Json.getArithmetic_of_integer? hi, Option.map_some, Option.bind_some,
    checkPacketLength] at hread
  split at hread
  · exact absurd hread (by simp)
  split at hread
  · exact absurd hread (by simp)
  · obtain rfl := Option.some.inj hread
    rw [uInt16_toNat_ofInt]
    obtain ⟨k, hk, hrange⟩ := bmod_int32 i
    simp only [InInt32] at hrange ⊢
    omega

theorem vlan_kept_iff {value : Json} {vlan : UInt16} {i : ℤ}
    (hread : value.getInt32.bind checkVlan = some vlan) (hi : value.integer? = some i) :
    (vlan.toNat : ℤ) = i ↔ -2147483648 ≤ i ∧ i ≤ 65535 := by
  rw [Json.getInt32, Json.getArithmetic_of_integer? hi, Option.map_some, Option.bind_some,
    checkVlan] at hread
  split at hread
  · exact absurd hread (by simp)
  · obtain rfl := Option.some.inj hread
    rw [uInt16_toNat_ofInt]
    obtain ⟨k, hk, hrange⟩ := bmod_int32 i
    simp only [InInt32] at hrange
    omega

theorem ttl_kept_iff {value : Json} {ttl : UInt8} {i : ℤ}
    (hread : value.getUInt8.bind some = some ttl) (hi : value.integer? = some i) :
    (ttl.toNat : ℤ) = i ↔ 0 ≤ i ∧ i ≤ 255 := by
  rw [Json.getUInt8, Json.getArithmetic_of_integer? hi, Option.map_some, Option.bind_some] at hread
  obtain rfl := Option.some.inj hread
  rw [uInt8_toNat_ofInt]
  omega

/-- An AS number or an interface is stored as it is exactly if it is in the range of
`int64_t`. -/
theorem uInt32_kept_iff {value : Json} {x : UInt32} {i : ℤ}
    (hread : value.getInt64.bind checkUInt32 = some x) (hi : value.integer? = some i) :
    (x.toNat : ℤ) = i ↔ InInt64 i := by
  rw [Json.getInt64, Json.getNumber_of_integer? hi, Option.map_some, Option.bind_some,
    checkUInt32] at hread
  split at hread
  · exact absurd hread (by simp)
  split at hread
  · exact absurd hread (by simp)
  · obtain rfl := Option.some.inj hread
    rw [uInt32_toNat_ofInt]
    obtain ⟨k, hk, hrange⟩ := bmod_int64 i
    simp only [InInt64] at hrange ⊢
    omega

/-! ### One list -/

/-- Values that are converted and then checked, one by one. -/
theorem forall₂_of_mapM {α β : Type} {get : Json → Option α} {check : α → Option β}
    {values : List Json} {as : List α} {xs : List β} (hget : values.mapM get = some as)
    (hcheck : as.mapM check = some xs) :
    List.Forall₂ (fun value x => (get value).bind check = some x) values xs := by
  induction values generalizing as xs with
  | nil =>
    obtain rfl : [] = as := by simpa using hget
    obtain rfl : [] = xs := by simpa using hcheck
    exact .nil
  | cons value values ih =>
    simp only [List.mapM_cons, Option.bind_eq_bind, Option.bind_eq_some_iff, Option.pure_def,
      Option.some.injEq] at hget
    obtain ⟨a, ha, rest, hrest, rfl⟩ := hget
    simp only [List.mapM_cons, Option.bind_eq_bind, Option.bind_eq_some_iff, Option.pure_def,
      Option.some.injEq] at hcheck
    obtain ⟨x, hx, stored, hstored, rfl⟩ := hcheck
    exact .cons (Option.bind_eq_some_iff.mpr ⟨a, ha, hx⟩) (ih hrest hstored)

/-- The list that is read has a value for each value of the document, in its order. -/
theorem readList_forall₂ {α β : Type} {document : Json} {key : String} {get : Json → Option α}
    {check : α → Option β} {xs : List β} (h : readList document key get check = some xs) :
    List.Forall₂ (fun value x => (get value).bind check = some x) (listedValues document key)
      xs := by
  rw [readList] at h
  rw [listedValues]
  cases hmember : document.member? key with
  | none =>
    rw [hmember] at h
    obtain rfl := Option.some.inj h
    exact .nil
  | some value =>
    rw [hmember] at h
    obtain ⟨as, has, hxs⟩ := Option.bind_eq_some_iff.mp h
    cases value with
    | array values =>
      rw [Json.getVector] at has
      exact forall₂_of_mapM has hxs
    | _ => exact absurd has (by simp [Json.getVector])

/-- The list that is read under a key is appended to a list of the rule. -/
def AppendsRead {α β : Type} (document : Json) (key : String) (get : Json → Option α)
    (check : α → Option β) (before after : List β) : Prop :=
  ∃ stored, readList document key get check = some stored ∧ after = before ++ stored

/-- If each number is kept exactly if it satisfies a condition, then a list is kept
exactly if each of its numbers does. -/
theorem AppendsRead.kept_iff {α β : Type} {document : Json} {key : String} {get : Json → Option α}
    {check : α → Option β} {toNat : β → ℕ} {condition : ℤ → Prop} {before after : List β}
    (h : AppendsRead document key get check before after)
    (hone : ∀ {value : Json} {x : β} {i : ℤ}, (get value).bind check = some x →
      value.integer? = some i → ((toNat x : ℤ) = i ↔ condition i)) :
    KeptUnder document key toNat before after ↔ EachListed document key condition := by
  obtain ⟨stored, hstored, rfl⟩ := h
  have hread := readList_forall₂ hstored
  rw [KeptUnder, eachListed_iff]
  constructor
  · rintro ⟨stored', heq, hkept⟩ value hvalue i hi
    obtain rfl : stored = stored' := List.append_cancel_left heq
    obtain ⟨k, hk, rfl⟩ := List.getElem_of_mem hvalue
    have hk' : k < stored.length := hread.length_eq ▸ hk
    exact (hone (hread.get hk hk') hi).mp (hkept.get hk hk' i hi)
  · intro hall
    refine ⟨stored, rfl, ?_⟩
    have hboth := (List.forall₂_and_left _ _).mpr ⟨hall, hread⟩
    exact hboth.imp fun value x ⟨hcondition, hx⟩ i hi => (hone hx hi).mpr (hcondition i hi)

/-- A list that is kept fits its field. -/
theorem KeptUnder.fits {β : Type} {document : Json} {key : String} {toNat : β → ℕ} {bits : ℕ}
    {before after : List β} (h : KeptUnder document key toNat before after)
    (hlt : ∀ x, toNat x < 2 ^ bits) : EachListed document key (FitsBits bits) := by
  obtain ⟨stored, -, hkept⟩ := h
  rw [eachListed_iff]
  intro value hvalue i hi
  obtain ⟨k, hk, rfl⟩ := List.getElem_of_mem hvalue
  have hk' : k < stored.length := hkept.length_eq ▸ hk
  have heq : (toNat (stored.get ⟨k, hk'⟩) : ℤ) = i := hkept.get hk hk' i hi
  rw [FitsBits, ← heq]
  exact ⟨Int.natCast_nonneg _, by exact_mod_cast hlt _⟩

/-! ### The document -/

/-- The numbers of a document that is accepted fit their fields if they are kept. -/
theorem NumbersKept.fit {document : Json} {rule rule' : FlowSpecRule}
    (h : NumbersKept document rule rule') : NumbersFit document where
  destinationPorts := h.destinationPorts.fits UInt16.toNat_lt
  sourcePorts := h.sourcePorts.fits UInt16.toNat_lt
  packetLengths := h.packetLengths.fits UInt16.toNat_lt
  vlans := h.vlans.fits UInt16.toNat_lt
  ttls := h.ttls.fits UInt8.toNat_lt
  sourceAsns := h.sourceAsns.fits UInt32.toNat_lt
  destinationAsns := h.destinationAsns.fits UInt32.toNat_lt
  inputInterfaces := h.inputInterfaces.fits UInt32.toNat_lt
  outputInterfaces := h.outputInterfaces.fits UInt32.toNat_lt

variable {names : ProtocolNames}

/-- The lists of numbers of a document that is accepted. -/
structure NumbersRead (document : Json) (rule rule' : FlowSpecRule) : Prop where
  destinationPorts : AppendsRead document "destination_ports" Json.getInt32 checkPort
    rule.destinationPorts rule'.destinationPorts
  sourcePorts : AppendsRead document "source_ports" Json.getInt32 checkPort
    rule.sourcePorts rule'.sourcePorts
  packetLengths : AppendsRead document "packet_lengths" Json.getInt32 checkPacketLength
    rule.packetLengths rule'.packetLengths
  vlans : AppendsRead document "vlans" Json.getInt32 checkVlan rule.vlans rule'.vlans
  ttls : AppendsRead document "ttls" Json.getUInt8 some rule.ttls rule'.ttls
  sourceAsns : AppendsRead document "source_asns" Json.getInt64 checkUInt32
    rule.sourceAsns rule'.sourceAsns
  destinationAsns : AppendsRead document "destination_asns" Json.getInt64 checkUInt32
    rule.destinationAsns rule'.destinationAsns
  inputInterfaces : AppendsRead document "input_interfaces" Json.getInt64 checkUInt32
    rule.inputInterfaces rule'.inputInterfaces
  outputInterfaces : AppendsRead document "output_interfaces" Json.getInt64 checkUInt32
    rule.outputInterfaces rule'.outputInterfaces

theorem readMatchingPart_numbers {document : Json} {rule rule' : FlowSpecRule}
    (h : readMatchingPart names document rule = some rule') :
    NumbersRead document rule rule' := by
  obtain ⟨source, -, h⟩ := Option.bind_eq_some_iff.mp h
  obtain ⟨destination, -, h⟩ := Option.bind_eq_some_iff.mp h
  obtain ⟨destinationPorts, h₁, h⟩ := Option.bind_eq_some_iff.mp h
  obtain ⟨sourcePorts, h₂, h⟩ := Option.bind_eq_some_iff.mp h
  obtain ⟨packetLengths, h₃, h⟩ := Option.bind_eq_some_iff.mp h
  obtain ⟨vlans, h₄, h⟩ := Option.bind_eq_some_iff.mp h
  obtain ⟨sourceAsns, h₅, h⟩ := Option.bind_eq_some_iff.mp h
  obtain ⟨destinationAsns, h₆, h⟩ := Option.bind_eq_some_iff.mp h
  obtain ⟨inputInterfaces, h₇, h⟩ := Option.bind_eq_some_iff.mp h
  obtain ⟨outputInterfaces, h₈, h⟩ := Option.bind_eq_some_iff.mp h
  obtain ⟨ttls, h₉, h⟩ := Option.bind_eq_some_iff.mp h
  obtain ⟨protocols, -, h⟩ := Option.bind_eq_some_iff.mp h
  obtain ⟨ipv4Nexthops, -, h⟩ := Option.bind_eq_some_iff.mp h
  obtain ⟨agentAddresses, -, h⟩ := Option.bind_eq_some_iff.mp h
  obtain ⟨fragmentationFlags, -, h⟩ := Option.bind_eq_some_iff.mp h
  obtain ⟨tcpFlags, -, h⟩ := Option.bind_eq_some_iff.mp h
  obtain rfl := Option.some.inj h
  -- setting the prefixes changes no list
  rcases source with _ | _ | _ <;> rcases destination with _ | _ | _ <;>
    exact ⟨⟨_, h₁, rfl⟩, ⟨_, h₂, rfl⟩, ⟨_, h₃, rfl⟩, ⟨_, h₄, rfl⟩, ⟨_, h₉, rfl⟩, ⟨_, h₅, rfl⟩,
      ⟨_, h₆, rfl⟩, ⟨_, h₇, rfl⟩, ⟨_, h₈, rfl⟩⟩

/-- The action of a document has no part in its lists. -/
theorem readFlowSpec_numbers {document : Json} {rule rule' : FlowSpecRule} {requireAction : Bool}
    (h : readFlowSpecFromJsonToNativeFormat names document rule requireAction = some rule') :
    NumbersRead document rule rule' := by
  obtain ⟨matched, hmatched, h⟩ := Option.bind_eq_some_iff.mp h
  have hread := readMatchingPart_numbers hmatched
  cases requireAction with
  | false =>
    obtain rfl := Option.some.inj h
    exact hread
  | true =>
    obtain ⟨action, -, h⟩ := Option.bind_eq_some_iff.mp h
    obtain rfl := Option.some.inj h
    exact ⟨hread.destinationPorts, hread.sourcePorts, hread.packetLengths, hread.vlans, hread.ttls,
      hread.sourceAsns, hread.destinationAsns, hread.inputInterfaces, hread.outputInterfaces⟩

/-- **The numbers of a document.**  A document that is accepted has each of its numbers
in the rule with exactly its value, and none that does not fit its field, exactly if
no port and no packet length is outside of `int32_t`, no AS number and no interface
outside of `int64_t`, no VLAN above 65535 and no TTL outside of 8 bits. -/
theorem flow_spec_numbers_kept_iff {document : Json} {rule rule' : FlowSpecRule}
    {requireAction : Bool}
    (h : readFlowSpecFromJsonToNativeFormat names document rule requireAction = some rule') :
    (NumbersKept document rule rule' ∧ NumbersFit document) ↔ NumbersInReach document := by
  have hread := readFlowSpec_numbers h
  have hdestinationPorts : KeptUnder _ _ UInt16.toNat _ _ ↔ _ :=
    hread.destinationPorts.kept_iff port_kept_iff
  have hsourcePorts : KeptUnder _ _ UInt16.toNat _ _ ↔ _ :=
    hread.sourcePorts.kept_iff port_kept_iff
  have hpacketLengths : KeptUnder _ _ UInt16.toNat _ _ ↔ _ :=
    hread.packetLengths.kept_iff packetLength_kept_iff
  have hvlans : KeptUnder _ _ UInt16.toNat _ _ ↔ _ := hread.vlans.kept_iff vlan_kept_iff
  have httls : KeptUnder _ _ UInt8.toNat _ _ ↔ _ := hread.ttls.kept_iff ttl_kept_iff
  have hsourceAsns : KeptUnder _ _ UInt32.toNat _ _ ↔ _ :=
    hread.sourceAsns.kept_iff uInt32_kept_iff
  have hdestinationAsns : KeptUnder _ _ UInt32.toNat _ _ ↔ _ :=
    hread.destinationAsns.kept_iff uInt32_kept_iff
  have hinputInterfaces : KeptUnder _ _ UInt32.toNat _ _ ↔ _ :=
    hread.inputInterfaces.kept_iff uInt32_kept_iff
  have houtputInterfaces : KeptUnder _ _ UInt32.toNat _ _ ↔ _ :=
    hread.outputInterfaces.kept_iff uInt32_kept_iff
  constructor
  · rintro ⟨hkept, -⟩
    exact ⟨hdestinationPorts.mp hkept.destinationPorts, hsourcePorts.mp hkept.sourcePorts,
      hpacketLengths.mp hkept.packetLengths, hvlans.mp hkept.vlans, httls.mp hkept.ttls,
      hsourceAsns.mp hkept.sourceAsns, hdestinationAsns.mp hkept.destinationAsns,
      hinputInterfaces.mp hkept.inputInterfaces, houtputInterfaces.mp hkept.outputInterfaces⟩
  · intro hreach
    have hkept : NumbersKept document rule rule' :=
      { destinationPorts := hdestinationPorts.mpr hreach.destinationPorts
        sourcePorts := hsourcePorts.mpr hreach.sourcePorts
        packetLengths := hpacketLengths.mpr hreach.packetLengths
        vlans := hvlans.mpr hreach.vlans
        ttls := httls.mpr hreach.ttls
        sourceAsns := hsourceAsns.mpr hreach.sourceAsns
        destinationAsns := hdestinationAsns.mpr hreach.destinationAsns
        inputInterfaces := hinputInterfaces.mpr hreach.inputInterfaces
        outputInterfaces := houtputInterfaces.mpr hreach.outputInterfaces }
    exact ⟨hkept, hkept.fit⟩

/-- No protocol has a name here. -/
def noProtocolNames : ProtocolNames where
  readProtocolFromString _ := none
  getIpProtocolName _ := []

/-- A document with numbers at the bounds of their fields. -/
def numbersAtBounds : Json :=
  .object [("destination_ports", .array [.numberUnsigned 65535, .numberUnsigned 0]),
    ("packet_lengths", .array [.numberUnsigned 1500]),
    ("vlans", .array [.numberUnsigned 65535]),
    ("source_asns", .array [.numberUnsigned 4294967295]),
    ("ttls", .array [.numberUnsigned 255, .numberUnsigned 0])]

/-- It is accepted, and its numbers are kept. -/
theorem numbersAtBounds_kept :
    ∃ rule', readFlowSpecFromJsonToNativeFormat noProtocolNames numbersAtBounds {} false
      = some rule' ∧ NumbersKept numbersAtBounds {} rule' := by
  obtain ⟨rule', h⟩ : ∃ rule', readFlowSpecFromJsonToNativeFormat noProtocolNames numbersAtBounds
      {} false = some rule' := ⟨_, rfl⟩
  have hreach : NumbersInReach numbersAtBounds := by
    constructor <;> simp only [EachListed, InInt32, InInt64] <;> decide
  exact ⟨rule', h, ((flow_spec_numbers_kept_iff h).mpr hreach).1⟩

-- a TTL beyond 64 bits is a `double`
example : ¬ NumbersInReach (.object [("ttls", .array [.numberFloat 18446744073709551616])]) :=
  fun h => absurd (h.ttls 18446744073709551616 (by decide)).2 (by decide)

/-- VLAN 65537 is accepted and stored as VLAN 1. -/
theorem vlan_65537_changed : ∃ rule', readFlowSpecFromJsonToNativeFormat noProtocolNames
      (.object [("vlans", .array [.numberUnsigned 65537])]) {} false = some rule' ∧
    rule'.vlans = [1] ∧
    ¬ (NumbersKept (.object [("vlans", .array [.numberUnsigned 65537])]) {} rule' ∧
      NumbersFit (.object [("vlans", .array [.numberUnsigned 65537])])) := by
  refine ⟨_, rfl, by decide, ?_⟩
  rintro ⟨-, hfit⟩
  have h : FitsBits 16 65537 := hfit.vlans 65537 (by decide)
  exact absurd h.2 (by decide)

end FastNetMon
