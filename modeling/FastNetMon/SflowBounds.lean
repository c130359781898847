/-
FastNetMon/SflowBounds.lean

Parsing sFlow datagrams stays inside the datagram, sample by sample.

A length that passes the limit is not negative, since the comparison with an unsigned
limit takes a negative one as a large number.  So the listed samples and records are
regions that follow each other, and everything that is read of one lies between its
ends.  Main result: a datagram yields what its samples yield, each of them alone in
memory (`sflow_samples_stand_alone`).
-/
import FastNetMon.Sflow
import FastNetMon.PacketParserBounds
import FastNetMon.Regions

namespace FastNetMon

open Memory

variable {m m' : Memory} {lo hi p n : ℕ}

/-! ### Lengths -/

/-- A length that passes the test against the largest UDP packet is between 0 and 65535. -/
theorem toInt_of_not_gt {length : Int32} (h : ¬ length.toUInt32 > maxUdpPacketSize) :
    0 ≤ length.toInt ∧ length.toInt ≤ 65535 := by
  have hle : length.toUInt32.toNat ≤ 65535 := by
    simpa [maxUdpPacketSize, UInt32.le_iff_toNat_le] using h
  have hcast : length.toInt = length.toUInt32.toBitVec.toInt := rfl
  rw [hcast, BitVec.toInt_eq_toNat_of_lt]
  · simp only [UInt32.toNat_toBitVec]
    omega
  · simp only [UInt32.toNat_toBitVec]
    omega

theorem toNat_sizeT {length : Int32} (h : 0 ≤ length.toInt) :
    (sizeT length).toNat = length.toInt.toNat := by
  have hcast : length.toInt64.toInt = length.toInt := Int32.toInt_toInt64 length
  rw [← hcast] at h ⊢
  rw [sizeT]
  have hbits : length.toInt64.toUInt64.toNat = length.toInt64.toBitVec.toNat := rfl
  have hint : length.toInt64.toInt = length.toInt64.toBitVec.toInt := rfl
  rw [hint] at h ⊢
  rw [hbits]
  have := BitVec.toInt_eq_toNat_cond length.toInt64.toBitVec
  split at this <;> omega

/-! ### Headers -/

theorem Memory.Readable.clean_getIntValue {shift : ℕ} (h : m.Readable lo hi) (hlo : lo ≤ p)
    (hhi : p + shift * 4 + 4 ≤ hi) : Clean (getIntValueBy32bitShift m p shift) := by
  rw [getIntValueBy32bitShift]
  exact (h.clean_readNtohl (by omega) hhi).bind fun _ _ => trivial

/-- The header of a datagram is read without a fault if it is there. -/
theorem readSflowPacketHeader_clean {addressLength : ℕ} (h : m.Readable lo hi) (hlo : lo ≤ p)
    (hhi : p + 24 + addressLength ≤ hi) : Clean (readSflowPacketHeader m p addressLength) := by
  rw [readSflowPacketHeader]
  refine (h.clean_readNtohl (by omega) (by omega)).bind fun _ _ => ?_
  refine (h.clean_readNtohl (by omega) (by omega)).bind fun _ _ => ?_
  refine (h.clean_readBytes (by omega) (by omega)).bind fun _ _ => ?_
  refine (h.clean_readNtohl (by omega) (by omega)).bind fun _ _ => ?_
  refine (h.clean_readNtohl (by omega) (by omega)).bind fun _ _ => ?_
  refine (h.clean_readNtohl (by omega) (by omega)).bind fun _ _ => ?_
  exact (h.clean_readNtohl (by omega) (by omega)).bind fun _ _ => trivial

theorem readSflowPacketHeader_length {addressLength : ℕ} {header : SflowPacketHeader}
    (h : readSflowPacketHeader m p addressLength = .ok header) :
    header.originalPayloadLength = 24 + addressLength := by
  simp only [readSflowPacketHeader, bind_eq_ok_iff, pure_eq_ok_iff] at h
  obtain ⟨_, -, _, -, _, -, _, -, _, -, _, -, _, -, rfl⟩ := h
  rfl

/-- The header of a datagram lies in it. -/
theorem readSflowHeader_spec (h : m.Readable p (p + n)) :
    Clean (readSflowHeader m p n) ∧
      ∀ header, readSflowHeader m p n = .ok header →
        header.originalPayloadLength ≤ n ∧ header.originalPayloadLength ≤ 40 := by
  by_cases hshort : n < 28
  · have hrejected : readSflowHeader m p n = .error .rejected := by
      rw [readSflowHeader]
      by_cases hzero : n = 0
      · rw [rejectIf_of hzero, error_bind]
      · rw [rejectIf_of_not hzero, ok_bind, rejectIf_of hshort, error_bind]
    rw [hrejected]
    exact ⟨rfl, by simp⟩
  · rw [readSflowHeader, rejectIf_of_not (by omega), ok_bind, rejectIf_of_not hshort, ok_bind]
    constructor
    · refine (h.clean_getIntValue le_rfl (by omega)).bind fun _ _ => ?_
      refine (clean_rejectIf _).bind fun _ _ => ?_
      refine (h.clean_getIntValue le_rfl (by omega)).bind fun _ _ => ?_
      split
      · exact readSflowPacketHeader_clean h le_rfl (by omega)
      · split
        · refine (clean_rejectIf _).bind fun _ hlong => ?_
          rw [rejectIf_eq_ok_iff] at hlong
          exact readSflowPacketHeader_clean h le_rfl (by omega)
        · exact clean_rejected
    · intro header hheader
      simp only [bind_eq_ok_iff] at hheader
      obtain ⟨_, -, _, -, _, -, hheader⟩ := hheader
      split at hheader
      · rw [readSflowPacketHeader_length hheader]
        omega
      · split at hheader
        · simp only [bind_eq_ok_iff, rejectIf_eq_ok_iff] at hheader
          obtain ⟨_, hlong, hheader⟩ := hheader
          rw [readSflowPacketHeader_length hheader]
          omega
        · cases hheader

/-- The header of a flow sample lies in it. -/
theorem readSflowSampleHeader_spec {expanded : Bool} (h : m.Readable p (p + n)) :
    Clean (readSflowSampleHeaderUnified m p n expanded) ∧
      ∀ header, readSflowSampleHeaderUnified m p n expanded = .ok header →
        header.originalPayloadLength ≤ n := by
  rw [readSflowSampleHeaderUnified]
  split
  all_goals
    constructor
    · refine (clean_rejectIf _).bind fun _ hlong => ?_
      rw [rejectIf_eq_ok_iff] at hlong
      repeat refine (h.clean_readNtohl (by omega) (by omega)).bind fun _ _ => ?_
      exact clean_pure _
    · intro header hheader
      simp only [bind_eq_ok_iff, rejectIf_eq_ok_iff, pure_eq_ok_iff] at hheader
      grind

/-- The header of a counter sample lies in it. -/
theorem readSflowCounterHeader_spec {expanded : Bool} (h : m.Readable p (p + n)) :
    Clean (readSflowCounterHeader m p n expanded) ∧
      ∀ header, readSflowCounterHeader m p n expanded = .ok header →
        header.originalPayloadLength ≤ n := by
  rw [readSflowCounterHeader]
  split
  all_goals
    constructor
    · refine (clean_rejectIf _).bind fun _ hlong => ?_
      rw [rejectIf_eq_ok_iff] at hlong
      repeat refine (h.clean_readNtohl (by omega) (by omega)).bind fun _ _ => ?_
      exact clean_pure _
    · intro header hheader
      simp only [bind_eq_ok_iff, rejectIf_eq_ok_iff, pure_eq_ok_iff] at hheader
      grind

/-! ### Lists of samples and records -/

/-- The data of a record. -/
def RecordTuple.region (record : RecordTuple) : Region :=
  ⟨record.dataPtr, record.elementLength.toInt.toNat⟩

/-- The data of a sample. -/
def SampleTuple.region (sample : SampleTuple) : Region :=
  ⟨sample.dataBlockStart, sample.sampleLength.toNat⟩

/-- The data of a counter record. -/
def CounterRecordSample.region (record : CounterRecordSample) : Region :=
  ⟨record.pointer, record.length.toNat⟩

/-- The records of a sample are cut out without reading behind its end. -/
theorem getRecords_clean {count start stop : ℕ} (h : m.Readable lo stop) (hlo : lo ≤ start) :
    Clean (getRecords m stop count start) := by
  induction count generalizing start with
  | zero => exact (clean_rejectIf _).bind fun _ _ => clean_pure _
  | succ count ih =>
    rw [getRecords]
    refine (clean_rejectIf _).bind fun _ hspace => ?_
    rw [rejectIf_eq_ok_iff] at hspace
    refine (h.clean_getIntValue (by omega) (by omega)).bind fun _ _ => ?_
    refine (h.clean_getIntValue (by omega) (by omega)).bind fun _ _ => ?_
    refine (clean_rejectIf _).bind fun _ hlimit => ?_
    rw [rejectIf_eq_ok_iff] at hlimit
    have hlength := toInt_of_not_gt hlimit
    refine (clean_rejectIf _).bind fun _ _ => ?_
    exact (ih (by omega)).bind fun _ _ => clean_pure _

/-- The records follow each other, and no length is negative. -/
theorem getRecords_spec {count start stop : ℕ} {records : List RecordTuple}
    (h : getRecords m stop count start = .ok records) :
    Consecutive 8 start stop (records.map RecordTuple.region) ∧
      ∀ record ∈ records, 0 ≤ record.elementLength.toInt := by
  induction count generalizing start records with
  | zero =>
    simp only [getRecords, bind_eq_ok_iff, rejectIf_eq_ok_iff, pure_eq_ok_iff] at h
    obtain ⟨_, hpadding, rfl⟩ := h
    exact ⟨show start ≤ stop by omega, by simp⟩
  | succ count ih =>
    simp only [getRecords, bind_eq_ok_iff, rejectIf_eq_ok_iff, pure_eq_ok_iff] at h
    obtain ⟨_, -, elementType, -, elementLength, -, _, hlimit, _, -, rest, hrest, rfl⟩ := h
    have hlength := toInt_of_not_gt hlimit
    obtain ⟨hconsecutive, hnonneg⟩ := ih hrest
    constructor
    · refine ⟨rfl, ?_⟩
      rw [Region.stop, RecordTuple.region]
      convert hconsecutive using 1
      simp only
      omega
    · intro record hmem
      rcases List.mem_cons.mp hmem with rfl | hmem
      · exact hlength.1
      · exact hnonneg record hmem

/-- The samples of a datagram are cut out without reading behind its end. -/
theorem getAllSamples_clean {count start stop : ℕ} (h : m.Readable lo stop) (hlo : lo ≤ start) :
    Clean (getAllSamples m stop count start) := by
  induction count generalizing start with
  | zero => exact clean_ok _
  | succ count ih =>
    rw [getAllSamples]
    refine (clean_rejectIf _).bind fun _ hspace => ?_
    rw [rejectIf_eq_ok_iff] at hspace
    refine (h.clean_getIntValue (by omega) (by omega)).bind fun _ _ => ?_
    refine (h.clean_getIntValue (by omega) (by omega)).bind fun _ _ => ?_
    refine (clean_rejectIf _).bind fun _ hlimit => ?_
    rw [rejectIf_eq_ok_iff] at hlimit
    have hlength := toInt_of_not_gt hlimit
    refine (clean_rejectIf _).bind fun _ _ => ?_
    exact (ih (by omega)).bind fun _ _ => clean_pure _

/-- The samples follow each other, and no length is negative or above the limit. -/
theorem getAllSamples_spec {count start stop : ℕ} {samples : List SampleTuple} (hle : start ≤ stop)
    (h : getAllSamples m stop count start = .ok samples) :
    Consecutive 8 start stop (samples.map SampleTuple.region) ∧
      (∀ sample ∈ samples, sample.sampleLength.toNat ≤ 65535) ∧ samples.length = count := by
  induction count generalizing start samples with
  | zero =>
    obtain rfl : [] = samples := Except.ok.inj h
    exact ⟨hle, by simp, rfl⟩
  | succ count ih =>
    simp only [getAllSamples, bind_eq_ok_iff, rejectIf_eq_ok_iff, pure_eq_ok_iff] at h
    obtain ⟨_, -, _, -, sampleLength, -, _, hlimit, _, hend, rest, hrest, rfl⟩ := h
    have hlength := toInt_of_not_gt hlimit
    have hsize := toNat_sizeT hlength.1
    obtain ⟨hconsecutive, hbound, hcount⟩ := ih (by omega) hrest
    refine ⟨⟨rfl, ?_⟩, ?_, by rw [List.length_cons, hcount]⟩
    · rw [Region.stop, SampleTuple.region]
      convert hconsecutive using 1
      simp only [hsize]
      omega
    · intro sample hmem
      rcases List.mem_cons.mp hmem with rfl | hmem
      · simp only [hsize]
        omega
      · exact hbound sample hmem

/-- The counter records of a sample are cut out without reading behind its end. -/
theorem getAllCounterRecords_clean {count start stop : ℕ} (h : m.Readable lo stop)
    (hlo : lo ≤ start) : Clean (getAllCounterRecords m stop count start) := by
  induction count generalizing start with
  | zero => exact (clean_rejectIf _).bind fun _ _ => clean_pure _
  | succ count ih =>
    rw [getAllCounterRecords]
    refine (clean_rejectIf _).bind fun _ hspace => ?_
    rw [rejectIf_eq_ok_iff] at hspace
    refine (h.clean_getIntValue (by omega) (by omega)).bind fun _ _ => ?_
    refine (h.clean_getIntValue (by omega) (by omega)).bind fun _ _ => ?_
    refine (clean_rejectIf _).bind fun _ _ => ?_
    refine (clean_rejectIf _).bind fun _ _ => ?_
    exact (ih (by omega)).bind fun _ _ => clean_pure _

/-- The counter records follow each other up to the end of the block. -/
theorem getAllCounterRecords_spec {count start stop : ℕ} {records : List CounterRecordSample}
    (h : getAllCounterRecords m stop count start = .ok records) :
    Consecutive 8 start stop (records.map CounterRecordSample.region) := by
  induction count generalizing start records with
  | zero =>
    simp only [getAllCounterRecords, bind_eq_ok_iff, rejectIf_eq_ok_iff, pure_eq_ok_iff] at h
    obtain ⟨_, hend, rfl⟩ := h
    exact show start ≤ stop by omega
  | succ count ih =>
    simp only [getAllCounterRecords, bind_eq_ok_iff, rejectIf_eq_ok_iff, pure_eq_ok_iff] at h
    obtain ⟨_, -, _, -, _, -, _, -, _, -, rest, hrest, rfl⟩ := h
    exact ⟨rfl, ih hrest⟩

/-! ### Flow samples -/

variable {context : SflowContext}

theorem Inside.clean {before : ParsedPacket} {parsed : Parsed} (h : Inside m lo n before parsed) :
    Clean parsed := by
  obtain ⟨code, packet, rfl, -⟩ := h
  exact clean_ok _

/-- A loop whose every step is clean is clean. -/
theorem foldlM_clean {α β : Type} {f : β → α → Except Fault β} {xs : List α} {b : β}
    (h : ∀ b, ∀ a ∈ xs, Clean (f b a)) : Clean (xs.foldlM f b) := by
  induction xs generalizing b with
  | nil => exact clean_pure b
  | cons a xs ih =>
    rw [List.foldlM_cons]
    exact (h b a List.mem_cons_self).bind fun b' _ =>
      ih fun b a hmem => h b a (List.mem_cons_of_mem _ hmem)

theorem readSflowRawProtocolHeader_clean (h : m.Readable lo hi) (hlo : lo ≤ p)
    (hhi : p + 16 ≤ hi) : Clean (readSflowRawProtocolHeader m p) := by
  rw [readSflowRawProtocolHeader]
  repeat refine (h.clean_readNtohl (by omega) (by omega)).bind fun _ _ => ?_
  exact clean_pure _

/-- A sampled header that passes the limit fits into its record. -/
theorem headerSize_fits {elementLength : Int32} {headerSize : UInt32}
    (hlength : 0 ≤ elementLength.toInt) (hsize : ¬ sizeT elementLength < 16)
    (havailable : ¬ headerSize.toUInt64 > sizeT elementLength - 16) :
    headerSize.toNat + 16 ≤ elementLength.toInt.toNat := by
  have hsizeT := toNat_sizeT hlength
  have hsixteen : 16 ≤ (sizeT elementLength).toNat := by
    simpa [UInt64.le_iff_toNat_le] using hsize
  have hle : headerSize.toUInt64.toNat ≤ (sizeT elementLength - 16).toNat := by
    simpa [UInt64.le_iff_toNat_le] using havailable
  rw [UInt64.toNat_sub_of_le _ _ (by simpa [UInt64.le_iff_toNat_le] using hsixteen)] at hle
  simp at hle
  omega

/-- The raw packet header record is read inside the record, by the packet parsers too. -/
theorem processRawPacketHeader_clean {sampleHeader : SflowSampleHeader} {packet : ParsedPacket}
    {record : RecordTuple} (h : m.Readable record.dataPtr record.region.stop)
    (hhi : record.region.stop < 2 ^ 31) :
    Clean (processRawPacketHeader context m sampleHeader packet record) := by
  rw [Region.stop, RecordTuple.region] at h hhi
  simp only at h hhi
  rw [processRawPacketHeader]
  refine (clean_rejectIf _).bind fun _ hnonneg => ?_
  refine (clean_rejectIf _).bind fun _ hsize => ?_
  rw [rejectIf_eq_ok_iff] at hnonneg hsize
  have hlength : 0 ≤ record.elementLength.toInt := by
    rw [Int32.lt_iff_toInt_lt] at hnonneg
    simpa using hnonneg
  have hsixteen : 16 ≤ record.elementLength.toInt.toNat := by
    rw [← toNat_sizeT hlength]
    simpa [UInt64.le_iff_toNat_le] using hsize
  refine (readSflowRawProtocolHeader_clean h le_rfl (by omega)).bind fun header _ => ?_
  refine (clean_rejectIf _).bind fun _ havailable => ?_
  rw [rejectIf_eq_ok_iff] at havailable
  have hheader := headerSize_fits hlength hsize havailable
  have hcaptured := (@toInt_toInt32 header.headerSize) (by omega)
  have hreadable : m.Readable (record.dataPtr + 16)
      (record.dataPtr + 16 + header.headerSize.toNat) := h.mono (by omega) (by omega)
  refine Clean.bind ?_ fun parsed _ => ?_
  · rw [parseSampledHeader]
    split
    · exact (parseRawPacket_inside hreadable (by omega) (by rw [hcaptured]; push_cast; rfl)).clean
    · split
      · exact (parseRawIpv4Packet_inside hreadable (by omega)
          (by rw [hcaptured]; push_cast; rfl)).clean
      · exact clean_rejected
  · exact (clean_rejectIf _).bind fun _ _ => clean_pure _

/-- The gateway record reads nothing behind its own end. -/
theorem processExtendedGatewayData_clean {packet : ParsedPacket} {record : RecordTuple}
    (h : m.Readable record.dataPtr record.region.stop) (hlength : 0 ≤ record.elementLength.toInt) :
    Clean (processExtendedGatewayData m packet record) := by
  rw [Region.stop, RecordTuple.region] at h
  simp only at h
  have hsizeT := toNat_sizeT hlength
  rw [processExtendedGatewayData]
  refine (clean_rejectIf _).bind fun _ hfour => ?_
  rw [rejectIf_eq_ok_iff, UInt64.lt_iff_toNat_lt, hsizeT] at hfour
  simp only [UInt64.toNat_ofNat, Nat.reducePow, Nat.reduceMod] at hfour
  refine (h.clean_readNtohl le_rfl (by omega)).bind fun _ _ => ?_
  split
  · refine (clean_rejectIf _).bind fun _ htwenty => ?_
    rw [rejectIf_eq_ok_iff, UInt64.lt_iff_toNat_lt, hsizeT] at htwenty
    simp only [UInt64.toNat_ofNat, Nat.reducePow, Nat.reduceMod] at htwenty
    refine (h.clean_readNtohl (by omega) (by omega)).bind fun _ _ => ?_
    exact (h.clean_readNtohl (by omega) (by omega)).bind fun _ _ => clean_pure _
  · exact clean_pure _

/-- A flow sample reads nothing behind its own end. -/
theorem processSflowFlowSample_clean {expanded : Bool} (h : m.Readable p (p + n))
    (hhi : p + n < 2 ^ 31) : Clean (processSflowFlowSample context m p n expanded) := by
  rw [processSflowFlowSample]
  obtain ⟨hclean, hlength⟩ := (@readSflowSampleHeader_spec _ _ _ expanded) h
  refine hclean.bind fun header hheader => ?_
  have hstart := hlength header hheader
  refine (clean_rejectIf _).bind fun _ _ => ?_
  refine (clean_rejectIf _).bind fun _ _ => ?_
  refine (getRecords_clean h (by omega)).bind fun records hrecords => ?_
  obtain ⟨hconsecutive, hnonneg⟩ := getRecords_spec hrecords
  refine foldlM_clean fun packet record hmem => ?_
  obtain ⟨hlo, hstop⟩ := hconsecutive.inside (List.mem_map_of_mem hmem)
  have hreadable : m.Readable record.dataPtr record.region.stop := by
    refine h.mono ?_ hstop
    rw [RecordTuple.region] at hlo
    simp only at hlo
    omega
  rw [processFlowRecord]
  split
  · exact processRawPacketHeader_clean hreadable (by omega)
  · split
    · exact processExtendedGatewayData_clean hreadable (hnonneg record hmem)
    · exact clean_ok _

/-! ### Counter samples -/

theorem forM_clean {α : Type} {f : α → Except Fault Unit} {xs : List α}
    (h : ∀ a ∈ xs, Clean (f a)) : Clean (xs.forM f) := by
  induction xs with
  | nil => exact clean_pure ()
  | cons a xs ih =>
    rw [List.forM]
    exact (h a List.mem_cons_self).bind fun _ _ =>
      ih fun a hmem => h a (List.mem_cons_of_mem _ hmem)

/-- A counter sample reads nothing behind its own end. -/
theorem processSflowCounterSample_clean {expanded : Bool} (h : m.Readable p (p + n)) :
    Clean (processSflowCounterSample m p n expanded) := by
  rw [processSflowCounterSample]
  obtain ⟨hclean, hlength⟩ := (@readSflowCounterHeader_spec _ _ _ expanded) h
  refine hclean.bind fun header hheader => ?_
  have hstart := hlength header hheader
  refine (clean_rejectIf _).bind fun _ _ => ?_
  refine (clean_rejectIf _).bind fun _ _ => ?_
  refine (getAllCounterRecords_clean h (by omega)).bind fun records hrecords => ?_
  refine forM_clean fun record hmem => ?_
  obtain ⟨hlo, hstop⟩ :=
    (getAllCounterRecords_spec hrecords).inside (List.mem_map_of_mem hmem)
  rw [Region.stop] at hstop
  simp only [CounterRecordSample.region] at hlo hstop
  rw [processCounterRecord]
  split
  · exact clean_ok _
  · split
    · split
      · exact clean_ok _
      · rename_i hcounters
        have heighty : record.length.toNat = 88 := by
          rw [not_not.mp hcounters]
          rfl
        exact (h.clean_readBytes (by omega) (by omega)).bind fun _ _ => clean_pure _
    · exact clean_ok _

/-! ### Larger memories -/

@[gcongr] theorem agrees_getIntValueBy32bitShift (h : m.Extends m') (p shift : ℕ) :
    Agrees (getIntValueBy32bitShift m p shift) (getIntValueBy32bitShift m' p shift) := by
  unfold getIntValueBy32bitShift
  gcongr

@[gcongr] theorem agrees_readSflowSampleHeaderUnified (h : m.Extends m') (p n : ℕ)
    (expanded : Bool) :
    Agrees (readSflowSampleHeaderUnified m p n expanded)
      (readSflowSampleHeaderUnified m' p n expanded) := by
  unfold readSflowSampleHeaderUnified
  gcongr

@[gcongr] theorem agrees_getRecords (h : m.Extends m') (stop count start : ℕ) :
    Agrees (getRecords m stop count start) (getRecords m' stop count start) := by
  induction count generalizing start with
  | zero => rfl
  | succ count ih =>
    unfold getRecords
    dsimp only
    gcongr
    apply ih

@[gcongr] theorem agrees_getAllCounterRecords (h : m.Extends m') (stop count start : ℕ) :
    Agrees (getAllCounterRecords m stop count start) (getAllCounterRecords m' stop count start) := by
  induction count generalizing start with
  | zero => rfl
  | succ count ih =>
    unfold getAllCounterRecords
    dsimp only
    gcongr
    apply ih

/-- Loops whose steps agree agree. -/
@[gcongr] theorem agrees_foldlM {α β : Type} {f g : β → α → Except Fault β}
    (h : ∀ b a, Agrees (f b a) (g b a)) (b : β) (xs : List α) :
    Agrees (xs.foldlM f b) (xs.foldlM g b) := by
  induction xs generalizing b with
  | nil => rfl
  | cons a xs ih =>
    rw [List.foldlM_cons, List.foldlM_cons]
    exact (h b a).bind ih

@[gcongr] theorem agrees_forM {α : Type} {f g : α → Except Fault Unit}
    (h : ∀ a, Agrees (f a) (g a)) (xs : List α) : Agrees (xs.forM f) (xs.forM g) := by
  induction xs with
  | nil => rfl
  | cons a xs ih =>
    rw [List.forM, List.forM]
    exact (h a).bind fun _ => ih

@[gcongr] theorem agrees_processFlowRecord (h : m.Extends m') (sampleHeader : SflowSampleHeader)
    (packet : ParsedPacket) (record : RecordTuple) :
    Agrees (processFlowRecord context m sampleHeader packet record)
      (processFlowRecord context m' sampleHeader packet record) := by
  unfold processFlowRecord processRawPacketHeader processExtendedGatewayData parseSampledHeader
    readSflowRawProtocolHeader
  dsimp only
  gcongr

@[gcongr] theorem agrees_processSflowFlowSample (h : m.Extends m') (p n : ℕ) (expanded : Bool) :
    Agrees (processSflowFlowSample context m p n expanded)
      (processSflowFlowSample context m' p n expanded) := by
  unfold processSflowFlowSample
  dsimp only
  gcongr

@[gcongr] theorem agrees_processSflowCounterSample (h : m.Extends m') (p n : ℕ)
    (expanded : Bool) :
    Agrees (processSflowCounterSample m p n expanded)
      (processSflowCounterSample m' p n expanded) := by
  unfold processSflowCounterSample readSflowCounterHeader processCounterRecord
  gcongr

@[gcongr] theorem agrees_unlessRejected {α : Type} {x y : Except Fault α} (h : Agrees x y) :
    Agrees (unlessRejected x) (unlessRejected y) := by
  rcases h with rfl | rfl
  · exact .inl rfl
  · rfl

/-- A sample yields the same in a larger memory. -/
theorem agrees_processSample (h : m.Extends m') (sample : SampleTuple) :
    Agrees (processSample context m sample) (processSample context m' sample) := by
  unfold processSample
  gcongr
  split
  all_goals gcongr

/-! ### Samples on their own -/

/-- What cannot fault gives a list of packets, empty for a rejected sample. -/
theorem unlessRejected_ok {α : Type} {x : Except Fault α} (h : Clean x) :
    ∃ xs, unlessRejected x = .ok xs := by
  cases x with
  | ok a => exact ⟨[a], rfl⟩
  | error fault =>
    obtain rfl : fault = .rejected := h
    exact ⟨[], rfl⟩

/-- A sample is processed to its end, whatever is in it. -/
theorem processSample_ok {sample : SampleTuple}
    (h : m.Readable sample.region.start sample.region.stop) (hhi : sample.region.stop < 2 ^ 31) :
    ∃ packets, processSample context m sample = .ok packets := by
  rw [processSample]
  split
  · exact ⟨[], rfl⟩
  · split
    · exact unlessRejected_ok (processSflowFlowSample_clean h hhi)
    · obtain ⟨units, hunits⟩ := unlessRejected_ok ((@processSflowCounterSample_clean _
        sample.dataBlockStart sample.sampleLength.toNat false) h)
      exact ⟨[], by rw [hunits]; rfl⟩
    · exact unlessRejected_ok (processSflowFlowSample_clean h hhi)
    · exact ⟨[], rfl⟩
    · exact ⟨[], rfl⟩

/-- What a sample yields when nothing but its own data can be read. -/
def yieldsAlone (context : SflowContext) (m : Memory) (sample : SampleTuple) :
    List ParsedPacket :=
  match processSample context (m.window sample.region.start sample.region.stop) sample with
  | .ok packets => packets
  | .error _ => []

/-- A sample yields what it yields alone. -/
theorem processSample_eq {sample : SampleTuple}
    (h : m.Readable sample.region.start sample.region.stop) (hhi : sample.region.stop < 2 ^ 31) :
    processSample context m sample = .ok (yieldsAlone context m sample) := by
  obtain ⟨packets, hpackets⟩ := (@processSample_ok _ context) h.window hhi
  rw [Agrees.eq_of_window (f := fun m => processSample context m sample)
    (fun hextends => agrees_processSample hextends sample) (by rw [hpackets]; exact clean_ok _),
    yieldsAlone, hpackets]

/-- A datagram yields what its samples yield, one after the other. -/
theorem processSamples_eq {samples : List SampleTuple} (h : ∀ sample ∈ samples,
      processSample context m sample = .ok (yieldsAlone context m sample)) :
    processSamples context m samples = .ok (samples.flatMap (yieldsAlone context m)) := by
  have hfold : ∀ handed : List ParsedPacket, samples.foldlM (fun handed sample => do
        let packets ← processSample context m sample
        return handed ++ packets) handed
      = .ok (handed ++ samples.flatMap (yieldsAlone context m)) := by
    induction samples with
    | nil =>
      intro handed
      rw [List.flatMap_nil, List.append_nil]
      rfl
    | cons sample samples ih =>
      intro handed
      rw [List.foldlM_cons, h sample List.mem_cons_self, ok_bind, List.flatMap_cons,
        ← List.append_assoc]
      exact ih (fun sample hmem => h sample (List.mem_cons_of_mem _ hmem)) _
  exact hfold []

/-! ### Every datagram -/

/-- The samples of a datagram are as many as its header says, and follow each other from the
end of the header on. -/
theorem readSflowSamples_spec (h : m.Readable p (p + n)) :
    Clean (readSflowSamples m p n) ∧
      ∀ samples, readSflowSamples m p n = .ok samples →
        ∃ header, readSflowHeader m p n = .ok header ∧ header.originalPayloadLength ≤ 40 ∧
          samples.length = header.datagramSamplesCount.toInt.toNat ∧ samples.length ≤ 256 ∧
          Consecutive 8 (p + header.originalPayloadLength) (p + n)
            (samples.map SampleTuple.region) ∧
          ∀ sample ∈ samples, sample.sampleLength.toNat ≤ 65535 := by
  obtain ⟨hclean, hlength⟩ := readSflowHeader_spec h
  constructor
  · rw [readSflowSamples]
    refine hclean.bind fun header hheader => ?_
    refine (clean_rejectIf _).bind fun _ _ => ?_
    refine (clean_rejectIf _).bind fun _ _ => ?_
    exact getAllSamples_clean h (by omega)
  · intro samples hsamples
    simp only [readSflowSamples, bind_eq_ok_iff, rejectIf_eq_ok_iff] at hsamples
    obtain ⟨header, hheader, _, hpositive, _, hlimit, hsamples⟩ := hsamples
    obtain ⟨hinside, hforty⟩ := hlength header hheader
    obtain ⟨hconsecutive, hbound, hcount⟩ := getAllSamples_spec (by omega) hsamples
    refine ⟨header, hheader, by omega, hcount, ?_, hconsecutive, hbound⟩
    rw [gt_iff_lt, Int32.lt_iff_toInt_lt] at hlimit
    have h256 : (256 : Int32).toInt = 256 := by decide
    omega

/-- The samples of a datagram yield what each of them yields alone. -/
theorem parseSflowV5Packet_of_samples {n start : ℕ} {samples : List SampleTuple}
    (h : m.Readable 0 n) (hread : readSflowSamples m 0 n = .ok samples)
    (hstart : start ≤ 40) (hcount : samples.length ≤ 256)
    (hconsecutive : Consecutive 8 start n (samples.map SampleTuple.region))
    (hbound : ∀ sample ∈ samples, sample.sampleLength.toNat ≤ 65535) :
    parseSflowV5Packet context m 0 n = .ok (samples.flatMap (yieldsAlone context m)) := by
  rw [parseSflowV5Packet, hread]
  refine processSamples_eq fun sample hmem => processSample_eq ?_ ?_
  · exact h.mono (Nat.zero_le _) (hconsecutive.inside (List.mem_map_of_mem hmem)).2
  · -- at most 256 samples of at most 65535 bytes do not reach far
    have hregions : ∀ region ∈ samples.map SampleTuple.region, region.length ≤ 65535 := by
      intro region hregion
      obtain ⟨sample', hmem', rfl⟩ := List.mem_map.mp hregion
      exact hbound sample' hmem'
    have hfar := hconsecutive.stop_le hregions (List.mem_map_of_mem hmem)
    rw [List.length_map] at hfar
    omega

/-- **sFlow parsing is bounded, and samples stand alone.**  In a memory that holds the
datagram and nothing else, every datagram is parsed to its end.  The samples that are
listed are as many as its header says and follow each other behind it, inside the datagram,
with lengths that are not negative, and the packets handed to the core are what the samples
yield one by one, each when nothing but its own data can be read.  Records are laid out
likewise in their parents. -/
theorem sflow_samples_stand_alone (payload : List UInt8) (context : SflowContext) :
    let m := ofBytes payload
    (∃ packets, parseSflowV5Packet context m 0 payload.length = .ok packets) ∧
    (∀ samples, readSflowSamples m 0 payload.length = .ok samples →
      (∃ header, readSflowHeader m 0 payload.length = .ok header ∧
        header.originalPayloadLength ≤ 40 ∧
        samples.length = header.datagramSamplesCount.toInt.toNat ∧ samples.length ≤ 256 ∧
        Consecutive 8 header.originalPayloadLength payload.length
          (samples.map SampleTuple.region)) ∧
      (samples.map SampleTuple.region).Pairwise (fun a b => a.stop ≤ b.start) ∧
      (∀ sample ∈ samples, sample.sampleLength.toNat ≤ 65535 ∧
        sample.region.stop ≤ payload.length) ∧
      parseSflowV5Packet context m 0 payload.length
        = .ok (samples.flatMap (yieldsAlone context m))) ∧
    (∀ count start stop records, getRecords m stop count start = .ok records →
      Consecutive 8 start stop (records.map RecordTuple.region) ∧
      (records.map RecordTuple.region).Pairwise (fun a b => a.stop ≤ b.start) ∧
      ∀ record ∈ records, 0 ≤ record.elementLength.toInt ∧ record.region.stop ≤ stop) ∧
    (∀ count start stop records, getAllCounterRecords m stop count start = .ok records →
      Consecutive 8 start stop (records.map CounterRecordSample.region) ∧
      (records.map CounterRecordSample.region).Pairwise (fun a b => a.stop ≤ b.start) ∧
      ∀ record ∈ records, record.region.stop ≤ stop) := by
  intro m
  have hreadable : m.Readable 0 (0 + payload.length) := by
    rw [Nat.zero_add]
    exact readable_ofBytes payload
  have hapart : ∀ {lo hi regions}, Consecutive 8 lo hi regions →
      regions.Pairwise fun a b => a.stop ≤ b.start :=
    fun hconsecutive => hconsecutive.pairwise.imp fun hle => (Nat.le_add_right _ _).trans hle
  obtain ⟨hclean, hspec⟩ := readSflowSamples_spec hreadable
  rw [Nat.zero_add] at hspec hreadable
  refine ⟨?_, fun samples hread => ?_, fun count start stop records hread => ?_,
    fun count start stop records hread => ?_⟩
  · cases hread : readSflowSamples m 0 payload.length with
    | ok samples =>
      obtain ⟨_, _, hstart, _, hcount, hconsecutive, hbound⟩ := hspec samples hread
      rw [Nat.zero_add] at hconsecutive
      exact ⟨_, parseSflowV5Packet_of_samples hreadable hread hstart hcount hconsecutive hbound⟩
    | error fault =>
      obtain rfl : fault = .rejected := by
        rw [hread] at hclean
        exact hclean
      exact ⟨[], by rw [parseSflowV5Packet, hread]⟩
  · obtain ⟨header, hheader, hstart, hnumber, hcount, hconsecutive, hbound⟩ := hspec samples hread
    rw [Nat.zero_add] at hconsecutive
    refine ⟨⟨header, hheader, hstart, hnumber, hcount, hconsecutive⟩, hapart hconsecutive,
      fun sample hmem => ⟨hbound sample hmem, ?_⟩, ?_⟩
    · exact (hconsecutive.inside (List.mem_map_of_mem hmem)).2
    · exact parseSflowV5Packet_of_samples hreadable hread hstart hcount hconsecutive hbound
  · obtain ⟨hconsecutive, hnonneg⟩ := getRecords_spec hread
    exact ⟨hconsecutive, hapart hconsecutive, fun record hmem =>
      ⟨hnonneg record hmem, (hconsecutive.inside (List.mem_map_of_mem hmem)).2⟩⟩
  · have hconsecutive := getAllCounterRecords_spec hread
    exact ⟨hconsecutive, hapart hconsecutive, fun record hmem =>
      (hconsecutive.inside (List.mem_map_of_mem hmem)).2⟩

/-- A flow sample with the header of a UDP packet between two addresses. -/
def udpFlowSample (source destination : UInt8) : List UInt8 :=
  [0, 0, 0, 1, 0, 0, 0, 84]
    ++ [0, 0, 0, 1, 0, 0, 0, 3, 0, 0, 0, 100, 0, 0, 0, 100, 0, 0, 0, 0, 0, 0, 0, 3, 0, 0, 0, 4,
      0, 0, 0, 1]
    ++ [0, 0, 0, 1, 0, 0, 0, 44, 0, 0, 0, 11, 0, 0, 0, 28, 0, 0, 0, 0, 0, 0, 0, 28]
    ++ [0x45, 0, 0, 28, 0, 0, 0, 0, 64, 17, 0, 0, 10, 0, 0, source, 10, 0, 0, destination,
      0, 53, 0x30, 0x39, 0, 8, 0, 0]

/-- A datagram with two of them. -/
def twoFlowSamples : List UInt8 :=
  [0, 0, 0, 5, 0, 0, 0, 1, 192, 0, 2, 1, 0, 0, 0, 0, 0, 0, 0, 1, 0, 0, 0, 9, 0, 0, 0, 2]
    ++ udpFlowSample 1 2 ++ udpFlowSample 3 4

set_option maxRecDepth 8000 in
/-- Its samples lie at the addresses 36 and 128, and each yields its own packet. -/
theorem sflow_samples_stand_alone_two :
    ∃ samples, readSflowSamples (ofBytes twoFlowSamples) 0 twoFlowSamples.length = .ok samples ∧
      samples.map SampleTuple.region = [⟨36, 84⟩, ⟨128, 84⟩] ∧
      parseSflowV5Packet {} (ofBytes twoFlowSamples) 0 twoFlowSamples.length
        = .ok (samples.flatMap (yieldsAlone {} (ofBytes twoFlowSamples))) ∧
      (samples.flatMap (yieldsAlone {} (ofBytes twoFlowSamples))).map (fun packet =>
        (packet.srcIp, packet.dstIp)) = [(0x0100000a, 0x0200000a), (0x0300000a, 0x0400000a)] :=
  have hsamples := (sflow_samples_stand_alone twoFlowSamples {}).2.1 _ rfl
  ⟨_, rfl, rfl, hsamples.2.2.2, rfl⟩

end FastNetMon
