/-
FastNetMon/SflowHeaders.lean

The two layouts of the sample headers of sFlow (`libsflow.hpp`).

The compact layout packs the source of a sample into one word, 8 bits of type and 24 of index,
and a port into 2 bits of type and 30 of index; the expanded layout has a word for each part.
Both are read into one accessor.  The helper that takes a source id apart leaves four bits of
the type in the index, and counter samples are read with the helper for ports.  Main result:
the source types for which the layouts mean the same (`unifiedHeaders_agree_iff`).
-/
import FastNetMon.Sflow

namespace FastNetMon

open Memory

/-! ### Packed words -/

/-- Words in network byte order. -/
def networkWords (words : List UInt32) : List UInt8 :=
  words.flatMap fun word => bytes32 (byteSwap32 word)

/-- The word of two parts, with the number of bits of the second one. -/
def packedWord (bits : ℕ) (high low : ℕ) : UInt32 := .ofNat (high * 2 ^ bits + low)

/-- The source of a sample. -/
structure SourceId where
  sourceType : Fin (2 ^ 8)
  index : Fin (2 ^ 24)

/-- A port of a flow sample. -/
structure SflowPort where
  portType : Fin (2 ^ 2)
  index : Fin (2 ^ 30)

/-- The word that holds both. -/
def SourceId.word (sourceId : SourceId) : UInt32 :=
  packedWord 24 sourceId.sourceType sourceId.index

@[inherit_doc SourceId.word]
def SflowPort.word (port : SflowPort) : UInt32 := packedWord 30 port.portType port.index

/-- What the header of a flow sample says. -/
structure FlowSampleFields where
  sampleSequenceNumber : UInt32
  sourceId : SourceId
  samplingRate : UInt32
  samplePool : UInt32
  dropsCount : UInt32
  inputPort : SflowPort
  outputPort : SflowPort
  numberOfFlowRecords : UInt32

/-- What the header of a counter sample says. -/
structure CounterSampleFields where
  sampleSequenceNumber : UInt32
  sourceId : SourceId
  numberOfCounterRecords : UInt32

/-- `sflow_sample_header_t`. -/
def FlowSampleFields.compactHeader (fields : FlowSampleFields) : List UInt8 :=
  networkWords [fields.sampleSequenceNumber, fields.sourceId.word, fields.samplingRate,
    fields.samplePool, fields.dropsCount, fields.inputPort.word, fields.outputPort.word,
    fields.numberOfFlowRecords]

/-- `sflow_sample_expanded_header_t`. -/
def FlowSampleFields.expandedHeader (fields : FlowSampleFields) : List UInt8 :=
  networkWords [fields.sampleSequenceNumber, .ofNat fields.sourceId.sourceType,
    .ofNat fields.sourceId.index, fields.samplingRate, fields.samplePool, fields.dropsCount,
    .ofNat fields.inputPort.portType, .ofNat fields.inputPort.index,
    .ofNat fields.outputPort.portType, .ofNat fields.outputPort.index,
    fields.numberOfFlowRecords]

/-- `sflow_counter_header_t`. -/
def CounterSampleFields.compactHeader (fields : CounterSampleFields) : List UInt8 :=
  networkWords [fields.sampleSequenceNumber, fields.sourceId.word, fields.numberOfCounterRecords]

/-- `sflow_counter_expanded_header_t`. -/
def CounterSampleFields.expandedHeader (fields : CounterSampleFields) : List UInt8 :=
  networkWords [fields.sampleSequenceNumber, .ofNat fields.sourceId.sourceType,
    .ofNat fields.sourceId.index, fields.numberOfCounterRecords]

/-! ### Taking words apart -/

theorem toNat_shiftRight_eq_div (w bits : UInt32) (h : bits.toNat < 32) :
    (w >>> bits).toNat = w.toNat / 2 ^ bits.toNat := by
  rw [UInt32.toNat_shiftRight, Nat.mod_eq_of_lt h, Nat.shiftRight_eq_div_pow]

theorem toNat_and_mask (w mask : UInt32) {bits : ℕ} (h : mask.toNat = 2 ^ bits - 1) :
    (w &&& mask).toNat = w.toNat % 2 ^ bits := by
  rw [UInt32.toNat_and, h, Nat.and_two_pow_sub_one_eq_mod]

/-- The upper two bits and the lower thirty. -/
theorem toNat_split_two_thirty (w : UInt32) :
    (split32bitIntegerBy2And30Bits w).1.toNat = w.toNat / 2 ^ 30 ∧
      (split32bitIntegerBy2And30Bits w).2.toNat = w.toNat % 2 ^ 30 :=
  ⟨toNat_shiftRight_eq_div w 30 (by decide), toNat_and_mask w 0x3fffffff rfl⟩

/-- The second part has 28 bits. -/
theorem toNat_split_eight_twentyFour (w : UInt32) :
    (split32bitIntegerBy8And24Bits w).1.toNat = w.toNat / 2 ^ 24 ∧
      (split32bitIntegerBy8And24Bits w).2.toNat = w.toNat % 2 ^ 28 :=
  ⟨toNat_shiftRight_eq_div w 24 (by decide), toNat_and_mask w 0x0fffffff rfl⟩

/-- A pair of words is known from its numbers. -/
theorem parts_eq_iff (parts : UInt32 × UInt32) {high low : ℕ} (hhigh : high < 2 ^ 32)
    (hlow : low < 2 ^ 32) :
    parts = (.ofNat high, .ofNat low) ↔ parts.1.toNat = high ∧ parts.2.toNat = low := by
  rw [Prod.ext_iff, ← UInt32.toNat_inj, ← UInt32.toNat_inj, UInt32.toNat_ofNat_of_lt' hhigh,
    UInt32.toNat_ofNat_of_lt' hlow]

/-- The word of a source is its type above 24 bits of index. -/
theorem SourceId.toNat_word (sourceId : SourceId) :
    sourceId.word.toNat = sourceId.sourceType * 2 ^ 24 + sourceId.index := by
  have htype := sourceId.sourceType.isLt
  have hindex := sourceId.index.isLt
  rw [SourceId.word, packedWord, UInt32.toNat_ofNat_of_lt']
  show _ < 2 ^ 32
  omega

/-- The word of a port is its type above 30 bits of index. -/
theorem SflowPort.toNat_word (port : SflowPort) :
    port.word.toNat = port.portType * 2 ^ 30 + port.index := by
  have htype := port.portType.isLt
  have hindex := port.index.isLt
  rw [SflowPort.word, packedWord, UInt32.toNat_ofNat_of_lt']
  show _ < 2 ^ 32
  omega

/-- A port is taken apart into its two parts. -/
theorem split_port_word (port : SflowPort) :
    split32bitIntegerBy2And30Bits port.word = (.ofNat port.portType, .ofNat port.index) := by
  have htype := port.portType.isLt
  have hindex := port.index.isLt
  obtain ⟨hhigh, hlow⟩ := toNat_split_two_thirty port.word
  rw [parts_eq_iff _ (by omega) (by omega), hhigh, hlow, port.toNat_word]
  omega

/-- A source is taken apart into its two parts if the low bits of its type are clear. -/
theorem split_sourceId_word_iff (sourceId : SourceId) :
    split32bitIntegerBy8And24Bits sourceId.word
        = (.ofNat sourceId.sourceType, .ofNat sourceId.index) ↔
      sourceId.sourceType.val % 16 = 0 := by
  have htype := sourceId.sourceType.isLt
  have hindex := sourceId.index.isLt
  obtain ⟨hhigh, hlow⟩ := toNat_split_eight_twentyFour sourceId.word
  rw [parts_eq_iff _ (by omega) (by omega), hhigh, hlow, sourceId.toNat_word]
  omega

/-- The helper for ports takes no source apart but those of type 0. -/
theorem split_sourceId_as_port_iff (sourceId : SourceId) :
    split32bitIntegerBy2And30Bits sourceId.word
        = (.ofNat sourceId.sourceType, .ofNat sourceId.index) ↔
      sourceId.sourceType.val = 0 := by
  have htype := sourceId.sourceType.isLt
  have hindex := sourceId.index.isLt
  obtain ⟨hhigh, hlow⟩ := toNat_split_two_thirty sourceId.word
  rw [parts_eq_iff _ (by omega) (by omega), hhigh, hlow, sourceId.toNat_word]
  omega

/-- A word is packed from the parts that the helper for ports gives. -/
theorem packedWord_split_two_thirty (w : UInt32) :
    packedWord 30 (split32bitIntegerBy2And30Bits w).1.toNat
      (split32bitIntegerBy2And30Bits w).2.toNat = w := by
  obtain ⟨hhigh, hlow⟩ := toNat_split_two_thirty w
  have hw := w.toNat_lt
  rw [packedWord, hhigh, hlow, ← UInt32.toNat_inj, UInt32.toNat_ofNat']
  omega

/-- A word is packed from the parts that the helper for sources gives if the bits that are in
both of them are clear. -/
theorem packedWord_split_eight_twentyFour_iff (w : UInt32) :
    packedWord 24 (split32bitIntegerBy8And24Bits w).1.toNat
        (split32bitIntegerBy8And24Bits w).2.toNat = w ↔
      w.toNat / 2 ^ 24 % 16 = 0 := by
  obtain ⟨hhigh, hlow⟩ := toNat_split_eight_twentyFour w
  have hw := w.toNat_lt
  rw [packedWord, hhigh, hlow, ← UInt32.toNat_inj, UInt32.toNat_ofNat']
  omega

/-! ### Reading headers -/

variable {m : Memory} {p dataLength : ℕ}

/-- Each word is read where it was written. -/
theorem readNtohl_networkWords {words : List UInt32} (h : m.Holds p (networkWords words))
    {i : ℕ} {word : UInt32} (hi : words[i]? = some word) :
    m.readNtohl (p + 4 * i) = .ok word := by
  induction words generalizing p i with
  | nil => simp at hi
  | cons first rest ih =>
    rw [networkWords, List.flatMap_cons, holds_append] at h
    cases i with
    | zero =>
      obtain rfl : first = word := by simpa using hi
      exact h.1.readNtohl
    | succ i =>
      have hrest := ih h.2 (i := i) (by simpa using hi)
      rwa [bytes32_length, Nat.add_assoc, Nat.add_comm 4] at hrest

/-- What is read of an expanded header of a flow sample. -/
theorem readSflowSampleHeaderUnified_expanded {fields : FlowSampleFields}
    (h : m.Holds p fields.expandedHeader) (hlength : 44 ≤ dataLength) :
    readSflowSampleHeaderUnified m p dataLength true = .ok
      { sampleSequenceNumber := fields.sampleSequenceNumber
        sourceIdType := .ofNat fields.sourceId.sourceType
        sourceIdIndex := .ofNat fields.sourceId.index
        samplingRate := fields.samplingRate
        samplePool := fields.samplePool
        dropsCount := fields.dropsCount
        inputPortType := .ofNat fields.inputPort.portType
        inputPortIndex := .ofNat fields.inputPort.index
        outputPortType := .ofNat fields.outputPort.portType
        outputPortIndex := .ofNat fields.outputPort.index
        numberOfFlowRecords := fields.numberOfFlowRecords
        originalPayloadLength := 44 } := by
  have hread : ∀ i word, _ = some word → m.readNtohl (p + 4 * i) = .ok word :=
    fun i word => readNtohl_networkWords h
  rw [readSflowSampleHeaderUnified, if_pos rfl, rejectIf_of_not (by omega), ok_bind]
  rw [show m.readNtohl p = _ from hread 0 _ rfl, ok_bind,
    show m.readNtohl (p + 4) = _ from hread 1 _ rfl, ok_bind,
    show m.readNtohl (p + 8) = _ from hread 2 _ rfl, ok_bind,
    show m.readNtohl (p + 12) = _ from hread 3 _ rfl, ok_bind,
    show m.readNtohl (p + 16) = _ from hread 4 _ rfl, ok_bind,
    show m.readNtohl (p + 20) = _ from hread 5 _ rfl, ok_bind,
    show m.readNtohl (p + 24) = _ from hread 6 _ rfl, ok_bind,
    show m.readNtohl (p + 28) = _ from hread 7 _ rfl, ok_bind,
    show m.readNtohl (p + 32) = _ from hread 8 _ rfl, ok_bind,
    show m.readNtohl (p + 36) = _ from hread 9 _ rfl, ok_bind,
    show m.readNtohl (p + 40) = _ from hread 10 _ rfl, ok_bind]
  rfl

/-- What is read of a compact header of a flow sample. -/
theorem readSflowSampleHeaderUnified_compact {fields : FlowSampleFields}
    (h : m.Holds p fields.compactHeader) (hlength : 32 ≤ dataLength) :
    readSflowSampleHeaderUnified m p dataLength false = .ok
      { sampleSequenceNumber := fields.sampleSequenceNumber
        sourceIdType := (split32bitIntegerBy8And24Bits fields.sourceId.word).1
        sourceIdIndex := (split32bitIntegerBy8And24Bits fields.sourceId.word).2
        samplingRate := fields.samplingRate
        samplePool := fields.samplePool
        dropsCount := fields.dropsCount
        inputPortType := .ofNat fields.inputPort.portType
        inputPortIndex := .ofNat fields.inputPort.index
        outputPortType := .ofNat fields.outputPort.portType
        outputPortIndex := .ofNat fields.outputPort.index
        numberOfFlowRecords := fields.numberOfFlowRecords
        originalPayloadLength := 32 } := by
  have hread : ∀ i word, _ = some word → m.readNtohl (p + 4 * i) = .ok word :=
    fun i word => readNtohl_networkWords h
  rw [readSflowSampleHeaderUnified, if_neg Bool.false_ne_true, rejectIf_of_not (by omega), ok_bind]
  rw [show m.readNtohl p = _ from hread 0 _ rfl, ok_bind,
    show m.readNtohl (p + 4) = _ from hread 1 _ rfl, ok_bind,
    show m.readNtohl (p + 8) = _ from hread 2 _ rfl, ok_bind,
    show m.readNtohl (p + 12) = _ from hread 3 _ rfl, ok_bind,
    show m.readNtohl (p + 16) = _ from hread 4 _ rfl, ok_bind,
    show m.readNtohl (p + 20) = _ from hread 5 _ rfl, ok_bind,
    show m.readNtohl (p + 24) = _ from hread 6 _ rfl, ok_bind,
    show m.readNtohl (p + 28) = _ from hread 7 _ rfl, ok_bind,
    split_port_word, split_port_word]
  rfl

/-- What is read of an expanded header of a counter sample. -/
theorem readSflowCounterHeader_expanded {fields : CounterSampleFields}
    (h : m.Holds p fields.expandedHeader) (hlength : 16 ≤ dataLength) :
    readSflowCounterHeader m p dataLength true = .ok
      { sampleSequenceNumber := fields.sampleSequenceNumber
        sourceIdType := .ofNat fields.sourceId.sourceType
        sourceIdIndex := .ofNat fields.sourceId.index
        numberOfCounterRecords := fields.numberOfCounterRecords
        originalPayloadLength := 16 } := by
  have hread : ∀ i word, _ = some word → m.readNtohl (p + 4 * i) = .ok word :=
    fun i word => readNtohl_networkWords h
  rw [readSflowCounterHeader, if_pos rfl, rejectIf_of_not (by omega), ok_bind]
  rw [show m.readNtohl p = _ from hread 0 _ rfl, ok_bind,
    show m.readNtohl (p + 4) = _ from hread 1 _ rfl, ok_bind,
    show m.readNtohl (p + 8) = _ from hread 2 _ rfl, ok_bind,
    show m.readNtohl (p + 12) = _ from hread 3 _ rfl, ok_bind]
  rfl

/-- What is read of a compact header of a counter sample. -/
theorem readSflowCounterHeader_compact {fields : CounterSampleFields}
    (h : m.Holds p fields.compactHeader) (hlength : 12 ≤ dataLength) :
    readSflowCounterHeader m p dataLength false = .ok
      { sampleSequenceNumber := fields.sampleSequenceNumber
        sourceIdType := (split32bitIntegerBy2And30Bits fields.sourceId.word).1
        sourceIdIndex := (split32bitIntegerBy2And30Bits fields.sourceId.word).2
        numberOfCounterRecords := fields.numberOfCounterRecords
        originalPayloadLength := 12 } := by
  have hread : ∀ i word, _ = some word → m.readNtohl (p + 4 * i) = .ok word :=
    fun i word => readNtohl_networkWords h
  rw [readSflowCounterHeader, if_neg Bool.false_ne_true, rejectIf_of_not (by omega), ok_bind]
  rw [show m.readNtohl p = _ from hread 0 _ rfl, ok_bind,
    show m.readNtohl (p + 4) = _ from hread 1 _ rfl, ok_bind,
    show m.readNtohl (p + 8) = _ from hread 2 _ rfl, ok_bind]
  rfl

/-! ### Agreement -/

/-- Two accessors of flow samples say the same, apart from the length of the header. -/
def SameSampleHeader (header header' : Except Fault SflowSampleHeader) : Prop :=
  ∃ h h', header = .ok h ∧ header' = .ok h' ∧
    { h with originalPayloadLength := 0 } = { h' with originalPayloadLength := 0 }

/-- Two accessors of counter samples say the same, apart from the length of the header. -/
def SameCounterHeader (header header' : Except Fault SflowCounterHeader) : Prop :=
  ∃ h h', header = .ok h ∧ header' = .ok h' ∧
    { h with originalPayloadLength := 0 } = { h' with originalPayloadLength := 0 }

variable {m' : Memory} {p' dataLength' : ℕ}

/-- The two headers of a flow sample agree exactly if the type of the source is a multiple of 16. -/
theorem sampleHeaders_agree_iff {fields : FlowSampleFields}
    (h : m.Holds p fields.compactHeader) (hlength : 32 ≤ dataLength)
    (h' : m'.Holds p' fields.expandedHeader) (hlength' : 44 ≤ dataLength') :
    SameSampleHeader (readSflowSampleHeaderUnified m p dataLength false)
        (readSflowSampleHeaderUnified m' p' dataLength' true) ↔
      fields.sourceId.sourceType.val % 16 = 0 := by
  rw [← split_sourceId_word_iff, Prod.ext_iff, SameSampleHeader,
    readSflowSampleHeaderUnified_compact h hlength,
    readSflowSampleHeaderUnified_expanded h' hlength']
  constructor
  · rintro ⟨_, _, ⟨⟩, ⟨⟩, hsame⟩
    rw [SflowSampleHeader.mk.injEq] at hsame
    exact ⟨hsame.2.1, hsame.2.2.1⟩
  · rintro ⟨htype, hindex⟩
    exact ⟨_, _, rfl, rfl, by rw [htype, hindex]⟩

/-- Those of a counter sample agree exactly if the type of the source is zero. -/
theorem counterHeaders_agree_iff {fields : CounterSampleFields}
    (h : m.Holds p fields.compactHeader) (hlength : 12 ≤ dataLength)
    (h' : m'.Holds p' fields.expandedHeader) (hlength' : 16 ≤ dataLength') :
    SameCounterHeader (readSflowCounterHeader m p dataLength false)
        (readSflowCounterHeader m' p' dataLength' true) ↔
      fields.sourceId.sourceType.val = 0 := by
  rw [← split_sourceId_as_port_iff, Prod.ext_iff, SameCounterHeader,
    readSflowCounterHeader_compact h hlength, readSflowCounterHeader_expanded h' hlength']
  constructor
  · rintro ⟨_, _, ⟨⟩, ⟨⟩, hsame⟩
    rw [SflowCounterHeader.mk.injEq] at hsame
    exact ⟨hsame.2.1, hsame.2.2.1⟩
  · rintro ⟨htype, hindex⟩
    exact ⟨_, _, rfl, rfl, by rw [htype, hindex]⟩

/-- **Where compact and expanded headers mean the same.**  Headers of flow samples agree
exactly for source types that are a multiple of 16, headers of counter samples for type 0
only; every word is packed from its parts of 2 and 30 bits, and from those of 8 and 24 bits
exactly if the low four of the 8 bits are clear. -/
theorem unifiedHeaders_agree_iff (fields : FlowSampleFields) (counters : CounterSampleFields)
    (m m' : Memory) (p p' dataLength dataLength' : ℕ) (w : UInt32) :
    (m.Holds p fields.compactHeader → 32 ≤ dataLength →
      m'.Holds p' fields.expandedHeader → 44 ≤ dataLength' →
      (SameSampleHeader (readSflowSampleHeaderUnified m p dataLength false)
          (readSflowSampleHeaderUnified m' p' dataLength' true) ↔
        fields.sourceId.sourceType.val % 16 = 0)) ∧
    (m.Holds p counters.compactHeader → 12 ≤ dataLength →
      m'.Holds p' counters.expandedHeader → 16 ≤ dataLength' →
      (SameCounterHeader (readSflowCounterHeader m p dataLength false)
          (readSflowCounterHeader m' p' dataLength' true) ↔
        counters.sourceId.sourceType.val = 0)) ∧
    packedWord 30 (split32bitIntegerBy2And30Bits w).1.toNat
      (split32bitIntegerBy2And30Bits w).2.toNat = w ∧
    (packedWord 24 (split32bitIntegerBy8And24Bits w).1.toNat
        (split32bitIntegerBy8And24Bits w).2.toNat = w ↔
      w.toNat / 2 ^ 24 % 16 = 0) :=
  ⟨fun h hlength h' hlength' => sampleHeaders_agree_iff h hlength h' hlength',
    fun h hlength h' hlength' => counterHeaders_agree_iff h hlength h' hlength',
    packedWord_split_two_thirty w, packedWord_split_eight_twentyFour_iff w⟩

/-- A sample of interface 3 that is named by its VLAN, source type 1. -/
def vlanSample : FlowSampleFields where
  sampleSequenceNumber := 1
  sourceId := ⟨1, 3⟩
  samplingRate := 1000
  samplePool := 1000
  dropsCount := 0
  inputPort := ⟨0, 3⟩
  outputPort := ⟨0, 4⟩
  numberOfFlowRecords := 1

/-- The counters of the same source. -/
def vlanCounters : CounterSampleFields where
  sampleSequenceNumber := 2
  sourceId := ⟨1, 3⟩
  numberOfCounterRecords := 1

theorem unifiedHeaders_agree_iff_vlanSample :
    ¬ SameSampleHeader
        (readSflowSampleHeaderUnified (ofBytes vlanSample.compactHeader) 0 32 false)
        (readSflowSampleHeaderUnified (ofBytes vlanSample.expandedHeader) 0 44 true) ∧
      ¬ SameCounterHeader
        (readSflowCounterHeader (ofBytes vlanCounters.compactHeader) 0 12 false)
        (readSflowCounterHeader (ofBytes vlanCounters.expandedHeader) 0 16 true) := by
  rw [(unifiedHeaders_agree_iff vlanSample vlanCounters _ _ 0 0 32 44 0).1 (holds_ofBytes _)
    le_rfl (holds_ofBytes _) le_rfl, (unifiedHeaders_agree_iff vlanSample vlanCounters _ _ 0 0
    12 16 0).2.1 (holds_ofBytes _) le_rfl (holds_ofBytes _) le_rfl]
  decide

/-- The index that is read from the compact header of the sample is not that of the interface. -/
theorem compactHeader_differs_from_expanded :
    ¬ ∀ (fields : FlowSampleFields) (m m' : Memory) (p p' dataLength dataLength' : ℕ),
      m.Holds p fields.compactHeader → 32 ≤ dataLength →
      m'.Holds p' fields.expandedHeader → 44 ≤ dataLength' →
      SameSampleHeader (readSflowSampleHeaderUnified m p dataLength false)
        (readSflowSampleHeaderUnified m' p' dataLength' true) := by
  intro hsame
  have h := hsame vlanSample _ _ 0 0 32 44 (holds_ofBytes _) le_rfl (holds_ofBytes _) le_rfl
  have htype := (sampleHeaders_agree_iff (holds_ofBytes _) le_rfl (holds_ofBytes _) le_rfl).mp h
  exact absurd htype (by decide)

end FastNetMon
