/-
FastNetMon/IpfixBounds.lean

Where the collector of IPFIX reads.

Templates are read inside their sets.  A field of a record is decoded from its own bytes,
with one exception: for a frame section the parser of packets gets the length that was
noted for the last field that carried its length, which need not be the frame section
itself.  The condition that this length fits into the field is `FrameSectionsFit`.  Main
result: under this condition a datagram is read inside its bounds, and every field inside
its own bytes (`ipfix_stays_inside`).
-/
import FastNetMon.IpfixLoops

namespace FastNetMon

open Memory Procedure

variable {m : Memory} {setLength offset setMaximumLength : ℕ} {currentInaccurateTime : Int64}

/-! ### Templates -/

/-- The templates of a set are read inside the set. -/
theorem readIpfixDataTemplates_clean (h : m.Readable 0 setLength) {fuel : ℕ}
    (hfuel : setLength - offset < fuel) :
    Clean (readIpfixDataTemplates currentInaccurateTime m setLength fuel offset).2 := by
  induction fuel generalizing offset with
  | zero => exact absurd hfuel (Nat.not_lt_zero _)
  | succ fuel ih =>
    have hclean := (@readIpfixDataTemplate_clean _ _ offset currentInaccurateTime) h
    rw [readIpfixDataTemplates]
    split
    · cases hread : readIpfixDataTemplate currentInaccurateTime m setLength offset with
      | error fault =>
        rw [hread] at hclean
        exact hclean
      | ok read =>
        have hnext := (readIpfixDataTemplate_spec hread).2
        exact ih (by omega)
    · exact clean_ok ()

/-- So are the options templates. -/
theorem readIpfixOptionsTemplates_clean (h : m.Readable 0 setLength) {fuel : ℕ}
    (hfuel : setLength - offset < fuel) :
    Clean (readIpfixOptionsTemplates currentInaccurateTime m setLength fuel offset).2 := by
  induction fuel generalizing offset with
  | zero => exact absurd hfuel (Nat.not_lt_zero _)
  | succ fuel ih =>
    have hclean := (@readIpfixOptionsTemplate_clean _ _ offset currentInaccurateTime) h
    rw [readIpfixOptionsTemplates]
    split
    · cases hread : readIpfixOptionsTemplate currentInaccurateTime m setLength offset with
      | error fault =>
        rw [hread] at hclean
        exact hclean
      | ok read =>
        have hnext := (readIpfixOptionsTemplate_spec hread).2
        dsimp only
        split
        · rename_i hpadding
          have hzero := (@areAllPaddingBytesAreZero_clean _ _ read.2 (setLength - read.2)) h (by
              omega)
          cases hread : areAllPaddingBytesAreZero m read.2 (setLength - read.2) with
          | error fault =>
            rw [hread] at hzero
            exact hzero
          | ok zero =>
            cases zero with
            | true => exact clean_ok ()
            | false => exact clean_rejected
        · exact ih (by omega)
    · exact clean_ok ()

/-! ### Fields inside their own bytes -/

/-- The bytes of a field, as they are seen from the field. -/
def fieldMemory (m : Memory) (offset : ℕ) (recordLength : UInt32) : Memory :=
  (m.shift offset).window 0 recordLength.toNat

/-- Each field of a data record is decoded in a memory that holds its own bytes only. -/
def FieldsStayInside (m : Memory) (setMaximumLength : ℕ) :
    List TemplateRecord → (offset : ℕ) → Flow → Prop
  | [], _, _ => True
  | record :: records, offset, flow =>
      match ipfixFieldLength m setMaximumLength record offset flow with
      | .error fault => fault = .rejected
      | .ok (recordLength, flow) =>
          offset + recordLength.toNat ≤ setMaximumLength →
          match ipfixRecordToFlow (fieldMemory m offset recordLength) record.recordType
              recordLength flow with
          | .error _ => False
          | .ok flow =>
              FieldsStayInside m setMaximumLength records (offset + recordLength.toNat) flow

/-- Each field of an options record is decoded in a memory that holds its own bytes only. -/
def OptionsFieldsStayInside (m : Memory) :
    List TemplateRecord → (offset : ℕ) → IpfixOptions → Prop
  | [], _, _ => True
  | record :: records, offset, options =>
      match ipfixOptionsRule record.recordType.toNat with
      | none => OptionsFieldsStayInside m records (offset + record.recordLength.toNat) options
      | some rule =>
          match rule.decode (fieldMemory m offset record.recordLength) record.recordLength.toNat
              options with
          | .error _ => False
          | .ok options =>
              OptionsFieldsStayInside m records (offset + record.recordLength.toNat) options

/-- The length that the parser gets for a frame section fits into the field, unless the
parser gives up before it reads anything.  The encoding and the length are those of the
last field that carried its length. -/
def FrameSectionsFit (m : Memory) (setMaximumLength : ℕ) :
    List TemplateRecord → (offset : ℕ) → VariableLengthEncoding → UInt16 → Prop
  | [], _, _, _ => True
  | record :: records, offset, encoding, length =>
      if record.isVariable then
        match readIpfixVariableLengthField m offset setMaximumLength with
        | .error _ => True
        | .ok info =>
            FrameSectionsFit m setMaximumLength records (offset + info.recordFullLength.toNat)
              info.variableFieldLengthEncoding info.variableFieldLength
      else
        offset + record.recordLength.toNat ≤ setMaximumLength →
          (record.recordType = 315 → encoding ≠ .unknown → 14 ≤ length.toNat →
            encoding.headerLength + length.toNat ≤ record.recordLength.toNat) ∧
          FrameSectionsFit m setMaximumLength records (offset + record.recordLength.toNat)
            encoding length

/-- What is noted about the last field that carried its length. -/
def Flow.noted (flow : Flow) : VariableLengthEncoding × UInt16 :=
  (flow.flowMeta.variableFieldLengthEncoding, flow.flowMeta.variableFieldLength)

/-- A rule that both protocols share notes no length. -/
theorem sharedFieldRule_noted {recordType : ℕ} {rule : FieldRule Flow}
    (h : sharedFieldRule recordType = some rule) (bytes : List UInt8) (flow : Flow) :
    (rule.store bytes flow).noted = flow.noted := by
  rw [sharedFieldRule.eq_def] at h
  split at h <;> cases h <;> rfl

/-- Neither do the rules of IPFIX alone. -/
theorem ipfixFieldRule_noted {recordType : ℕ} {rule : FieldRule Flow}
    (h : ipfixFieldRule recordType = some rule) (bytes : List UInt8) (flow : Flow) :
    (rule.store bytes flow).noted = flow.noted := by
  rw [ipfixFieldRule.eq_def] at h
  split at h
  all_goals first
    | exact sharedFieldRule_noted h bytes flow
    | cases h
      rfl

/-- No field changes what is noted. -/
theorem ipfixRecordToFlow_noted {recordType recordLength : UInt32} {flow flow' : Flow}
    (h : ipfixRecordToFlow m recordType recordLength flow = .ok flow') : flow'.noted = flow.noted := by
  rw [ipfixRecordToFlow] at h
  split at h
  · rw [ipfixFrameSection] at h
    dsimp only at h
    split at h
    · obtain rfl := Except.ok.inj h
      rfl
    · simp only [bind_eq_ok_iff] at h
      obtain ⟨parsed, -, h⟩ := h
      split at h <;> (obtain rfl := pure_eq_ok_iff.mp h; rfl)
  · split at h
    · rename_i rule hrule
      rw [FieldRule.decode] at h
      split at h
      · simp only [bind_eq_ok_iff, pure_eq_ok_iff] at h
        obtain ⟨bytes, -, rfl⟩ := h
        exact ipfixFieldRule_noted hrule bytes flow
      · obtain rfl := Except.ok.inj h
        rfl
    · obtain rfl := Except.ok.inj h
      rfl

/-- The memory of a field is readable over its length. -/
theorem readable_fieldMemory {recordLength : UInt32} {n : ℕ} (h : m.Readable 0 n)
    (hend : offset + recordLength.toNat ≤ n) :
    (fieldMemory m offset recordLength).Readable 0 recordLength.toNat :=
  Memory.Readable.window ((h.shift offset).mono (by omega) (by omega))

/-- The length of a variable field is read inside the set. -/
theorem readIpfixVariableLengthField_clean (h : m.Readable 0 setMaximumLength) :
    Clean (readIpfixVariableLengthField m offset setMaximumLength) := by
  refine (clean_rejectIf _).bind fun _ hfits => ?_
  rw [rejectIf_eq_ok_iff] at hfits
  refine (h.clean_read (Nat.zero_le _) (by omega)).bind fun fieldLength _ =>
    (clean_rejectIf _).bind fun _ _ => Clean.bind ?_ fun _ _ =>
      (clean_rejectIf _).bind fun _ _ => clean_pure _
  rw [variableLengthEncodingInfo]
  split
  · refine (clean_rejectIf _).bind fun _ hfits => ?_
    rw [rejectIf_eq_ok_iff] at hfits
    exact (h.clean_readNtohs (Nat.zero_le _) (by omega)).bind fun _ _ => clean_pure _
  · exact clean_ok _

/-- A field is decoded from its own bytes, if it is not a frame section or the noted length
fits. -/
theorem ipfixRecordToFlow_ok {recordType recordLength : UInt32} {flow : Flow}
    (h : m.Readable 0 recordLength.toNat)
    (hfits : recordType = 315 → flow.noted.1 ≠ .unknown → 14 ≤ flow.noted.2.toNat →
      flow.noted.1.headerLength + flow.noted.2.toNat ≤ recordLength.toNat) :
    ∃ flow', ipfixRecordToFlow m recordType recordLength flow = .ok flow' := by
  rw [ipfixRecordToFlow]
  split
  · rename_i htype
    exact ipfixFrameSection_ok h (hfits htype)
  · split
    · exact FieldRule.decode_ok _ h _
    · exact ⟨_, rfl⟩

/-- **Under the condition on frame sections every field is decoded from its own bytes.** -/
theorem FrameSectionsFit.fieldsStayInside {records : List TemplateRecord} {flow : Flow}
    (h : m.Readable 0 setMaximumLength)
    (hfit : FrameSectionsFit m setMaximumLength records offset flow.noted.1 flow.noted.2) :
    FieldsStayInside m setMaximumLength records offset flow := by
  induction records generalizing offset flow with
  | nil => trivial
  | cons record records ih =>
    rw [FrameSectionsFit] at hfit
    rw [FieldsStayInside, ipfixFieldLength]
    split at hfit
    · rename_i hvariable
      rw [if_pos hvariable]
      have hclean := (@readIpfixVariableLengthField_clean _ offset) h
      cases hinfo : readIpfixVariableLengthField m offset setMaximumLength with
      | error fault =>
        rw [hinfo] at hclean
        exact hclean
      | ok info =>
        rw [hinfo] at hfit
        intro hend
        dsimp only at hfit hend ⊢
        obtain ⟨hlength, -, -⟩ := readIpfixVariableLengthField_spec hinfo
        obtain ⟨flow', hflow⟩ := (@ipfixRecordToFlow_ok _ record.recordType _ { flow with flowMeta
            := { flow.flowMeta with
            variableFieldLengthEncoding := info.variableFieldLengthEncoding
            variableFieldLength := info.variableFieldLength } })
          (readable_fieldMemory h hend) fun _ _ _ => hlength.ge
        have hnoted := ipfixRecordToFlow_noted hflow
        rw [hflow]
        refine ih ?_
        rw [hnoted]
        exact hfit
    · rename_i hfixed
      rw [if_neg hfixed]
      intro hend
      obtain ⟨hsection, hrest⟩ := hfit hend
      obtain ⟨flow', hflow⟩ := ipfixRecordToFlow_ok (readable_fieldMemory h hend) hsection
      rw [hflow]
      refine ih ?_
      rw [ipfixRecordToFlow_noted hflow]
      exact hrest

/-- Where the fields stay inside, the decoding does. -/
theorem FieldsStayInside.clean {records : List TemplateRecord} {flow : Flow}
    (h : FieldsStayInside m setMaximumLength records offset flow) :
    Clean (ipfixFields m setMaximumLength records offset flow) := by
  induction records generalizing offset flow with
  | nil => exact clean_ok _
  | cons record records ih =>
    rw [FieldsStayInside] at h
    rw [ipfixFields]
    cases hfield : ipfixFieldLength m setMaximumLength record offset flow with
    | error fault =>
      rw [hfield] at h
      exact h
    | ok field =>
      rw [hfield] at h
      dsimp only at h
      refine (clean_rejectIf _).bind fun _ hend => ?_
      rw [rejectIf_eq_ok_iff, not_lt] at hend
      have hrest := h hend
      cases hdecode : ipfixRecordToFlow (fieldMemory m offset field.1) record.recordType field.1
          field.2 with
      | error fault =>
        rw [hdecode] at hrest
        exact hrest.elim
      | ok flow' =>
        rw [hdecode] at hrest
        have heq : ipfixRecordToFlow (m.shift offset) record.recordType field.1 field.2
            = .ok flow' := by
          have hagrees : Agrees
              (ipfixRecordToFlow (fieldMemory m offset field.1) record.recordType field.1 field.2)
              (ipfixRecordToFlow (m.shift offset) record.recordType field.1 field.2) :=
            agrees_ipfixRecordToFlow (extends_window _ _ _) _ _ _
          rw [hdecode] at hagrees
          exact hagrees.eq (clean_ok _)
        rw [heq]
        exact ih hrest

/-- The fields of an options record stay inside what is readable. -/
theorem optionsFieldsStayInside {records : List TemplateRecord} {options : IpfixOptions}
    (h : m.Readable 0 (offset + fieldsLength records)) :
    OptionsFieldsStayInside m records offset options := by
  induction records generalizing offset options with
  | nil => trivial
  | cons record records ih =>
    rw [fieldsLength_cons, ← Nat.add_assoc] at h
    rw [OptionsFieldsStayInside]
    split
    · exact ih h
    · rename_i rule _
      obtain ⟨options', hoptions⟩ := rule.decode_ok
        ((@readable_fieldMemory _ _ record.recordLength) h (Nat.le_add_right _ _)) options
      rw [hoptions]
      exact ih h

/-! ### The records that are decoded -/

/-- A record that is decoded: its template, and the bytes that it may take. -/
structure DecodedRecord where
  fieldTemplate : Template
  memory : Memory
  setMaximumLength : ℕ

/-- Every field of the record is decoded from its own bytes. -/
def DecodedRecord.StaysInFields (record : DecodedRecord) : Prop :=
  match record.fieldTemplate.type with
  | .data => ∀ packet, FieldsStayInside record.memory record.setMaximumLength
      record.fieldTemplate.records 0 { packet }
  | .options => ∀ options, OptionsFieldsStayInside record.memory record.fieldTemplate.records
      record.fieldTemplate.optionScopeLength.toNat options
  | .unknown => True

/-- The frame sections of a data record fit. -/
def DecodedRecord.FrameSectionsFit (record : DecodedRecord) : Prop :=
  record.fieldTemplate.type = .data →
    FastNetMon.FrameSectionsFit record.memory record.setMaximumLength
      record.fieldTemplate.records 0 .unknown 0

variable (context : NetflowContext) (timeSec sourceId : UInt32)

/-- The records of a set with variable fields. -/
def decodedVariableRecords (fieldTemplate : Template) (m : Memory) (setLength : ℕ) :
    (fuel : ℕ) → IpfixLoop → CollectorState → List DecodedRecord
  | 0, _, _ => []
  | fuel + 1, loop, s =>
      if loop.flowOffset.toNat < setLength - 4 then
        let setMaximumLength := loop.maximumDataAvailableToRead.toNat
        { fieldTemplate
          memory := recordMemory m ⟨4 + loop.flowOffset.toNat, setMaximumLength⟩
          setMaximumLength } ::
        match ipfixVariableRecord context timeSec fieldTemplate m loop s with
        | (s', .ok (some loop)) => decodedVariableRecords fieldTemplate m setLength fuel loop s'
        | _ => []
      else []

/-- The records of a set of the same length. -/
def decodedFixedRecords (fieldTemplate : Template) (m : Memory) (setLength : ℕ) :
    List DecodedRecord :=
  let totalLength := fieldTemplate.totalLength.toNat
  let numberOfRecords := (setLength - 4) / totalLength
  if fieldTemplate.totalLength = 0 ∨ numberOfRecords > 0x4000 ∨ numberOfRecords = 0 then []
  else (recordRegions totalLength numberOfRecords 4).map fun region =>
    { fieldTemplate, memory := recordMemory m region, setMaximumLength := totalLength }

/-- The records of a set with a known template. -/
def decodedRecordsOfTemplate (fieldTemplate : Template) (m : Memory) (setLength : ℕ)
    (s : CollectorState) : List DecodedRecord :=
  if fieldTemplate.records = [] then []
  else
    match fieldTemplate.type with
    | .data =>
        if fieldTemplate.ipfixVariableLengthElementsUsed then
          decodedVariableRecords context timeSec fieldTemplate m setLength setLength
            { flowOffset := 0, maximumDataAvailableToRead := .ofNat (setLength - 4) } s
        else decodedFixedRecords fieldTemplate m setLength
    | .options =>
        let totalLength := fieldTemplate.totalLength.toNat
        if fieldTemplate.ipfixVariableLengthElementsUsed ∨ 4 + totalLength > setLength then []
        else
          [{ fieldTemplate
             memory := recordMemory m ⟨4, totalLength⟩
             setMaximumLength := totalLength }]
    | .unknown => []

/-- The records of a set. -/
def decodedRecordsOfSet (m : Memory) (setId setLength : UInt16) (s : CollectorState) :
    List DecodedRecord :=
  if setId < 256 ∨ setLength < 4 then []
  else
    match peerFindTemplate s.templates sourceId setId.toUInt32
        context.clientAddressInStringFormat with
    | none => []
    | some fieldTemplate =>
        decodedRecordsOfTemplate context timeSec fieldTemplate m setLength.toNat s

/-- The records of the sets from an offset on. -/
def decodedRecordsOfSets (packet : Memory) (ipfixPacketLength : ℕ) :
    (fuel setSequenceNumber offset : ℕ) → CollectorState → List DecodedRecord
  | 0, _, _, _ => []
  | fuel + 1, setSequenceNumber, offset, s =>
      if setSequenceNumber + 1 > setsPerPacketMaximumNumber then []
      else
        match packet.readNtohs offset, packet.readNtohs (offset + 2) with
        | .ok setId, .ok setLength =>
            if offset + 4 > ipfixPacketLength ∨ offset + setLength.toNat > ipfixPacketLength then []
            else
              decodedRecordsOfSet context timeSec sourceId (packet.shift offset) setId setLength s ++
              match processIpfixSetOfId context timeSec sourceId (packet.shift offset) setId
                  setLength s with
              | (s', .ok ()) =>
                  if offset + setLength.toNat = ipfixPacketLength then []
                  else
                    decodedRecordsOfSets packet ipfixPacketLength fuel (setSequenceNumber + 1)
                      (offset + setLength.toNat) s'
              | (_, .error _) => []
        | _, _ => []

/-- The records that are decoded for a datagram. -/
def decodedRecords (packet : Memory) (udpPacketLength : ℕ) (s : CollectorState) :
    List DecodedRecord :=
  match packet.readNtohs 2, packet.readNtohl 4, packet.readNtohl 12 with
  | .ok ipfixPacketLength, .ok timeSec, .ok sourceId =>
      if udpPacketLength < 16 ∨ udpPacketLength < ipfixPacketLength.toNat then []
      else
        decodedRecordsOfSets context timeSec sourceId packet ipfixPacketLength.toNat
          (setsPerPacketMaximumNumber + 1) 0 16 s
  | _, _, _ => []

/-! ### Procedures that stay inside -/

/-- The procedure neither reads outside nor runs out of steps, from any state. -/
abbrev StaysClean {α : Type} (p : Collect α) : Prop :=
  Keeps (fun _ => True) (· = .rejected) p fun _ => True

/-- What stays clean is clean in every state. -/
theorem StaysClean.run {α : Type} {p : Collect α} (h : StaysClean p) (s : CollectorState) :
    Clean (p s).2 := by
  have hend := (h s trivial).2
  revert hend
  rcases p s with ⟨s', fault | a⟩
  · exact id
  · exact fun _ => trivial

/-- A clean reader stays clean. -/
theorem staysClean_liftM {α : Type} {x : Except Fault α} (h : Clean x) :
    StaysClean (liftM x : Collect α) := by
  refine keeps_liftM (fun _ _ => trivial) fun fault hfault => ?_
  rw [hfault] at h
  exact h

/-- What cannot fail stays clean. -/
theorem staysClean_of_succeeds {α : Type} {p : Collect α} (h : Succeeds p) : StaysClean p :=
  Preserves.keeps_of_succeeds (fun _ _ => ⟨trivial, by split <;> trivial⟩) h

variable {context timeSec sourceId} {t : Template} {s : CollectorState}

/-- A data record whose fields stay inside is decoded inside. -/
theorem staysClean_ipfixDataSetToStore {start : ℕ}
    (h : ∀ packet, FieldsStayInside (recordMemory m ⟨start, setMaximumLength⟩) setMaximumLength
      t.records 0 { packet }) :
    StaysClean (ipfixDataSetToStore context timeSec t setMaximumLength (m.shift start)) := by
  refine Keeps.bind (staysClean_of_succeeds succeeds_freshPacket) fun packet _ =>
    Keeps.bind (staysClean_liftM ?_) fun _ _ =>
      (staysClean_of_succeeds (succeeds_modify _)).bind fun _ _ => keeps_pure trivial
  have hagrees : Agrees
      (ipfixFields (recordMemory m ⟨start, setMaximumLength⟩) setMaximumLength t.records 0 { packet })
      (ipfixFields (m.shift start) setMaximumLength t.records 0 { packet }) :=
    agrees_ipfixFields (extends_window _ _ _) _ _ _ _
  rw [hagrees.eq (h packet).clean]
  exact (h packet).clean

theorem StaysClean.ignoreResult {α : Type} {p : Collect α} (h : StaysClean p) :
    StaysClean (ignoreResult p) := by
  intro s _
  have hclean := h.run s
  rw [FastNetMon.ignoreResult]
  revert hclean
  rcases p s with ⟨s', fault | a⟩
  · rintro rfl
    exact ⟨trivial, trivial⟩
  · exact fun _ => ⟨trivial, trivial⟩

/-- The frame sections of a record fit, so its fields stay inside. -/
theorem DecodedRecord.FrameSectionsFit.staysInFields {region : Region}
    (h : m.Readable 0 setLength) (hend : region.start + region.length ≤ setLength)
    (htype : t.type = .data)
    (hfit : (⟨t, recordMemory m region, region.length⟩ : DecodedRecord).FrameSectionsFit) :
    ∀ packet, FieldsStayInside (recordMemory m region) region.length t.records 0 { packet } := by
  intro packet
  refine FrameSectionsFit.fieldsStayInside ?_ (hfit htype)
  exact readable_recordMemory h (Nat.zero_le _) hend

/-- Fixed records stay inside their set if each fits. -/
theorem decodedFixedRecords_inside (h : m.Readable 0 setLength) (htype : t.type = .data)
    (hfixed : t.ipfixVariableLengthElementsUsed = false) (hheader : 4 ≤ setLength)
    (hfit : ∀ record ∈ decodedFixedRecords t m setLength, record.FrameSectionsFit) :
    Clean (processIpfixRegularDataSet context timeSec t m setLength s).2 ∧
      ∀ record ∈ decodedFixedRecords t m setLength, record.StaysInFields := by
  rw [processIpfixRegularDataSet_fixed hfixed]
  simp only [decodedFixedRecords] at hfit ⊢
  split
  · exact ⟨clean_rejected, by simp⟩
  · rename_i hcut
    rw [if_neg hcut, List.forall_mem_map] at hfit
    have hfields : ∀ region ∈ recordRegions t.totalLength.toNat
        ((setLength - 4) / t.totalLength.toNat) 4, ∀ packet,
        FieldsStayInside (recordMemory m region) t.totalLength.toNat t.records 0 { packet } := by
      intro region hmem
      have hdiv : (setLength - 4) / t.totalLength.toNat * t.totalLength.toNat ≤ setLength - 4 :=
        Nat.div_mul_le_self _ _
      have hinside := ((@consecutive_recordRegions _ _ 4 setLength)
        (by omega)).inside hmem
      have hlength := length_of_mem_recordRegions hmem
      rw [← hlength]
      have hrecord := hfit region hmem
      rw [← hlength] at hrecord
      exact hrecord.staysInFields h hinside.2 htype
    constructor
    · refine StaysClean.run (keeps_forM fun region hmem => StaysClean.ignoreResult ?_) s
      have hlength := length_of_mem_recordRegions hmem
      refine staysClean_ipfixDataSetToStore fun packet => ?_
      have hregion := hfields region hmem packet
      rw [← hlength] at hregion ⊢
      exact hregion
    · rw [List.forall_mem_map]
      intro region hmem
      rw [DecodedRecord.StaysInFields, htype]
      exact hfields region hmem

/-! ### Sets with variable fields -/

/-- A round of the loop stays inside. -/
theorem clean_ipfixVariableRecord {loop : IpfixLoop} (h : m.Readable 0 setLength)
    (hheader : 4 ≤ setLength) (hset : setLength < 2 ^ 32) (hloop : loop.Fits setLength)
    (hfields : ∀ packet, FieldsStayInside
      (recordMemory m ⟨4 + loop.flowOffset.toNat, loop.maximumDataAvailableToRead.toNat⟩)
      loop.maximumDataAvailableToRead.toNat t.records 0 { packet }) :
    Clean (ipfixVariableRecord context timeSec t m loop s).2 := by
  have hrecord := ((@staysClean_ipfixDataSetToStore _ _ context timeSec)
    hfields).run s
  rw [ipfixVariableRecord, bind_run]
  cases hstored : ipfixDataSetToStore context timeSec t loop.maximumDataAvailableToRead.toNat
      (m.shift (4 + loop.flowOffset.toNat)) s with
  | mk s' result =>
    rw [hstored] at hrecord
    cases result with
    | error fault => exact hrecord
    | ok readFlowLength =>
      have hlength := ipfixDataSetToStore_length (congrArg Prod.snd hstored)
      have hadvance := hloop.advance hset hlength.1
      rw [IpfixLoop.Fits] at hadvance
      dsimp only
      split
      · refine StaysClean.run (Keeps.bind (staysClean_liftM ?_) fun _ _ =>
          (staysClean_liftM (clean_rejectIf _)).bind fun _ _ => keeps_pure trivial) s'
        refine areAllPaddingBytesAreZero_clean h ?_
        have hsum : (loop.flowOffset + UInt32.ofNat readFlowLength).toNat
            + (loop.maximumDataAvailableToRead - UInt32.ofNat readFlowLength).toNat
            = setLength - 4 := hadvance
        omega
      · trivial

/-- Records with variable fields stay inside their set if each fits. -/
theorem decodedVariableRecords_inside {fuel : ℕ} {loop : IpfixLoop} (ht : t.IpfixSound)
    (h : m.Readable 0 setLength) (htype : t.type = .data)
    (hvariable : t.ipfixVariableLengthElementsUsed = true) (hheader : 4 ≤ setLength)
    (hset : setLength < 2 ^ 32) (hloop : loop.Fits setLength)
    (hfuel : loop.maximumDataAvailableToRead.toNat < fuel)
    (hfit : ∀ record ∈ decodedVariableRecords context timeSec t m setLength fuel loop s,
      record.FrameSectionsFit) :
    Clean (ipfixVariableRecords context timeSec t m setLength fuel loop s).2 ∧
      ∀ record ∈ decodedVariableRecords context timeSec t m setLength fuel loop s,
        record.StaysInFields := by
  induction fuel generalizing loop s with
  | zero => exact absurd hfuel (Nat.not_lt_zero _)
  | succ fuel ih =>
    rw [decodedVariableRecords] at hfit ⊢
    rw [ipfixVariableRecords]
    split
    · rename_i hinside
      rw [if_pos hinside, List.forall_mem_cons] at hfit
      rw [IpfixLoop.Fits] at hloop
      have hfields := hfit.1.staysInFields h (by dsimp only; omega) htype
      have hround := (@clean_ipfixVariableRecord _ _ context timeSec _ s)
        h hheader hset hloop hfields
      have hhead : (⟨t, recordMemory m ⟨4 + loop.flowOffset.toNat,
          loop.maximumDataAvailableToRead.toNat⟩, loop.maximumDataAvailableToRead.toNat⟩ :
          DecodedRecord).StaysInFields := by
        rw [DecodedRecord.StaysInFields, htype]
        exact hfields
      rw [List.forall_mem_cons, bind_run]
      have hrest := hfit.2
      cases hnext : ipfixVariableRecord context timeSec t m loop s with
      | mk s' result =>
        rw [hnext] at hround hrest
        cases result with
        | error fault => exact ⟨hround, hhead, by simp⟩
        | ok next =>
          cases next with
          | none => exact ⟨trivial, hhead, by simp⟩
          | some loop' =>
            obtain ⟨readFlowLength, hpos, hle, rfl⟩ := ipfixVariableRecord_next ht hvariable hnext
            have hleft := IpfixLoop.advance_left hle
            obtain ⟨hclean, hall⟩ :=
              ih (IpfixLoop.Fits.advance hloop hset hle) (by omega) hrest
            exact ⟨hclean, hhead, hall⟩
    · rename_i hend
      exact ⟨trivial, by simp⟩

/-! ### Sets -/

/-- So do the records of a template of any kind. -/
theorem decodedRecordsOfTemplate_inside (ht : t.IpfixSound) (h : m.Readable 0 setLength)
    (hheader : 4 ≤ setLength) (hset : setLength < 2 ^ 32)
    (hfit : ∀ record ∈ decodedRecordsOfTemplate context timeSec t m setLength s,
      record.FrameSectionsFit) :
    Clean (processIpfixRecords context timeSec t m setLength s).2 ∧
      ∀ record ∈ decodedRecordsOfTemplate context timeSec t m setLength s,
        record.StaysInFields := by
  rw [decodedRecordsOfTemplate] at hfit ⊢
  rw [processIpfixRecords]
  by_cases hempty : t.records = []
  · rw [rejectIf_of hempty, if_pos hempty]
    exact ⟨clean_rejected, by simp⟩
  rw [if_neg hempty] at hfit ⊢
  rw [rejectIf_of_not hempty, liftM_ok_bind]
  cases htype : t.type with
  | unknown => exact ⟨trivial, by simp⟩
  | data =>
    rw [htype] at hfit
    dsimp only at hfit ⊢
    split
    · rename_i hvariable
      rw [if_pos hvariable] at hfit
      rw [processIpfixRegularDataSet, if_pos hvariable]
      refine decodedVariableRecords_inside ht h htype hvariable hheader hset
        (IpfixLoop.fits_start hset) ?_ hfit
      rw [UInt32.toNat_ofNat', Nat.mod_eq_of_lt (by omega)]
      omega
    · rename_i hfixed
      rw [if_neg hfixed] at hfit
      exact decodedFixedRecords_inside h htype (by simpa using hfixed) hheader hfit
  | options =>
    dsimp only
    by_cases hvariable : t.ipfixVariableLengthElementsUsed = true
    · rw [if_pos (.inl hvariable), processIpfixOptionsDataSet, if_pos hvariable]
      exact ⟨trivial, by simp⟩
    rw [processIpfixOptionsDataSet, if_neg hvariable]
    by_cases hshort : 4 + t.totalLength.toNat > setLength
    · rw [if_pos (.inr hshort), rejectIf_of hshort]
      exact ⟨clean_rejected, by simp⟩
    · have htotal := ht.totalLength_eq (by simpa using hvariable)
      rw [if_neg (by tauto), rejectIf_of_not hshort, liftM_ok_bind]
      constructor
      · refine StaysClean.run (staysClean_of_succeeds ?_) s
        refine Succeeds.bind (succeeds_forFields ?_ fun record _ m options hfield => ?_)
          fun options => (succeeds_updateSamplingRate _).bind fun _ =>
            succeeds_updateDeviceFlowTimeouts _
        · rw [shift_shift]
          exact (h.shift _).mono (by omega) (by omega)
        · rw [ipfixOptionsField]
          split
          · exact succeeds_liftM (FieldRule.decode_ok _ hfield _)
          · exact succeeds_pure options
      · rw [List.forall_mem_singleton, DecodedRecord.StaysInFields, htype]
        intro options
        refine optionsFieldsStayInside ?_
        rw [← htotal]
        refine readable_recordMemory h (Nat.zero_le _) ?_
        change 4 + t.totalLength.toNat ≤ setLength
        omega

/-- A set of templates stays inside if the templates are read inside. -/
theorem staysClean_templateSet (h : m.Readable 0 setLength) (templateSetId : UInt16)
    {read : List Template × Except Fault Unit} (hread : 4 ≤ setLength → Clean read.2) :
    StaysClean (do
      rejectIf (setLength < 4)
      let setId ← m.readNtohs 0
      rejectIf (setId ≠ templateSetId)
      read.1.forM fun fieldTemplate => storeTemplate context sourceId fieldTemplate
      read.2 : Collect Unit) := by
  by_cases hheader : setLength < 4
  · rw [rejectIf_of hheader]
    exact staysClean_liftM clean_rejected
  · have hstores : StaysClean
        (read.1.forM fun fieldTemplate => storeTemplate context sourceId fieldTemplate) :=
      staysClean_of_succeeds (keeps_forM fun _ _ => succeeds_modify _)
    rw [rejectIf_of_not hheader, liftM_ok_bind]
    exact (staysClean_liftM (h.clean_readNtohs (Nat.zero_le _) (by omega))).bind fun _ _ =>
      (staysClean_liftM (clean_rejectIf _)).bind fun _ _ => hstores.bind fun _ _ =>
        staysClean_liftM (hread (not_lt.mp hheader))

/-- So do the records of a set. -/
theorem decodedRecordsOfSet_inside {setId setLength : UInt16}
    (hs : s.templates.Every Template.IpfixSound) (h : m.Readable 0 setLength.toNat)
    (hread : m.readNtohs 0 = .ok setId)
    (hfit : ∀ record ∈ decodedRecordsOfSet context timeSec sourceId m setId setLength s,
      record.FrameSectionsFit) :
    Clean (processIpfixSetOfId context timeSec sourceId m setId setLength s).2 ∧
      ∀ record ∈ decodedRecordsOfSet context timeSec sourceId m setId setLength s,
        record.StaysInFields := by
  have hset := setLength.toNat_lt
  rw [decodedRecordsOfSet] at hfit ⊢
  rw [processIpfixSetOfId]
  by_cases hdata : setId = 2
  · subst hdata
    rw [if_pos rfl, if_pos (.inl (by decide))]
    refine ⟨(staysClean_templateSet h 2 fun hheader => ?_).run s, by simp⟩
    exact readIpfixDataTemplates_clean h (by omega)
  rw [if_neg hdata]
  by_cases hoptions : setId = 3
  · subst hoptions
    rw [if_pos rfl, if_pos (.inl (by decide))]
    refine ⟨(staysClean_templateSet h 3 fun hheader => ?_).run s, by simp⟩
    exact readIpfixOptionsTemplates_clean h (by omega)
  rw [if_neg hoptions]
  by_cases hreserved : setId < 256
  · rw [if_pos hreserved, if_pos (.inl hreserved)]
    exact ⟨trivial, by simp⟩
  rw [if_neg hreserved, processIpfixDataSet]
  by_cases hshort : setLength < 4
  · rw [if_pos (.inr hshort), rejectIf_of (by simpa [UInt16.lt_iff_toNat_lt] using hshort)]
    exact ⟨clean_rejected, by simp⟩
  have hheader : ¬ setLength.toNat < 4 := by simpa [UInt16.lt_iff_toNat_lt] using hshort
  rw [if_neg (by tauto)] at hfit ⊢
  rw [rejectIf_of_not hheader, liftM_ok_bind, hread, liftM_ok_bind, bind_of_ok (get_run s)]
  cases hfound : peerFindTemplate s.templates sourceId setId.toUInt32
      context.clientAddressInStringFormat with
  | none => exact ⟨clean_rejected, by simp⟩
  | some t =>
    rw [hfound] at hfit
    exact decodedRecordsOfTemplate_inside (hs _ _ _ _ hfound) h (by omega) (by omega) hfit

/-! ### Datagrams -/

/-- So do the records of all sets, since every set keeps the templates sound. -/
theorem decodedRecordsOfSets_inside {n ipfixPacketLength fuel setSequenceNumber : ℕ}
    (h : m.Readable 0 n) (hlength : ipfixPacketLength ≤ n)
    (hs : s.templates.Every Template.IpfixSound)
    (hnumber : setSequenceNumber ≤ setsPerPacketMaximumNumber)
    (hfuel : setsPerPacketMaximumNumber < fuel + setSequenceNumber)
    (hfit : ∀ record ∈ decodedRecordsOfSets context timeSec sourceId m ipfixPacketLength fuel
      setSequenceNumber offset s, record.FrameSectionsFit) :
    Clean (processIpfixSets context timeSec sourceId m ipfixPacketLength fuel setSequenceNumber
        offset s).2 ∧
      ∀ record ∈ decodedRecordsOfSets context timeSec sourceId m ipfixPacketLength fuel
        setSequenceNumber offset s, record.StaysInFields := by
  induction fuel generalizing setSequenceNumber offset s with
  | zero => omega
  | succ fuel ih =>
    rw [decodedRecordsOfSets] at hfit ⊢
    rw [processIpfixSets]
    by_cases hmany : setSequenceNumber + 1 > setsPerPacketMaximumNumber
    · rw [rejectIf_of hmany, if_pos hmany]
      exact ⟨clean_rejected, by simp⟩
    rw [if_neg hmany] at hfit ⊢
    rw [rejectIf_of_not hmany, liftM_ok_bind, processIpfixSet]
    by_cases hend : offset ≥ ipfixPacketLength
    · rw [rejectIf_of hend]
      refine ⟨clean_rejected, ?_⟩
      split
      · rw [if_pos (.inl (by omega))]
        simp
      · simp
    by_cases hspace : offset + 4 > ipfixPacketLength
    · rw [rejectIf_of_not hend, liftM_ok_bind, rejectIf_of hspace]
      refine ⟨clean_rejected, ?_⟩
      split
      · rw [if_pos (.inl hspace)]
        simp
      · simp
    obtain ⟨setId, hid⟩ := h.readNtohs (p := offset) (Nat.zero_le _) (by omega)
    obtain ⟨setLength, hset⟩ := h.readNtohs (p := offset + 2) (Nat.zero_le _) (by omega)
    rw [rejectIf_of_not hend, liftM_ok_bind, rejectIf_of_not hspace, liftM_ok_bind, hid,
      liftM_ok_bind, hset, liftM_ok_bind]
    rw [hid, hset] at hfit
    dsimp only at hfit ⊢
    by_cases hlong : offset + setLength.toNat > ipfixPacketLength
    · rw [rejectIf_of hlong, if_pos (.inr hlong)]
      exact ⟨clean_rejected, by simp⟩
    rw [if_neg (by omega), List.forall_mem_append] at hfit
    rw [rejectIf_of_not hlong, liftM_ok_bind, if_neg (by omega), List.forall_mem_append,
      bind_assoc, bind_run]
    obtain ⟨hclean, hrecords⟩ := (@decodedRecordsOfSet_inside (m.shift offset) context timeSec
        sourceId _ setId) hs
      ((h.shift offset).mono (by omega) (by omega)) (by rw [readNtohs_shift]; exact hid) hfit.1
    have hs' := ((@ends_processIpfixSetOfId_sound (m.shift offset) context timeSec sourceId setId
        setLength) s hs).1
    have hrest := hfit.2
    cases hrun : processIpfixSetOfId context timeSec sourceId (m.shift offset) setId setLength s with
    | mk s' result =>
      rw [hrun] at hclean hs' hrest
      cases result with
      | error fault => exact ⟨hclean, hrecords, by simp⟩
      | ok u =>
        dsimp only at hrest ⊢
        rw [pure_bind]
        by_cases hlast : offset + setLength.toNat = ipfixPacketLength
        · rw [if_pos hlast, if_pos hlast]
          exact ⟨trivial, hrecords, by simp⟩
        · rw [if_neg hlast] at hrest
          rw [if_neg hlast, if_neg hlast]
          obtain ⟨hcleans, hall⟩ := ih hs' (by omega) (by omega) hrest
          exact ⟨hcleans, hrecords, hall⟩

/-- The datagram is read inside its bounds, and every field of a record that is decoded from
it inside its own bytes. -/
def IpfixStaysInside (context : NetflowContext) (datagram : List UInt8) (s : CollectorState) :
    Prop :=
  Clean (processIpfixPacket context (ofBytes datagram) datagram.length s).2 ∧
    ∀ record ∈ decodedRecords context (ofBytes datagram) datagram.length s, record.StaysInFields

/-- **A datagram is read inside its bounds, and every field inside its own bytes, if the
frame sections of the records fit.** -/
theorem ipfix_stays_inside {s : CollectorState} (hs : IpfixReachable s)
    (context : NetflowContext) (datagram : List UInt8)
    (hfit : ∀ record ∈ decodedRecords context (ofBytes datagram) datagram.length s,
      record.FrameSectionsFit) :
    IpfixStaysInside context datagram s := by
  have h := readable_ofBytes datagram
  rw [IpfixStaysInside, processIpfixPacket]
  rw [decodedRecords] at hfit ⊢
  by_cases hshort : datagram.length < 16
  · rw [rejectIf_of hshort]
    refine ⟨clean_rejected, ?_⟩
    split
    · rw [if_pos (.inl hshort)]
      simp
    · simp
  obtain ⟨ipfixPacketLength, hlength⟩ := h.readNtohs (p := 2) (Nat.zero_le _) (by omega)
  obtain ⟨timeSec, htime⟩ := h.readNtohl (p := 4) (Nat.zero_le _) (by omega)
  obtain ⟨sourceId, hsource⟩ := h.readNtohl (p := 12) (Nat.zero_le _) (by omega)
  rw [hlength, htime, hsource] at hfit ⊢
  rw [rejectIf_of_not hshort, liftM_ok_bind, liftM_ok_bind]
  dsimp only at hfit ⊢
  by_cases hlong : datagram.length < ipfixPacketLength.toNat
  · rw [rejectIf_of hlong, if_pos (.inr hlong)]
    exact ⟨clean_rejected, by simp⟩
  · rw [if_neg (by omega)] at hfit
    rw [rejectIf_of_not hlong, liftM_ok_bind, liftM_ok_bind, liftM_ok_bind, if_neg (by omega)]
    exact decodedRecordsOfSets_inside h (by omega) hs.sound (Nat.zero_le _) (by omega) hfit

/-! ### A frame section behind a name -/

/-- A message with template 256, a name that carries its length and a frame section of
`sectionLength` bytes, and with one record of it, whose name has 14 bytes. -/
def namedFrameSection (sectionLength : UInt8) : List UInt8 :=
  ipfixHeader (51 + sectionLength)
    ++ [0, 2, 0, 16, 1, 0, 0, 2, 0, 82, 255, 255, 1, 59, 0, sectionLength]
    ++ [1, 0, 0, 19 + sectionLength, 14] ++ List.replicate 14 0
    ++ List.replicate sectionLength.toNat 1

/-- A frame of 20 bytes stays inside. -/
theorem longFrameSection_inside : IpfixStaysInside ipfixExporter (namedFrameSection 20) {} := by
  refine ipfix_stays_inside .start ipfixExporter (namedFrameSection 20) ?_
  have hrecords : decodedRecords ipfixExporter (ofBytes (namedFrameSection 20))
      (namedFrameSection 20).length {} = [_] := rfl
  rw [hrecords, List.forall_mem_singleton]
  exact fun _ _ => ⟨fun _ _ _ => by decide, trivial⟩

/-- The parser of a frame section of four bytes reads behind the datagram. -/
theorem shortFrameSection_not_inside :
    (processIpfixPacket ipfixExporter (ofBytes (namedFrameSection 4)) (namedFrameSection 4).length
        {}).2 = .error .outOfBounds ∧ ¬ IpfixStaysInside ipfixExporter (namedFrameSection 4) {} := by
  have houtside : (processIpfixPacket ipfixExporter (ofBytes (namedFrameSection 4))
      (namedFrameSection 4).length {}).2 = .error .outOfBounds := rfl
  exact ⟨houtside, fun hinside => absurd (houtside ▸ hinside.1) (by decide)⟩

end FastNetMon
