/-
FastNetMon/IpfixStore.lean

The templates that the collector of IPFIX keeps.

The two readers of templates move forward with every template, so their loops end.  They
establish what the decoding of data relies on (`Template.IpfixSound`): a template knows
whether one of its fields carries its own length, and if none does, the lengths add up to
the total length.  No datagram breaks this, whatever the memory behind it holds
(`IpfixReachable.sound`).
-/
import FastNetMon.Ipfix
import FastNetMon.NetflowCollectorBounds

namespace FastNetMon

open Memory Procedure

/-! ### Sound templates -/

/-- The lengths of a template are those of its parts. -/
structure Template.IpfixSound (t : Template) : Prop where
  variable_eq : t.ipfixVariableLengthElementsUsed = t.records.any TemplateRecord.isVariable
  totalLength_eq : t.ipfixVariableLengthElementsUsed = false →
    t.totalLength.toNat = t.optionScopeLength.toNat + fieldsLength t.records
  recordLength_le : ∀ record ∈ t.records, record.recordLength.toNat ≤ 65535

variable {m : Memory} {setLength offset : ℕ} {currentInaccurateTime : Int64}

/-- A field specifier takes at least four bytes of the set, and has a length of 16 bits. -/
theorem readFieldSpecifier_spec {field : TemplateRecord × ℕ}
    (h : readFieldSpecifier m setLength offset = .ok field) :
    field.1.recordLength.toNat ≤ 65535 ∧ offset + 4 ≤ field.2 ∧ field.2 ≤ setLength := by
  simp only [readFieldSpecifier, bind_eq_ok_iff, rejectIf_eq_ok_iff] at h
  obtain ⟨-, hfits, recordType, -, recordLength, -, h⟩ := h
  have hlt := recordLength.toNat_lt
  split at h
  · simp only [bind_eq_ok_iff, rejectIf_eq_ok_iff, pure_eq_ok_iff] at h
    obtain ⟨-, hfits, enterpriseNumber, -, rfl⟩ := h
    exact ⟨by simp only [UInt16.toNat_toUInt32]; omega, by dsimp only; omega, by dsimp only; omega⟩
  · obtain rfl := pure_eq_ok_iff.mp h
    exact ⟨by simp only [UInt16.toNat_toUInt32]; omega, le_rfl, by dsimp only; omega⟩

/-- There are as many fields as the template says. -/
theorem readFieldSpecifiers_spec {fieldCount : ℕ} {fields : List TemplateRecord × ℕ}
    (h : readFieldSpecifiers m setLength fieldCount offset = .ok fields) :
    fields.1.length = fieldCount ∧ offset ≤ fields.2 ∧
      ∀ record ∈ fields.1, record.recordLength.toNat ≤ 65535 := by
  induction fieldCount generalizing offset fields with
  | zero =>
    obtain rfl : ([], offset) = fields := by simpa [readFieldSpecifiers] using h
    simp
  | succ fieldCount ih =>
    simp only [readFieldSpecifiers, bind_eq_ok_iff, pure_eq_ok_iff] at h
    obtain ⟨field, hfield, rest, hrest, rfl⟩ := h
    obtain ⟨hle, hnext, -⟩ := readFieldSpecifier_spec hfield
    obtain ⟨hlength, hoffset, hles⟩ := ih hrest
    exact ⟨by rw [List.length_cons, hlength], by dsimp only; omega,
      List.forall_mem_cons.mpr ⟨hle, hles⟩⟩

/-- There are as many scope fields as the template says. -/
theorem readScopeFields_spec {scopeFieldCount : ℕ} {scopes : List UInt32 × ℕ}
    (h : readScopeFields m setLength scopeFieldCount offset = .ok scopes) :
    scopes.1.length = scopeFieldCount ∧ offset ≤ scopes.2 ∧
      ∀ size ∈ scopes.1, size.toNat ≤ 65535 := by
  induction scopeFieldCount generalizing offset scopes with
  | zero =>
    obtain rfl : ([], offset) = scopes := by simpa [readScopeFields] using h
    simp
  | succ scopeFieldCount ih =>
    simp only [readScopeFields, bind_eq_ok_iff, pure_eq_ok_iff] at h
    obtain ⟨-, -, size, -, rest, hrest, rfl⟩ := h
    obtain ⟨hlength, hoffset, hles⟩ := ih hrest
    have hlt := size.toNat_lt
    exact ⟨by rw [List.length_cons, hlength], by dsimp only; omega,
      List.forall_mem_cons.mpr ⟨by rw [UInt16.toNat_toUInt32]; omega, hles⟩⟩

/-- The sum of the lengths of at most 65535 fields is computed without wrapping. -/
theorem totalSize_fields {records : List TemplateRecord} (hlength : records.length ≤ 65535)
    (hle : ∀ record ∈ records, record.recordLength.toNat ≤ 65535) :
    (totalSize (records.map TemplateRecord.recordLength)).toNat = fieldsLength records := by
  have hsum := (@sum_toNat_le (records.map TemplateRecord.recordLength)) (by simpa using hle)
  rw [List.length_map] at hsum
  rw [totalSize_toNat, List.map_map, Function.comp_def, fieldsLength]
  calc _ ≤ records.length * 65535 := hsum
    _ ≤ 65535 * 65535 := Nat.mul_le_mul_right _ hlength
    _ < 2 ^ 32 := by norm_num

/-- Without variable fields, all fields count for the length of a record. -/
theorem takeWhile_not_isVariable {records : List TemplateRecord}
    (h : records.any TemplateRecord.isVariable = false) :
    records.takeWhile (fun record => !record.isVariable) = records := by
  rw [List.takeWhile_eq_self_iff]
  intro record hmem
  rw [List.any_eq_false] at h
  simpa using h record hmem

/-- What is read as a data template is sound, and is followed by the next one. -/
theorem readIpfixDataTemplate_spec {read : Template × ℕ}
    (h : readIpfixDataTemplate currentInaccurateTime m setLength offset = .ok read) :
    read.1.IpfixSound ∧ offset + 4 ≤ read.2 := by
  simp only [readIpfixDataTemplate, bind_eq_ok_iff, pure_eq_ok_iff] at h
  obtain ⟨-, -, templateId, -, recordCount, -, fields, hfields, rfl⟩ := h
  obtain ⟨hlength, hoffset, hle⟩ := readFieldSpecifiers_spec hfields
  have hcount := recordCount.toNat_lt
  refine ⟨{ variable_eq := rfl, totalLength_eq := fun hfixed => ?_, recordLength_le := hle }, hoffset⟩
  dsimp only at hfixed ⊢
  rw [takeWhile_not_isVariable hfixed, totalSize_fields (by omega) hle]
  simp

/-- The same for a template of options. -/
theorem readIpfixOptionsTemplate_spec {read : Template × ℕ}
    (h : readIpfixOptionsTemplate currentInaccurateTime m setLength offset = .ok read) :
    read.1.IpfixSound ∧ offset + 6 ≤ read.2 := by
  simp only [readIpfixOptionsTemplate, bind_eq_ok_iff, pure_eq_ok_iff, rejectIf_eq_ok_iff] at h
  obtain ⟨-, -, templateId, -, fieldCount, -, scopeFieldCount, -, -, -, -, hscope, scopes, hscopes,
    fields, hfields, rfl⟩ := h
  obtain ⟨hscopesLength, hscopesOffset, hscopesLe⟩ := readScopeFields_spec hscopes
  obtain ⟨hlength, hoffset, hle⟩ := readFieldSpecifiers_spec hfields
  have hcount := fieldCount.toNat_lt
  have hnormal : (fieldCount - scopeFieldCount).toNat + scopeFieldCount.toNat = fieldCount.toNat := by
    rw [UInt16.toNat_sub_of_le _ _ (by simpa using hscope)]
    have hle : scopeFieldCount.toNat ≤ fieldCount.toNat := by
      simpa [UInt16.lt_iff_toNat_lt] using hscope
    omega
  have hscopesSum := sum_toNat_le hscopesLe
  have hfieldsSum := (@sum_toNat_le (fields.1.map TemplateRecord.recordLength))
    (by simpa using hle)
  rw [List.length_map, List.map_map, Function.comp_def] at hfieldsSum
  have hscopesTotal := (@totalSize_toNat scopes.1) (by omega)
  have hfieldsTotal := (@totalSize_fields fields.1) (by omega) hle
  refine ⟨{ variable_eq := rfl, totalLength_eq := fun _ => ?_, recordLength_le := hle }, ?_⟩
  · dsimp only
    rw [UInt32.toNat_add, hscopesTotal, hfieldsTotal, Nat.mod_eq_of_lt, Nat.add_comm]
    rw [fieldsLength]
    omega
  · dsimp only
    omega

/-! ### Templates inside their set -/

/-- A field specifier is read inside the set. -/
theorem readFieldSpecifier_clean (h : m.Readable 0 setLength) :
    Clean (readFieldSpecifier m setLength offset) := by
  refine (clean_rejectIf _).bind fun _ hfits => ?_
  rw [rejectIf_eq_ok_iff] at hfits
  refine (h.clean_readNtohs (Nat.zero_le _) (by omega)).bind fun recordType _ =>
    (h.clean_readNtohs (Nat.zero_le _) (by omega)).bind fun recordLength _ => ?_
  dsimp only
  split
  · refine (clean_rejectIf _).bind fun _ hfits => ?_
    rw [rejectIf_eq_ok_iff] at hfits
    exact (h.clean_readNtohl (Nat.zero_le _) (by omega)).bind fun _ _ => clean_pure _
  · exact clean_pure _

/-- So are all of them. -/
theorem readFieldSpecifiers_clean (h : m.Readable 0 setLength) (fieldCount : ℕ) :
    Clean (readFieldSpecifiers m setLength fieldCount offset) := by
  induction fieldCount generalizing offset with
  | zero => exact clean_ok _
  | succ fieldCount ih =>
    exact (readFieldSpecifier_clean h).bind fun _ _ => ih.bind fun _ _ => clean_pure _

theorem readScopeFields_clean (h : m.Readable 0 setLength) (scopeFieldCount : ℕ) :
    Clean (readScopeFields m setLength scopeFieldCount offset) := by
  induction scopeFieldCount generalizing offset with
  | zero => exact clean_ok _
  | succ scopeFieldCount ih =>
    refine (clean_rejectIf _).bind fun _ hfits => ?_
    rw [rejectIf_eq_ok_iff] at hfits
    exact (h.clean_readNtohs (Nat.zero_le _) (by omega)).bind fun _ _ =>
      ih.bind fun _ _ => clean_pure _

/-- A template is read inside its set. -/
theorem readIpfixDataTemplate_clean (h : m.Readable 0 setLength) :
    Clean (readIpfixDataTemplate currentInaccurateTime m setLength offset) := by
  refine (clean_rejectIf _).bind fun _ hfits => ?_
  rw [rejectIf_eq_ok_iff] at hfits
  exact (h.clean_readNtohs (Nat.zero_le _) (by omega)).bind fun _ _ =>
    (h.clean_readNtohs (Nat.zero_le _) (by omega)).bind fun _ _ =>
      (readFieldSpecifiers_clean h _).bind fun _ _ => clean_pure _

theorem readIpfixOptionsTemplate_clean (h : m.Readable 0 setLength) :
    Clean (readIpfixOptionsTemplate currentInaccurateTime m setLength offset) := by
  refine (clean_rejectIf _).bind fun _ hfits => ?_
  rw [rejectIf_eq_ok_iff] at hfits
  exact (h.clean_readNtohs (Nat.zero_le _) (by omega)).bind fun _ _ =>
    (h.clean_readNtohs (Nat.zero_le _) (by omega)).bind fun _ _ =>
      (h.clean_readNtohs (Nat.zero_le _) (by omega)).bind fun _ _ =>
        (clean_rejectIf _).bind fun _ _ => (clean_rejectIf _).bind fun _ _ =>
          (readScopeFields_clean h _).bind fun _ _ =>
            (readFieldSpecifiers_clean h _).bind fun _ _ => clean_pure _

/-- Padding inside the set is read inside it. -/
theorem areAllPaddingBytesAreZero_clean {p paddingLength : ℕ} (h : m.Readable 0 setLength)
    (hend : p + paddingLength ≤ setLength) :
    Clean (areAllPaddingBytesAreZero m p paddingLength) := by
  induction paddingLength generalizing p with
  | zero => exact clean_ok _
  | succ paddingLength ih =>
    refine (h.clean_read (Nat.zero_le _) (by omega)).bind fun paddingByte _ => ?_
    split
    · exact clean_pure _
    · exact ih (by omega)

/-! ### Templates in a larger memory -/

variable {m' : Memory}

@[gcongr] theorem agrees_readFieldSpecifier (h : m.Extends m') (setLength offset : ℕ) :
    Agrees (readFieldSpecifier m setLength offset) (readFieldSpecifier m' setLength offset) := by
  unfold readFieldSpecifier
  dsimp only
  gcongr

@[gcongr] theorem agrees_readFieldSpecifiers (h : m.Extends m') (setLength fieldCount offset : ℕ) :
    Agrees (readFieldSpecifiers m setLength fieldCount offset)
      (readFieldSpecifiers m' setLength fieldCount offset) := by
  induction fieldCount generalizing offset with
  | zero => rfl
  | succ fieldCount ih =>
    unfold readFieldSpecifiers
    gcongr with field
    obtain ⟨record, next⟩ := field
    exact (ih next).bind fun _ => by rfl

@[gcongr] theorem agrees_readScopeFields (h : m.Extends m')
    (setLength scopeFieldCount offset : ℕ) :
    Agrees (readScopeFields m setLength scopeFieldCount offset)
      (readScopeFields m' setLength scopeFieldCount offset) := by
  induction scopeFieldCount generalizing offset with
  | zero => rfl
  | succ scopeFieldCount ih =>
    unfold readScopeFields
    gcongr
    apply ih

@[gcongr] theorem agrees_readIpfixDataTemplate (h : m.Extends m') (setLength offset : ℕ) :
    Agrees (readIpfixDataTemplate currentInaccurateTime m setLength offset)
      (readIpfixDataTemplate currentInaccurateTime m' setLength offset) := by
  unfold readIpfixDataTemplate
  dsimp only
  gcongr

@[gcongr] theorem agrees_readIpfixOptionsTemplate (h : m.Extends m') (setLength offset : ℕ) :
    Agrees (readIpfixOptionsTemplate currentInaccurateTime m setLength offset)
      (readIpfixOptionsTemplate currentInaccurateTime m' setLength offset) := by
  unfold readIpfixOptionsTemplate
  dsimp only
  gcongr

@[gcongr] theorem agrees_areAllPaddingBytesAreZero (h : m.Extends m') (p paddingLength : ℕ) :
    Agrees (areAllPaddingBytesAreZero m p paddingLength)
      (areAllPaddingBytesAreZero m' p paddingLength) := by
  induction paddingLength generalizing p with
  | zero => rfl
  | succ paddingLength ih =>
    unfold areAllPaddingBytesAreZero
    gcongr
    apply ih

/-! ### Enough steps -/

theorem readNtohs_ne_outOfFuel (m : Memory) (p : ℕ) : m.readNtohs p ≠ .error .outOfFuel :=
  bind_ne_outOfFuel (read16_ne_outOfFuel m p) fun _ _ => (clean_pure _).ne_outOfFuel

theorem readNtohl_ne_outOfFuel (m : Memory) (p : ℕ) : m.readNtohl p ≠ .error .outOfFuel :=
  (agrees_readNtohl (extends_padded m) p).ne_outOfFuel
    ((readable_padded m p (p + 4)).clean_readNtohl le_rfl le_rfl).ne_outOfFuel

/-- Readers without loops that need fuel do not run out of it: they agree with themselves in a
memory that is readable everywhere. -/
theorem readIpfixDataTemplate_ne_outOfFuel :
    readIpfixDataTemplate currentInaccurateTime m setLength offset ≠ .error .outOfFuel :=
  (agrees_readIpfixDataTemplate (extends_padded m) setLength offset).ne_outOfFuel
    (readIpfixDataTemplate_clean (readable_padded m 0 setLength)).ne_outOfFuel

theorem readIpfixOptionsTemplate_ne_outOfFuel :
    readIpfixOptionsTemplate currentInaccurateTime m setLength offset ≠ .error .outOfFuel :=
  (agrees_readIpfixOptionsTemplate (extends_padded m) setLength offset).ne_outOfFuel
    (readIpfixOptionsTemplate_clean (readable_padded m 0 setLength)).ne_outOfFuel

theorem areAllPaddingBytesAreZero_ne_outOfFuel (m : Memory) (p paddingLength : ℕ) :
    areAllPaddingBytesAreZero m p paddingLength ≠ .error .outOfFuel :=
  (agrees_areAllPaddingBytesAreZero (extends_padded m) p paddingLength).ne_outOfFuel
    (areAllPaddingBytesAreZero_clean (readable_padded m 0 (p + paddingLength)) le_rfl).ne_outOfFuel

/-! ### The loops over templates -/

/-- Every template takes at least four bytes, so the loop ends at the end of the set. -/
theorem readIpfixDataTemplates_spec {fuel : ℕ} (hfuel : setLength - offset < fuel) :
    let result := readIpfixDataTemplates currentInaccurateTime m setLength fuel offset
    (∀ t ∈ result.1, t.IpfixSound) ∧ result.2 ≠ .error .outOfFuel := by
  induction fuel generalizing offset with
  | zero => exact absurd hfuel (Nat.not_lt_zero _)
  | succ fuel ih =>
    rw [readIpfixDataTemplates]
    split
    · rename_i hinside
      cases hread : readIpfixDataTemplate currentInaccurateTime m setLength offset with
      | error fault =>
        have hsteps := fault_ne_outOfFuel readIpfixDataTemplate_ne_outOfFuel hread
        exact ⟨by simp, by simpa using hsteps⟩
      | ok read =>
        obtain ⟨hsound, hnext⟩ := readIpfixDataTemplate_spec hread
        obtain ⟨hrest, hsteps⟩ := @ih read.2 (by omega)
        exact ⟨List.forall_mem_cons.mpr ⟨hsound, hrest⟩, hsteps⟩
    · exact ⟨by simp, (clean_ok ()).ne_outOfFuel⟩

/-- Every template takes at least six bytes, so the loop ends at the end of the set. -/
theorem readIpfixOptionsTemplates_spec {fuel : ℕ} (hfuel : setLength - offset < fuel) :
    let result := readIpfixOptionsTemplates currentInaccurateTime m setLength fuel offset
    (∀ t ∈ result.1, t.IpfixSound) ∧ result.2 ≠ .error .outOfFuel := by
  induction fuel generalizing offset with
  | zero => exact absurd hfuel (Nat.not_lt_zero _)
  | succ fuel ih =>
    rw [readIpfixOptionsTemplates]
    split
    · rename_i hinside
      cases hread : readIpfixOptionsTemplate currentInaccurateTime m setLength offset with
      | error fault =>
        have hsteps := fault_ne_outOfFuel readIpfixOptionsTemplate_ne_outOfFuel hread
        exact ⟨by simp, by simpa using hsteps⟩
      | ok read =>
        obtain ⟨hsound, hnext⟩ := readIpfixOptionsTemplate_spec hread
        dsimp only
        split
        · cases hpadding : areAllPaddingBytesAreZero m read.2 (setLength - read.2) with
          | error fault =>
            have hsteps := fault_ne_outOfFuel (areAllPaddingBytesAreZero_ne_outOfFuel m _ _) hpadding
            exact ⟨by simpa using hsound, by simpa using hsteps⟩
          | ok zero =>
            cases zero with
            | true => exact ⟨by simpa using hsound, (clean_ok ()).ne_outOfFuel⟩
            | false => exact ⟨by simpa using hsound, clean_rejected.ne_outOfFuel⟩
        · obtain ⟨hrest, hsteps⟩ := @ih read.2 (by omega)
          exact ⟨List.forall_mem_cons.mpr ⟨hsound, hrest⟩, hsteps⟩
    · exact ⟨by simp, (clean_ok ()).ne_outOfFuel⟩

/-! ### The fields of a record -/

variable {setMaximumLength : ℕ}

@[gcongr] theorem agrees_ipfixRecordToFlow (h : m.Extends m') (recordType recordLength : UInt32)
    (flow : Flow) : Agrees (ipfixRecordToFlow m recordType recordLength flow)
      (ipfixRecordToFlow m' recordType recordLength flow) := by
  unfold ipfixRecordToFlow ipfixFrameSection
  dsimp only
  refine Agrees.ite (Agrees.ite (Agrees.refl _) (by gcongr)) ?_
  split
  · gcongr
  · rfl

@[gcongr] theorem agrees_readIpfixVariableLengthField (h : m.Extends m') (offset setLength : ℕ) :
    Agrees (readIpfixVariableLengthField m offset setLength)
      (readIpfixVariableLengthField m' offset setLength) := by
  unfold readIpfixVariableLengthField variableLengthEncodingInfo
  gcongr

@[gcongr] theorem agrees_ipfixFieldLength (h : m.Extends m') (setMaximumLength : ℕ)
    (record : TemplateRecord) (offset : ℕ) (flow : Flow) :
    Agrees (ipfixFieldLength m setMaximumLength record offset flow)
      (ipfixFieldLength m' setMaximumLength record offset flow) := by
  unfold ipfixFieldLength
  gcongr

@[gcongr] theorem agrees_ipfixFields (h : m.Extends m') (setMaximumLength : ℕ)
    (records : List TemplateRecord) (offset : ℕ) (flow : Flow) :
    Agrees (ipfixFields m setMaximumLength records offset flow)
      (ipfixFields m' setMaximumLength records offset flow) := by
  induction records generalizing offset flow with
  | nil => rfl
  | cons record records ih =>
    unfold ipfixFields
    gcongr with field
    obtain ⟨recordLength, flow⟩ := field
    dsimp only
    gcongr
    apply ih

/-- The parser of frame sections ends where the noted length can be read, and where that
length is too short for an Ethernet header. -/
theorem ipfixFrameSection_ok {flow : Flow} {n : ℕ} (h : m.Readable 0 n)
    (hfits : flow.flowMeta.variableFieldLengthEncoding ≠ .unknown →
      14 ≤ flow.flowMeta.variableFieldLength.toNat →
      flow.flowMeta.variableFieldLengthEncoding.headerLength
        + flow.flowMeta.variableFieldLength.toNat ≤ n) :
    ∃ flow', ipfixFrameSection m flow = .ok flow' := by
  rw [ipfixFrameSection]
  dsimp only
  split
  · exact ⟨_, rfl⟩
  · rename_i hused
    rw [not_or] at hused
    have hlt := flow.flowMeta.variableFieldLength.toNat_lt
    have hheader : flow.flowMeta.variableFieldLengthEncoding.headerLength ≤ 3 := by
      cases flow.flowMeta.variableFieldLengthEncoding <;> decide
    have hcaptured := (@toInt_toInt32 flow.flowMeta.variableFieldLength.toUInt32) (by
      rw [UInt16.toNat_toUInt32]
      omega)
    rw [UInt16.toNat_toUInt32] at hcaptured
    have hparse : ∃ parsed, parseRawPacketToSimplePacketFull m
        flow.flowMeta.variableFieldLengthEncoding.headerLength
        flow.flowMeta.variableFieldLength.toUInt32.toInt32
        flow.flowMeta.variableFieldLength.toUInt32.toInt32 flow.flowMeta.nestedPacket
        { readPacketLengthFromIpHeader := true } = .ok parsed := by
      by_cases hshort : flow.flowMeta.variableFieldLength.toNat < 14
      · rw [parseRawPacketToSimplePacketFull]
        dsimp only
        rw [if_pos (by rw [hcaptured]; omega)]
        exact ⟨_, rfl⟩
      · obtain ⟨code, nestedPacket, hparse, -⟩ := (@parseRawPacket_inside m
          (flow.flowMeta.variableFieldLengthEncoding.headerLength
            + flow.flowMeta.variableFieldLength.toNat) flow.flowMeta.nestedPacket
          flow.flowMeta.variableFieldLengthEncoding.headerLength
          flow.flowMeta.variableFieldLength.toUInt32.toInt32 ⟨true⟩
          flow.flowMeta.variableFieldLength.toUInt32.toInt32)
          (h.mono (Nat.zero_le _) (hfits hused.1 (by omega))) (by omega) (by rw [hcaptured]; simp)
        exact ⟨_, hparse⟩
    obtain ⟨⟨code, nestedPacket⟩, hparse⟩ := hparse
    rw [hparse, ok_bind]
    dsimp only
    split
    · exact ⟨_, rfl⟩
    · exact ⟨_, rfl⟩

/-- No field of a record needs fuel. -/
theorem ipfixRecordToFlow_ne_outOfFuel (recordType recordLength : UInt32) (flow : Flow) :
    ipfixRecordToFlow m recordType recordLength flow ≠ .error .outOfFuel := by
  refine (agrees_ipfixRecordToFlow (extends_padded m) recordType recordLength flow).ne_outOfFuel ?_
  have hsection : ∃ flow', ipfixFrameSection m.padded flow = .ok flow' :=
    ipfixFrameSection_ok (readable_padded m 0 _) fun _ _ => le_rfl
  rw [ipfixRecordToFlow]
  split
  · obtain ⟨flow', hflow⟩ := hsection
    simp [hflow]
  · split
    · rename_i rule _
      obtain ⟨flow', hflow⟩ := rule.decode_ok (readable_padded m 0 recordLength.toNat) flow
      simp [hflow]
    · simp

theorem readIpfixVariableLengthField_ne_outOfFuel (m : Memory) (offset setLength : ℕ) :
    readIpfixVariableLengthField m offset setLength ≠ .error .outOfFuel := by
  refine bind_ne_outOfFuel (clean_rejectIf _).ne_outOfFuel fun _ _ =>
    bind_ne_outOfFuel (read_ne_outOfFuel m _) fun fieldLength _ =>
      bind_ne_outOfFuel (clean_rejectIf _).ne_outOfFuel fun _ _ => bind_ne_outOfFuel ?_ fun _ _ =>
        bind_ne_outOfFuel (clean_rejectIf _).ne_outOfFuel fun _ _ => (clean_pure _).ne_outOfFuel
  rw [variableLengthEncodingInfo]
  split
  · exact bind_ne_outOfFuel (clean_rejectIf _).ne_outOfFuel fun _ _ =>
      bind_ne_outOfFuel (readNtohs_ne_outOfFuel m _) fun _ _ => (clean_pure _).ne_outOfFuel
  · exact (clean_ok _).ne_outOfFuel

theorem ipfixFieldLength_ne_outOfFuel (record : TemplateRecord) (flow : Flow) :
    ipfixFieldLength m setMaximumLength record offset flow ≠ .error .outOfFuel := by
  rw [ipfixFieldLength]
  split
  · exact bind_ne_outOfFuel (readIpfixVariableLengthField_ne_outOfFuel m _ _) fun _ _ =>
      (clean_pure _).ne_outOfFuel
  · exact (clean_ok _).ne_outOfFuel

theorem ipfixFields_ne_outOfFuel (records : List TemplateRecord) (flow : Flow) :
    ipfixFields m setMaximumLength records offset flow ≠ .error .outOfFuel := by
  induction records generalizing offset flow with
  | nil => exact (clean_ok _).ne_outOfFuel
  | cons record records ih =>
    exact bind_ne_outOfFuel (ipfixFieldLength_ne_outOfFuel record flow) fun field _ =>
      bind_ne_outOfFuel (clean_rejectIf _).ne_outOfFuel fun _ _ =>
        bind_ne_outOfFuel (ipfixRecordToFlow_ne_outOfFuel _ _ _) fun flow _ => ih flow

/-- A field that carries its length takes its prefix and its bytes. -/
theorem recordFullLength_eq {fieldLength : UInt8} {info : VariableLengthEncodingInfo}
    (h : variableLengthEncodingInfo m offset setLength fieldLength = .ok info) :
    info.recordFullLength.toNat = info.variableFieldLengthEncoding.headerLength
        + info.variableFieldLength.toNat ∧
      1 ≤ info.variableFieldLengthEncoding.headerLength := by
  rw [variableLengthEncodingInfo] at h
  split at h
  · simp only [bind_eq_ok_iff, pure_eq_ok_iff] at h
    obtain ⟨-, -, twoByteFieldLength, -, rfl⟩ := h
    have hlt := twoByteFieldLength.toNat_lt
    simp only [UInt32.toNat_add, UInt16.toNat_toUInt32, VariableLengthEncoding.headerLength,
      UInt32.reduceToNat]
    omega
  · obtain rfl := Except.ok.inj h
    have hlt := fieldLength.toNat_lt
    simp only [UInt32.toNat_add, UInt8.toNat_toUInt32, UInt8.toNat_toUInt16,
      VariableLengthEncoding.headerLength, UInt32.reduceToNat]
    omega

/-- A field that carries its length is as long as its header and its payload, and ends
inside. -/
theorem readIpfixVariableLengthField_spec {info : VariableLengthEncodingInfo}
    (h : readIpfixVariableLengthField m offset setLength = .ok info) :
    info.recordFullLength.toNat = info.variableFieldLengthEncoding.headerLength
        + info.variableFieldLength.toNat ∧
      1 ≤ info.variableFieldLengthEncoding.headerLength ∧
      offset + info.recordFullLength.toNat ≤ setLength := by
  simp only [readIpfixVariableLengthField, bind_eq_ok_iff, rejectIf_eq_ok_iff, pure_eq_ok_iff] at h
  obtain ⟨-, -, fieldLength, -, -, -, info', hinfo, -, hfits, rfl⟩ := h
  obtain ⟨hlength, hheader⟩ := recordFullLength_eq hinfo
  exact ⟨hlength, hheader, by omega⟩

/-- Decoded fields lie between the offset and the end of the bytes that may be taken, and
a field that carries its length makes progress. -/
theorem ipfixFields_spec {records : List TemplateRecord} {flow : Flow} {fields : Flow × ℕ}
    (h : ipfixFields m setMaximumLength records offset flow = .ok fields)
    (hoffset : offset ≤ setMaximumLength) :
    offset ≤ fields.2 ∧ fields.2 ≤ setMaximumLength ∧
      (records.any TemplateRecord.isVariable = true → offset < fields.2) := by
  induction records generalizing offset flow with
  | nil =>
    obtain rfl : (flow, offset) = fields := by simpa [ipfixFields] using h
    exact ⟨le_rfl, hoffset, by simp⟩
  | cons record records ih =>
    simp only [ipfixFields, bind_eq_ok_iff, rejectIf_eq_ok_iff] at h
    obtain ⟨field, hfield, -, hfits, flow, -, h⟩ := h
    obtain ⟨hnext, hend, hvariable⟩ := ih h (by omega)
    refine ⟨by omega, hend, fun hany => ?_⟩
    rw [List.any_cons, Bool.or_eq_true] at hany
    rcases hany with hrecord | hrecords
    · rw [ipfixFieldLength, if_pos hrecord] at hfield
      simp only [bind_eq_ok_iff, pure_eq_ok_iff] at hfield
      obtain ⟨info, hinfo, rfl⟩ := hfield
      have hlength := readIpfixVariableLengthField_spec hinfo
      dsimp only at hnext
      omega
    · have hprogress := hvariable hrecords
      omega

/-! ### Data records -/

section Records

variable {context : NetflowContext} {timeSec : UInt32} {t : Template} {s : CollectorState}

/-- A record is decoded, and then the packet is handed over. -/
theorem run_ipfixDataSetToStore : ∃ packet, freshPacket context timeSec s = (s, .ok packet) ∧
    ipfixDataSetToStore context timeSec t setMaximumLength m s
      = match ipfixFields m setMaximumLength t.records 0 { packet } with
        | .ok fields => ({ s with emitted := s.emitted ++ [ipfixPacket fields.1] }, .ok fields.2)
        | .error fault => (s, .error fault) := by
  obtain ⟨packet, hfresh⟩ : ∃ packet, freshPacket context timeSec s = (s, .ok packet) := ⟨_, rfl⟩
  refine ⟨packet, hfresh, ?_⟩
  rw [ipfixDataSetToStore, bind_of_ok hfresh, bind_run, liftM_run]
  cases ipfixFields m setMaximumLength t.records 0 { packet } with
  | ok fields => rfl
  | error fault => rfl

/-- A record does not run out of fuel. -/
theorem ipfixDataSetToStore_ne_outOfFuel {fault : Fault}
    (h : (ipfixDataSetToStore context timeSec t setMaximumLength m s).2 = .error fault) :
    fault ≠ .outOfFuel := by
  obtain ⟨packet, -, hrun⟩ := (@run_ipfixDataSetToStore m setMaximumLength context timeSec t s)
  rw [hrun] at h
  cases hfields : ipfixFields m setMaximumLength t.records 0 { packet } with
  | ok fields => simp [hfields] at h
  | error fault' =>
    obtain rfl : fault' = fault := by simpa [hfields] using h
    exact fault_ne_outOfFuel (ipfixFields_ne_outOfFuel _ _) hfields

/-- A record with a field that carries its length takes at least one byte, and no record
takes more than it may. -/
theorem ipfixDataSetToStore_length {readFlowLength : ℕ}
    (h : (ipfixDataSetToStore context timeSec t setMaximumLength m s).2 = .ok readFlowLength) :
    readFlowLength ≤ setMaximumLength ∧
      (t.records.any TemplateRecord.isVariable = true → 1 ≤ readFlowLength) := by
  obtain ⟨packet, -, hrun⟩ := (@run_ipfixDataSetToStore m setMaximumLength context timeSec t s)
  rw [hrun] at h
  cases hfields : ipfixFields m setMaximumLength t.records 0 { packet } with
  | error fault => simp [hfields] at h
  | ok fields =>
    obtain rfl : fields.2 = readFlowLength := by simpa [hfields] using h
    obtain ⟨-, hend, hvariable⟩ := ipfixFields_spec hfields (Nat.zero_le _)
    exact ⟨hend, hvariable⟩

end Records

/-! ### The loop over records with variable fields -/

/-- What has been read and what is left are the bytes behind the header of the set. -/
def IpfixLoop.Fits (setLength : ℕ) (loop : IpfixLoop) : Prop :=
  loop.flowOffset.toNat + loop.maximumDataAvailableToRead.toNat = setLength - 4

/-- The loop after a record. -/
def IpfixLoop.advance (loop : IpfixLoop) (readFlowLength : ℕ) : IpfixLoop where
  flowOffset := loop.flowOffset + .ofNat readFlowLength
  maximumDataAvailableToRead := loop.maximumDataAvailableToRead - .ofNat readFlowLength

/-- The loop starts with all of the set behind its header. -/
theorem IpfixLoop.fits_start (hset : setLength < 2 ^ 32) :
    IpfixLoop.Fits setLength ⟨0, .ofNat (setLength - 4)⟩ := by
  rw [IpfixLoop.Fits, UInt32.toNat_ofNat', Nat.mod_eq_of_lt (by omega)]
  simp

/-- The subtraction does not wrap. -/
theorem IpfixLoop.advance_left {loop : IpfixLoop} {readFlowLength : ℕ}
    (hle : readFlowLength ≤ loop.maximumDataAvailableToRead.toNat) :
    (loop.advance readFlowLength).maximumDataAvailableToRead.toNat
      = loop.maximumDataAvailableToRead.toNat - readFlowLength := by
  have hlt := loop.maximumDataAvailableToRead.toNat_lt
  have hlength : (UInt32.ofNat readFlowLength).toNat = readFlowLength := by
    rw [UInt32.toNat_ofNat', Nat.mod_eq_of_lt (by omega)]
  rw [IpfixLoop.advance, UInt32.toNat_sub_of_le _ _ (by rw [UInt32.le_iff_toNat_le]; omega), hlength]

/-- A record that fits leaves the loop inside the set. -/
theorem IpfixLoop.Fits.advance {loop : IpfixLoop} {readFlowLength : ℕ}
    (h : loop.Fits setLength) (hset : setLength < 2 ^ 32)
    (hle : readFlowLength ≤ loop.maximumDataAvailableToRead.toNat) :
    (loop.advance readFlowLength).Fits setLength := by
  rw [IpfixLoop.Fits] at h
  rw [IpfixLoop.Fits, IpfixLoop.advance_left hle, IpfixLoop.advance, UInt32.toNat_add,
    UInt32.toNat_ofNat', Nat.mod_eq_of_lt (a := readFlowLength) (by omega),
    Nat.mod_eq_of_lt (by omega)]
  omega

/-! ### Invariants of the collector

An invariant that is kept when a sound template is stored, when a data record is decoded
and when an options record is decoded is kept by every datagram, in any memory; and no loop
runs out of steps. -/

section Invariants

variable {context : NetflowContext} {I : CollectorState → Prop} {timeSec sourceId : UInt32}
  {t : Template}

/-- The procedure keeps an invariant, and its loops have enough steps. -/
abbrev Ends {α : Type} (I : CollectorState → Prop) (p : Collect α) : Prop :=
  Keeps I (· ≠ .outOfFuel) p fun _ => True

/-- A reader ends if it does not run out of fuel. -/
theorem ends_liftM {α : Type} {x : Except Fault α} (h : x ≠ .error .outOfFuel) :
    Ends I (liftM x : Collect α) :=
  keeps_liftM (fun _ _ => trivial) fun _ hfault => fault_ne_outOfFuel h hfault

/-- After a check its condition is known to fail. -/
theorem keeps_rejectIf (c : Prop) [Decidable c] :
    Keeps I (· ≠ .outOfFuel) (liftM (rejectIf c) : Collect Unit) fun _ => ¬ c :=
  keeps_liftM (fun _ h => rejectIf_eq_ok_iff.mp h) fun _ hfault =>
    fault_ne_outOfFuel (clean_rejectIf c).ne_outOfFuel hfault

/-- To go on after a failure does not change that a procedure ends. -/
theorem Ends.ignoreResult {α : Type} {p : Collect α} (h : Ends I p) :
    Ends I (ignoreResult p) := by
  intro s hs
  obtain ⟨hI, hend⟩ := h s hs
  rw [FastNetMon.ignoreResult]
  revert hI hend
  rcases p s with ⟨s', fault | a⟩
  · intro hI hfault
    cases fault with
    | rejected => exact ⟨hI, trivial⟩
    | outOfBounds => exact ⟨hI, hfault⟩
    | outOfFuel => exact absurd rfl hfault
  · exact fun hI _ => ⟨hI, trivial⟩

variable
  (hstore : ∀ sourceId t, t.IpfixSound → Preserves I (storeTemplate context sourceId t))
  (hrecord : ∀ timeSec t setMaximumLength m,
    Preserves I (ipfixDataSetToStore context timeSec t setMaximumLength m))
  (hoptions : ∀ t m, Ends I (ipfixOptionsSetToStore context t m))
  (hsound : ∀ s, I s → s.templates.Every Template.IpfixSound)

include hrecord in
/-- A record ends, and takes no more bytes than it may. -/
theorem keeps_ipfixDataSetToStore :
    Keeps I (· ≠ .outOfFuel) (ipfixDataSetToStore context timeSec t setMaximumLength m)
      fun readFlowLength => readFlowLength ≤ setMaximumLength ∧
        (t.records.any TemplateRecord.isVariable = true → 1 ≤ readFlowLength) :=
  (hrecord timeSec t setMaximumLength m).keeps (fun _ _ => ipfixDataSetToStore_length)
    fun _ _ => ipfixDataSetToStore_ne_outOfFuel

include hrecord in
/-- The loop over records of a fixed length ends. -/
theorem ends_ipfixFixedRecords (left : ℕ) :
    Ends I (ipfixFixedRecords context timeSec t m left offset) := by
  induction left generalizing offset with
  | zero => exact keeps_pure trivial
  | succ left ih =>
    rw [ipfixFixedRecords]
    refine Keeps.bind (Ends.ignoreResult ?_) fun _ _ => ih
    exact (keeps_ipfixDataSetToStore hrecord).mono fun _ _ => trivial

include hrecord in
/-- One round of the loop: the loop goes on behind a record that was not empty. -/
theorem keeps_ipfixVariableRecord {loop : IpfixLoop} (ht : t.IpfixSound)
    (hvariable : t.ipfixVariableLengthElementsUsed = true) :
    Keeps I (· ≠ .outOfFuel) (ipfixVariableRecord context timeSec t m loop) fun next =>
      ∀ loop', next = some loop' → ∃ readFlowLength, 1 ≤ readFlowLength ∧
        readFlowLength ≤ loop.maximumDataAvailableToRead.toNat ∧
        loop' = loop.advance readFlowLength := by
  refine Keeps.bind (keeps_ipfixDataSetToStore hrecord) fun readFlowLength hlength => ?_
  have hpos := hlength.2 (ht.variable_eq ▸ hvariable)
  dsimp only
  refine keeps_ite (fun _ => ?_) fun _ => keeps_pure fun loop' hloop => ?_
  · refine Keeps.bind (ends_liftM (areAllPaddingBytesAreZero_ne_outOfFuel m _ _)) fun zero _ =>
      Keeps.bind (keeps_rejectIf _) fun _ _ => keeps_pure fun loop' hloop => ?_
    cases hloop
  · exact ⟨readFlowLength, hpos, hlength.1, (Option.some.inj hloop).symm⟩

include hrecord in
/-- What is left gets shorter in every round. -/
theorem ends_ipfixVariableRecords {fuel : ℕ} {loop : IpfixLoop} (ht : t.IpfixSound)
    (hvariable : t.ipfixVariableLengthElementsUsed = true) (hset : setLength < 2 ^ 32)
    (hloop : loop.Fits setLength) (hfuel : loop.maximumDataAvailableToRead.toNat < fuel) :
    Ends I (ipfixVariableRecords context timeSec t m setLength fuel loop) := by
  induction fuel generalizing loop with
  | zero => exact absurd hfuel (Nat.not_lt_zero _)
  | succ fuel ih =>
    rw [ipfixVariableRecords]
    refine keeps_ite (fun _ => ?_) fun _ => keeps_pure trivial
    refine Keeps.bind (keeps_ipfixVariableRecord hrecord ht hvariable) fun next hnext => ?_
    cases next with
    | none => exact keeps_pure trivial
    | some loop' =>
      obtain ⟨readFlowLength, hpos, hle, rfl⟩ := hnext loop' rfl
      have hleft := IpfixLoop.advance_left hle
      exact ih (hloop.advance hset hle) (by omega)

include hrecord in
/-- A data set ends, with records of either kind. -/
theorem ends_processIpfixRegularDataSet (ht : t.IpfixSound) (hheader : 4 ≤ setLength)
    (hset : setLength < 2 ^ 32) :
    Ends I (processIpfixRegularDataSet context timeSec t m setLength) := by
  rw [processIpfixRegularDataSet]
  split
  · rename_i hvariable
    refine ends_ipfixVariableRecords hrecord ht hvariable hset (IpfixLoop.fits_start hset) ?_
    rw [UInt32.toNat_ofNat', Nat.mod_eq_of_lt (by omega)]
    omega
  · exact Keeps.bind (keeps_rejectIf _) fun _ _ => Keeps.bind (keeps_rejectIf _) fun _ _ =>
      Keeps.bind (keeps_rejectIf _) fun _ _ => ends_ipfixFixedRecords hrecord _

include hrecord hoptions in
theorem ends_processIpfixRecords (ht : t.IpfixSound) (hheader : 4 ≤ setLength)
    (hset : setLength < 2 ^ 32) :
    Ends I (processIpfixRecords context timeSec t m setLength) := by
  refine Keeps.bind (keeps_rejectIf _) fun _ _ => ?_
  cases t.type with
  | data => exact ends_processIpfixRegularDataSet hrecord ht hheader hset
  | options =>
    refine keeps_ite (fun _ => keeps_pure trivial) fun _ => ?_
    refine Keeps.bind (keeps_rejectIf _) fun _ _ => ?_
    exact hoptions _ _
  | unknown => exact keeps_pure trivial

include hrecord hoptions hsound in
/-- A set of data or options ends. -/
theorem ends_processIpfixDataSet (hset : setLength < 2 ^ 32) :
    Ends I (processIpfixDataSet context timeSec sourceId m setLength) := by
  refine Keeps.bind (keeps_rejectIf _) fun _ hheader =>
    Keeps.bind (ends_liftM (readNtohs_ne_outOfFuel m 0)) fun setId _ =>
      Keeps.bind keeps_get fun s hs => ?_
  cases hfound : peerFindTemplate s.templates sourceId setId.toUInt32
      context.clientAddressInStringFormat with
  | none => exact ends_liftM clean_rejected.ne_outOfFuel
  | some t =>
    exact ends_processIpfixRecords hrecord hoptions (hsound s hs _ _ _ _ hfound) (by omega) hset

include hstore in
/-- To store sound templates keeps the store sound. -/
theorem ends_storeTemplates {templates : List Template} (h : ∀ t ∈ templates, t.IpfixSound) :
    Ends I (templates.forM fun t => storeTemplate context sourceId t) :=
  keeps_forM fun t hmem => (hstore sourceId t (h t hmem)).keeps_of_succeeds (succeeds_modify _)

include hstore in
/-- A template set ends. -/
theorem ends_processIpfixDataTemplateSet :
    Ends I (processIpfixDataTemplateSet context sourceId m setLength) := by
  refine Keeps.bind (keeps_rejectIf _) fun _ hheader =>
    Keeps.bind (ends_liftM (readNtohs_ne_outOfFuel m 0)) fun setId _ =>
      Keeps.bind (keeps_rejectIf _) fun _ _ => ?_
  obtain ⟨hsound, hsteps⟩ := (@readIpfixDataTemplates_spec m setLength 4
      context.currentInaccurateTime setLength)
    (by omega)
  exact Keeps.bind (ends_storeTemplates hstore hsound) fun _ _ => ends_liftM hsteps

include hstore in
/-- A set of templates for options ends. -/
theorem ends_processIpfixOptionsTemplateSet :
    Ends I (processIpfixOptionsTemplateSet context sourceId m setLength) := by
  refine Keeps.bind (keeps_rejectIf _) fun _ hheader =>
    Keeps.bind (ends_liftM (readNtohs_ne_outOfFuel m 0)) fun setId _ =>
      Keeps.bind (keeps_rejectIf _) fun _ _ => ?_
  obtain ⟨hsound, hsteps⟩ := (@readIpfixOptionsTemplates_spec m setLength 4
      context.currentInaccurateTime setLength)
    (by omega)
  exact Keeps.bind (ends_storeTemplates hstore hsound) fun _ _ => ends_liftM hsteps

include hstore hrecord hoptions hsound

theorem ends_processIpfixSetOfId {setId setLength : UInt16} :
    Ends I (processIpfixSetOfId context timeSec sourceId m setId setLength) := by
  have hset := setLength.toNat_lt
  exact keeps_ite (fun _ => ends_processIpfixDataTemplateSet hstore) fun _ =>
    keeps_ite (fun _ => ends_processIpfixOptionsTemplateSet hstore) fun _ =>
      keeps_ite (fun _ => keeps_pure trivial) fun _ =>
        ends_processIpfixDataSet hrecord hoptions hsound (by omega)

/-- A set of any kind ends. -/
theorem ends_processIpfixSet {ipfixPacketLength : ℕ} :
    Ends I (processIpfixSet context timeSec sourceId m ipfixPacketLength offset) := by
  refine Keeps.bind (keeps_rejectIf _) fun _ _ => Keeps.bind (keeps_rejectIf _) fun _ _ =>
    Keeps.bind (ends_liftM (readNtohs_ne_outOfFuel m _)) fun setId _ =>
      Keeps.bind (ends_liftM (readNtohs_ne_outOfFuel m _)) fun setLength _ =>
        Keeps.bind (keeps_rejectIf _) fun _ _ =>
          Keeps.bind (ends_processIpfixSetOfId hstore hrecord hoptions hsound) fun _ _ =>
            keeps_pure trivial

/-- The number of sets is limited, whatever their lengths are. -/
theorem ends_processIpfixSets {ipfixPacketLength fuel setSequenceNumber : ℕ}
    (hnumber : setSequenceNumber ≤ setsPerPacketMaximumNumber)
    (hfuel : setsPerPacketMaximumNumber < fuel + setSequenceNumber) :
    Ends I (processIpfixSets context timeSec sourceId m ipfixPacketLength fuel setSequenceNumber
      offset) := by
  induction fuel generalizing setSequenceNumber offset with
  | zero => omega
  | succ fuel ih =>
    rw [processIpfixSets]
    refine Keeps.bind (keeps_rejectIf _) fun _ hlimit =>
      Keeps.bind (ends_processIpfixSet hstore hrecord hoptions hsound) fun next _ =>
        keeps_ite (fun _ => keeps_pure trivial) fun _ => ih (by omega) (by omega)

/-- A message ends. -/
theorem ends_processIpfixPacket {udpPacketLength : ℕ} :
    Ends I (processIpfixPacket context m udpPacketLength) := by
  refine Keeps.bind (keeps_rejectIf _) fun _ _ =>
    Keeps.bind (ends_liftM (readNtohs_ne_outOfFuel m _)) fun _ _ =>
      Keeps.bind (keeps_rejectIf _) fun _ _ =>
        Keeps.bind (ends_liftM (readNtohl_ne_outOfFuel m _)) fun _ _ =>
          Keeps.bind (ends_liftM (readNtohl_ne_outOfFuel m _)) fun _ _ => ?_
  exact ends_processIpfixSets hstore hrecord hoptions hsound (Nat.zero_le _) (by omega)

end Invariants

/-! ### Reachable collectors -/

/-- The states that a collector gets to by datagrams of any peers, and by some sets of a
datagram.  What a set or a datagram holds, and what stands behind it, is left open. -/
inductive IpfixReachable : CollectorState → Prop
  | start : IpfixReachable {}
  | set {s : CollectorState} (context : NetflowContext) (timeSec sourceId : UInt32) (m : Memory)
      (setId setLength : UInt16) : IpfixReachable s →
      IpfixReachable (processIpfixSetOfId context timeSec sourceId m setId setLength s).1
  | datagram {s : CollectorState} (context : NetflowContext) (m : Memory) (udpPacketLength : ℕ) :
      IpfixReachable s → IpfixReachable (processIpfixPacket context m udpPacketLength s).1

section Reachable

variable {context : NetflowContext} {timeSec : UInt32} {t : Template} {s : CollectorState}

/-- A record stores no template. -/
theorem preserves_ipfixDataSetToStore_templates (P : TemplateTable → Prop) :
    Preserves (fun s => P s.templates)
      (ipfixDataSetToStore context timeSec t setMaximumLength m) := by
  intro s hs
  obtain ⟨packet, -, hrun⟩ := (@run_ipfixDataSetToStore m setMaximumLength context timeSec t s)
  rw [hrun]
  cases ipfixFields m setMaximumLength t.records 0 { packet } with
  | ok fields => exact ⟨hs, trivial⟩
  | error fault => exact ⟨hs, trivial⟩

/-- An options record changes the sampling rate and the timeouts only. -/
theorem ends_ipfixOptionsSetToStore {I : CollectorState → Prop}
    (hrate : ∀ rate, Preserves I (updateSamplingRate context rate))
    (htimeouts : ∀ timeouts, Preserves I (updateDeviceFlowTimeouts context timeouts)) :
    Ends I (ipfixOptionsSetToStore context t m) := by
  refine Keeps.bind (Q := fun _ => True) (keeps_forFields trivial fun m record options _ => ?_)
    fun options _ => ((hrate _).keeps_of_succeeds (succeeds_updateSamplingRate _)).bind fun _ _ =>
      (htimeouts _).keeps_of_succeeds (succeeds_updateDeviceFlowTimeouts _)
  rw [ipfixOptionsField]
  split
  · rename_i rule _
    refine ends_liftM ((agrees_decode (extends_padded m) rule _ _).ne_outOfFuel ?_)
    obtain ⟨options', hoptions⟩ :=
      rule.decode_ok (readable_padded m 0 record.recordLength.toNat) options
    simp [hoptions]
  · exact keeps_pure trivial

/-- The templates stay sound, and no loop runs out of steps. -/
theorem ends_processIpfixSetOfId_sound {sourceId : UInt32} {setId setLength : UInt16} :
    Ends (fun s => s.templates.Every Template.IpfixSound)
      (processIpfixSetOfId context timeSec sourceId m setId setLength) :=
  ends_processIpfixSetOfId (fun _ _ ht => preserves_storeTemplate_every ht)
    (fun _ _ _ _ => preserves_ipfixDataSetToStore_templates _)
    (fun _ _ => ends_ipfixOptionsSetToStore (preserves_updateSamplingRate_templates _)
      (preserves_updateDeviceFlowTimeouts_templates _))
    fun _ hs => hs

@[inherit_doc ends_processIpfixSetOfId_sound]
theorem ends_processIpfixPacket_sound {udpPacketLength : ℕ} :
    Ends (fun s => s.templates.Every Template.IpfixSound)
      (processIpfixPacket context m udpPacketLength) :=
  ends_processIpfixPacket (fun _ _ ht => preserves_storeTemplate_every ht)
    (fun _ _ _ _ => preserves_ipfixDataSetToStore_templates _)
    (fun _ _ => ends_ipfixOptionsSetToStore (preserves_updateSamplingRate_templates _)
      (preserves_updateDeviceFlowTimeouts_templates _))
    fun _ hs => hs

/-- Every template that is stored is sound. -/
theorem IpfixReachable.sound (h : IpfixReachable s) : s.templates.Every Template.IpfixSound := by
  induction h with
  | start => exact every_start _
  | set context timeSec sourceId m setId setLength _ ih =>
    exact (ends_processIpfixSetOfId_sound _ ih).1
  | datagram context m udpPacketLength _ ih => exact (ends_processIpfixPacket_sound _ ih).1

end Reachable

end FastNetMon
