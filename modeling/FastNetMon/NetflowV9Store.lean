/-
FastNetMon/NetflowV9Store.lean

The templates of NetFlow v9 and the data that is decoded with them.

The two readers of templates establish what the decoding of data relies on
(`Template.Sound`): the lengths of the records and of the scope add up to the total
length, which is not zero.  No datagram breaks this, whatever the memory behind it
holds.  Main result: a data flowset is turned down, or it is cut into records of the
total length, and each record is decoded from its own bytes
(`netflow9_data_stays_in_records`).
-/
import FastNetMon.NetflowV9
import FastNetMon.NetflowCollectorBounds

namespace FastNetMon

open Memory Procedure

/-! ### Sound templates -/

/-- The lengths of a template are those of its parts. -/
structure Template.Sound (t : Template) : Prop where
  numRecords_eq : t.numRecords.toNat = t.records.length
  totalLength_eq : t.totalLength.toNat =
    t.optionScopeLength.toNat + (t.records.map fun record => record.recordLength.toNat).sum
  totalLength_pos : 0 < t.totalLength.toNat
  recordLength_le : ∀ record ∈ t.records, record.recordLength.toNat ≤ 65535
  type_ne : t.type ≠ .unknown

variable {m : Memory} {pkt flowsetLength offset : ℕ} {currentInaccurateTime : Int64}

/-- The length of a field has 16 bits. -/
theorem readTemplateRecord_recordLength_le {p : ℕ} {record : TemplateRecord}
    (h : readTemplateRecord m p = .ok record) : record.recordLength.toNat ≤ 65535 := by
  simp only [readTemplateRecord, bind_eq_ok_iff, pure_eq_ok_iff] at h
  obtain ⟨recordType, -, recordLength, -, rfl⟩ := h
  have hlt := recordLength.toNat_lt
  simp only [UInt16.toNat_toUInt32]
  omega

/-- So has the length of a scope field. -/
theorem readScopeSize_le {p : ℕ} {length : UInt32} (h : readScopeSize m p = .ok length) :
    length.toNat ≤ 65535 := by
  simp only [readScopeSize, bind_eq_ok_iff, pure_eq_ok_iff] at h
  obtain ⟨length, -, rfl⟩ := h
  have hlt := length.toNat_lt
  rw [UInt16.toNat_toUInt32]
  omega

/-- There are as many fields as the template says, at four bytes each. -/
theorem readTemplateFields_spec {fieldsCount : ℕ} {fields : List TemplateRecord × ℕ}
    (h : readTemplateFields m pkt flowsetLength fieldsCount offset = .ok fields) :
    fields.1.length = fieldsCount ∧ fields.2 = offset + 4 * fieldsCount ∧
      ∀ record ∈ fields.1, record.recordLength.toNat ≤ 65535 := by
  induction fieldsCount generalizing offset fields with
  | zero =>
    obtain rfl : ([], offset) = fields := by simpa [readTemplateFields] using h
    simp
  | succ fieldsCount ih =>
    simp only [readTemplateFields, bind_eq_ok_iff, pure_eq_ok_iff] at h
    obtain ⟨-, -, record, hrecord, rest, hrest, rfl⟩ := h
    obtain ⟨hlength, hoffset, hle⟩ := ih hrest
    refine ⟨by rw [List.length_cons, hlength], by omega, ?_⟩
    intro record' hmem
    rcases List.mem_cons.mp hmem with rfl | hmem
    · exact readTemplateRecord_recordLength_le hrecord
    · exact hle record' hmem

/-- A zone holds a record for each four bytes, and each of them was read somewhere. -/
theorem readZone_spec {α : Type} {readRecord : ℕ → Except Fault α}
    {zoneAddress optionsFlowsetEnd length fuel : ℕ} {records : List α}
    (h : readZone readRecord zoneAddress optionsFlowsetEnd length fuel offset = .ok records) :
    4 * records.length ≤ length - offset + 3 ∧
      ∀ record ∈ records, ∃ p, readRecord p = .ok record := by
  induction fuel generalizing offset records with
  | zero => simp [readZone] at h
  | succ fuel ih =>
    rw [readZone] at h
    split at h
    · simp only [bind_eq_ok_iff, pure_eq_ok_iff] at h
      obtain ⟨-, -, record, hrecord, rest, hrest, rfl⟩ := h
      obtain ⟨hlength, hread⟩ := ih hrest
      refine ⟨by rw [List.length_cons]; omega, ?_⟩
      intro record' hmem
      rcases List.mem_cons.mp hmem with rfl | hmem
      · exact ⟨_, hrecord⟩
      · exact hread record' hmem
    · obtain rfl : [] = records := by simpa using h
      simp

/-- The templates of data flowsets are sound. -/
theorem readDataTemplate_sound {learned : LearnedTemplate}
    (h : readDataTemplate currentInaccurateTime m pkt flowsetLength offset = .ok learned) :
    learned.template.Sound := by
  simp only [readDataTemplate, bind_eq_ok_iff, pure_eq_ok_iff, rejectIf_eq_ok_iff] at h
  obtain ⟨templateId, -, fieldsCount, -, fields, hfields, -, hpos, rfl⟩ := h
  obtain ⟨hlength, -, hle⟩ := readTemplateFields_spec hfields
  have hcount := fieldsCount.toNat_lt
  have hsum := (@sum_toNat_le (fields.1.map TemplateRecord.recordLength)) (by simpa using hle)
  rw [List.length_map, hlength] at hsum
  have htotal := (@totalSize_toNat (fields.1.map TemplateRecord.recordLength)) (by
    calc _ ≤ fieldsCount.toNat * 65535 := hsum
      _ ≤ 65535 * 65535 := Nat.mul_le_mul_right _ (by omega)
      _ < 2 ^ 32 := by norm_num)
  exact {
    numRecords_eq := by simp [hlength]
    totalLength_eq := by simpa [Function.comp_def] using htotal
    totalLength_pos := Nat.pos_of_ne_zero fun hzero => hpos (UInt32.toNat_inj.mp hzero)
    recordLength_le := hle
    type_ne := by simp }

/-- The templates of a flowset are sound. -/
theorem readDataTemplates_sound {fuel : ℕ} {learned : LearnedTemplate}
    (h : learned ∈ (readDataTemplates currentInaccurateTime m pkt flowsetLength fuel offset).1) :
    learned.template.Sound := by
  induction fuel generalizing offset with
  | zero => simp [readDataTemplates] at h
  | succ fuel ih =>
    rw [readDataTemplates] at h
    split at h
    · split at h
      · simp at h
      · rename_i first hfirst
        rcases List.mem_cons.mp h with rfl | h
        · exact readDataTemplate_sound hfirst
        · exact ih h
    · simp at h

/-- So are those that a template flowset yields. -/
theorem processNetflowV9Template_sound {learned : LearnedTemplate}
    (h : learned ∈ (processNetflowV9Template currentInaccurateTime m pkt flowsetLength).1) :
    learned.template.Sound := by
  rw [processNetflowV9Template] at h
  split at h
  · simp at h
  · split at h
    · simp at h
    · split at h
      · simp at h
      · exact readDataTemplates_sound h

/-- The templates of options flowsets are sound. -/
theorem processNetflowV9OptionsTemplate_sound {learned : LearnedTemplate}
    (h : processNetflowV9OptionsTemplate currentInaccurateTime m pkt flowsetLength = .ok learned) :
    learned.template.Sound := by
  simp only [processNetflowV9OptionsTemplate, bind_eq_ok_iff, pure_eq_ok_iff,
    rejectIf_eq_ok_iff] at h
  obtain ⟨-, -, templateId, -, optionScopeLength, -, -, -, -, -, scopes, hscopes, optionLength, -,
    -, -, -, -, records, hrecords, -, hpos, rfl⟩ := h
  obtain ⟨hscopesLength, hscopesRead⟩ := readZone_spec hscopes
  obtain ⟨hrecordsLength, hrecordsRead⟩ := readZone_spec hrecords
  have hscopeLt := optionScopeLength.toNat_lt
  have hoptionLt := optionLength.toNat_lt
  have hle : ∀ record ∈ records, record.recordLength.toNat ≤ 65535 := by
    intro record hmem
    obtain ⟨p, hread⟩ := hrecordsRead record hmem
    exact readTemplateRecord_recordLength_le hread
  have hscopesSum := (@sum_toNat_le scopes) (by
    intro length hmem
    obtain ⟨p, hread⟩ := hscopesRead length hmem
    exact readScopeSize_le hread)
  have hrecordsSum := (@sum_toNat_le (records.map TemplateRecord.recordLength))
    (by simpa using hle)
  rw [List.length_map] at hrecordsSum
  have hscopesTotal := (@totalSize_toNat scopes) (by omega)
  have hrecordsTotal := (@totalSize_toNat (records.map TemplateRecord.recordLength))
    (by omega)
  exact {
    numRecords_eq := by
      simp only [UInt32.toNat_ofNat']
      omega
    totalLength_eq := by
      simp only [UInt32.toNat_add, hscopesTotal, hrecordsTotal, List.map_map, Function.comp_def]
      rw [List.map_map, Function.comp_def] at hrecordsSum
      rw [Nat.mod_eq_of_lt (by omega), Nat.add_comm]
    totalLength_pos := Nat.pos_of_ne_zero fun hzero => hpos (UInt32.toNat_inj.mp hzero)
    recordLength_le := hle
    type_ne := by simp }

/-! ### Invariants of the collector

An invariant that is kept when a sound template is stored and when one record is decoded
is kept by every datagram, in any memory. -/

section Invariants

variable {context : NetflowContext} {I : CollectorState → Prop} {timeSec sourceId : UInt32}

/-- The loop over records preserves what each record preserves. -/
theorem preserves_processRecords {process : Memory → Collect Unit} {totalLength left : ℕ}
    (h : ∀ m, Preserves I (process m)) :
    Preserves I (processRecords m flowsetLength totalLength process left offset) := by
  induction left generalizing offset with
  | zero => exact preserves_pure ()
  | succ left ih =>
    rw [processRecords]
    exact (preserves_liftM _).bind fun _ => (h _).bind fun _ => ih

/-- A data flowset preserves what its records preserve. -/
theorem preserves_processNetflowV9Records {fieldTemplate : Template}
    (hrecord : ∀ m, Preserves I (netflow9Record context timeSec fieldTemplate m)) :
    Preserves I (processNetflowV9Records context timeSec fieldTemplate m flowsetLength) :=
  (preserves_liftM _).bind fun _ => (preserves_liftM _).bind fun _ =>
    (preserves_liftM _).bind fun _ =>
      preserves_ite (preserves_pure ()) (preserves_processRecords hrecord)

variable (hstore : ∀ sourceId t, t.Sound → Preserves I (storeTemplate context sourceId t))
  (hrecord : ∀ timeSec t m, Preserves I (netflow9Record context timeSec t m))

include hrecord in
theorem preserves_processNetflowV9Data :
    Preserves I (processNetflowV9Data context timeSec sourceId m flowsetLength) := by
  refine (preserves_liftM _).bind fun _ => (preserves_liftM _).bind fun flowsetId =>
    preserves_get.bind fun s => ?_
  split
  · exact preserves_pure ()
  · exact preserves_processNetflowV9Records (hrecord _ _)

include hstore in
/-- A template flowset preserves what a stored template preserves. -/
theorem preserves_processTemplateFlowset :
    Preserves I (processTemplateFlowset context sourceId m pkt flowsetLength) := by
  rw [processTemplateFlowset]
  refine Preserves.bind (keeps_forM ?_) fun _ => preserves_liftM _
  exact fun learned hmem => hstore _ _ (processNetflowV9Template_sound hmem)

include hstore in
theorem preserves_processOptionsTemplateFlowset :
    Preserves I (processOptionsTemplateFlowset context sourceId m pkt flowsetLength) := by
  rw [processOptionsTemplateFlowset]
  refine Keeps.bind (Q := fun learned => learned.template.Sound)
    (keeps_liftM (fun learned h => ?_) fun _ _ => trivial) fun learned hsound => ?_
  · exact processNetflowV9OptionsTemplate_sound h
  · exact hstore _ _ hsound

include hstore hrecord

theorem preserves_processFlowsetOfId {flowsetId flowsetLength : UInt16} :
    Preserves I
      (processFlowsetOfId context timeSec sourceId m offset flowsetId flowsetLength) := by
  refine preserves_ite ?_ (preserves_ite ?_ (preserves_ite ?_ ?_))
  · exact (preserves_processTemplateFlowset hstore).bind fun _ => preserves_pure _
  · exact (preserves_processOptionsTemplateFlowset hstore).bind fun _ => preserves_pure _
  · exact preserves_pure _
  · exact (preserves_processNetflowV9Data hrecord).bind fun _ => preserves_pure _

/-- A flowset of any kind preserves what its parts preserve. -/
theorem preserves_processFlowset {packetLength : ℕ} :
    Preserves I (processFlowset context timeSec sourceId m packetLength offset) :=
  (preserves_liftM _).bind fun _ => (preserves_liftM _).bind fun _ =>
    (preserves_liftM _).bind fun _ => (preserves_liftM _).bind fun _ =>
      (preserves_liftM _).bind fun _ => preserves_processFlowsetOfId hstore hrecord

theorem preserves_processFlowsets {packetLength left : ℕ} :
    Preserves I (processFlowsets context timeSec sourceId m packetLength left offset) := by
  induction left generalizing offset with
  | zero => exact preserves_pure ()
  | succ left ih =>
    rw [processFlowsets]
    exact (preserves_processFlowset hstore hrecord).bind fun _ =>
      preserves_ite (preserves_pure ()) ih

/-- So does a datagram. -/
theorem preserves_processNetflowPacketV9 {packetLength : ℕ} :
    Preserves I (processNetflowPacketV9 context m packetLength) :=
  (preserves_liftM _).bind fun _ => (preserves_liftM _).bind fun _ =>
    (preserves_liftM _).bind fun _ => (preserves_liftM _).bind fun _ =>
      (preserves_liftM _).bind fun _ => preserves_processFlowsets hstore hrecord

end Invariants

/-! ### Decoding a record -/

section Records

variable {context : NetflowContext} {timeSec : UInt32} {m' : Memory}

/-- A packet section of a readable record is taken or left. -/
theorem netflow9PacketSection_ok {recordLength : UInt32} {flow : Flow}
    (h : m.Readable 0 recordLength.toNat) (hle : recordLength.toNat ≤ 65535) :
    ∃ flow', netflow9PacketSection m recordLength flow = .ok flow' := by
  have hcaptured := (@toInt_toInt32 recordLength) (by omega)
  obtain ⟨code, nestedPacket, hparse, -⟩ :=
    (@parseRawPacket_inside _ _ flow.flowMeta.nestedPacket _
      ((if flow.flowMeta.dataLinkFrameSize ≠ 0 then flow.flowMeta.dataLinkFrameSize
        else recordLength.toUInt64).toUInt32.toInt32) ⟨true⟩ recordLength.toInt32)
      h (by omega) (by rw [hcaptured]; simp)
  rw [netflow9PacketSection, hparse, ok_bind]
  dsimp only
  split
  · exact ⟨_, rfl⟩
  · exact ⟨_, rfl⟩

@[gcongr] theorem agrees_netflow9DecodeField (h : m.Extends m') (record : TemplateRecord)
    (flow : Flow) : Agrees (netflow9DecodeField m record flow) (netflow9DecodeField m' record flow) := by
  unfold netflow9DecodeField netflow9PacketSection
  dsimp only
  refine Agrees.ite (by gcongr) ?_
  split
  · gcongr
  · rfl

@[gcongr] theorem agrees_netflow9SamplingInterval (h : m.Extends m') (record : TemplateRecord) :
    Agrees (netflow9SamplingInterval m record) (netflow9SamplingInterval m' record) := by
  unfold netflow9SamplingInterval
  gcongr

/-- A field of a readable record is decoded. -/
theorem succeeds_netflow9RecordToFlow {record : TemplateRecord} {flow : Flow}
    (h : m.Readable 0 record.recordLength.toNat) (hle : record.recordLength.toNat ≤ 65535) :
    Succeeds (netflow9RecordToFlow context m record flow) := by
  have hdecode : ∃ flow', netflow9DecodeField m record flow = .ok flow' := by
    rw [netflow9DecodeField]
    split
    · exact netflow9PacketSection_ok h hle
    · split
      · exact FieldRule.decode_ok _ h _
      · exact ⟨_, rfl⟩
  have hrate : ∃ rate, netflow9SamplingInterval m record = .ok rate := by
    rw [netflow9SamplingInterval]
    split
    · rename_i hfield
      refine h.readNtohl le_rfl ?_
      rw [hfield.2]
      decide
    · exact ⟨_, rfl⟩
  exact (succeeds_liftM hdecode).bind fun _ => (succeeds_liftM hrate).bind fun _ =>
    (succeeds_updateSamplingRate _).bind fun _ => succeeds_pure _

/-- A field is decoded alike in a larger memory. -/
theorem follows_netflow9RecordToFlow (h : m.Extends m') (record : TemplateRecord) (flow : Flow) :
    Follows (netflow9RecordToFlow context m record flow)
      (netflow9RecordToFlow context m' record flow) := by
  unfold netflow9RecordToFlow
  gcongr

/-- A field of readable options is decoded. -/
theorem succeeds_netflow9OptionsField {record : TemplateRecord} {options : Netflow9Options}
    (h : m.Readable 0 record.recordLength.toNat) :
    Succeeds (netflow9OptionsField m record options) := by
  rw [netflow9OptionsField]
  split
  · exact succeeds_liftM (FieldRule.decode_ok _ h _)
  · exact succeeds_pure options

theorem follows_netflow9OptionsField (h : m.Extends m') (record : TemplateRecord)
    (options : Netflow9Options) :
    Follows (netflow9OptionsField m record options) (netflow9OptionsField m' record options) := by
  unfold netflow9OptionsField
  split
  · gcongr
  · rfl

/-- A record is decoded alike in a larger memory. -/
theorem follows_netflow9Record (h : m.Extends m') (t : Template) :
    Follows (netflow9Record context timeSec t m) (netflow9Record context timeSec t m') := by
  rw [netflow9Record, netflow9Record]
  split
  · unfold netflow9FlowsetToStore
    gcongr
    exact follows_forFields h follows_netflow9RecordToFlow _ _ _
  · unfold netflow9OptionsFlowsetToStore
    dsimp only
    gcongr
    exact follows_forFields (h.shift _) follows_netflow9OptionsField _ _ _
  · rfl

theorem Template.Sound.fieldsLength_le {t : Template} (h : t.Sound) :
    t.totalLength.toNat = t.optionScopeLength.toNat + fieldsLength t.records := h.totalLength_eq

/-- A record of a sound template is decoded from its own bytes. -/
theorem succeeds_netflow9Record {t : Template} (ht : t.Sound)
    (h : m.Readable 0 t.totalLength.toNat) :
    Succeeds (netflow9Record context timeSec t m) := by
  have htotal := ht.fieldsLength_le
  rw [netflow9Record]
  split
  · refine succeeds_freshPacket.bind fun packet => Succeeds.bind ?_ fun flow => succeeds_modify _
    refine succeeds_forFields (h.mono le_rfl (by omega)) fun record hmem m flow hfield => ?_
    exact succeeds_netflow9RecordToFlow hfield (ht.recordLength_le record hmem)
  · refine Succeeds.bind ?_ fun options => (succeeds_updateSamplingRate _).bind fun _ =>
      succeeds_updateDeviceFlowTimeouts _
    have hpkt := h.shift t.optionScopeLength.toNat
    exact succeeds_forFields (hpkt.mono (by omega) (by omega)) fun record _ m options hfield =>
      succeeds_netflow9OptionsField hfield
  · exact succeeds_pure ()

end Records

/-! ### Data flowsets of any reachable collector -/

/-- The states that a collector gets to by datagrams of any peers.  What a datagram holds,
and what stands behind it, is left open. -/
inductive NetflowV9Reachable : CollectorState → Prop
  | start : NetflowV9Reachable {}
  | datagram {s : CollectorState} (context : NetflowContext) (m : Memory) (packetLength : ℕ) :
      NetflowV9Reachable s → NetflowV9Reachable (processNetflowPacketV9 context m packetLength s).1

/-- Every template that can be found is sound. -/
def TemplateTable.Sound (table : TemplateTable) : Prop :=
  ∀ sourceId templateId client t,
    peerFindTemplate table sourceId templateId client = some t → t.Sound

variable {context : NetflowContext} {timeSec sourceId : UInt32}

/-- A sound template keeps the store sound. -/
theorem preserves_storeTemplate_sound {t : Template} (ht : t.Sound) :
    Preserves (fun s => s.templates.Sound) (storeTemplate context sourceId t) :=
  preserves_storeTemplate_every ht

/-- What a record changes is not in the templates. -/
theorem preserves_netflow9Record_templates (P : TemplateTable → Prop) (t : Template)
    (m : Memory) : Preserves (fun s => P s.templates) (netflow9Record context timeSec t m) := by
  rw [netflow9Record]
  split
  · refine Preserves.bind (preserves_get.bind fun _ => preserves_pure _) fun packet =>
      Preserves.bind (preserves_forFields fun m record flow => ?_) fun flow =>
        keeps_modify fun s hs => hs
    exact (preserves_liftM _).bind fun _ => (preserves_liftM _).bind fun rate =>
      (preserves_updateSamplingRate_templates P rate).bind fun _ => preserves_pure _
  · refine Preserves.bind (preserves_forFields fun m record options => ?_) fun options =>
      (preserves_updateSamplingRate_templates P _).bind fun _ =>
        preserves_updateDeviceFlowTimeouts_templates P _
    rw [netflow9OptionsField]
    split
    · exact preserves_liftM _
    · exact preserves_pure options
  · exact preserves_pure ()

/-- A flowset keeps the store sound. -/
theorem sound_processFlowsetOfId {flowsetId flowsetLength : UInt16} {s : CollectorState}
    (hs : s.templates.Sound) :
    (processFlowsetOfId context timeSec sourceId m offset flowsetId flowsetLength
      s).1.templates.Sound :=
  (preserves_processFlowsetOfId (fun _ _ ht => preserves_storeTemplate_sound ht)
    (fun _ t m => preserves_netflow9Record_templates _ t m) s hs).1

/-- Every template that is stored is sound. -/
theorem NetflowV9Reachable.sound {s : CollectorState} (h : NetflowV9Reachable s) :
    s.templates.Sound := by
  induction h with
  | start => exact every_start Template.Sound
  | datagram context m packetLength _ ih =>
    exact (preserves_processNetflowPacketV9 (fun _ _ ht => preserves_storeTemplate_sound ht)
      (fun _ t m => preserves_netflow9Record_templates _ t m) _ ih).1

/-- A data flowset without a template is left. -/
theorem processNetflowV9Data_unknown {s : CollectorState} {flowsetId : UInt16}
    (hlong : ¬ flowsetLength < 4) (hid : m.readNtohs 0 = .ok flowsetId)
    (hfound : peerFindTemplate s.templates sourceId flowsetId.toUInt32
      context.clientAddressInStringFormat = none) :
    processNetflowV9Data context timeSec sourceId m flowsetLength s = (s, .ok ()) := by
  rw [processNetflowV9Data, rejectIf_of_not hlong, liftM_ok_bind, hid, liftM_ok_bind,
    bind_of_ok (get_run s), hfound]
  rfl

/-- A data flowset with a template is decoded with it. -/
theorem processNetflowV9Data_known {s : CollectorState} {flowsetId : UInt16} {t : Template}
    (hlong : ¬ flowsetLength < 4) (hid : m.readNtohs 0 = .ok flowsetId)
    (hfound : peerFindTemplate s.templates sourceId flowsetId.toUInt32
      context.clientAddressInStringFormat = some t) :
    processNetflowV9Data context timeSec sourceId m flowsetLength s
      = processNetflowV9Records context timeSec t m flowsetLength s := by
  rw [processNetflowV9Data, rejectIf_of_not hlong, liftM_ok_bind, hid, liftM_ok_bind,
    bind_of_ok (get_run s), hfound]

/-- A flowset that is cut into a number of records is decoded; others are turned down. -/
theorem processNetflowV9Records_spec {t : Template} (ht : t.Sound)
    (hreadable : m.Readable 0 flowsetLength) :
    if t.records = [] ∨ (flowsetLength - 4) / t.totalLength.toNat = 0 ∨
        (flowsetLength - 4) / t.totalLength.toNat > flowsPerPacketMaximumNumber then
      processNetflowV9Records context timeSec t m flowsetLength = liftM (Except.error Fault.rejected)
    else
      processNetflowV9Records context timeSec t m flowsetLength
          = (recordRegions t.totalLength.toNat ((flowsetLength - 4) / t.totalLength.toNat) 4).forM
            (fun region => netflow9Record context timeSec t (recordMemory m region)) ∧
        Succeeds (processNetflowV9Records context timeSec t m flowsetLength) := by
  have htotal : ¬ t.totalLength = 0 := fun hzero => by
    have hpos := ht.totalLength_pos
    rw [hzero] at hpos
    exact absurd hpos (by decide)
  unfold processNetflowV9Records
  dsimp only
  split
  · rename_i hreject
    rcases hreject with hempty | hnumber
    · rw [rejectIf_of hempty]
      rfl
    · by_cases hempty : t.records = []
      · rw [rejectIf_of hempty]
        rfl
      · rw [rejectIf_of_not hempty, rejectIf_of_not htotal, rejectIf_of hnumber]
        rfl
  · rename_i haccept
    rw [not_or] at haccept
    rw [rejectIf_of_not haccept.1, rejectIf_of_not htotal, rejectIf_of_not haccept.2,
      liftM_ok_bind, liftM_ok_bind, liftM_ok_bind, if_neg ht.type_ne]
    have hdiv := Nat.div_mul_le_self (flowsetLength - 4) t.totalLength.toNat
    have hfits : 4 + (flowsetLength - 4) / t.totalLength.toNat * t.totalLength.toNat
        ≤ flowsetLength := by
      by_contra hgt
      have hzero : flowsetLength - 4 = 0 := by omega
      exact haccept.2 (.inl (by rw [hzero, Nat.zero_div]))
    exact processRecords_eq_forM (hreadable.mono (Nat.zero_le _) le_rfl) hfits
      (fun h => follows_netflow9Record h t) fun m hm => succeeds_netflow9Record ht hm

/-- **Data is decoded record by record, each from its own bytes.**  The templates of a
reachable collector are sound.  A data flowset whose template is known is turned down
without an effect if the template has no records, or if the number of records is zero or
above the limit; else this number of records, which follow each other in the flowset, is
decoded without a fault, each one in a memory that holds nothing else. -/
theorem netflow9_data_stays_in_records {s : CollectorState} (hs : NetflowV9Reachable s) :
    s.templates.Sound ∧
    ∀ context timeSec sourceId m flowsetLength flowsetId t,
      m.Readable 0 flowsetLength → m.readNtohs 0 = .ok flowsetId →
      peerFindTemplate s.templates sourceId flowsetId.toUInt32
        context.clientAddressInStringFormat = some t →
      let numberOfFlows := (flowsetLength - 4) / t.totalLength.toNat
      if t.records = [] ∨ numberOfFlows = 0 ∨ numberOfFlows > flowsPerPacketMaximumNumber then
        processNetflowV9Data context timeSec sourceId m flowsetLength s = (s, .error .rejected)
      else ∃ regions : List Region, regions.length = numberOfFlows ∧
        Consecutive 0 4 flowsetLength regions ∧
        (∀ region ∈ regions, region.length = t.totalLength.toNat) ∧
        processNetflowV9Data context timeSec sourceId m flowsetLength s
          = regions.forM (fun region =>
            netflow9Record context timeSec t ((m.shift region.start).window 0 region.length)) s ∧
        (processNetflowV9Data context timeSec sourceId m flowsetLength s).2 = .ok () := by
  refine ⟨hs.sound, ?_⟩
  intro context timeSec sourceId m flowsetLength flowsetId t hreadable hid hfound numberOfFlows
  have hspec := (@processNetflowV9Records_spec _ _ context timeSec)
    (hs.sound _ _ _ _ hfound) hreadable
  by_cases hshort : flowsetLength < 4
  · have hnumber : numberOfFlows = 0 := by
      have hzero : flowsetLength - 4 = 0 := by omega
      simp only [numberOfFlows, hzero, Nat.zero_div]
    rw [if_pos (.inr (.inl hnumber)), processNetflowV9Data, rejectIf_of hshort]
    rfl
  · rw [processNetflowV9Data_known hshort hid hfound]
    split at hspec
    · rename_i hreject
      rw [if_pos hreject, hspec]
      rfl
    · rename_i haccept
      rw [if_neg haccept]
      obtain ⟨heq, hsucceeds⟩ := hspec
      refine ⟨recordRegions t.totalLength.toNat numberOfFlows 4, length_recordRegions,
        consecutive_recordRegions ?_, fun region => length_of_mem_recordRegions, ?_, ?_⟩
      · have hdiv : numberOfFlows * t.totalLength.toNat ≤ flowsetLength - 4 :=
          Nat.div_mul_le_self _ _
        omega
      · rw [heq]
        rfl
      · obtain ⟨u, hu⟩ := hsucceeds.run s
        exact hu

/-! ### Two exporters -/

/-- An exporter with source id 0. -/
def exporter : NetflowContext := { clientAddressInStringFormat := "192.0.2.1".toList }

/-- The header of a datagram of NetFlow v9 with source id 0. -/
def netflow9Header (flowsetNumber : UInt8) : List UInt8 :=
  [0, 9, 0, flowsetNumber, 0, 0, 0, 0, 0, 0, 0, 0, 0, 0, 0, 0, 0, 0, 0, 0]

/-- Template 256: source address and destination address. -/
def addressTemplate : List UInt8 :=
  netflow9Header 1 ++ [0, 0, 0, 16, 1, 0, 0, 2, 0, 8, 0, 4, 0, 12, 0, 4]

/-- Two records of template 256. -/
def addressRecords : List UInt8 :=
  [1, 0, 0, 20, 10, 0, 0, 1, 10, 0, 0, 2, 10, 0, 0, 3, 10, 0, 0, 4]

/-- The collector that knows the address template. -/
def addressCollector : CollectorState :=
  (processNetflowPacketV9 exporter (ofBytes addressTemplate) 36 {}).1

theorem addressCollector_reachable : NetflowV9Reachable addressCollector :=
  .datagram exporter (ofBytes addressTemplate) 36 .start

theorem addressRecords_decoded :
    ∃ regions : List Region, regions.length = 2 ∧ Consecutive 0 4 20 regions ∧
      (processNetflowV9Data exporter 0 0 (ofBytes addressRecords) 20 addressCollector).2
        = .ok () := by
  obtain ⟨t, hfound⟩ : ∃ t, peerFindTemplate addressCollector.templates 0 256
      exporter.clientAddressInStringFormat = some t := ⟨_, rfl⟩
  have htotal : t.totalLength.toNat = 8 ∧ t.records ≠ [] := by
    obtain rfl := Option.some.inj hfound
    exact ⟨rfl, by simp⟩
  have hdata := (netflow9_data_stays_in_records addressCollector_reachable).2 exporter 0 0
    (ofBytes addressRecords) 20 256 t (readable_ofBytes addressRecords) rfl hfound
  simp only [htotal] at hdata
  rw [if_neg (by simp [flowsPerPacketMaximumNumber])] at hdata
  obtain ⟨regions, hlength, hconsecutive, -, -, hok⟩ := hdata
  exact ⟨regions, hlength, hconsecutive, hok⟩

/-- Template 256: options with a scope of four bytes and no fields. -/
def scopeOnlyTemplate : List UInt8 :=
  netflow9Header 1 ++ [0, 1, 0, 14, 1, 0, 0, 4, 0, 0, 0, 1, 0, 4]

/-- The collector that knows the scope-only template. -/
def scopeOnlyCollector : CollectorState :=
  (processNetflowPacketV9 exporter (ofBytes scopeOnlyTemplate) 34 {}).1

/-- A flowset that holds one record of a scope-only template is turned down. -/
theorem scopeOnly_record_turned_down :
    NetflowV9Reachable scopeOnlyCollector ∧
    ∃ t, peerFindTemplate scopeOnlyCollector.templates 0 256
        exporter.clientAddressInStringFormat = some t ∧
      (8 - 4) / t.totalLength.toNat = 1 ∧
      (processNetflowV9Data exporter 0 0 (ofBytes [1, 0, 0, 8, 0, 0, 0, 1]) 8
        scopeOnlyCollector).2 = .error .rejected :=
  ⟨.datagram exporter (ofBytes scopeOnlyTemplate) 34 .start, _, rfl, rfl, rfl⟩

end FastNetMon
