/-
FastNetMon/SplitDataSets.lean

Data sets that are split.

A record of a fixed length is decoded from its own bytes, wherever it stands.  So a data
set does what its records do one after the other, and so do sets of one record each, as
long as there are no more records than the collector takes from one set.  Main result:
`split_data_sets`.
-/
import FastNetMon.IpfixBounds
import FastNetMon.IpfixSkip

namespace FastNetMon

open Memory Procedure

variable {m : Memory} {context : NetflowContext} {timeSec sourceId : UInt32} {t : Template}
  {s : CollectorState} {id : UInt16} {records : List (List UInt8)} {totalLength : ℕ}

/-! ### Sets of records -/

/-- A data set of some records. -/
def dataSet (id : UInt16) (records : List (List UInt8))
    (hfits : records.flatten.length + 4 < 65536) : Flowset :=
  ⟨id, records.flatten, hfits⟩

/-- The bytes of a data set. -/
def dataSetBytes (id : UInt16) (records : List (List UInt8)) : List UInt8 :=
  bytes16 (byteSwap16 id) ++
    (bytes16 (byteSwap16 (.ofNat (records.flatten.length + 4))) ++ records.flatten)

theorem dataSetBytes_eq (hfits : records.flatten.length + 4 < 65536) :
    dataSetBytes id records = (dataSet id records hfits).bytes := rfl

theorem dataSetBytes_length (id : UInt16) (records : List (List UInt8)) :
    (dataSetBytes id records).length = records.flatten.length + 4 := by
  simp only [dataSetBytes, List.length_append, bytes16_length]
  omega

theorem holds_dataSetBytes (hfits : records.flatten.length + 4 < 65536) :
    (ofBytes (dataSetBytes id records)).readNtohs 0 = .ok id := by
  have hheld := holds_ofBytes (dataSetBytes id records)
  nth_rewrite 2 [dataSetBytes_eq hfits] at hheld
  exact hheld.readNtohs_id

theorem shift_dataSetBytes (id : UInt16) (records : List (List UInt8)) :
    (ofBytes (dataSetBytes id records)).shift 4 = ofBytes records.flatten := by
  rw [dataSetBytes, ← List.append_assoc]
  exact shift_ofBytes_append _ _

theorem length_flatten_of_length (hlength : ∀ record ∈ records, record.length = totalLength) :
    records.flatten.length = records.length * totalLength := by
  rw [List.length_flatten, List.map_congr_left hlength, List.map_const', List.sum_replicate,
    smul_eq_mul]

/-- Each record of a set fits a set of its own. -/
theorem fits_of_mem (hfits : records.flatten.length + 4 < 65536) {record : List UInt8}
    (hmem : record ∈ records) : [record].flatten.length + 4 < 65536 := by
  have hle := (List.sublist_flatten_of_mem hmem).length_le
  rw [List.flatten_singleton]
  omega

/-! ### Records one after the other -/

theorem window_ofBytes_append (bs cs : List UInt8) :
    (ofBytes (bs ++ cs)).window 0 bs.length = ofBytes bs := by
  funext i
  rw [window, ofBytes, ofBytes]
  by_cases hi : i < bs.length
  · rw [if_pos ⟨Nat.zero_le i, hi⟩, List.getElem?_append_left hi]
  · rw [if_neg fun h => hi h.2, List.getElem?_eq_none (not_lt.mp hi)]

/-- The records of a set are seen where they are cut out. -/
theorem forM_recordRegions {process : Memory → Collect Unit} {offset : ℕ}
    (hlength : ∀ record ∈ records, record.length = totalLength)
    (hm : m.shift offset = ofBytes records.flatten) :
    (recordRegions totalLength records.length offset).forM
        (fun region => process (recordMemory m region))
      = records.forM fun record => process (ofBytes record) := by
  induction records generalizing offset with
  | nil => rfl
  | cons record records ih =>
    have hrecord : record.length = totalLength := hlength record List.mem_cons_self
    have hmemory : recordMemory m ⟨offset, totalLength⟩ = ofBytes record := by
      rw [recordMemory, hm, List.flatten_cons, ← hrecord]
      exact window_ofBytes_append _ _
    have hnext := shift_of_append (List.flatten_cons ▸ hm)
    rw [hrecord] at hnext
    rw [List.length_cons, recordRegions, List.forM, List.forM, hmemory,
      ih (fun record hmem => hlength record (List.mem_cons_of_mem _ hmem)) hnext]

/-- The collector after a data set. -/
def afterDataSet (process : Memory → ℕ → Collect Unit) (id : UInt16)
    (records : List (List UInt8)) (s : CollectorState) : CollectorState :=
  let set := dataSetBytes id records
  (process (ofBytes set) set.length s).1

/-- One set does the same as one set for each of its records. -/
def SplitsAlike (process : Memory → ℕ → Collect Unit) (id : UInt16)
    (records : List (List UInt8)) (s : CollectorState) : Prop :=
  afterDataSet process id records s
    = records.foldl (fun s record => afterDataSet process id [record] s) s

/-- A set and its parts do the same if both do what the records do. -/
theorem splitsAlike_of_records {process : Memory → ℕ → Collect Unit}
    {decode : List UInt8 → Collect Unit} {I : CollectorState → Prop} (hs : I s)
    (hI : ∀ record s, I s → I (decode record s).1)
    (hsucceeds : ∀ record ∈ records, Succeeds (decode record))
    (hwhole : afterDataSet process id records s = (records.forM decode s).1)
    (hpart : ∀ record ∈ records, ∀ s, I s →
      afterDataSet process id [record] s = (decode record s).1) :
    SplitsAlike process id records s := by
  rw [SplitsAlike, hwhole]
  clear hwhole
  induction records generalizing s with
  | nil => rfl
  | cons record records ih =>
    obtain ⟨u, hu⟩ := (hsucceeds record List.mem_cons_self).run s
    have hrun : decode record s = ((decode record s).1, .ok u) := Prod.ext rfl hu
    rw [List.foldl_cons, hpart record List.mem_cons_self s hs, List.forM, bind_of_ok hrun]
    exact ih (hI record s hs) (fun record hmem => hsucceeds record (List.mem_cons_of_mem _ hmem))
      fun record hmem => hpart record (List.mem_cons_of_mem _ hmem)

/-- A set that is turned down does nothing, and neither do its parts. -/
theorem splitsAlike_of_rejected {process : Memory → ℕ → Collect Unit}
    (hwhole : afterDataSet process id records s = s)
    (hpart : ∀ record ∈ records, afterDataSet process id [record] s = s) :
    SplitsAlike process id records s := by
  rw [SplitsAlike, hwhole]
  clear hwhole
  induction records with
  | nil => rfl
  | cons record records ih =>
    rw [List.foldl_cons, hpart record List.mem_cons_self]
    exact ih fun record hmem => hpart record (List.mem_cons_of_mem _ hmem)

theorem forM_singleton {α : Type} (decode : α → Collect Unit) (a : α) :
    [a].forM decode = decode a := by
  rw [List.forM]
  exact Procedure.bind_pure (decode a)

/-! ### NetFlow v9 -/

/-- A data flowset does what its records do. -/
theorem afterDataSet_netflowV9 (ht : t.Sound) (hfields : t.records ≠ [])
    (hfound : peerFindTemplate s.templates sourceId id.toUInt32
      context.clientAddressInStringFormat = some t)
    (hrecords : records ≠ []) (hfits : records.flatten.length + 4 < 65536)
    (hlength : ∀ record ∈ records, record.length = t.totalLength.toNat)
    (hnumber : records.length ≤ flowsPerPacketMaximumNumber) :
    afterDataSet (processNetflowV9Data context timeSec sourceId) id records s
      = (records.forM (fun record => netflow9Record context timeSec t (ofBytes record)) s).1 := by
  have hset := dataSetBytes_length id records
  have hcut : (dataSetBytes id records).length - 4 = records.length * t.totalLength.toNat := by
    rw [hset, length_flatten_of_length hlength]
    omega
  have hdiv : ((dataSetBytes id records).length - 4) / t.totalLength.toNat = records.length := by
    rw [hcut, Nat.mul_div_cancel _ ht.totalLength_pos]
  have hpos : records.length ≠ 0 := fun hzero => hrecords (List.eq_nil_of_length_eq_zero hzero)
  have hspec := (@processNetflowV9Records_spec _ _ context timeSec) ht
    (readable_ofBytes (dataSetBytes id records))
  rw [if_neg (by rw [hdiv]; simp [hfields, hpos, hnumber])] at hspec
  rw [afterDataSet, processNetflowV9Data_known (by omega) (holds_dataSetBytes hfits) hfound,
    hspec.1, hdiv, forM_recordRegions hlength (shift_dataSetBytes id records)]

theorem splitsAlike_netflowV9 (ht : t.Sound)
    (hfound : peerFindTemplate s.templates sourceId id.toUInt32
      context.clientAddressInStringFormat = some t)
    (hrecords : records ≠ []) (hfits : records.flatten.length + 4 < 65536)
    (hlength : ∀ record ∈ records, record.length = t.totalLength.toNat)
    (hnumber : records.length ≤ flowsPerPacketMaximumNumber) :
    SplitsAlike (processNetflowV9Data context timeSec sourceId) id records s := by
  by_cases hfields : t.records = []
  · -- a template without fields is turned down
    have hrejected : ∀ records' : List (List UInt8), records'.flatten.length + 4 < 65536 →
        afterDataSet (processNetflowV9Data context timeSec sourceId) id records' s = s := by
      intro records' hfits'
      have hset := dataSetBytes_length id records'
      have hspec := (@processNetflowV9Records_spec _ _ context timeSec) ht
        (readable_ofBytes (dataSetBytes id records'))
      rw [if_pos (.inl hfields)] at hspec
      rw [afterDataSet, processNetflowV9Data_known (by omega) (holds_dataSetBytes hfits') hfound,
        hspec]
      rfl
    exact splitsAlike_of_rejected (hrejected records hfits) fun record hmem =>
      hrejected [record] (fits_of_mem hfits hmem)
  · refine splitsAlike_of_records (I := fun s => peerFindTemplate s.templates sourceId
      id.toUInt32 context.clientAddressInStringFormat = some t) hfound ?_ ?_
      (afterDataSet_netflowV9 ht hfields hfound hrecords hfits hlength hnumber) ?_
    · intro record s hs
      exact (preserves_netflow9Record_templates (fun templates => peerFindTemplate templates
        sourceId id.toUInt32 context.clientAddressInStringFormat = some t) t _ s hs).1
    · intro record hmem
      exact succeeds_netflow9Record ht (hlength record hmem ▸ readable_ofBytes record)
    · intro record hmem s hs
      have hone : [record].length ≤ flowsPerPacketMaximumNumber := by
        rw [List.length_singleton, flowsPerPacketMaximumNumber]
        decide
      rw [afterDataSet_netflowV9 ht hfields hs (List.cons_ne_nil _ _) (fits_of_mem hfits hmem)
        (by simpa using hlength record hmem) hone, forM_singleton]

/-! ### IPFIX -/

/-- No frame section is decoded with a template of a fixed length. -/
theorem frameSectionsFit_of_fixed {fields : List TemplateRecord} {setMaximumLength offset : ℕ}
    (hfixed : fields.any TemplateRecord.isVariable = false) :
    FrameSectionsFit m setMaximumLength fields offset .unknown 0 := by
  induction fields generalizing offset with
  | nil => trivial
  | cons field fields ih =>
    rw [List.any_cons, Bool.or_eq_false_iff] at hfixed
    rw [FrameSectionsFit, if_neg (by simp [hfixed.1])]
    exact fun _ => ⟨fun _ hknown => absurd rfl hknown, ih hfixed.2⟩

/-- One record of a data set, whatever comes out of it. -/
def ipfixRecord (context : NetflowContext) (timeSec : UInt32) (t : Template) (m : Memory) :
    Collect Unit :=
  ignoreResult (ipfixDataSetToStore context timeSec t t.totalLength.toNat m)

theorem succeeds_ipfixRecord (ht : t.IpfixSound)
    (hfixed : t.ipfixVariableLengthElementsUsed = false)
    (h : m.Readable 0 t.totalLength.toNat) : Succeeds (ipfixRecord context timeSec t m) := by
  have hinside : ∀ packet, FieldsStayInside (recordMemory m ⟨0, t.totalLength.toNat⟩)
      t.totalLength.toNat t.records 0 { packet } := by
    intro packet
    refine FrameSectionsFit.fieldsStayInside ?_ ?_
    · exact readable_recordMemory h (Nat.zero_le _) (by rw [Region.stop, Nat.zero_add])
    · exact frameSectionsFit_of_fixed (ht.variable_eq ▸ hfixed)
  have hclean : StaysClean (ipfixDataSetToStore context timeSec t t.totalLength.toNat m) := by
    have hstays : StaysClean
        (ipfixDataSetToStore context timeSec t t.totalLength.toNat (m.shift 0)) :=
      staysClean_ipfixDataSetToStore hinside
    rwa [shift_zero] at hstays
  intro s _
  have hend := hclean.run s
  rw [ipfixRecord, ignoreResult]
  revert hend
  rcases ipfixDataSetToStore context timeSec t t.totalLength.toNat m s with ⟨s', fault | a⟩
  · rintro rfl
    exact ⟨trivial, trivial⟩
  · exact fun _ => ⟨trivial, trivial⟩

theorem follows_ipfixRecord {m' : Memory} (h : m.Extends m') :
    Follows (ipfixRecord context timeSec t m) (ipfixRecord context timeSec t m') :=
  (follows_ipfixDataSetToStore h timeSec t _).ignoreResult

/-- The templates stay when a record is decoded. -/
theorem ipfixRecord_templates (P : TemplateTable → Prop) (hs : P s.templates) :
    P (ipfixRecord context timeSec t m s).1.templates := by
  have hkeeps : P (ipfixDataSetToStore context timeSec t t.totalLength.toNat m s).1.templates :=
    (preserves_ipfixDataSetToStore_templates P s hs).1
  rw [ipfixRecord, ignoreResult]
  revert hkeeps
  rcases ipfixDataSetToStore context timeSec t t.totalLength.toNat m s with ⟨s', fault | a⟩
  · cases fault <;> exact id
  · exact id

theorem processIpfixDataSet_known {setLength : ℕ} (hlong : ¬ setLength < 4)
    (hid : m.readNtohs 0 = .ok id) (htype : t.type = .data) (hfields : t.records ≠ [])
    (hfound : peerFindTemplate s.templates sourceId id.toUInt32
      context.clientAddressInStringFormat = some t) :
    processIpfixDataSet context timeSec sourceId m setLength s
      = processIpfixRegularDataSet context timeSec t m setLength s := by
  rw [processIpfixDataSet, rejectIf_of_not hlong, liftM_ok_bind, hid, liftM_ok_bind,
    bind_of_ok (get_run s), hfound]
  dsimp only
  rw [processIpfixRecords, rejectIf_of_not hfields, liftM_ok_bind, htype]

/-- A data set does what its records do. -/
theorem afterDataSet_ipfix (ht : t.IpfixSound) (htype : t.type = .data)
    (hfixed : t.ipfixVariableLengthElementsUsed = false) (hfields : t.records ≠ [])
    (hpos : t.totalLength ≠ 0)
    (hfound : peerFindTemplate s.templates sourceId id.toUInt32
      context.clientAddressInStringFormat = some t)
    (hrecords : records ≠ []) (hfits : records.flatten.length + 4 < 65536)
    (hlength : ∀ record ∈ records, record.length = t.totalLength.toNat)
    (hnumber : records.length ≤ 0x4000) :
    afterDataSet (processIpfixDataSet context timeSec sourceId) id records s
      = (records.forM (fun record => ipfixRecord context timeSec t (ofBytes record)) s).1 := by
  have htotal : 0 < t.totalLength.toNat :=
    Nat.pos_of_ne_zero fun hzero => hpos (UInt32.toNat_inj.mp hzero)
  have hset := dataSetBytes_length id records
  have hflat := length_flatten_of_length hlength
  have hcut : (dataSetBytes id records).length - 4 = records.length * t.totalLength.toNat := by
    rw [hset, hflat]
    omega
  have hdiv : ((dataSetBytes id records).length - 4) / t.totalLength.toNat = records.length := by
    rw [hcut, Nat.mul_div_cancel _ htotal]
  have hne : records.length ≠ 0 := fun hzero => hrecords (List.eq_nil_of_length_eq_zero hzero)
  have hregions : (recordRegions t.totalLength.toNat records.length 4).forM
      (fun region => ignoreResult (ipfixDataSetToStore context timeSec t t.totalLength.toNat
        ((ofBytes (dataSetBytes id records)).shift region.start)))
      = (recordRegions t.totalLength.toNat records.length 4).forM fun region =>
        ipfixRecord context timeSec t (recordMemory (ofBytes (dataSetBytes id records)) region) := by
    refine forM_congr fun region hmem => ?_
    have hinside := ((@consecutive_recordRegions _ _ 4 (dataSetBytes id records).length)
      (by omega)).inside hmem
    have hmemory := readable_recordMemory (readable_ofBytes (dataSetBytes id records))
      (Nat.zero_le _) hinside.2
    rw [length_of_mem_recordRegions hmem] at hmemory
    exact (follows_ipfixRecord (extends_window _ _ _)).eq_of_succeeds
      (succeeds_ipfixRecord ht hfixed hmemory)
  have hdecode : (recordRegions t.totalLength.toNat records.length 4).forM (fun region =>
        ipfixRecord context timeSec t (recordMemory (ofBytes (dataSetBytes id records)) region))
      = records.forM fun record => ipfixRecord context timeSec t (ofBytes record) :=
    forM_recordRegions hlength (shift_dataSetBytes id records)
  have hcounted : ¬ (t.totalLength = 0 ∨ records.length > 0x4000 ∨ records.length = 0) := by
    rintro (hzero | hmany | hnone)
    · exact hpos hzero
    · exact absurd hnumber (not_le.mpr hmany)
    · exact hne hnone
  rw [afterDataSet, processIpfixDataSet_known (by omega) (holds_dataSetBytes hfits) htype hfields
    hfound, processIpfixRegularDataSet_fixed hfixed, hdiv, if_neg hcounted, hregions, hdecode]

/-- Without fields, or with fields that take no bytes, a template is of no use. -/
theorem afterDataSet_ipfix_rejected (htype : t.type = .data)
    (hfixed : t.ipfixVariableLengthElementsUsed = false)
    (h : t.records = [] ∨ t.totalLength = 0)
    (hfound : peerFindTemplate s.templates sourceId id.toUInt32
      context.clientAddressInStringFormat = some t)
    (hfits : records.flatten.length + 4 < 65536) :
    afterDataSet (processIpfixDataSet context timeSec sourceId) id records s = s := by
  have hset := dataSetBytes_length id records
  by_cases hfields : t.records = []
  · rw [afterDataSet, processIpfixDataSet, rejectIf_of_not (by omega), liftM_ok_bind,
      holds_dataSetBytes hfits, liftM_ok_bind, bind_of_ok (get_run s), hfound]
    dsimp only
    rw [processIpfixRecords, rejectIf_of hfields]
    rfl
  · rw [afterDataSet, processIpfixDataSet_known (by omega) (holds_dataSetBytes hfits) htype
      hfields hfound, processIpfixRegularDataSet_fixed hfixed,
      if_pos (.inl (h.resolve_left hfields))]
    rfl

theorem splitsAlike_ipfix (ht : t.IpfixSound) (htype : t.type = .data)
    (hfixed : t.ipfixVariableLengthElementsUsed = false)
    (hfound : peerFindTemplate s.templates sourceId id.toUInt32
      context.clientAddressInStringFormat = some t)
    (hrecords : records ≠ []) (hfits : records.flatten.length + 4 < 65536)
    (hlength : ∀ record ∈ records, record.length = t.totalLength.toNat)
    (hnumber : records.length ≤ 0x4000) :
    SplitsAlike (processIpfixDataSet context timeSec sourceId) id records s := by
  by_cases hvoid : t.records = [] ∨ t.totalLength = 0
  · exact splitsAlike_of_rejected
      (afterDataSet_ipfix_rejected htype hfixed hvoid hfound hfits) fun record hmem =>
        afterDataSet_ipfix_rejected htype hfixed hvoid hfound (fits_of_mem hfits hmem)
  · rw [not_or] at hvoid
    refine splitsAlike_of_records (I := fun s => peerFindTemplate s.templates sourceId
      id.toUInt32 context.clientAddressInStringFormat = some t) hfound ?_ ?_
      (afterDataSet_ipfix ht htype hfixed hvoid.1 hvoid.2 hfound hrecords hfits hlength hnumber) ?_
    · intro record s hs
      exact ipfixRecord_templates (fun templates => peerFindTemplate templates sourceId
        id.toUInt32 context.clientAddressInStringFormat = some t) hs
    · intro record hmem
      exact succeeds_ipfixRecord ht hfixed (hlength record hmem ▸ readable_ofBytes record)
    · intro record hmem s hs
      have hone : [record].length ≤ 0x4000 := by
        rw [List.length_singleton]
        decide
      rw [afterDataSet_ipfix ht htype hfixed hvoid.1 hvoid.2 hs (List.cons_ne_nil _ _)
        (fits_of_mem hfits hmem) (by simpa using hlength record hmem) hone, forM_singleton]

/-! ### Both collectors -/

/-- **A data set may be split**, if it has no more records than the collector takes from one
set: one set of all the records leaves the collector in the same state as a set for each of
them. -/
theorem split_data_sets (context : NetflowContext) (timeSec sourceId : UInt32) (id : UInt16)
    (t : Template) (records : List (List UInt8)) (s : CollectorState)
    (hfound : peerFindTemplate s.templates sourceId id.toUInt32
      context.clientAddressInStringFormat = some t)
    (hrecords : records ≠ []) (hfits : records.flatten.length + 4 < 65536)
    (hlength : ∀ record ∈ records, record.length = t.totalLength.toNat) :
    (NetflowV9Reachable s → records.length ≤ flowsPerPacketMaximumNumber →
      SplitsAlike (processNetflowV9Data context timeSec sourceId) id records s) ∧
    (IpfixReachable s → t.type = .data → t.ipfixVariableLengthElementsUsed = false →
      records.length ≤ 0x4000 →
      SplitsAlike (processIpfixDataSet context timeSec sourceId) id records s) :=
  ⟨fun hs hnumber => splitsAlike_netflowV9 (hs.sound _ _ _ _ hfound) hfound hrecords hfits
      hlength hnumber,
    fun hs htype hfixed hnumber => splitsAlike_ipfix (hs.sound _ _ _ _ hfound) htype hfixed
      hfound hrecords hfits hlength hnumber⟩

/-- Two records with two addresses. -/
def twoAddressRecords : List (List UInt8) := [[10, 0, 0, 1, 10, 0, 0, 2], [10, 0, 0, 3, 10, 0, 0, 4]]

theorem twoAddressRecords_split :
    SplitsAlike (processNetflowV9Data exporter 0 0) 256 twoAddressRecords
      (afterPacket exporter {} 1 [addressTemplateFlowset] {}) ∧
    SplitsAlike (processIpfixDataSet exporter 0 0) 256 twoAddressRecords
      (afterMessage exporter {} [addressTemplateSet] {}) :=
  ⟨(split_data_sets exporter 0 0 256 _ twoAddressRecords
      (afterPacket exporter {} 1 [addressTemplateFlowset] {}) rfl (by decide) (by decide)
      (by decide)).1 (.datagram _ _ _ .start) (by decide),
    (split_data_sets exporter 0 0 256 _ twoAddressRecords
      (afterMessage exporter {} [addressTemplateSet] {}) rfl (by decide) (by decide)
      (by decide)).2 (.datagram _ _ _ .start) rfl rfl (by decide)⟩

/-- A set of more records than the collector takes is turned down. -/
theorem afterDataSet_ipfix_tooMany (htype : t.type = .data)
    (hfixed : t.ipfixVariableLengthElementsUsed = false) (hfields : t.records ≠ [])
    (hpos : t.totalLength ≠ 0)
    (hfound : peerFindTemplate s.templates sourceId id.toUInt32
      context.clientAddressInStringFormat = some t)
    (hfits : records.flatten.length + 4 < 65536)
    (hlength : ∀ record ∈ records, record.length = t.totalLength.toNat)
    (hnumber : 0x4000 < records.length) :
    afterDataSet (processIpfixDataSet context timeSec sourceId) id records s = s := by
  have htotal : 0 < t.totalLength.toNat :=
    Nat.pos_of_ne_zero fun hzero => hpos (UInt32.toNat_inj.mp hzero)
  have hset := dataSetBytes_length id records
  have hdiv : ((dataSetBytes id records).length - 4) / t.totalLength.toNat = records.length := by
    rw [hset, length_flatten_of_length hlength, Nat.add_sub_cancel, Nat.mul_div_cancel _ htotal]
  rw [afterDataSet, processIpfixDataSet_known (by omega) (holds_dataSetBytes hfits) htype
    hfields hfound, processIpfixRegularDataSet_fixed hfixed, hdiv, if_pos (.inr (.inl hnumber))]
  rfl

/-- A record whose fields can be decoded yields one packet. -/
theorem length_emitted_ipfixRecord
    (hdecodes : ∀ packet : ParsedPacket, ∃ fields,
      ipfixFields m t.totalLength.toNat t.records 0 { packet } = .ok fields) :
    (ipfixRecord context timeSec t m s).1.emitted.length = s.emitted.length + 1 := by
  obtain ⟨packet, -, hstore⟩ :=
    (@run_ipfixDataSetToStore m t.totalLength.toNat context timeSec t s)
  obtain ⟨fields, hfields⟩ := hdecodes packet
  rw [hfields] at hstore
  rw [ipfixRecord, ignoreResult, hstore]
  exact List.length_append

/-- Sets of one record each yield a packet for each of them. -/
theorem length_emitted_ipfixSets (ht : t.IpfixSound) (htype : t.type = .data)
    (hfixed : t.ipfixVariableLengthElementsUsed = false) (hfields : t.records ≠ [])
    (hpos : t.totalLength ≠ 0)
    (hfound : peerFindTemplate s.templates sourceId id.toUInt32
      context.clientAddressInStringFormat = some t)
    (hfits : records.flatten.length + 4 < 65536)
    (hlength : ∀ record ∈ records, record.length = t.totalLength.toNat)
    (hdecodes : ∀ record ∈ records, ∀ packet : ParsedPacket, ∃ fields,
      ipfixFields (ofBytes record) t.totalLength.toNat t.records 0 { packet } = .ok fields) :
    (records.foldl (fun s record =>
        afterDataSet (processIpfixDataSet context timeSec sourceId) id [record] s) s).emitted.length
      = s.emitted.length + records.length := by
  induction records generalizing s with
  | nil => rfl
  | cons record records ih =>
    have hrecord := hlength record List.mem_cons_self
    have hone : [record].length ≤ 0x4000 := by
      rw [List.length_singleton]
      decide
    have hstep : afterDataSet (processIpfixDataSet context timeSec sourceId) id [record] s
        = (ipfixRecord context timeSec t (ofBytes record) s).1 := by
      rw [afterDataSet_ipfix ht htype hfixed hfields hpos hfound (List.cons_ne_nil _ _)
        (fits_of_mem hfits List.mem_cons_self) (by simpa using hrecord) hone, forM_singleton]
    have hkept : peerFindTemplate
        (ipfixRecord context timeSec t (ofBytes record) s).1.templates sourceId id.toUInt32
          context.clientAddressInStringFormat = some t :=
      ipfixRecord_templates (fun templates => peerFindTemplate templates sourceId
        id.toUInt32 context.clientAddressInStringFormat = some t) hfound
    rw [List.flatten_cons, List.length_append] at hfits
    rw [List.foldl_cons, hstep, ih hkept (by omega)
      (fun r hmem => hlength r (List.mem_cons_of_mem _ hmem))
      (fun r hmem => hdecodes r (List.mem_cons_of_mem _ hmem)),
      length_emitted_ipfixRecord (hdecodes record List.mem_cons_self), List.length_cons]
    omega

/-- The set of template 259: a protocol. -/
def protocolTemplateSet : Flowset := ⟨2, [1, 3, 0, 1, 0, 4, 0, 1], by decide⟩

/-- More records of this template than the collector takes. -/
def protocolRecords : List (List UInt8) := List.replicate 0x4001 [17]

/-- The set is turned down, but sets of one record each are not. -/
theorem protocolRecords_not_split :
    ¬ SplitsAlike (processIpfixDataSet exporter 0 0) 259 protocolRecords
      (afterMessage exporter {} [protocolTemplateSet] {}) := by
  intro hsame
  have hreachable : IpfixReachable (afterMessage exporter {} [protocolTemplateSet] {}) :=
    .datagram _ _ _ .start
  obtain ⟨t, hfound⟩ : ∃ t, peerFindTemplate
      (afterMessage exporter {} [protocolTemplateSet] {}).templates 0 (259 : UInt16).toUInt32
      exporter.clientAddressInStringFormat = some t := ⟨_, rfl⟩
  obtain rfl := Option.some.inj hfound
  have hrecords : ∀ record ∈ protocolRecords, record = [17] :=
    fun record hmem => List.eq_of_mem_replicate hmem
  have hlength : ∀ record ∈ protocolRecords, record.length = 1 :=
    fun record hmem => hrecords record hmem ▸ rfl
  have hnumber : protocolRecords.length = 0x4001 := List.length_replicate
  have hfits : protocolRecords.flatten.length + 4 < 65536 := by
    rw [length_flatten_of_length hlength, hnumber]
    decide
  have hrejected : afterDataSet (processIpfixDataSet exporter 0 0) 259 protocolRecords
      (afterMessage exporter {} [protocolTemplateSet] {})
      = afterMessage exporter {} [protocolTemplateSet] {} :=
    afterDataSet_ipfix_tooMany rfl rfl (List.cons_ne_nil _ _) (by decide) hfound hfits hlength
      (by rw [hnumber]; decide)
  have hsplit : (protocolRecords.foldl (fun s record =>
        afterDataSet (processIpfixDataSet exporter 0 0) 259 [record] s)
      (afterMessage exporter {} [protocolTemplateSet] {})).emitted.length
      = (afterMessage exporter {} [protocolTemplateSet] {}).emitted.length
        + protocolRecords.length :=
    length_emitted_ipfixSets (hreachable.sound _ _ _ _ hfound) rfl rfl (List.cons_ne_nil _ _)
      (by decide) hfound hfits hlength fun record hmem packet =>
        hrecords record hmem ▸ ⟨_, rfl⟩
  rw [SplitsAlike, hrejected] at hsame
  rw [← hsame, hnumber] at hsplit
  omega

/-- The set of options template 258: a scope of four bytes and a sampling interval. -/
def samplingTemplateSet : Flowset :=
  ⟨3, [1, 2, 0, 2, 0, 1, 0, 149, 0, 4, 0, 34, 0, 4], by decide⟩

/-- Two sampling intervals, 100 and 200. -/
def samplingRecords : List (List UInt8) := [[0, 0, 0, 1, 0, 0, 0, 100], [0, 0, 0, 2, 0, 0, 0, 200]]

/-- The collector of NetFlow v9 turns a set of 257 records down and that of IPFIX one of
0x4001 records, and of a set with options IPFIX decodes one record. -/
theorem largeSets_not_split :
    ¬ SplitsAlike (processNetflowV9Data exporter 0 0) 256
      (List.replicate 257 [10, 0, 0, 1, 10, 0, 0, 2])
      (afterPacket exporter {} 1 [addressTemplateFlowset] {}) ∧
    ¬ SplitsAlike (processIpfixDataSet exporter 0 0) 259 protocolRecords
      (afterMessage exporter {} [protocolTemplateSet] {}) ∧
    ¬ SplitsAlike (processIpfixDataSet exporter 0 0) 258 samplingRecords
      (afterMessage exporter {} [samplingTemplateSet] {}) := by
  refine ⟨?_, ?_, ?_⟩
  · intro hsame
    have hlength := congrArg (fun s => s.emitted.length) hsame
    exact absurd hlength (by decide +kernel)
  · exact protocolRecords_not_split
  · intro hsame
    have hrate := congrArg (fun s => s.samplingRates exporter.clientAddressInStringFormat) hsame
    exact absurd hrate (by decide +kernel)

end FastNetMon
