/-
FastNetMon/VariableRecords.lean

Data sets of IPFIX with variable fields and padding.

The end of the records is found by comparing what is left of the set with the total length of
the template, which is the length of the fixed fields in front of the first variable one.  A
padding that is not shorter is taken for a record, and turned down at its first variable field.
Main result: `variableRecords_iff`.
-/
import FastNetMon.IpfixBounds
import FastNetMon.IpfixTemplateRecords

namespace FastNetMon

open Memory Procedure

/-! ### Encoded records -/

/-- The bytes of a field: as many as the template says, or the length of a payload that is not
empty, in one byte or in three, and the payload. -/
inductive EncodesField : TemplateRecord → List UInt8 → Prop
  | fixed {record : TemplateRecord} {bytes : List UInt8} (hfixed : record.isVariable = false)
      (hlength : bytes.length = record.recordLength.toNat) : EncodesField record bytes
  | oneByte {record : TemplateRecord} {payload : List UInt8} (hvariable : record.isVariable = true)
      (hpos : 0 < payload.length) (hlt : payload.length < 255) :
      EncodesField record (.ofNat payload.length :: payload)
  | threeBytes {record : TemplateRecord} {payload : List UInt8}
      (hvariable : record.isVariable = true) (hpos : 0 < payload.length)
      (hlt : payload.length < 65536) :
      EncodesField record (255 :: (bytes16 (byteSwap16 (.ofNat payload.length)) ++ payload))

/-- The bytes of a record, field by field. -/
abbrev EncodesRecord : List TemplateRecord → List (List UInt8) → Prop :=
  List.Forall₂ EncodesField

variable {m m' : Memory} {offset setMaximumLength : ℕ} {record : TemplateRecord}
  {bytes : List UInt8}

/-- The length of an encoded field is read as it is. -/
theorem readIpfixVariableLengthField_of_encodes (hvariable : record.isVariable = true)
    (h : EncodesField record bytes) (hbytes : m.Holds offset bytes)
    (hfits : offset + bytes.length ≤ setMaximumLength) :
    ∃ info, readIpfixVariableLengthField m offset setMaximumLength = .ok info ∧
      info.recordFullLength.toNat = bytes.length := by
  cases h with
  | fixed hfixed _ => exact absurd (hvariable.symm.trans hfixed) (by decide)
  | @oneByte payload _ hpos hlt =>
    have hfirst : (UInt8.ofNat payload.length).toNat = payload.length := by
      rw [UInt8.toNat_ofNat']
      omega
    have hne : (UInt8.ofNat payload.length) ≠ 0 := fun hzero => by
      rw [hzero] at hfirst
      exact hpos.ne hfirst
    have hshort : (UInt8.ofNat payload.length) ≠ 255 := fun hfull => by
      rw [hfull] at hfirst
      exact hlt.ne' hfirst
    rw [List.length_cons] at hfits
    have hfull : ((UInt8.ofNat payload.length).toUInt32 + 1).toNat = payload.length + 1 := by
      rw [UInt32.toNat_add, UInt8.toNat_toUInt32, hfirst]
      show (payload.length + 1) % 2 ^ 32 = _
      omega
    refine ⟨⟨.singleByte, (UInt8.ofNat payload.length).toUInt16,
      (UInt8.ofNat payload.length).toUInt32 + 1⟩, ?_, ?_⟩
    · rw [readIpfixVariableLengthField, rejectIf_of_not (by omega), ok_bind, hbytes.read, ok_bind,
        rejectIf_of_not hne, ok_bind, variableLengthEncodingInfo, if_neg hshort, ok_bind,
        rejectIf_of_not (by rw [hfull]; omega)]
      rfl
    · rw [hfull, List.length_cons]
  | @threeBytes payload _ hpos hlt =>
    have hword : (UInt16.ofNat payload.length).toNat = payload.length := by
      rw [UInt16.toNat_ofNat']
      omega
    rw [List.length_cons, List.length_append, bytes16_length] at hfits
    have hfull : ((UInt16.ofNat payload.length).toUInt32 + 1 + 2).toNat = payload.length + 3 := by
      rw [UInt32.toNat_add, UInt32.toNat_add, UInt16.toNat_toUInt32, hword]
      show ((payload.length + 1) % 2 ^ 32 + 2) % 2 ^ 32 = _
      omega
    refine ⟨⟨.twoByte, UInt16.ofNat payload.length, (UInt16.ofNat payload.length).toUInt32 + 1 + 2⟩,
      ?_, ?_⟩
    · rw [readIpfixVariableLengthField, rejectIf_of_not (by omega), ok_bind, hbytes.read, ok_bind,
        rejectIf_of_not (by decide), ok_bind, variableLengthEncodingInfo, if_pos rfl,
        rejectIf_of_not (by omega), ok_bind, (holds_append.mp hbytes.2).1.readNtohs, ok_bind]
      show (do rejectIf _; return _) = _
      rw [rejectIf_of_not (by rw [hfull]; omega)]
      rfl
    · rw [hfull, List.length_cons, List.length_append, bytes16_length]
      omega

/-- The length of an encoded field, whatever the flow. -/
theorem ipfixFieldLength_of_encodes {flow : Flow} (h : EncodesField record bytes)
    (hbytes : m.Holds offset bytes) (hfits : offset + bytes.length ≤ setMaximumLength) :
    ∃ recordLength noted, ipfixFieldLength m setMaximumLength record offset flow
      = .ok (recordLength, noted) ∧ recordLength.toNat = bytes.length := by
  rw [ipfixFieldLength]
  by_cases hvariable : record.isVariable = true
  · obtain ⟨info, hinfo, hlength⟩ :=
      readIpfixVariableLengthField_of_encodes hvariable h hbytes hfits
    rw [if_pos hvariable, hinfo]
    exact ⟨_, _, rfl, hlength⟩
  · rw [if_neg hvariable]
    refine ⟨_, _, rfl, ?_⟩
    cases h with
    | fixed _ hlength => exact hlength.symm
    | oneByte hvariable' _ _ => exact absurd hvariable' hvariable
    | threeBytes hvariable' _ _ => exact absurd hvariable' hvariable

/-- A record that is decoded takes the bytes that encode it. -/
theorem ipfixFields_length {records : List TemplateRecord} {fields : List (List UInt8)}
    {flow : Flow} {decoded : Flow × ℕ} (h : EncodesRecord records fields)
    (hbytes : m.Holds offset fields.flatten)
    (hfits : offset + fields.flatten.length ≤ setMaximumLength)
    (hrun : ipfixFields m setMaximumLength records offset flow = .ok decoded) :
    decoded.2 = offset + fields.flatten.length := by
  induction h generalizing offset flow with
  | nil =>
    obtain rfl := Except.ok.inj hrun
    rfl
  | @cons record bytes records fields hfield hrest ih =>
    rw [List.flatten_cons, List.length_append] at hfits
    rw [List.flatten_cons, holds_append] at hbytes
    have hend : offset + bytes.length ≤ setMaximumLength := by omega
    obtain ⟨recordLength, noted, hlength, hbound⟩ :=
      @ipfixFieldLength_of_encodes _ _ _ _ _ flow hfield hbytes.1 hend
    rw [ipfixFields, hlength, ok_bind] at hrun
    simp only [bind_eq_ok_iff] at hrun
    obtain ⟨-, -, next, -, hrun⟩ := hrun
    rw [hbound] at hrun
    rw [ih hbytes.2 (by omega) hrun, List.flatten_cons, List.length_append]
    omega

/-- A record is decoded if its fields are decoded from their own bytes. -/
theorem ipfixFields_of_encodes {records : List TemplateRecord} {fields : List (List UInt8)}
    {flow : Flow} (h : EncodesRecord records fields) (hbytes : m.Holds offset fields.flatten)
    (hfits : offset + fields.flatten.length ≤ setMaximumLength)
    (hinside : FieldsStayInside m setMaximumLength records offset flow) :
    ∃ decoded, ipfixFields m setMaximumLength records offset flow = .ok decoded := by
  induction h generalizing offset flow with
  | nil => exact ⟨_, rfl⟩
  | @cons record bytes records fields hfield hrest ih =>
    rw [List.flatten_cons, List.length_append] at hfits
    rw [List.flatten_cons, holds_append] at hbytes
    have hend : offset + bytes.length ≤ setMaximumLength := by omega
    obtain ⟨recordLength, noted, hlength, hbound⟩ :=
      @ipfixFieldLength_of_encodes _ _ _ _ _ flow hfield hbytes.1 hend
    rw [FieldsStayInside, hlength] at hinside
    have hdecodes := hinside (hbound ▸ hend)
    rw [ipfixFields, hlength, ok_bind]
    show ∃ decoded, (do rejectIf _; _) = Except.ok decoded
    rw [rejectIf_of_not (by rw [hbound]; omega), ok_bind]
    have hagrees : Agrees
        (ipfixRecordToFlow (fieldMemory m offset recordLength) record.recordType recordLength noted)
        (ipfixRecordToFlow (m.shift offset) record.recordType recordLength noted) :=
      agrees_ipfixRecordToFlow (extends_window _ _ _) _ _ _
    cases hdecode : ipfixRecordToFlow (fieldMemory m offset recordLength) record.recordType
        recordLength noted with
    | error fault =>
      rw [hdecode] at hdecodes
      exact hdecodes.elim
    | ok next =>
      rw [hdecode] at hdecodes hagrees
      rw [hagrees.eq (clean_ok _), ok_bind, hbound]
      rw [hbound] at hdecodes
      exact ih hbytes.2 (by omega) hdecodes

/-! ### Records in a set -/

/-- A longer set does not change what is read of a field. -/
theorem ipfixFieldLength_mono {setMaximumLength' : ℕ} {flow : Flow} {field : UInt32 × Flow}
    (hle : setMaximumLength ≤ setMaximumLength')
    (h : ipfixFieldLength m setMaximumLength record offset flow = .ok field) :
    ipfixFieldLength m setMaximumLength' record offset flow = .ok field := by
  rw [ipfixFieldLength] at h ⊢
  split at h
  · rename_i hvariable
    rw [if_pos hvariable]
    simp only [bind_eq_ok_iff, pure_eq_ok_iff, readIpfixVariableLengthField,
      rejectIf_eq_ok_iff] at h
    obtain ⟨info, ⟨-, hone, fieldLength, hread, -, hne, info', hinfo, -, hend, rfl⟩, rfl⟩ := h
    have hinfo' : variableLengthEncodingInfo m offset setMaximumLength' fieldLength
        = .ok info' := by
      rw [variableLengthEncodingInfo] at hinfo ⊢
      split at hinfo
      · rename_i hlong
        simp only [bind_eq_ok_iff, rejectIf_eq_ok_iff] at hinfo
        obtain ⟨-, hthree, word, hword, hinfo⟩ := hinfo
        rw [if_pos hlong, rejectIf_of_not (by omega), ok_bind, hword, ok_bind]
        exact hinfo
      · rename_i hshort
        rw [if_neg hshort]
        exact hinfo
    rw [readIpfixVariableLengthField, rejectIf_of_not (by omega), ok_bind, hread, ok_bind,
      rejectIf_of_not hne, ok_bind, hinfo', ok_bind, rejectIf_of_not (by omega)]
    rfl
  · rename_i hfixed
    rw [if_neg hfixed]
    exact h

/-- A longer set does not change what is read of a record. -/
theorem ipfixFields_mono {setMaximumLength' : ℕ} {records : List TemplateRecord} {flow : Flow}
    {decoded : Flow × ℕ} (hle : setMaximumLength ≤ setMaximumLength')
    (h : ipfixFields m setMaximumLength records offset flow = .ok decoded) :
    ipfixFields m setMaximumLength' records offset flow = .ok decoded := by
  induction records generalizing offset flow with
  | nil => exact h
  | cons record records ih =>
    simp only [ipfixFields, bind_eq_ok_iff, rejectIf_eq_ok_iff] at h
    obtain ⟨field, hfield, -, hend, next, hnext, h⟩ := h
    rw [ipfixFields, ipfixFieldLength_mono hle hfield, ok_bind]
    show (do rejectIf _; _) = Except.ok decoded
    rw [rejectIf_of_not (by omega), ok_bind, hnext, ok_bind]
    exact ih h

theorem holds_shift {p q : ℕ} : (m.shift p).Holds q bytes ↔ m.Holds (p + q) bytes := by
  induction bytes generalizing q with
  | nil => exact Iff.rfl
  | cons b bytes ih => exact and_congr_right fun _ => ih

/-- What stands at an address can be read there. -/
theorem extends_of_holds {p : ℕ} (h : m.Holds p bytes) : (ofBytes bytes).Extends (m.shift p) := by
  intro i b hi
  obtain ⟨hlt, rfl⟩ := List.getElem?_eq_some_iff.mp hi
  have hsplit : bytes = bytes.take i ++ bytes[i] :: bytes.drop (i + 1) := by
    rw [List.getElem_cons_drop, List.take_append_drop]
  rw [hsplit, holds_append, List.length_take, min_eq_left hlt.le] at h
  exact h.2.1

variable {t : Template} {packet : ParsedPacket} {fields : List (List UInt8)}

/-- The flow of a record that is decoded from its own bytes. -/
def recordFlow (t : Template) (packet : ParsedPacket) (fields : List (List UInt8)) : Option Flow :=
  match ipfixFields (ofBytes fields.flatten) fields.flatten.length t.records 0 { packet } with
  | .ok decoded => some decoded.1
  | .error _ => none

/-- A frame section that does not carry its length fits into its field. -/
def RecordFits (t : Template) (fields : List (List UInt8)) : Prop :=
  FrameSectionsFit (ofBytes fields.flatten) fields.flatten.length t.records 0 .unknown 0

/-- A record is decoded in its set as it is from its own bytes. -/
theorem ipfixFields_of_recordFits (hencodes : EncodesRecord t.records fields)
    (hframes : RecordFits t fields) (hbytes : m.Holds 0 fields.flatten)
    (hfits : fields.flatten.length ≤ setMaximumLength) (packet : ParsedPacket) :
    ∃ flow, recordFlow t packet fields = some flow ∧
      ipfixFields m setMaximumLength t.records 0 { packet }
        = .ok (flow, fields.flatten.length) := by
  have hown := holds_ofBytes fields.flatten
  have hinside : FieldsStayInside (ofBytes fields.flatten) fields.flatten.length t.records 0
      { packet } := hframes.fieldsStayInside (readable_ofBytes _)
  obtain ⟨decoded, hdecoded⟩ :=
    ipfixFields_of_encodes hencodes hown (Nat.zero_add _).le hinside
  have hlength := ipfixFields_length hencodes hown (Nat.zero_add _).le hdecoded
  rw [Nat.zero_add] at hlength
  refine ⟨decoded.1, by rw [recordFlow, hdecoded], ?_⟩
  have hextends := extends_of_holds hbytes
  rw [shift_zero] at hextends
  have hagrees := agrees_ipfixFields hextends fields.flatten.length t.records 0 { packet }
  rw [hdecoded] at hagrees
  rw [← hlength]
  exact ipfixFields_mono hfits (hagrees.eq (clean_ok _))

/-! ### The end of the records -/

/-- The length of the fixed fields in front of the first variable one. -/
def fixedPrefixLength (records : List TemplateRecord) : ℕ :=
  fieldsLength (records.takeWhile fun record => !record.isVariable)

/-- A record is longer than the fixed fields in front of its first variable one. -/
theorem fixedPrefixLength_lt {records : List TemplateRecord} (h : EncodesRecord records fields)
    (hvariable : records.any TemplateRecord.isVariable = true) :
    fixedPrefixLength records < fields.flatten.length := by
  induction h with
  | nil => cases hvariable
  | @cons record bytes records fields hfield hrest ih =>
    rw [List.flatten_cons, List.length_append, fixedPrefixLength]
    cases hfield with
    | fixed hfixed hlength =>
      rw [List.any_cons, hfixed, Bool.false_or] at hvariable
      rw [List.takeWhile_cons_of_pos (by rw [hfixed]; rfl), fieldsLength_cons, ← hlength]
      exact Nat.add_lt_add_left (ih hvariable) _
    | oneByte hfirst _ _ =>
      rw [List.takeWhile_cons_of_neg (by rw [hfirst]; decide)]
      show 0 < _
      rw [List.length_cons]
      omega
    | threeBytes hfirst _ _ =>
      rw [List.takeWhile_cons_of_neg (by rw [hfirst]; decide)]
      show 0 < _
      rw [List.length_cons]
      omega

/-- Zeros are no record with a variable field. -/
theorem ipfixFields_zeros {records : List TemplateRecord} {padding : ℕ} {flow : Flow}
    (hvariable : records.any TemplateRecord.isVariable = true)
    (hzeros : m.Holds offset (List.replicate padding 0))
    (hend : setMaximumLength = offset + padding) (decoded : Flow × ℕ) :
    ipfixFields m setMaximumLength records offset flow ≠ .ok decoded := by
  induction records generalizing offset padding flow with
  | nil => cases hvariable
  | cons record records ih =>
    intro h
    simp only [ipfixFields, bind_eq_ok_iff, rejectIf_eq_ok_iff] at h
    obtain ⟨field, hfield, -, hfits, next, -, h⟩ := h
    rw [ipfixFieldLength] at hfield
    split at hfield
    · -- the first byte of a variable field is not zero
      simp only [bind_eq_ok_iff, readIpfixVariableLengthField, rejectIf_eq_ok_iff] at hfield
      obtain ⟨info, ⟨-, hone, fieldLength, hread, -, hne, -⟩, -⟩ := hfield
      cases padding with
      | zero => omega
      | succ padding =>
        rw [List.replicate_succ] at hzeros
        exact hne (Except.ok.inj (hread.symm.trans hzeros.read))
    · rename_i hfixed
      obtain rfl := Except.ok.inj hfield
      rw [List.any_cons, Bool.eq_false_iff.mpr hfixed, Bool.false_or] at hvariable
      dsimp only at hfits h
      have hsplit : List.replicate padding (0 : UInt8)
          = List.replicate record.recordLength.toNat 0
            ++ List.replicate (padding - record.recordLength.toNat) 0 := by
        rw [List.replicate_append_replicate]
        congr 1
        omega
      rw [hsplit, holds_append, List.length_replicate] at hzeros
      exact ih hvariable hzeros.2 (by omega) h

/-! ### The loop -/

variable {context : NetflowContext} {timeSec : UInt32} {s : CollectorState} {loop : IpfixLoop}
  {setLength fuel : ℕ}

theorem ipfixDataSetToStore_eq (hfresh : (freshPacket context timeSec s).2 = .ok packet) :
    ipfixDataSetToStore context timeSec t setMaximumLength m s
      = match ipfixFields m setMaximumLength t.records 0 { packet } with
        | .ok fields => ({ s with emitted := s.emitted ++ [ipfixPacket fields.1] }, .ok fields.2)
        | .error fault => (s, .error fault) := by
  obtain ⟨packet', hfresh', hrun⟩ := @run_ipfixDataSetToStore m setMaximumLength context timeSec t s
  rw [hfresh'] at hfresh
  obtain rfl := Except.ok.inj hfresh
  exact hrun

/-- A round of the loop in which the record is turned down. -/
theorem ipfixVariableRecords_error {fault : Fault}
    (hfresh : (freshPacket context timeSec s).2 = .ok packet)
    (hlt : loop.flowOffset.toNat < setLength - 4)
    (hdecode : ipfixFields (m.shift (4 + loop.flowOffset.toNat))
      loop.maximumDataAvailableToRead.toNat t.records 0 { packet } = .error fault) :
    (ipfixVariableRecords context timeSec t m setLength (fuel + 1) loop s).2 = .error fault := by
  have hrun := @ipfixDataSetToStore_eq (m.shift (4 + loop.flowOffset.toNat))
    loop.maximumDataAvailableToRead.toNat t packet context timeSec s hfresh
  rw [hdecode] at hrun
  have hrecord : ipfixVariableRecord context timeSec t m loop s = (s, .error fault) := by
    rw [ipfixVariableRecord, bind_of_error hrun]
  rw [ipfixVariableRecords, if_pos hlt, bind_of_error hrecord]

/-- The state after the flow of a record. -/
def CollectorState.emit (s : CollectorState) (flow : Flow) : CollectorState :=
  { s with emitted := s.emitted ++ [ipfixPacket flow] }

/-- A round of the loop behind which there is no room for a record. -/
theorem ipfixVariableRecords_last {flow : Flow} {n : ℕ}
    (hfresh : (freshPacket context timeSec s).2 = .ok packet)
    (hlt : loop.flowOffset.toNat < setLength - 4)
    (hdecode : ipfixFields (m.shift (4 + loop.flowOffset.toNat))
      loop.maximumDataAvailableToRead.toNat t.records 0 { packet } = .ok (flow, n))
    (hend : (loop.advance n).maximumDataAvailableToRead < t.totalLength)
    (hzeros : m.Holds (4 + (loop.advance n).flowOffset.toNat)
      (List.replicate (loop.advance n).maximumDataAvailableToRead.toNat 0)) :
    ipfixVariableRecords context timeSec t m setLength (fuel + 1) loop s
      = (s.emit flow, .ok ()) := by
  have hrun := @ipfixDataSetToStore_eq (m.shift (4 + loop.flowOffset.toNat))
    loop.maximumDataAvailableToRead.toNat t packet context timeSec s hfresh
  rw [hdecode] at hrun
  have hrecord : ipfixVariableRecord context timeSec t m loop s = (s.emit flow, .ok none) := by
    rw [ipfixVariableRecord, bind_of_ok hrun]
    show (if (loop.advance n).maximumDataAvailableToRead < t.totalLength then
      (_ : Collect (Option IpfixLoop)) else _) (s.emit flow) = _
    have hzero : (liftM (areAllPaddingBytesAreZero m (4 + (loop.advance n).flowOffset.toNat)
        (loop.advance n).maximumDataAvailableToRead.toNat) : Collect Bool) (s.emit flow)
          = (s.emit flow, .ok true) := by
      rw [areAllPaddingBytesAreZero_of_holds hzeros]
      rfl
    rw [if_pos hend]
    exact (bind_of_ok hzero).trans rfl
  rw [ipfixVariableRecords, if_pos hlt, bind_of_ok hrecord]
  rfl

/-- A round of the loop behind which there is room for a record. -/
theorem ipfixVariableRecords_next {flow : Flow} {n : ℕ}
    (hfresh : (freshPacket context timeSec s).2 = .ok packet)
    (hlt : loop.flowOffset.toNat < setLength - 4)
    (hdecode : ipfixFields (m.shift (4 + loop.flowOffset.toNat))
      loop.maximumDataAvailableToRead.toNat t.records 0 { packet } = .ok (flow, n))
    (hroom : ¬ (loop.advance n).maximumDataAvailableToRead < t.totalLength) :
    ipfixVariableRecords context timeSec t m setLength (fuel + 1) loop s
      = ipfixVariableRecords context timeSec t m setLength fuel (loop.advance n) (s.emit flow) := by
  have hrun := @ipfixDataSetToStore_eq (m.shift (4 + loop.flowOffset.toNat))
    loop.maximumDataAvailableToRead.toNat t packet context timeSec s hfresh
  rw [hdecode] at hrun
  have hrecord : ipfixVariableRecord context timeSec t m loop s
      = (s.emit flow, .ok (some (loop.advance n))) := by
    rw [ipfixVariableRecord, bind_of_ok hrun]
    show (if (loop.advance n).maximumDataAvailableToRead < t.totalLength then
      (_ : Collect (Option IpfixLoop)) else _) (s.emit flow) = _
    rw [if_neg hroom]
    rfl
  rw [ipfixVariableRecords, if_pos hlt, bind_of_ok hrecord]

/-- The bytes of some records, and padding. -/
def paddedRecords (records : List (List (List UInt8))) (padding : ℕ) : List UInt8 :=
  (records.map List.flatten).flatten ++ List.replicate padding 0

/-- Some records, and padding, are what is left of a set. -/
structure LeftOf (m : Memory) (setLength : ℕ) (loop : IpfixLoop)
    (records : List (List (List UInt8))) (padding : ℕ) : Prop where
  fits : loop.Fits setLength
  bytes : m.Holds (4 + loop.flowOffset.toNat) (paddedRecords records padding)
  left : loop.maximumDataAvailableToRead.toNat = (paddedRecords records padding).length

variable {records : List (List (List UInt8))} {padding : ℕ}

theorem length_paddedRecords_cons (fields : List (List UInt8)) (records : List (List (List UInt8)))
    (padding : ℕ) : (paddedRecords (fields :: records) padding).length
      = fields.flatten.length + (paddedRecords records padding).length := by
  rw [paddedRecords, List.map_cons, List.flatten_cons, List.append_assoc, List.length_append]
  rfl

/-- What is left after a record. -/
theorem LeftOf.advance (h : LeftOf m setLength loop (fields :: records) padding)
    (hset : setLength < 2 ^ 32) :
    LeftOf m setLength (loop.advance fields.flatten.length) records padding := by
  have hleft := h.left
  rw [length_paddedRecords_cons] at hleft
  have hle : fields.flatten.length ≤ loop.maximumDataAvailableToRead.toNat := by omega
  have hfits := h.fits.advance hset hle
  have hadvance := IpfixLoop.advance_left hle
  have hbytes := h.bytes
  rw [paddedRecords, List.map_cons, List.flatten_cons, List.append_assoc, holds_append] at hbytes
  have hbefore := h.fits
  rw [IpfixLoop.Fits] at hbefore hfits
  have hoffset : 4 + (loop.advance fields.flatten.length).flowOffset.toNat
      = 4 + loop.flowOffset.toNat + fields.flatten.length := by omega
  refine ⟨hfits, ?_, by omega⟩
  rw [hoffset]
  exact hbytes.2

/-- The record that comes next. -/
theorem LeftOf.next (h : LeftOf m setLength loop (fields :: records) padding)
    (hpos : 0 < fields.flatten.length) :
    loop.flowOffset.toNat < setLength - 4 ∧
      (m.shift (4 + loop.flowOffset.toNat)).Holds 0 fields.flatten ∧
      fields.flatten.length ≤ loop.maximumDataAvailableToRead.toNat := by
  have hleft := h.left
  have hfits := h.fits
  have hbytes := h.bytes
  rw [length_paddedRecords_cons] at hleft
  rw [IpfixLoop.Fits] at hfits
  rw [paddedRecords, List.map_cons, List.flatten_cons, List.append_assoc, holds_append] at hbytes
  exact ⟨by omega, holds_shift.mpr hbytes.1, by omega⟩

/-- What a template is known for that was read by the collector. -/
structure VariableTemplate (t : Template) : Prop where
  variable_any : t.records.any TemplateRecord.isVariable = true
  totalLength_eq : t.totalLength.toNat = fixedPrefixLength t.records

/-- Where a record follows, the loop does not take it for padding. -/
theorem LeftOf.room (h : LeftOf m setLength loop (fields :: records) padding)
    (ht : VariableTemplate t) (hencodes : EncodesRecord t.records fields) :
    ¬ loop.maximumDataAvailableToRead < t.totalLength := by
  have hlt := fixedPrefixLength_lt hencodes ht.variable_any
  have hleft := h.left
  rw [length_paddedRecords_cons] at hleft
  rw [UInt32.lt_iff_toNat_lt, ht.totalLength_eq]
  omega

/-- A set that is processed to its end has a padding that is shorter than the total length. -/
theorem padding_of_ok (ht : VariableTemplate t) (hset : setLength < 2 ^ 32)
    (hencodes : ∀ fields ∈ records, EncodesRecord t.records fields)
    (hleft : LeftOf m setLength loop records padding)
    (hfresh : (freshPacket context timeSec s).2 = .ok packet)
    (hok : (ipfixVariableRecords context timeSec t m setLength fuel loop s).2 = .ok ()) :
    padding = 0 ∨ padding < t.totalLength.toNat := by
  induction records generalizing loop fuel s with
  | nil =>
    refine .inl ?_
    by_contra hpadding
    have hfits := hleft.fits
    have hlength := hleft.left
    have hzeros : (m.shift (4 + loop.flowOffset.toNat)).Holds 0 (List.replicate padding 0) :=
      holds_shift.mpr hleft.bytes
    rw [show paddedRecords [] padding = List.replicate padding 0 from rfl,
      List.length_replicate] at hlength
    rw [IpfixLoop.Fits] at hfits
    cases fuel with
    | zero => cases hok
    | succ fuel =>
      cases hdecode : ipfixFields (m.shift (4 + loop.flowOffset.toNat))
          loop.maximumDataAvailableToRead.toNat t.records 0 { packet } with
      | error fault =>
        rw [ipfixVariableRecords_error hfresh (by omega) hdecode] at hok
        cases hok
      | ok decoded =>
        exact ipfixFields_zeros ht.variable_any hzeros (by omega) decoded hdecode
  | cons fields records ih =>
    have hfields := hencodes fields List.mem_cons_self
    have hrest := hleft.advance hset
    have hpos := fixedPrefixLength_lt hfields ht.variable_any
    obtain ⟨hlt, hbytes, hfits⟩ := hleft.next (by omega)
    cases fuel with
    | zero => cases hok
    | succ fuel =>
      cases hdecode : ipfixFields (m.shift (4 + loop.flowOffset.toNat))
          loop.maximumDataAvailableToRead.toNat t.records 0 { packet } with
      | error fault =>
        rw [ipfixVariableRecords_error hfresh hlt hdecode] at hok
        cases hok
      | ok decoded =>
        obtain ⟨flow, n⟩ := decoded
        have hn : n = 0 + fields.flatten.length :=
          ipfixFields_length hfields hbytes (by omega) hdecode
        obtain rfl : n = fields.flatten.length := by omega
        by_cases hend : (loop.advance fields.flatten.length).maximumDataAvailableToRead
            < t.totalLength
        · cases records with
          | nil =>
            have hlength := hrest.left
            rw [show paddedRecords [] padding = List.replicate padding 0 from rfl,
              List.length_replicate] at hlength
            rw [UInt32.lt_iff_toNat_lt, hlength] at hend
            exact .inr hend
          | cons later records =>
            have hlater := hencodes later (List.mem_cons_of_mem _ List.mem_cons_self)
            exact absurd hend (hrest.room ht hlater)
        · rw [ipfixVariableRecords_next hfresh hlt hdecode hend] at hok
          exact ih (fun fields hmem => hencodes fields (List.mem_cons_of_mem _ hmem)) hrest
            (s := s.emit flow) hfresh hok

/-- Records whose padding is short enough are all decoded. -/
theorem run_of_padding (ht : VariableTemplate t) (hset : setLength < 2 ^ 32)
    (hencodes : ∀ fields ∈ records, EncodesRecord t.records fields)
    (hframes : ∀ fields ∈ records, RecordFits t fields)
    (hpadding : padding = 0 ∨ padding < t.totalLength.toNat) (hpos : records = [] → padding = 0)
    (hleft : LeftOf m setLength loop records padding)
    (hfuel : loop.maximumDataAvailableToRead.toNat < fuel)
    (hfresh : (freshPacket context timeSec s).2 = .ok packet) :
    ∃ flows : List Flow, flows.map some = records.map (recordFlow t packet) ∧
      (ipfixVariableRecords context timeSec t m setLength fuel loop s).1.emitted
        = s.emitted ++ flows.map ipfixPacket ∧
      (ipfixVariableRecords context timeSec t m setLength fuel loop s).2 = .ok () := by
  induction records generalizing loop fuel s with
  | nil =>
    obtain rfl := hpos rfl
    have hfits := hleft.fits
    have hlength : loop.maximumDataAvailableToRead.toNat = 0 := hleft.left
    rw [IpfixLoop.Fits] at hfits
    cases fuel with
    | zero => exact absurd hfuel (Nat.not_lt_zero _)
    | succ fuel =>
      refine ⟨[], rfl, ?_⟩
      rw [ipfixVariableRecords, if_neg (by omega)]
      exact ⟨(List.append_nil _).symm, rfl⟩
  | cons fields records ih =>
    have hfields := hencodes fields List.mem_cons_self
    have hrest := hleft.advance hset
    have hlong := fixedPrefixLength_lt hfields ht.variable_any
    obtain ⟨hlt, hbytes, hfits⟩ := hleft.next (by omega)
    have hadvance := IpfixLoop.advance_left hfits
    obtain ⟨flow, hflow, hdecode⟩ := ipfixFields_of_recordFits hfields
      (hframes fields List.mem_cons_self) hbytes hfits packet
    cases fuel with
    | zero => exact absurd hfuel (Nat.not_lt_zero _)
    | succ fuel =>
      by_cases hend : (loop.advance fields.flatten.length).maximumDataAvailableToRead
          < t.totalLength
      · cases records with
        | nil =>
          have hzeros := hrest.bytes
          have hlength := hrest.left
          rw [show paddedRecords [] padding = List.replicate padding 0 from rfl] at hzeros hlength
          rw [List.length_replicate] at hlength
          rw [← hlength] at hzeros
          rw [ipfixVariableRecords_last hfresh hlt hdecode hend hzeros]
          exact ⟨[flow], congrArg (fun flow => [flow]) hflow.symm, rfl, rfl⟩
        | cons later records =>
          have hlater := hencodes later (List.mem_cons_of_mem _ List.mem_cons_self)
          exact absurd hend (hrest.room ht hlater)
      · have hshort : records = [] → padding = 0 := by
          rintro rfl
          have hlength := hrest.left
          rw [show paddedRecords [] padding = List.replicate padding 0 from rfl,
            List.length_replicate] at hlength
          rw [UInt32.lt_iff_toNat_lt, hlength] at hend
          exact hpadding.resolve_right hend
        have hfuel' : (loop.advance fields.flatten.length).maximumDataAvailableToRead.toNat
            < fuel := by omega
        obtain ⟨flows, hflows, hemitted, hok⟩ := ih
          (fun fields hmem => hencodes fields (List.mem_cons_of_mem _ hmem))
          (fun fields hmem => hframes fields (List.mem_cons_of_mem _ hmem)) hshort hrest
          hfuel' (s := s.emit flow) hfresh
        rw [ipfixVariableRecords_next hfresh hlt hdecode hend]
        refine ⟨flow :: flows, ?_, ?_, hok⟩
        · rw [List.map_cons, List.map_cons, hflows, hflow]
        · rw [hemitted, List.map_cons, List.append_cons]
          rfl

/-! ### Main result -/

/-- A data template with a variable field, as it is read. -/
theorem variableTemplate_of_read {currentInaccurateTime : Int64} {templateLength : ℕ}
    {read : Template × ℕ}
    (h : readIpfixDataTemplate currentInaccurateTime m templateLength offset = .ok read)
    (hvariable : read.1.ipfixVariableLengthElementsUsed = true) : VariableTemplate read.1 := by
  simp only [readIpfixDataTemplate, bind_eq_ok_iff, pure_eq_ok_iff] at h
  obtain ⟨-, -, templateId, -, recordCount, -, specifiers, hspecifiers, rfl⟩ := h
  obtain ⟨hcount, -, hle⟩ := readFieldSpecifiers_spec hspecifiers
  have hlt := recordCount.toNat_lt
  refine ⟨hvariable, ?_⟩
  have hshort := (List.takeWhile_sublist
    (fun record : TemplateRecord => !record.isVariable) (l := specifiers.1)).length_le
  exact totalSize_fields (by omega) fun record hmem =>
    hle record ((List.takeWhile_sublist _).subset hmem)

/-- The set is processed to its end, and each record yields the packet of its own bytes. -/
def EmitsOneFlowEach (context : NetflowContext) (timeSec : UInt32) (t : Template) (m : Memory)
    (setLength : ℕ) (s : CollectorState) (packet : ParsedPacket)
    (records : List (List (List UInt8))) : Prop :=
  ∃ flows : List Flow, flows.map some = records.map (recordFlow t packet) ∧
    (processIpfixRegularDataSet context timeSec t m setLength s).1.emitted
      = s.emitted ++ flows.map ipfixPacket ∧
    (processIpfixRegularDataSet context timeSec t m setLength s).2 = .ok ()

/-- **When a data set with variable fields and padding is read as what it holds.**  If there is
padding, it has to be shorter than the fixed fields in front of the first variable field; and
this is enough where the frame sections of the records fit into their fields. -/
theorem variableRecords_iff (context : NetflowContext) (timeSec : UInt32)
    {currentInaccurateTime : Int64} {templateMemory : Memory} {templateLength templateOffset : ℕ}
    {read : Template × ℕ} (hread : readIpfixDataTemplate currentInaccurateTime templateMemory
      templateLength templateOffset = .ok read)
    (hvariable : read.1.ipfixVariableLengthElementsUsed = true)
    {m : Memory} {setLength : ℕ} {records : List (List (List UInt8))} {padding : ℕ}
    (hne : records ≠ []) (hencodes : ∀ fields ∈ records, EncodesRecord read.1.records fields)
    (hset : setLength < 2 ^ 32) (hlength : setLength = 4 + (paddedRecords records padding).length)
    (hbytes : m.Holds 4 (paddedRecords records padding)) {s : CollectorState}
    {packet : ParsedPacket} (hfresh : (freshPacket context timeSec s).2 = .ok packet) :
    (EmitsOneFlowEach context timeSec read.1 m setLength s packet records →
      padding = 0 ∨ padding < fixedPrefixLength read.1.records) ∧
    ((∀ fields ∈ records, RecordFits read.1 fields) →
      padding = 0 ∨ padding < fixedPrefixLength read.1.records →
      EmitsOneFlowEach context timeSec read.1 m setLength s packet records) := by
  have ht := variableTemplate_of_read hread hvariable
  have hstart : (UInt32.ofNat (setLength - 4)).toNat = setLength - 4 := by
    rw [UInt32.toNat_ofNat', Nat.mod_eq_of_lt (by omega)]
  have hleft : LeftOf m setLength ⟨0, .ofNat (setLength - 4)⟩ records padding :=
    ⟨IpfixLoop.fits_start hset, hbytes, by rw [hstart, hlength, Nat.add_sub_cancel_left]⟩
  rw [EmitsOneFlowEach, processIpfixRegularDataSet, if_pos hvariable, ← ht.totalLength_eq]
  constructor
  · rintro ⟨flows, -, -, hok⟩
    exact padding_of_ok ht hset hencodes hleft hfresh hok
  · intro hframes hpadding
    exact run_of_padding ht hset hencodes hframes hpadding (fun hnil => absurd hnil hne) hleft
      (by rw [hstart]; omega) hfresh

/-- A template with one variable field. -/
def nameOnlyTemplate : Memory := ofBytes [1, 0, 0, 1, 0, 82, 255, 255]

/-- A record of it, with one byte of payload. -/
theorem encodesRecord_nameOnly :
    ∀ fields ∈ [[[1, 7]]], EncodesRecord [{ recordType := 82, recordLength := 65535 }] fields := by
  intro fields hmem
  obtain rfl := List.mem_singleton.mp hmem
  exact .cons (@EncodesField.oneByte _ [7] rfl (by decide) (by decide)) .nil

/-- One record without padding. -/
theorem variableRecords_iff_nameOnly :
    ∃ read packet, readIpfixDataTemplate 0 nameOnlyTemplate 8 0 = .ok read ∧
      EmitsOneFlowEach meteringExporter 0 read.1 (ofBytes [1, 0, 0, 6, 1, 7]) 6 {} packet
        [[[1, 7]]] := by
  obtain ⟨read, hread⟩ : ∃ read, readIpfixDataTemplate 0 nameOnlyTemplate 8 0 = .ok read :=
    ⟨_, rfl⟩
  obtain ⟨packet, hfresh⟩ : ∃ packet, (freshPacket meteringExporter 0 {}).2 = .ok packet := ⟨_, rfl⟩
  refine ⟨read, packet, hread, ?_⟩
  obtain rfl := Except.ok.inj hread
  refine (@variableRecords_iff meteringExporter 0 _ _ _ _ _ hread rfl _ _ [[[1, 7]]] 0 (by decide)
    encodesRecord_nameOnly (by decide) rfl (holds_ofBytes_iff.mpr (by decide)) _ _ hfresh).2
    (fun fields hmem => ?_) (.inl rfl)
  obtain rfl := List.mem_singleton.mp hmem
  exact trivial

/-- The length of the shortest record of a template. -/
def shortestRecordLength (records : List TemplateRecord) : ℕ :=
  (records.map fun record => if record.isVariable then 2 else record.recordLength.toNat).sum

/-- One byte of padding is taken for a record of a template that begins with a variable field. -/
theorem variableRecords_padded :
    ¬ ∀ (context : NetflowContext) (timeSec : UInt32) (currentInaccurateTime : Int64)
      (templateMemory : Memory) (templateLength templateOffset : ℕ) (read : Template × ℕ),
      readIpfixDataTemplate currentInaccurateTime templateMemory templateLength templateOffset
        = .ok read →
      read.1.ipfixVariableLengthElementsUsed = true →
      ∀ (m : Memory) (setLength : ℕ) (records : List (List (List UInt8))) (padding : ℕ),
      records ≠ [] → (∀ fields ∈ records, EncodesRecord read.1.records fields) →
      setLength < 2 ^ 32 → setLength = 4 + (paddedRecords records padding).length →
      m.Holds 4 (paddedRecords records padding) → padding < shortestRecordLength read.1.records →
      (∀ fields ∈ records, RecordFits read.1 fields) →
      ∀ (s : CollectorState) (packet : ParsedPacket),
      (freshPacket context timeSec s).2 = .ok packet →
      EmitsOneFlowEach context timeSec read.1 m setLength s packet records := by
  intro hemits
  have hfits : ∀ fields ∈ [[[1, 7]]],
      RecordFits { records := [{ recordType := 82, recordLength := 65535 }] } fields := by
    intro fields hmem
    obtain rfl := List.mem_singleton.mp hmem
    exact trivial
  obtain ⟨flows, -, -, hok⟩ := hemits meteringExporter 0 0 nameOnlyTemplate 8 0 _ rfl rfl
    (ofBytes [1, 0, 0, 7, 1, 7, 0]) 7 [[[1, 7]]] 1 (by decide) encodesRecord_nameOnly (by decide)
    rfl (holds_ofBytes_iff.mpr (by decide)) (by decide) hfits {} _ rfl
  exact absurd hok (by decide)

end FastNetMon
