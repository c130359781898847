/-
FastNetMon/NetflowV9Template.lean

Reading the template flowsets of NetFlow v9 (`process_netflow_v9_template`,
`process_netflow_v9_options_template`).

An options flowset has one template, and its three lengths are checked against
the flowset length before anything behind its header is read.  A data flowset
has templates up to its end; here only the start of a template header or of a
field record is checked, not that all four bytes of it lie in the flowset.  A
template comes with the addresses of the bytes that it was read from.
-/
import FastNetMon.Memory
import FastNetMon.NetflowTemplate

namespace FastNetMon

open Memory

/-! ### Records -/

/-- A template that was read, from the bytes in `[first, last)`. -/
structure LearnedTemplate where
  template : Template
  first : ℕ
  last : ℕ
deriving DecidableEq, Repr

/-- `netflow9_template_flowset_record_t`, four bytes. -/
def readTemplateRecord (m : Memory) (p : ℕ) : Except Fault TemplateRecord := do
  let recordType ← m.readNtohs p
  let recordLength ← m.readNtohs (p + 2)
  return { recordType := recordType.toUInt32, recordLength := recordLength.toUInt32 }

/-- The sum of lengths, as it is computed. -/
def totalSize (lengths : List UInt32) : UInt32 := lengths.foldl (· + ·) 0

/-! ### Data templates -/

/-- The loop over the fields of a template; gives the records and the offset
behind them. -/
def readTemplateFields (m : Memory) (pkt flowsetLength : ℕ) :
    (fieldsCount offset : ℕ) → Except Fault (List TemplateRecord × ℕ)
  | 0, offset => .ok ([], offset)
  | fieldsCount + 1, offset => do
      rejectIf (offset ≥ flowsetLength)
      let record ← readTemplateRecord m (pkt + offset)
      let rest ← readTemplateFields m pkt flowsetLength fieldsCount (offset + 4)
      return (record :: rest.1, rest.2)

variable (currentInaccurateTime : Int64)

/-- One template of a data template flowset. -/
def readDataTemplate (m : Memory) (pkt flowsetLength offset : ℕ) :
    Except Fault LearnedTemplate := do
  let templateId ← m.readNtohs (pkt + offset)
  let fieldsCount ← m.readNtohs (pkt + offset + 2)
  let fields ← readTemplateFields m pkt flowsetLength fieldsCount.toNat (offset + 4)
  let totalLength := totalSize (fields.1.map TemplateRecord.recordLength)
  rejectIf (totalLength = 0)
  return {
    template :=
      { templateId
        numRecords := fieldsCount.toUInt32
        totalLength
        records := fields.1
        type := .data
        timestamp := currentInaccurateTime }
    first := pkt + offset
    last := pkt + fields.2 }

/-- The loop over the templates of a flowset: those that were read, and how the
loop ended. -/
def readDataTemplates (m : Memory) (pkt flowsetLength : ℕ) :
    (fuel offset : ℕ) → List LearnedTemplate × Except Fault Unit
  | 0, _ => ([], .error .outOfFuel)
  | fuel + 1, offset =>
      if offset < flowsetLength then
        match readDataTemplate currentInaccurateTime m pkt flowsetLength offset with
        | .error fault => ([], .error fault)
        | .ok learned =>
            let rest := readDataTemplates m pkt flowsetLength fuel (learned.last - pkt)
            (learned :: rest.1, rest.2)
      else ([], .ok ())

/-- `process_netflow_v9_template`, up to what is done with the templates. -/
def processNetflowV9Template (m : Memory) (pkt flowsetLength : ℕ) :
    List LearnedTemplate × Except Fault Unit :=
  if flowsetLength < 4 then ([], .error .rejected)
  else
    match m.readNtohs pkt with
    | .error fault => ([], .error fault)
    | .ok flowsetId =>
        if flowsetId ≠ 0 then ([], .error .rejected)
        else readDataTemplates currentInaccurateTime m pkt flowsetLength flowsetLength 4

/-! ### Options templates -/

/-- A loop over the records in `[offset, length)` of a zone of an options
template. -/
def readZone {α : Type} (readRecord : ℕ → Except Fault α)
    (zoneAddress optionsFlowsetEnd length : ℕ) : (fuel offset : ℕ) → Except Fault (List α)
  | 0, _ => .error .outOfFuel
  | fuel + 1, offset =>
      if offset < length then do
        rejectIf (zoneAddress + offset + 4 > optionsFlowsetEnd)
        let record ← readRecord (zoneAddress + offset)
        let records ← readZone readRecord zoneAddress optionsFlowsetEnd length fuel (offset + 4)
        return record :: records
      else .ok []

/-- The length of a scope record, whose type is not looked at. -/
def readScopeSize (m : Memory) (p : ℕ) : Except Fault UInt32 := do
  let length ← m.readNtohs (p + 2)
  return length.toUInt32

/-- `process_netflow_v9_options_template`, up to what is done with the template. -/
def processNetflowV9OptionsTemplate (m : Memory) (pkt flowsetLength : ℕ) :
    Except Fault LearnedTemplate := do
  let optionsFlowsetEnd := pkt + flowsetLength
  rejectIf (4 + 6 > flowsetLength)
  let templateId ← m.readNtohs (pkt + 4)
  let optionScopeLength ← m.readNtohs (pkt + 6)
  rejectIf (optionScopeLength.toNat % 4 ≠ 0)
  rejectIf (4 + 6 + optionScopeLength.toNat > flowsetLength)
  let scopeZoneAddress := pkt + 4 + 6
  let scopes ← readZone (readScopeSize m) scopeZoneAddress optionsFlowsetEnd
    optionScopeLength.toNat (optionScopeLength.toNat + 1) 0
  let scopesTotalSize := totalSize scopes
  let optionLength ← m.readNtohs (pkt + 8)
  rejectIf (optionLength.toNat % 4 ≠ 0)
  let recordsZoneAddress := scopeZoneAddress + optionScopeLength.toNat
  rejectIf (recordsZoneAddress + optionLength.toNat > optionsFlowsetEnd)
  let records ← readZone (readTemplateRecord m) recordsZoneAddress optionsFlowsetEnd
    optionLength.toNat (optionLength.toNat + 1) 0
  let totalTemplateSize := totalSize (records.map TemplateRecord.recordLength)
  let totalLength := totalTemplateSize + scopesTotalSize
  rejectIf (totalLength = 0)
  return {
    template :=
      { templateId
        records
        numRecords := .ofNat records.length
        totalLength
        type := .options
        optionScopeLength := scopesTotalSize
        timestamp := currentInaccurateTime }
    first := pkt + 4
    last := recordsZoneAddress + optionLength.toNat }

end FastNetMon
