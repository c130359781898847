/-
FastNetMon/IpfixTemplate.lean

Reading the template sets of IPFIX (`read_ipfix_data_template`,
`read_ipfix_options_template`).

All four bytes of a field specifier are compared with the end of the set before they are
read, and so are the four bytes of an enterprise number.  A field of length 65535 carries
its length in the data; the total length of a data template counts the fields in front of
the first such field only.  The memory is seen from the set.
-/
import FastNetMon.NetflowV9Template

namespace FastNetMon

open Memory

/-! ### Field specifiers -/

/-- `ipfix_field_specifier_t`, with the enterprise number behind it if there is one; gives
the field and the offset behind it. -/
def readFieldSpecifier (m : Memory) (setLength offset : ℕ) :
    Except Fault (TemplateRecord × ℕ) := do
  rejectIf (offset + 4 > setLength)
  let recordType ← m.readNtohs offset
  let recordLength ← m.readNtohs (offset + 2)
  let record : TemplateRecord :=
    { recordType := recordType.toUInt32, recordLength := recordLength.toUInt32 }
  -- `IPFIX_ENTERPRISE`
  if recordType.toNat.testBit 15 then do
    rejectIf (offset + 4 + 4 > setLength)
    let enterpriseNumber ← m.readNtohl (offset + 4)
    return ({ record with enterpriseBit := true, enterpriseNumber }, offset + 4 + 4)
  else return (record, offset + 4)

/-- The loop over field specifiers. -/
def readFieldSpecifiers (m : Memory) (setLength : ℕ) :
    (fieldCount offset : ℕ) → Except Fault (List TemplateRecord × ℕ)
  | 0, offset => .ok ([], offset)
  | fieldCount + 1, offset => do
      let (record, offset) ← readFieldSpecifier m setLength offset
      let (records, offset) ← readFieldSpecifiers m setLength fieldCount offset
      return (record :: records, offset)

/-- The loop over scope fields, of which only the lengths are taken. -/
def readScopeFields (m : Memory) (setLength : ℕ) :
    (scopeFieldCount offset : ℕ) → Except Fault (List UInt32 × ℕ)
  | 0, offset => .ok ([], offset)
  | scopeFieldCount + 1, offset => do
      rejectIf (offset + 4 > setLength)
      let scopeFieldSize ← m.readNtohs (offset + 2)
      let (sizes, offset) ← readScopeFields m setLength scopeFieldCount (offset + 4)
      return (scopeFieldSize.toUInt32 :: sizes, offset)

/-- A field that carries its length in the data. -/
def TemplateRecord.isVariable (record : TemplateRecord) : Bool := record.recordLength == 65535

/-! ### Templates -/

variable (currentInaccurateTime : Int64)

/-- `read_ipfix_data_template`; gives the template and the offset behind it. -/
def readIpfixDataTemplate (m : Memory) (setLength offset : ℕ) : Except Fault (Template × ℕ) := do
  rejectIf (offset + 4 > setLength)
  let templateId ← m.readNtohs offset
  let recordCount ← m.readNtohs (offset + 2)
  let (records, offset) ← readFieldSpecifiers m setLength recordCount.toNat (offset + 4)
  let fixedFields := records.takeWhile fun record => !record.isVariable
  let fieldTemplate : Template :=
    { templateId
      numRecords := recordCount.toUInt32
      totalLength := totalSize (fixedFields.map TemplateRecord.recordLength)
      records
      type := .data
      ipfixVariableLengthElementsUsed := records.any TemplateRecord.isVariable
      timestamp := currentInaccurateTime }
  return (fieldTemplate, offset)

/-- `read_ipfix_options_template`; gives the template and the offset behind it. -/
def readIpfixOptionsTemplate (m : Memory) (setLength offset : ℕ) :
    Except Fault (Template × ℕ) := do
  rejectIf (offset + 6 > setLength)
  let templateId ← m.readNtohs offset
  let fieldCount ← m.readNtohs (offset + 2)
  let scopeFieldCount ← m.readNtohs (offset + 4)
  rejectIf (templateId ≤ 255)
  rejectIf (scopeFieldCount > fieldCount)
  let normalFieldCount := fieldCount - scopeFieldCount
  let (scopes, offset) ← readScopeFields m setLength scopeFieldCount.toNat (offset + 6)
  let (records, offset) ← readFieldSpecifiers m setLength normalFieldCount.toNat offset
  let fieldTemplate : Template :=
    { templateId
      records
      numRecords := normalFieldCount.toUInt32
      totalLength := totalSize (records.map TemplateRecord.recordLength) + totalSize scopes
      type := .options
      ipfixVariableLengthElementsUsed := records.any TemplateRecord.isVariable
      optionScopeLength := totalSize scopes
      timestamp := currentInaccurateTime }
  return (fieldTemplate, offset)

/-- `are_all_padding_bytes_are_zero`. -/
def areAllPaddingBytesAreZero (m : Memory) (p : ℕ) : (paddingLength : ℕ) → Except Fault Bool
  | 0 => .ok true
  | paddingLength + 1 => do
      let paddingByte ← m.read p
      if paddingByte ≠ 0 then return false
      else areAllPaddingBytesAreZero m (p + 1) paddingLength

/-- The loop over the templates of a set: those that were read, and how the loop ended. -/
def readIpfixDataTemplates (m : Memory) (setLength : ℕ) :
    (fuel offset : ℕ) → List Template × Except Fault Unit
  | 0, _ => ([], .error .outOfFuel)
  | fuel + 1, offset =>
      if offset < setLength then
        match readIpfixDataTemplate currentInaccurateTime m setLength offset with
        | .error fault => ([], .error fault)
        | .ok (fieldTemplate, offset) =>
            let rest := readIpfixDataTemplates m setLength fuel offset
            (fieldTemplate :: rest.1, rest.2)
      else ([], .ok ())

/-- The loop over the options templates of a set.  Up to five bytes at the end are padding,
which has to be zero. -/
def readIpfixOptionsTemplates (m : Memory) (setLength : ℕ) :
    (fuel offset : ℕ) → List Template × Except Fault Unit
  | 0, _ => ([], .error .outOfFuel)
  | fuel + 1, offset =>
      if offset < setLength then
        match readIpfixOptionsTemplate currentInaccurateTime m setLength offset with
        | .error fault => ([], .error fault)
        | .ok (fieldTemplate, offset) =>
            let paddingLength := setLength - offset
            if 1 ≤ paddingLength ∧ paddingLength ≤ 5 then
              match areAllPaddingBytesAreZero m offset paddingLength with
              | .error fault => ([fieldTemplate], .error fault)
              | .ok true => ([fieldTemplate], .ok ())
              | .ok false => ([fieldTemplate], .error .rejected)
            else
              let rest := readIpfixOptionsTemplates m setLength fuel offset
              (fieldTemplate :: rest.1, rest.2)
      else ([], .ok ())

end FastNetMon
