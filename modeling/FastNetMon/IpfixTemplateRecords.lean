/-
FastNetMon/IpfixTemplateRecords.lean

Template records as RFC 7011 encodes them, and how the collector reads them.

A field specifier is a type, a length and, if the top bit of the type says so, an
enterprise number.  A data template record is an id, the number of fields and the fields;
an options template record counts its scope fields and has them in front.  A set is a
header, records and zero padding.

The reader of a field follows the encoding, and so does the one of a data template.  Two
things are missed.  The loop over a set of data templates takes padding for one more
record, and fails; and the loop over scope fields does not know of enterprise numbers,
so that it leaves the reader short of where the record goes on.  Main result:
`ipfix_template_sets_read`.
-/
import FastNetMon.Flowset
import FastNetMon.IpfixStore
import FastNetMon.NetflowTemplateStore

namespace FastNetMon

open Memory Procedure

/-! ### The encoding -/

/-- A field specifier; the top bit of its type says whether it has an enterprise
number. -/
structure FieldSpecifier where
  type : UInt16
  length : UInt16
  enterpriseNumber : Option UInt32
  type_eq : type.toNat.testBit 15 = enterpriseNumber.isSome

namespace FieldSpecifier

/-- The bytes of a field specifier. -/
def bytes (f : FieldSpecifier) : List UInt8 :=
  bytes16 (byteSwap16 f.type) ++ (bytes16 (byteSwap16 f.length) ++
    match f.enterpriseNumber with
    | none => []
    | some enterpriseNumber => bytes32 (byteSwap32 enterpriseNumber))

/-- The field as it is to be stored. -/
def record (f : FieldSpecifier) : TemplateRecord where
  recordType := f.type.toUInt32
  recordLength := f.length.toUInt32
  enterpriseBit := f.enterpriseNumber.isSome
  enterpriseNumber := f.enterpriseNumber.getD 0

end FieldSpecifier

/-- The bytes of some field specifiers. -/
def fieldsBytes (fields : List FieldSpecifier) : List UInt8 := fields.flatMap FieldSpecifier.bytes

/-- A data template record. -/
structure DataTemplateRecord where
  id : UInt16
  fields : List FieldSpecifier
  fields_length : fields.length < 65536

/-- An options template record with at least one scope field. -/
structure OptionsTemplateRecord where
  id : UInt16
  scopes : List FieldSpecifier
  fields : List FieldSpecifier
  id_ge : 256 ≤ id.toNat
  scopes_ne : scopes ≠ []
  fields_length : scopes.length + fields.length < 65536

/-- The bytes of a data template record. -/
def DataTemplateRecord.bytes (r : DataTemplateRecord) : List UInt8 :=
  bytes16 (byteSwap16 r.id) ++ (bytes16 (byteSwap16 (.ofNat r.fields.length)) ++
    fieldsBytes r.fields)

/-- The bytes of an options template record. -/
def OptionsTemplateRecord.bytes (r : OptionsTemplateRecord) : List UInt8 :=
  bytes16 (byteSwap16 r.id) ++
    (bytes16 (byteSwap16 (.ofNat (r.scopes.length + r.fields.length))) ++
      (bytes16 (byteSwap16 (.ofNat r.scopes.length)) ++
        (fieldsBytes r.scopes ++ fieldsBytes r.fields)))

/-- The template of a data template record.  The total length counts the fields in front
of the first one of variable length. -/
def DataTemplateRecord.template (currentInaccurateTime : Int64) (r : DataTemplateRecord) :
    Template where
  templateId := r.id
  numRecords := .ofNat r.fields.length
  totalLength := .ofNat (((r.fields.takeWhile fun f => f.length ≠ 65535).map
    fun f => f.length.toNat).sum)
  records := r.fields.map FieldSpecifier.record
  type := .data
  ipfixVariableLengthElementsUsed := r.fields.any fun f => f.length = 65535
  timestamp := currentInaccurateTime

/-- The sum of the lengths of some fields. -/
def lengthsSum (fields : List FieldSpecifier) : ℕ := (fields.map fun f => f.length.toNat).sum

/-- The template of an options template record. -/
def OptionsTemplateRecord.template (currentInaccurateTime : Int64) (r : OptionsTemplateRecord) :
    Template where
  templateId := r.id
  numRecords := .ofNat r.fields.length
  totalLength := .ofNat (lengthsSum r.fields + lengthsSum r.scopes)
  optionScopeLength := .ofNat (lengthsSum r.scopes)
  records := r.fields.map FieldSpecifier.record
  type := .options
  ipfixVariableLengthElementsUsed := r.fields.any fun f => f.length = 65535
  timestamp := currentInaccurateTime

/-- A set of records: a header, the records and the padding. -/
def setBytes (setId : UInt16) (records : List UInt8) (padding : ℕ) : List UInt8 :=
  bytes16 (byteSwap16 setId) ++
    (bytes16 (byteSwap16 (.ofNat (4 + records.length + padding))) ++
      (records ++ List.replicate padding 0))

/-! ### Lengths -/

/-- The bytes of a field specifier are four, or eight with an enterprise number. -/
theorem FieldSpecifier.length_bytes (f : FieldSpecifier) :
    f.bytes.length = if f.enterpriseNumber.isSome then 8 else 4 := by
  rw [bytes]
  cases f.enterpriseNumber <;> rfl

@[simp] theorem fieldsBytes_cons (f : FieldSpecifier) (fields : List FieldSpecifier) :
    fieldsBytes (f :: fields) = f.bytes ++ fieldsBytes fields := rfl

theorem OptionsTemplateRecord.length_bytes (r : OptionsTemplateRecord) :
    r.bytes.length = 6 + (fieldsBytes r.scopes).length + (fieldsBytes r.fields).length := by
  simp only [bytes, List.length_append, bytes16_length]
  omega

theorem DataTemplateRecord.length_bytes (r : DataTemplateRecord) :
    r.bytes.length = 4 + (fieldsBytes r.fields).length := by
  simp only [bytes, List.length_append, bytes16_length]
  omega

theorem OptionsTemplateRecord.bytes_ne_nil (r : OptionsTemplateRecord) : r.bytes ≠ [] :=
  List.ne_nil_of_length_pos (by rw [r.length_bytes]; omega)

theorem DataTemplateRecord.bytes_ne_nil (r : DataTemplateRecord) : r.bytes ≠ [] :=
  List.ne_nil_of_length_pos (by rw [r.length_bytes]; omega)

/-- A scope field takes four bytes at least. -/
theorem fieldsBytes_length_ge (fields : List FieldSpecifier) :
    4 * fields.length ≤ (fieldsBytes fields).length := by
  induction fields with
  | nil => exact Nat.le_refl 0
  | cons f fields ih =>
    rw [fieldsBytes_cons, List.length_append, f.length_bytes, List.length_cons]
    split <;> omega

theorem length_setBytes (setId : UInt16) (records : List UInt8) (padding : ℕ) :
    (setBytes setId records padding).length = 4 + records.length + padding := by
  simp only [setBytes, List.length_append, bytes16_length, List.length_replicate]
  omega

/-- The sum of lengths in a `uint32_t` is the sum. -/
theorem totalSize_eq_ofNat (lengths : List UInt32) :
    totalSize lengths = .ofNat (lengths.map UInt32.toNat).sum := by
  have hrun : ∀ (start : UInt32), lengths.foldl (· + ·) start
      = .ofNat (start.toNat + (lengths.map UInt32.toNat).sum) := by
    induction lengths with
    | nil =>
      intro start
      simp
    | cons first lengths ih =>
      intro start
      rw [List.foldl_cons, ih, List.map_cons, List.sum_cons]
      apply UInt32.toNat_inj.mp
      rw [UInt32.toNat_ofNat', UInt32.toNat_ofNat', UInt32.toNat_add]
      omega
  rw [totalSize, hrun]
  simp

theorem totalSize_lengths (fields : List FieldSpecifier) :
    totalSize (fields.map fun f => f.length.toUInt32) = .ofNat (lengthsSum fields) := by
  rw [totalSize_eq_ofNat, lengthsSum, List.map_map]
  simp [Function.comp_def]

/-- The lengths of the scope fields add up without wrapping. -/
theorem OptionsTemplateRecord.optionScopeLength_template (r : OptionsTemplateRecord)
    (currentInaccurateTime : Int64) :
    (r.template currentInaccurateTime).optionScopeLength.toNat = lengthsSum r.scopes := by
  have hsum : lengthsSum r.scopes ≤ r.scopes.length * 65535 := by
    rw [lengthsSum]
    have hle := List.sum_le_card_nsmul (r.scopes.map fun f => f.length.toNat) 65535
      (by
        simp only [List.mem_map]
        rintro _ ⟨f, -, rfl⟩
        have hlt := f.length.toNat_lt
        omega)
    rwa [List.length_map, smul_eq_mul] at hle
  have hcount : r.scopes.length * 65535 ≤ 65535 * 65535 :=
    Nat.mul_le_mul_right _ (by have := r.fields_length; omega)
  exact UInt32.toNat_ofNat_of_lt' (lt_of_le_of_lt (hsum.trans hcount) (by decide))

/-! ### Reading fields -/

variable {m : Memory} {setLength offset : ℕ} {currentInaccurateTime : Int64}

theorem readFieldSpecifier_of_holds {f : FieldSpecifier} (h : m.Holds offset f.bytes)
    (hend : offset + f.bytes.length ≤ setLength) :
    readFieldSpecifier m setLength offset = .ok (f.record, offset + f.bytes.length) := by
  obtain ⟨htype, hrest⟩ := holds_append.mp h
  obtain ⟨hlength, hnumber⟩ := holds_append.mp hrest
  rw [bytes16_length] at hlength hnumber
  have hbytes := f.length_bytes
  have hbit := f.type_eq
  rw [readFieldSpecifier, rejectIf_of_not (by split at hbytes <;> omega), ok_bind, htype.readNtohs,
    ok_bind, hlength.readNtohs, ok_bind]
  cases hent : f.enterpriseNumber with
  | none =>
    rw [hent] at hbit hbytes
    simp only [hbit, hbytes, Option.isSome_none, Bool.false_eq_true, if_false, FieldSpecifier.record,
      hent, Option.getD_none]
    rfl
  | some enterpriseNumber =>
    rw [hent] at hbit hbytes hnumber
    rw [bytes16_length] at hnumber
    simp only [Option.isSome_some, if_true] at hbit hbytes
    rw [hbit, if_pos rfl, rejectIf_of_not (by omega), ok_bind, hnumber.readNtohl, ok_bind, hbytes]
    simp only [FieldSpecifier.record, hent, Option.isSome_some, Option.getD_some]
    rfl

theorem readFieldSpecifiers_of_holds {fields : List FieldSpecifier}
    (h : m.Holds offset (fieldsBytes fields))
    (hend : offset + (fieldsBytes fields).length ≤ setLength) :
    readFieldSpecifiers m setLength fields.length offset
      = .ok (fields.map FieldSpecifier.record, offset + (fieldsBytes fields).length) := by
  induction fields generalizing offset with
  | nil => rfl
  | cons f fields ih =>
    rw [fieldsBytes_cons, List.length_append] at hend
    obtain ⟨hfield, hrest⟩ := holds_append.mp h
    rw [List.length_cons, readFieldSpecifiers, readFieldSpecifier_of_holds hfield (by omega),
      ok_bind]
    dsimp only
    rw [ih hrest (by omega), ok_bind, fieldsBytes_cons, List.length_append, Nat.add_assoc]
    rfl

/-- Scope fields without enterprise numbers are read. -/
theorem readScopeFields_of_holds {scopes : List FieldSpecifier}
    (hplain : ∀ f ∈ scopes, f.enterpriseNumber = none)
    (h : m.Holds offset (fieldsBytes scopes))
    (hend : offset + (fieldsBytes scopes).length ≤ setLength) :
    readScopeFields m setLength scopes.length offset
      = .ok (scopes.map fun f => f.length.toUInt32, offset + (fieldsBytes scopes).length) := by
  induction scopes generalizing offset with
  | nil => rfl
  | cons f scopes ih =>
    have hlength : f.bytes.length = 4 := by
      rw [f.length_bytes, hplain f List.mem_cons_self]
      rfl
    rw [fieldsBytes_cons, List.length_append, hlength] at hend
    obtain ⟨hfield, hrest⟩ := holds_append.mp h
    rw [hlength] at hrest
    have hsize := (holds_append.mp (holds_append.mp hfield).2).1
    rw [bytes16_length] at hsize
    rw [List.length_cons, readScopeFields, rejectIf_of_not (by omega), ok_bind, hsize.readNtohs,
      ok_bind, ih (fun g hg => hplain g (List.mem_cons_of_mem f hg)) hrest (by omega), ok_bind,
      fieldsBytes_cons, List.length_append, hlength, Nat.add_assoc]
    rfl

/-! ### Reading templates -/

theorem isVariable_record (f : FieldSpecifier) :
    f.record.isVariable = decide (f.length = 65535) := by
  rw [TemplateRecord.isVariable, FieldSpecifier.record]
  by_cases h : f.length = 65535
  · rw [h]
    rfl
  · have hne : f.length.toUInt32 ≠ 65535 := by
      intro heq
      apply h
      have hnat := congrArg UInt32.toNat heq
      rw [UInt16.toNat_toUInt32] at hnat
      exact UInt16.toNat_inj.mp hnat
    simp [h, hne]

theorem any_isVariable_record (fields : List FieldSpecifier) :
    (fields.map FieldSpecifier.record).any TemplateRecord.isVariable
      = fields.any fun f => f.length = 65535 := by
  rw [List.any_map]
  exact congrArg fields.any (funext isVariable_record)

theorem totalSize_takeWhile_record (fields : List FieldSpecifier) :
    totalSize (((fields.map FieldSpecifier.record).takeWhile fun record =>
        !record.isVariable).map TemplateRecord.recordLength)
      = .ofNat ((fields.takeWhile fun f => f.length ≠ 65535).map fun f => f.length.toNat).sum := by
  have htake : (fields.map FieldSpecifier.record).takeWhile (fun record => !record.isVariable)
      = (fields.takeWhile fun f => f.length ≠ 65535).map FieldSpecifier.record := by
    rw [List.takeWhile_map]
    refine congrArg (List.map FieldSpecifier.record) (congrArg (List.takeWhile · fields) ?_)
    funext f
    rw [Function.comp_apply, isVariable_record]
    simp
  rw [htake, List.map_map]
  exact totalSize_lengths _

/-- A data template record is read to its end. -/
theorem readIpfixDataTemplate_of_holds {r : DataTemplateRecord} (h : m.Holds offset r.bytes)
    (hend : offset + r.bytes.length ≤ setLength) :
    readIpfixDataTemplate currentInaccurateTime m setLength offset
      = .ok (r.template currentInaccurateTime, offset + r.bytes.length) := by
  have hlength := r.length_bytes
  obtain ⟨hid, hrest⟩ := holds_append.mp h
  obtain ⟨hcount, hfields⟩ := holds_append.mp hrest
  rw [bytes16_length] at hcount hfields
  rw [bytes16_length] at hfields
  have hnumber : (UInt16.ofNat r.fields.length).toNat = r.fields.length :=
    UInt16.toNat_ofNat_of_lt' r.fields_length
  rw [readIpfixDataTemplate, rejectIf_of_not (by omega), ok_bind, hid.readNtohs, ok_bind,
    hcount.readNtohs, ok_bind, hnumber, readFieldSpecifiers_of_holds hfields (by omega), ok_bind,
    hlength, ← Nat.add_assoc]
  dsimp only
  rw [any_isVariable_record, totalSize_takeWhile_record]
  have hcount32 : (UInt16.ofNat r.fields.length).toUInt32 = .ofNat r.fields.length := by
    apply UInt32.toNat_inj.mp
    have hlt := r.fields_length
    rw [UInt16.toNat_toUInt32, hnumber, UInt32.toNat_ofNat_of_lt' (by simp only [UInt32.size]; omega)]
  rw [hcount32]
  rfl

/-- What the header of an options template record is read as. -/
theorem readIpfixOptionsTemplate_of_header {r : OptionsTemplateRecord}
    (h : m.Holds offset r.bytes) (hend : offset + r.bytes.length ≤ setLength) :
    readIpfixOptionsTemplate currentInaccurateTime m setLength offset = (do
      let (scopes, offset) ← readScopeFields m setLength r.scopes.length (offset + 6)
      let (records, offset) ← readFieldSpecifiers m setLength r.fields.length offset
      return ({
        templateId := r.id
        records
        numRecords := .ofNat r.fields.length
        totalLength := totalSize (records.map TemplateRecord.recordLength) + totalSize scopes
        type := .options
        ipfixVariableLengthElementsUsed := records.any TemplateRecord.isVariable
        optionScopeLength := totalSize scopes
        timestamp := currentInaccurateTime }, offset)) := by
  have hlength := r.length_bytes
  have hge := r.id_ge
  have hlt := r.fields_length
  obtain ⟨hid, hrest⟩ := holds_append.mp h
  obtain ⟨hcount, hrest⟩ := holds_append.mp hrest
  obtain ⟨hscopeCount, -⟩ := holds_append.mp hrest
  rw [bytes16_length] at hcount hscopeCount
  rw [bytes16_length] at hscopeCount
  have htotal : (UInt16.ofNat (r.scopes.length + r.fields.length)).toNat
      = r.scopes.length + r.fields.length := UInt16.toNat_ofNat_of_lt' hlt
  have hscopes : (UInt16.ofNat r.scopes.length).toNat = r.scopes.length :=
    UInt16.toNat_ofNat_of_lt' (by simp only [UInt16.size]; omega)
  have hle : UInt16.ofNat r.scopes.length ≤ .ofNat (r.scopes.length + r.fields.length) := by
    rw [UInt16.le_iff_toNat_le, htotal, hscopes]
    omega
  have hnormal : (UInt16.ofNat (r.scopes.length + r.fields.length)
      - UInt16.ofNat r.scopes.length).toNat = r.fields.length := by
    rw [UInt16.toNat_sub_of_le _ _ hle, htotal, hscopes]
    omega
  have hnormal32 : (UInt16.ofNat (r.scopes.length + r.fields.length)
      - UInt16.ofNat r.scopes.length).toUInt32 = .ofNat r.fields.length := by
    apply UInt32.toNat_inj.mp
    rw [UInt16.toNat_toUInt32, hnormal,
      UInt32.toNat_ofNat_of_lt' (by simp only [UInt32.size]; omega)]
  have hidNot : ¬ r.id ≤ 255 := by
    rw [UInt16.le_iff_toNat_le]
    have h255 : (255 : UInt16).toNat = 255 := rfl
    omega
  rw [readIpfixOptionsTemplate, rejectIf_of_not (by omega), ok_bind, hid.readNtohs, ok_bind,
    hcount.readNtohs, ok_bind, hscopeCount.readNtohs, ok_bind, rejectIf_of_not hidNot, ok_bind,
    rejectIf_of_not (by simpa using hle), ok_bind, hscopes]
  dsimp only
  rw [hnormal, hnormal32]

/-- An options template record without enterprise numbers in its scope is read to its
end. -/
theorem readIpfixOptionsTemplate_of_holds {r : OptionsTemplateRecord}
    (hplain : ∀ f ∈ r.scopes, f.enterpriseNumber = none) (h : m.Holds offset r.bytes)
    (hend : offset + r.bytes.length ≤ setLength) :
    readIpfixOptionsTemplate currentInaccurateTime m setLength offset
      = .ok (r.template currentInaccurateTime, offset + r.bytes.length) := by
  have hlength := r.length_bytes
  have hbody := (holds_append.mp (holds_append.mp (holds_append.mp h).2).2).2
  rw [bytes16_length, bytes16_length, bytes16_length] at hbody
  obtain ⟨hscopes, hfields⟩ := holds_append.mp hbody
  rw [readIpfixOptionsTemplate_of_header h hend, readScopeFields_of_holds hplain hscopes (by omega),
    ok_bind]
  dsimp only
  rw [readFieldSpecifiers_of_holds hfields (by omega), ok_bind]
  dsimp only
  rw [any_isVariable_record, totalSize_lengths, List.map_map]
  have htotal : totalSize (r.fields.map (TemplateRecord.recordLength ∘ FieldSpecifier.record))
      = .ofNat (lengthsSum r.fields) := totalSize_lengths r.fields
  have hend : offset + 6 + (fieldsBytes r.scopes).length + (fieldsBytes r.fields).length
      = offset + r.bytes.length := by omega
  rw [htotal, ← UInt32.ofNat_add, hend]
  rfl

/-! ### What a record with an enterprise number in its scope loses -/

theorem readFieldSpecifier_next {field : TemplateRecord × ℕ}
    (h : readFieldSpecifier m setLength offset = .ok field) :
    field.2 = offset + if field.1.enterpriseBit then 8 else 4 := by
  simp only [readFieldSpecifier, bind_eq_ok_iff, rejectIf_eq_ok_iff] at h
  obtain ⟨-, -, recordType, -, recordLength, -, h⟩ := h
  split at h
  · simp only [bind_eq_ok_iff, rejectIf_eq_ok_iff, pure_eq_ok_iff] at h
    obtain ⟨-, -, enterpriseNumber, -, rfl⟩ := h
    rfl
  · obtain rfl := Except.ok.inj h
    rfl

theorem readFieldSpecifiers_next {fieldCount : ℕ} {fields : List TemplateRecord × ℕ}
    (h : readFieldSpecifiers m setLength fieldCount offset = .ok fields) :
    fields.2 = offset + (fields.1.map fun record => if record.enterpriseBit then 8 else 4).sum := by
  induction fieldCount generalizing offset fields with
  | zero =>
    obtain rfl := Except.ok.inj h
    rfl
  | succ fieldCount ih =>
    simp only [readFieldSpecifiers, bind_eq_ok_iff, pure_eq_ok_iff] at h
    obtain ⟨field, hfield, rest, hrest, rfl⟩ := h
    rw [List.map_cons, List.sum_cons, ← Nat.add_assoc, ← readFieldSpecifier_next hfield]
    exact ih hrest

theorem readScopeFields_next {scopeFieldCount : ℕ} {scopes : List UInt32 × ℕ}
    (h : readScopeFields m setLength scopeFieldCount offset = .ok scopes) :
    scopes.2 = offset + 4 * scopeFieldCount := by
  induction scopeFieldCount generalizing offset scopes with
  | zero =>
    obtain rfl := Except.ok.inj h
    rfl
  | succ scopeFieldCount ih =>
    simp only [readScopeFields, bind_eq_ok_iff, pure_eq_ok_iff] at h
    obtain ⟨-, -, size, -, rest, hrest, rfl⟩ := h
    rw [ih hrest]
    omega

theorem length_fieldsBytes (fields : List FieldSpecifier) : (fieldsBytes fields).length
    = ((fields.map FieldSpecifier.record).map fun record =>
        if record.enterpriseBit then 8 else 4).sum := by
  induction fields with
  | nil => rfl
  | cons f fields ih =>
    rw [fieldsBytes_cons, List.length_append, ih, f.length_bytes]
    rfl

/-- Scope fields take four bytes each only if none has an enterprise number. -/
theorem plain_of_length {scopes : List FieldSpecifier}
    (h : (fieldsBytes scopes).length = 4 * scopes.length) :
    ∀ f ∈ scopes, f.enterpriseNumber = none := by
  induction scopes with
  | nil => simp
  | cons f scopes ih =>
    have hge := fieldsBytes_length_ge scopes
    rw [fieldsBytes_cons, List.length_append, f.length_bytes, List.length_cons] at h
    cases hnumber : f.enterpriseNumber with
    | none =>
      rw [hnumber] at h
      simp only [Option.isSome_none, Bool.false_eq_true, if_false] at h
      exact List.forall_mem_cons.mpr ⟨hnumber, ih (by omega)⟩
    | some enterpriseNumber =>
      rw [hnumber] at h
      simp only [Option.isSome_some, if_true] at h
      omega

/-- A record that is read as it is, to its end. -/
def OptionsTemplateRecord.ReadToItsEnd (r : OptionsTemplateRecord) : Prop :=
  ∀ (m : Memory) (setLength offset : ℕ) (currentInaccurateTime : Int64), m.Holds offset r.bytes →
    offset + r.bytes.length ≤ setLength →
    readIpfixOptionsTemplate currentInaccurateTime m setLength offset
      = .ok (r.template currentInaccurateTime, offset + r.bytes.length)

/-- An options template record is read to its end exactly if its scope has no enterprise
number. -/
theorem readToItsEnd_iff (r : OptionsTemplateRecord) :
    r.ReadToItsEnd ↔ ∀ f ∈ r.scopes, f.enterpriseNumber = none := by
  constructor
  · intro h
    have hheld := holds_ofBytes r.bytes
    have hread := h (ofBytes r.bytes) (0 + r.bytes.length) 0 0 hheld (Nat.le_refl _)
    rw [readIpfixOptionsTemplate_of_header hheld (Nat.le_refl _)] at hread
    simp only [bind_eq_ok_iff, pure_eq_ok_iff, Prod.mk.injEq] at hread
    obtain ⟨scopes, hscopes, fields, hfields, htemplate, hend⟩ := hread
    have hnext := readScopeFields_next hscopes
    have hrecords : fields.1 = r.fields.map FieldSpecifier.record :=
      congrArg Template.records htemplate
    have hlast := readFieldSpecifiers_next hfields
    rw [hrecords, ← length_fieldsBytes] at hlast
    have hlength := r.length_bytes
    exact plain_of_length (by omega)
  · intro hplain m setLength offset currentInaccurateTime hheld hend
    exact readIpfixOptionsTemplate_of_holds hplain hheld hend

/-! ### The loops over a set -/

theorem readIpfixDataTemplates_of_holds {records : List DataTemplateRecord}
    (h : m.Holds offset (records.flatMap DataTemplateRecord.bytes))
    (hend : offset + (records.flatMap DataTemplateRecord.bytes).length ≤ setLength) (fuel : ℕ) :
    readIpfixDataTemplates currentInaccurateTime m setLength (records.length + fuel) offset
      = let rest := readIpfixDataTemplates currentInaccurateTime m setLength fuel
          (offset + (records.flatMap DataTemplateRecord.bytes).length)
        (records.map (DataTemplateRecord.template currentInaccurateTime) ++ rest.1, rest.2) := by
  induction records generalizing offset with
  | nil =>
    rw [List.length_nil, Nat.zero_add]
    rfl
  | cons r records ih =>
    rw [List.flatMap_cons] at h
    rw [List.flatMap_cons, List.length_append] at hend
    obtain ⟨hrecord, hrest⟩ := holds_append.mp h
    have hlength := r.length_bytes
    rw [List.length_cons, Nat.add_right_comm, readIpfixDataTemplates, if_pos (by omega),
      readIpfixDataTemplate_of_holds hrecord (by omega)]
    dsimp only
    rw [ih hrest (by omega), List.flatMap_cons, List.length_append, Nat.add_assoc]
    rfl

theorem areAllPaddingBytesAreZero_of_holds {p paddingLength : ℕ}
    (h : m.Holds p (List.replicate paddingLength 0)) :
    areAllPaddingBytesAreZero m p paddingLength = .ok true := by
  induction paddingLength generalizing p with
  | zero => rfl
  | succ paddingLength ih =>
    rw [List.replicate_succ] at h
    rw [areAllPaddingBytesAreZero, h.read, ok_bind, if_neg (by simp)]
    exact ih h.2

/-- The loop over options template records without enterprise numbers in their scopes. -/
theorem readIpfixOptionsTemplates_of_holds {records : List OptionsTemplateRecord}
    (hne : records ≠ []) (hplain : ∀ r ∈ records, ∀ f ∈ r.scopes, f.enterpriseNumber = none)
    {padding : ℕ} (hpadding : padding ≤ 3)
    (h : m.Holds offset
      (records.flatMap OptionsTemplateRecord.bytes ++ List.replicate padding 0))
    (hend : offset + (records.flatMap OptionsTemplateRecord.bytes).length + padding = setLength)
    (fuel : ℕ) :
    readIpfixOptionsTemplates currentInaccurateTime m setLength (records.length + (fuel + 1)) offset
      = (records.map (OptionsTemplateRecord.template currentInaccurateTime), .ok ()) := by
  induction records generalizing offset with
  | nil => exact absurd rfl hne
  | cons r records ih =>
    rw [List.flatMap_cons, List.append_assoc] at h
    rw [List.flatMap_cons, List.length_append] at hend
    obtain ⟨hrecord, hrest⟩ := holds_append.mp h
    have hlength := r.length_bytes
    rw [List.length_cons, Nat.add_right_comm, readIpfixOptionsTemplates, if_pos (by omega),
      readIpfixOptionsTemplate_of_holds (hplain r List.mem_cons_self) hrecord (by omega)]
    dsimp only
    cases records with
    | nil =>
      have hleft : setLength - (offset + r.bytes.length) = padding := by
        rw [List.flatMap_nil, List.length_nil] at hend
        omega
      rw [hleft]
      split
      · rw [areAllPaddingBytesAreZero_of_holds hrest]
        rfl
      · rename_i hnone
        rw [List.length_nil, Nat.zero_add, readIpfixOptionsTemplates, if_neg (by omega)]
        rfl
    | cons next records =>
      have hnext := next.length_bytes
      have hscope := fieldsBytes_length_ge next.scopes
      have hpos : 0 < next.scopes.length := List.length_pos_iff.mpr next.scopes_ne
      have hmore : next.bytes.length
          ≤ ((next :: records).flatMap OptionsTemplateRecord.bytes).length := by
        rw [List.flatMap_cons, List.length_append]
        exact Nat.le_add_right _ _
      -- what is left is more than padding
      rw [if_neg (by omega), ih (by simp) (fun r' hr' => hplain r' (List.mem_cons_of_mem r hr'))
        hrest (by omega)]
      rfl

/-! ### Storing what a set has -/

variable {context : NetflowContext} {sourceId : UInt32}

/-- A step that succeeds, stores some templates and does nothing else: what is found for a
key is the last of the templates that have it, up to the time stamp, and if there is none,
what was found before. -/
def StoresTemplates (context : NetflowContext) (sourceId : UInt32) (templates : List Template)
    (run : Collect Unit) : Prop :=
  ∀ s, (run s).2 = .ok () ∧ (run s).1 = { s with templates := (run s).1.templates } ∧
    ∀ key, Option.Rel (fun found last => found.operatorEq last = true)
      ((run s).1.templates.find key)
      ((lastAdded (templates.map fun fieldTemplate =>
          (TemplateKey.mk context.clientAddressInStringFormat sourceId
            fieldTemplate.templateId.toUInt32, fieldTemplate)) key).or (s.templates.find key))

theorem run_forM_storeTemplate_eq (templates : List Template) (s : CollectorState) :
    (templates.forM fun fieldTemplate => storeTemplate context sourceId fieldTemplate) s
      = ({ s with
          templates := (templates.map fun fieldTemplate =>
              (TemplateKey.mk context.clientAddressInStringFormat sourceId
                fieldTemplate.templateId.toUInt32, fieldTemplate)).foldl
            (fun table add => (table.addUpdate add.1 add.2).table) s.templates }, .ok ()) := by
  induction templates generalizing s with
  | nil => rfl
  | cons first templates ih => exact ih _

theorem storesTemplates_forM (templates : List Template) :
    StoresTemplates context sourceId templates (do
      templates.forM fun fieldTemplate => storeTemplate context sourceId fieldTemplate
      (Except.ok () : Except Fault Unit)) := by
  intro s
  rw [bind_of_ok (run_forM_storeTemplate_eq templates s)]
  exact ⟨rfl, rfl, find_foldl_addUpdate _ _⟩

/-- The header of a set, and what is behind it. -/
theorem holds_setBytes {setId : UInt16} {records : List UInt8} {padding : ℕ}
    (h : m.Holds 0 (setBytes setId records padding)) :
    m.readNtohs 0 = .ok setId ∧ m.Holds 4 (records ++ List.replicate padding 0) := by
  obtain ⟨hid, hrest⟩ := holds_append.mp h
  have hbody := (holds_append.mp hrest).2
  rw [bytes16_length, bytes16_length] at hbody
  exact ⟨hid.readNtohs, hbody⟩

/-- A set of data templates is stored, whatever memory it lies in. -/
def DataSetRead (context : NetflowContext) (sourceId : UInt32) (records : List DataTemplateRecord)
    (padding : ℕ) : Prop :=
  ∀ m : Memory,
    m.Holds 0 (setBytes 2 (records.flatMap DataTemplateRecord.bytes) padding) →
    StoresTemplates context sourceId
      (records.map (DataTemplateRecord.template context.currentInaccurateTime))
      (processIpfixDataTemplateSet context sourceId m
        (setBytes 2 (records.flatMap DataTemplateRecord.bytes) padding).length)

/-- A set of options templates is stored, whatever memory it lies in. -/
def OptionsSetRead (context : NetflowContext) (sourceId : UInt32)
    (records : List OptionsTemplateRecord) (padding : ℕ) : Prop :=
  ∀ m : Memory,
    m.Holds 0 (setBytes 3 (records.flatMap OptionsTemplateRecord.bytes) padding) →
    StoresTemplates context sourceId
      (records.map (OptionsTemplateRecord.template context.currentInaccurateTime))
      (processIpfixOptionsTemplateSet context sourceId m
        (setBytes 3 (records.flatMap OptionsTemplateRecord.bytes) padding).length)

/-- Records that are not empty are no more than their bytes. -/
theorem length_le_length_flatMap {α : Type} {bytes : α → List UInt8} (h : ∀ a, bytes a ≠ [])
    (records : List α) : records.length ≤ (records.flatMap bytes).length := by
  induction records with
  | nil => exact Nat.le_refl 0
  | cons r records ih =>
    have hpos := List.length_pos_of_ne_nil (h r)
    rw [List.flatMap_cons, List.length_append, List.length_cons]
    omega

/-- Behind the records of a set of data templates there is room for no other one. -/
theorem readIpfixDataTemplates_of_padding {padding : ℕ} (hle : padding ≤ 3)
    (hend : offset + padding = setLength) (fuel : ℕ) :
    readIpfixDataTemplates currentInaccurateTime m setLength (fuel + 1) offset
      = ([], if padding = 0 then .ok () else .error .rejected) := by
  rw [readIpfixDataTemplates]
  by_cases hpadding : padding = 0
  · rw [if_neg (by omega), if_pos hpadding]
  · rw [if_pos (by omega), readIpfixDataTemplate, rejectIf_of (by omega), if_neg hpadding]
    rfl

/-- What is done for a set of data templates: the templates are stored, but padding is
rejected. -/
theorem processIpfixDataTemplateSet_of_holds {records : List DataTemplateRecord} {padding : ℕ}
    (hle : padding ≤ 3)
    (h : m.Holds 0 (setBytes 2 (records.flatMap DataTemplateRecord.bytes) padding)) :
    processIpfixDataTemplateSet context sourceId m
        (setBytes 2 (records.flatMap DataTemplateRecord.bytes) padding).length
      = (do
        (records.map (DataTemplateRecord.template context.currentInaccurateTime)).forM
          fun fieldTemplate => storeTemplate context sourceId fieldTemplate
        (if padding = 0 then .ok () else .error .rejected : Except Fault Unit)) := by
  obtain ⟨hid, hbody⟩ := holds_setBytes h
  have hcount := length_le_length_flatMap DataTemplateRecord.bytes_ne_nil records
  have hlength := length_setBytes 2 (records.flatMap DataTemplateRecord.bytes) padding
  generalize (setBytes 2 (records.flatMap DataTemplateRecord.bytes) padding).length = setLength
    at hlength ⊢
  obtain ⟨fuel, hfuel⟩ : ∃ fuel, setLength = records.length + (fuel + 1) :=
    ⟨setLength - records.length - 1, by omega⟩
  have hloop : readIpfixDataTemplates context.currentInaccurateTime m setLength setLength 4
      = (records.map (DataTemplateRecord.template context.currentInaccurateTime),
        if padding = 0 then .ok () else .error .rejected) := by
    calc _ = readIpfixDataTemplates context.currentInaccurateTime m setLength
          (records.length + (fuel + 1)) 4 := by rw [← hfuel]
      _ = _ := by
        rw [readIpfixDataTemplates_of_holds (holds_append.mp hbody).1 (by omega)]
        dsimp only
        rw [readIpfixDataTemplates_of_padding hle (by omega), List.append_nil]
  rw [processIpfixDataTemplateSet, rejectIf_of_not (by omega), liftM_ok_bind, hid, liftM_ok_bind,
    rejectIf_of_not (by simp), liftM_ok_bind, hloop]

/-- The templates of a set of data templates are read exactly if there is no padding. -/
theorem dataSetRead_iff (context : NetflowContext) (sourceId : UInt32)
    (records : List DataTemplateRecord) {padding : ℕ} (hle : padding ≤ 3) :
    DataSetRead context sourceId records padding ↔ padding = 0 := by
  constructor
  · intro hread
    by_contra hpadding
    have hheld := holds_ofBytes
      (setBytes 2 (records.flatMap DataTemplateRecord.bytes) padding)
    have hstores := (hread _ hheld ⟨fun _ => none, fun _ => none, fun _ => none, []⟩).1
    rw [processIpfixDataTemplateSet_of_holds hle hheld, if_neg hpadding,
      bind_of_ok (run_forM_storeTemplate_eq _ _)] at hstores
    cases hstores
  · intro hpadding m h
    rw [processIpfixDataTemplateSet_of_holds hle h, if_pos hpadding]
    exact storesTemplates_forM _

/-- The templates of a set of options templates are read if no scope has an enterprise
number; a set with no records must have no padding. -/
theorem optionsSetRead_of_plain (context : NetflowContext) (sourceId : UInt32)
    {records : List OptionsTemplateRecord} {padding : ℕ} (hle : padding ≤ 3)
    (hne : records ≠ [] ∨ padding = 0)
    (hplain : ∀ r ∈ records, ∀ f ∈ r.scopes, f.enterpriseNumber = none) :
    OptionsSetRead context sourceId records padding := by
  intro m h
  obtain ⟨hid, hbody⟩ := holds_setBytes h
  have hcount := length_le_length_flatMap OptionsTemplateRecord.bytes_ne_nil records
  have hlength := length_setBytes 3 (records.flatMap OptionsTemplateRecord.bytes) padding
  generalize (setBytes 3 (records.flatMap OptionsTemplateRecord.bytes) padding).length = setLength
    at hlength ⊢
  obtain ⟨fuel, hfuel⟩ : ∃ fuel, setLength = records.length + (fuel + 1) :=
    ⟨setLength - records.length - 1, by omega⟩
  have hloop : readIpfixOptionsTemplates context.currentInaccurateTime m setLength setLength 4
      = (records.map (OptionsTemplateRecord.template context.currentInaccurateTime), .ok ()) := by
    calc _ = readIpfixOptionsTemplates context.currentInaccurateTime m setLength
          (records.length + (fuel + 1)) 4 := by rw [← hfuel]
      _ = _ := by
        by_cases hnil : records = []
        · obtain hpadding : padding = 0 := hne.resolve_left (not_not_intro hnil)
          subst hnil
          rw [List.flatMap_nil, List.length_nil] at hlength
          rw [List.length_nil, Nat.zero_add, readIpfixOptionsTemplates, if_neg (by omega)]
          rfl
        · exact readIpfixOptionsTemplates_of_holds hnil hplain hle hbody (by omega) fuel
  rw [processIpfixOptionsTemplateSet, rejectIf_of_not (by omega), liftM_ok_bind, hid,
    liftM_ok_bind, rejectIf_of_not (by simp), liftM_ok_bind, hloop]
  exact storesTemplates_forM _

/-- **The sets of templates that are read as they are encoded.**  A set of data templates is
stored exactly if it has no padding.  A set of options templates is stored, padding included,
if no scope field of its records has an enterprise number; the scope length in it is the sum.
A record is read to its end exactly if no scope field of it has an enterprise number. -/
theorem ipfix_template_sets_read (context : NetflowContext) (sourceId : UInt32) (padding : ℕ)
    (hle : padding ≤ 3) :
    (∀ records, DataSetRead context sourceId records padding ↔ padding = 0) ∧
    (∀ records, (records ≠ [] ∨ padding = 0) →
      (∀ r ∈ records, ∀ f ∈ r.scopes, f.enterpriseNumber = none) →
        OptionsSetRead context sourceId records padding) ∧
    ∀ r : OptionsTemplateRecord,
      (r.ReadToItsEnd ↔ ∀ f ∈ r.scopes, f.enterpriseNumber = none) ∧
      (r.template context.currentInaccurateTime).optionScopeLength.toNat
        = lengthsSum r.scopes :=
  ⟨fun records => dataSetRead_iff context sourceId records hle,
    fun _ hne hplain => optionsSetRead_of_plain context sourceId hle hne hplain,
    fun r => ⟨readToItsEnd_iff r, r.optionScopeLength_template _⟩⟩

/-- An exporter with an IPv4 address. -/
def meteringExporter : NetflowContext := { clientAddressInStringFormat := "192.0.2.1".toList }

/-- An options template with a field that has an enterprise number. -/
def meteringTemplate : OptionsTemplateRecord where
  id := 256
  scopes := [⟨149, 4, none, rfl⟩]
  fields := [⟨305, 4, none, rfl⟩, ⟨32868, 65535, some 9, rfl⟩]
  id_ge := by decide
  scopes_ne := by decide
  fields_length := by decide

theorem meteringTemplate_read :
    OptionsSetRead meteringExporter 7 [meteringTemplate, meteringTemplate] 2 :=
  (ipfix_template_sets_read meteringExporter 7 2 (by decide)).2.1 _ (.inl (by decide)) (by decide)

/-- A data template with one field. -/
def octetsTemplate : DataTemplateRecord where
  id := 257
  fields := [⟨1, 4, none, rfl⟩]
  fields_length := by decide

/-- An options template whose scope field has an enterprise number. -/
def enterpriseScopeTemplate : OptionsTemplateRecord where
  id := 256
  scopes := [⟨32868, 4, some 9, rfl⟩]
  fields := [⟨305, 4, none, rfl⟩]
  id_ge := by decide
  scopes_ne := by decide
  fields_length := by decide

/-- A data template is rejected with two bytes of padding behind it, and so is an options
template with an enterprise number in its scope. -/
theorem octetsTemplate_padding_rejected :
    ¬ DataSetRead meteringExporter 7 [octetsTemplate] 2 ∧
      ¬ OptionsSetRead meteringExporter 7 [enterpriseScopeTemplate] 0 := by
  constructor
  · intro hread
    have hstores := (hread _ (holds_ofBytes _) {}).1
    cases hstores
  · intro hread
    have hstores := (hread _ (holds_ofBytes _) {}).1
    cases hstores

end FastNetMon
