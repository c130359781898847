/-
FastNetMon/BinaryBufferObject.lean

`dynamic_binary_buffer_t`, field by field.

The encoders of this development use `DynamicBinaryBuffer`, a buffer that got its size when it
was made.  Here the storage is a pointer that may be null, the sizes are machine words, and a
new object is copied or moved from another one, field by field as its constructors do it.  Each
operation keeps an object well formed, and what it does to the used bytes and to the mark of
failure is one lemma (`WellFormed.append`, `WellFormed.copy`, `moveConstruct_eq`).  An object
with storage refines `DynamicBinaryBuffer` (`Represents.append`); a copy refines the buffer
without its mark of failure, because the copy constructor does not copy it
(`Represents.copy`).
-/
import FastNetMon.BinaryBuffer

namespace FastNetMon

/-! ### The class -/

/-- `dynamic_binary_buffer_t`.  The storage is what `byte_storage` points to, if it is not
null. -/
structure BinaryBufferObject where
  internalDataShift : UInt64 := 0
  byteStorage : Option ByteString := none
  internalStorageSize : Int64 := 0
  errorsOccured : Bool := false
deriving DecidableEq

/-- `memcpy(storage + offset, …)`. -/
def memcpyAt (storage : ByteString) (offset : ℕ) (bytes : ByteString) : ByteString :=
  storage.take offset ++ bytes ++ storage.drop (offset + bytes.length)

namespace BinaryBufferObject

variable (object : BinaryBufferObject)

/-- `set_buffer_size_in_bytes`; `memory` is what the new storage happens to hold. -/
def setBufferSizeInBytes (memory : ℕ → UInt8) (size : Int64) : Bool × BinaryBufferObject :=
  -- already allocated
  if object.byteStorage.isSome then (false, object)
  else
    (true, { object with
      byteStorage := some ((List.range size.toNatClampNeg).map memory)
      internalStorageSize := size })

/-- The body of the appends, which differ in where the bytes come from.  The comparison is one
of unsigned words. -/
def appendBytes (bytes : ByteString) : Bool × BinaryBufferObject :=
  let length : UInt64 := .ofNat bytes.length
  if object.internalDataShift + length > object.internalStorageSize.toUInt64 then
    (false, { object with errorsOccured := true })
  else
    (true, { object with
      byteStorage := object.byteStorage.map fun storage =>
        memcpyAt storage object.internalDataShift.toNat bytes
      internalDataShift := object.internalDataShift + length })

/-- `append_byte`. -/
def appendByte (byteValue : UInt8) : Bool × BinaryBufferObject := object.appendBytes [byteValue]

/-- `append_data_as_pointer`, with the bytes behind the pointer. -/
def appendDataAsPointer (bytes : ByteString) : Bool × BinaryBufferObject :=
  object.appendBytes bytes

/-- `append_data_as_object_ptr`, with the bytes of the object. -/
def appendDataAsObjectPtr (bytes : ByteString) : Bool × BinaryBufferObject :=
  object.appendBytes bytes

/-- `get_used_size`. -/
def getUsedSize : UInt64 := object.internalDataShift

/-- The used bytes behind `get_pointer`. -/
def usedBytes : ByteString := (object.byteStorage.getD []).take object.internalDataShift.toNat

/-- `append_dynamic_buffer`. -/
def appendDynamicBuffer (dynamicBinaryBuffer : BinaryBufferObject) : Bool × BinaryBufferObject :=
  if object.internalDataShift + dynamicBinaryBuffer.getUsedSize
      > object.internalStorageSize.toUInt64 then
    (false, { object with errorsOccured := true })
  else object.appendDataAsPointer dynamicBinaryBuffer.usedBytes

/-- `is_failed`. -/
def isFailed : Bool := object.errorsOccured

/-- The copy constructor. -/
def copyConstruct (memory : ℕ → UInt8) (that : BinaryBufferObject) : BinaryBufferObject :=
  let object : BinaryBufferObject :=
    { internalStorageSize := that.internalStorageSize
      internalDataShift := that.internalDataShift }
  if object.internalStorageSize > 0 then
    let object := (object.setBufferSizeInBytes memory object.internalStorageSize).2
    { object with
      byteStorage := object.byteStorage.map fun storage =>
        memcpyAt storage 0
          ((that.byteStorage.getD []).take that.internalStorageSize.toUInt64.toNat) }
  else object

/-- The move constructor: the new object, and what is left of the source. -/
def moveConstruct (source : BinaryBufferObject) : BinaryBufferObject × BinaryBufferObject :=
  ({ internalDataShift := source.internalDataShift
     byteStorage := source.byteStorage
     internalStorageSize := source.internalStorageSize
     errorsOccured := source.errorsOccured },
    { internalDataShift := 0
      byteStorage := none
      internalStorageSize := 0
      errorsOccured := false })

/-! ### Well-formed objects -/

/-- The size of the storage as the appends see it. -/
def capacity : ℕ := object.internalStorageSize.toUInt64.toNat

/-- The storage has the size that the object says, and no more of it is used. -/
structure WellFormed (object : BinaryBufferObject) : Prop where
  size_nonneg : 0 ≤ object.internalStorageSize
  storage_length : (object.byteStorage.getD []).length = object.capacity
  used_le : object.internalDataShift.toNat ≤ object.capacity

variable {object}

theorem capacity_of_nonneg (h : 0 ≤ object.internalStorageSize) :
    object.capacity = object.internalStorageSize.toNatClampNeg := Int64.toNat_toUInt64_of_le h

theorem WellFormed.capacity_lt (h : object.WellFormed) : object.capacity < 2 ^ 63 := by
  rw [capacity_of_nonneg h.size_nonneg]
  exact Int64.toNatClampNeg_lt _

theorem WellFormed.usedBytes_length (h : object.WellFormed) :
    object.usedBytes.length = object.internalDataShift.toNat := by
  rw [usedBytes, List.length_take, h.storage_length, Nat.min_eq_left h.used_le]

theorem wellFormed_empty : WellFormed {} := ⟨by decide, rfl, Nat.le_refl 0⟩

/-- An object with a positive size has storage. -/
theorem WellFormed.isSome (h : object.WellFormed) (hsize : 0 < object.internalStorageSize) :
    object.byteStorage.isSome = true := by
  have hpos : 0 < object.capacity := by
    rw [capacity_of_nonneg h.size_nonneg, Int64.toNatClampNeg]
    have hlt := Int64.lt_iff_toInt_lt.mp hsize
    rw [Int64.toInt_zero] at hlt
    omega
  cases hstorage : object.byteStorage with
  | some storage => rfl
  | none =>
    have hlength := h.storage_length
    rw [hstorage, Option.getD_none, List.length_nil] at hlength
    omega

/-! ### Storage -/

theorem length_memcpyAt {storage bytes : ByteString} {offset : ℕ}
    (h : offset + bytes.length ≤ storage.length) :
    (memcpyAt storage offset bytes).length = storage.length := by
  rw [memcpyAt, List.length_append, List.length_append, List.length_take, List.length_drop]
  omega

theorem take_memcpyAt {storage bytes : ByteString} {offset : ℕ} (h : offset ≤ storage.length) :
    (memcpyAt storage offset bytes).take (offset + bytes.length)
      = storage.take offset ++ bytes := by
  have hlength : (storage.take offset ++ bytes).length = offset + bytes.length := by
    rw [List.length_append, List.length_take, Nat.min_eq_left h]
  rw [memcpyAt, ← hlength, List.take_left]

/-- A size that is given to an object: it is taken if the object has no storage. -/
theorem WellFormed.setBufferSize (h : object.WellFormed) (memory : ℕ → UInt8) {size : Int64}
    (hsize : 0 ≤ size) :
    (object.setBufferSizeInBytes memory size).2.WellFormed ∧
      (object.setBufferSizeInBytes memory size).2.usedBytes = object.usedBytes ∧
      (object.setBufferSizeInBytes memory size).2.errorsOccured = object.errorsOccured := by
  rw [setBufferSizeInBytes]
  cases hstorage : object.byteStorage with
  | some storage => exact ⟨h, rfl, rfl⟩
  | none =>
    -- without storage nothing is used
    have hcapacity : object.capacity = 0 := by
      rw [← h.storage_length, hstorage]
      rfl
    have hshift : object.internalDataShift.toNat = 0 := by
      have hle := h.used_le
      omega
    refine ⟨⟨hsize, ?_, ?_⟩, ?_, rfl⟩
    · rw [capacity_of_nonneg hsize]
      simp
    · exact (Nat.le_of_eq hshift).trans (Nat.zero_le _)
    · simp [usedBytes, hshift]

/-- A size changes nothing for an object that has one. -/
theorem WellFormed.setBufferSize_again (h : object.WellFormed) (memory : ℕ → UInt8)
    (size : Int64) (hsize : 0 < object.internalStorageSize) :
    object.setBufferSizeInBytes memory size = (false, object) := by
  rw [setBufferSizeInBytes, if_pos (h.isSome hsize)]

/-! ### Appends -/

/-- What an append of some bytes does: it is accepted and adds them, or it is rejected, adds
nothing and leaves its mark. -/
structure Appends (object : BinaryBufferObject) (bytes : ByteString)
    (result : Bool × BinaryBufferObject) : Prop where
  wellFormed : result.2.WellFormed
  capacity : result.2.capacity = object.capacity
  usedBytes : result.2.usedBytes = object.usedBytes ++ if result.1 then bytes else []
  failed : result.2.errorsOccured = (object.errorsOccured || !result.1)
  accepted : result.1 = true ↔ object.usedBytes.length + bytes.length ≤ object.capacity

/-- A rejected append. -/
theorem WellFormed.reject (h : object.WellFormed) {bytes : ByteString}
    (hroom : object.capacity < object.usedBytes.length + bytes.length) :
    object.Appends bytes (false, { object with errorsOccured := true }) where
  wellFormed := ⟨h.size_nonneg, h.storage_length, h.used_le⟩
  capacity := rfl
  usedBytes := (List.append_nil _).symm
  failed := (Bool.or_true _).symm
  accepted := iff_of_false Bool.false_ne_true (Nat.not_le.mpr hroom)

/-- The sum of the comparison does not overflow if that of the lengths does not. -/
theorem WellFormed.exceeds_iff (h : object.WellFormed) (length : UInt64)
    (hfits : object.internalDataShift.toNat + length.toNat < 2 ^ 64) :
    object.internalDataShift + length > object.internalStorageSize.toUInt64 ↔
      object.capacity < object.usedBytes.length + length.toNat := by
  rw [gt_iff_lt, UInt64.lt_iff_toNat_lt, UInt64.toNat_add, Nat.mod_eq_of_lt hfits,
    h.usedBytes_length, capacity]

/-- **The appends.** -/
theorem WellFormed.append (h : object.WellFormed) {bytes : ByteString}
    (hfits : object.internalDataShift.toNat + bytes.length < 2 ^ 64) :
    object.Appends bytes (object.appendBytes bytes) := by
  have hlength : (UInt64.ofNat bytes.length).toNat = bytes.length :=
    UInt64.toNat_ofNat_of_lt' (by simp only [UInt64.size]; omega)
  have hexceeds := h.exceeds_iff (.ofNat bytes.length) (by rw [hlength]; exact hfits)
  rw [hlength] at hexceeds
  rw [appendBytes]
  split
  · rename_i hroom
    exact h.reject (hexceeds.mp hroom)
  · rename_i hroom
    have hle : object.usedBytes.length + bytes.length ≤ object.capacity :=
      Nat.not_lt.mp (mt hexceeds.mpr hroom)
    have hused := h.usedBytes_length
    have hshift : (object.internalDataShift + .ofNat bytes.length).toNat
        = object.internalDataShift.toNat + bytes.length := by
      rw [UInt64.toNat_add, hlength, Nat.mod_eq_of_lt hfits]
    have hstorage := h.storage_length
    refine ⟨⟨h.size_nonneg, ?_, ?_⟩, rfl, ?_, by simp, iff_of_true rfl hle⟩
    · show ((object.byteStorage.map _).getD []).length = object.capacity
      cases hbytes : object.byteStorage with
      | none =>
        rw [hbytes] at hstorage
        exact hstorage
      | some storage =>
        rw [hbytes, Option.getD_some] at hstorage
        rw [Option.map_some, Option.getD_some, length_memcpyAt (by omega), hstorage]
    · show (object.internalDataShift + .ofNat bytes.length).toNat ≤ object.capacity
      omega
    · show ((object.byteStorage.map _).getD []).take
          (object.internalDataShift + .ofNat bytes.length).toNat = _
      rw [hshift, usedBytes, if_pos rfl]
      cases hbytes : object.byteStorage with
      | none =>
        -- without storage only nothing can be appended
        rw [hbytes, Option.getD_none, List.length_nil] at hstorage
        obtain rfl : bytes = [] := List.eq_nil_of_length_eq_zero (by omega)
        simp
      | some storage =>
        rw [hbytes, Option.getD_some] at hstorage
        rw [Option.map_some, Option.getD_some, Option.getD_some, take_memcpyAt (by omega)]

/-- A buffer is appended as its used bytes. -/
theorem WellFormed.appendBuffer (h : object.WellFormed) {other : BinaryBufferObject}
    (hother : other.WellFormed) :
    object.Appends other.usedBytes (object.appendDynamicBuffer other) := by
  have hcapacity := h.capacity_lt
  have hcapacity' := hother.capacity_lt
  have hused := h.used_le
  have hused' := hother.used_le
  have hlength := hother.usedBytes_length
  have hexceeds := h.exceeds_iff other.getUsedSize (by rw [getUsedSize]; omega)
  rw [appendDynamicBuffer]
  split
  · rename_i hroom
    refine h.reject ?_
    rw [hlength]
    exact hexceeds.mp hroom
  · exact h.append (by omega)

/-! ### Constructors -/

/-- **The copy constructor**: everything but the mark of failure. -/
theorem WellFormed.copy (h : object.WellFormed) (memory : ℕ → UInt8) :
    (copyConstruct memory object).WellFormed ∧
      (copyConstruct memory object).capacity = object.capacity ∧
      (copyConstruct memory object).usedBytes = object.usedBytes ∧
      (copyConstruct memory object).errorsOccured = false := by
  rw [copyConstruct]
  by_cases hsize : object.internalStorageSize > 0
  · have hcapacity := capacity_of_nonneg h.size_nonneg
    have hstorage := h.storage_length
    have hself : (object.byteStorage.getD []).take object.internalStorageSize.toUInt64.toNat
        = object.byteStorage.getD [] := List.take_of_length_le (Nat.le_of_eq hstorage)
    have hcopied : memcpyAt ((List.range object.internalStorageSize.toNatClampNeg).map memory) 0
        (object.byteStorage.getD []) = object.byteStorage.getD [] := by
      rw [memcpyAt, List.take_zero, List.nil_append, Nat.zero_add, hstorage, List.drop_of_length_le,
        List.append_nil]
      rw [List.length_map, List.length_range, hcapacity]
    simp only [hsize, if_true, setBufferSizeInBytes, Option.isSome_none, Bool.false_eq_true,
      if_false, Option.map_some, hself, hcopied]
    exact ⟨⟨h.size_nonneg, hstorage, h.used_le⟩, rfl, rfl, trivial⟩
  · have hzero : object.capacity = 0 := by
      rw [capacity_of_nonneg h.size_nonneg, Int64.toNatClampNeg]
      rw [gt_iff_lt, Int64.lt_iff_toInt_lt, Int64.toInt_zero] at hsize
      omega
    have hused := h.used_le
    simp only [hsize, if_false]
    refine ⟨⟨h.size_nonneg, hzero.symm, h.used_le⟩, rfl, ?_, trivial⟩
    rw [usedBytes, usedBytes, show object.internalDataShift.toNat = 0 by omega]
    rfl

/-- **The move constructor**: everything, and the source starts again. -/
theorem moveConstruct_eq (object : BinaryBufferObject) : moveConstruct object = (object, {}) := rfl

/-! ### Buffers that got their size when they were made -/

/-- The object is the buffer. -/
structure Represents (object : BinaryBufferObject) (buffer : DynamicBinaryBuffer) : Prop where
  wellFormed : object.WellFormed
  capacity : object.capacity = buffer.internalStorageSize
  usedBytes : object.usedBytes = buffer.data
  failed : object.errorsOccured = buffer.errorsOccured

variable {buffer : DynamicBinaryBuffer}

/-- A new object with a size. -/
theorem represents_ofSize (memory : ℕ → UInt8) {size : ℕ} (h : size < 2 ^ 63) :
    Represents (setBufferSizeInBytes {} memory (.ofNat size)).2 (.ofSize size) := by
  have hclamp : (Int64.ofNat size).toNatClampNeg = size := Int64.toNatClampNeg_ofNat_of_lt h
  have hsize : (0 : Int64) ≤ .ofNat size := by
    rw [Int64.le_iff_toInt_le, Int64.toInt_zero, Int64.toInt_ofNat_of_lt h]
    exact Int.natCast_nonneg _
  obtain ⟨hwell, hused, hfailed⟩ := wellFormed_empty.setBufferSize memory hsize
  refine ⟨hwell, ?_, hused, hfailed⟩
  rw [capacity_of_nonneg hwell.size_nonneg]
  exact hclamp

/-- **An append to the object is one to the buffer.** -/
theorem Represents.append (h : object.Represents buffer) {bytes : ByteString}
    (hfits : object.internalDataShift.toNat + bytes.length < 2 ^ 64) :
    (object.appendBytes bytes).2.Represents (buffer.append bytes) := by
  have happends := h.wellFormed.append hfits
  have haccepted := happends.accepted
  rw [h.usedBytes, h.capacity] at haccepted
  have hcapacity := happends.capacity.trans h.capacity
  by_cases hroom : buffer.data.length + bytes.length > buffer.internalStorageSize
  · have hrejected : (object.appendBytes bytes).1 = false :=
      Bool.eq_false_of_not_eq_true (mt haccepted.mp (Nat.not_le.mpr hroom))
    rw [DynamicBinaryBuffer.append, dif_pos hroom]
    refine ⟨happends.wellFormed, hcapacity, ?_, ?_⟩
    · rw [happends.usedBytes, hrejected, if_neg Bool.false_ne_true, List.append_nil, h.usedBytes]
    · rw [happends.failed, hrejected, Bool.not_false, Bool.or_true]
  · have haccepts : (object.appendBytes bytes).1 = true := haccepted.mpr (Nat.not_lt.mp hroom)
    rw [DynamicBinaryBuffer.append, dif_neg hroom]
    refine ⟨happends.wellFormed, hcapacity, ?_, ?_⟩
    · rw [happends.usedBytes, haccepts, if_pos rfl, h.usedBytes]
    · rw [happends.failed, haccepts, Bool.not_true, Bool.or_false, h.failed]

/-- **A copy is the buffer without its mark of failure.** -/
theorem Represents.copy (h : object.Represents buffer) (memory : ℕ → UInt8) :
    (copyConstruct memory object).Represents { buffer with errorsOccured := false } := by
  obtain ⟨hwell, hcapacity, hused, hfailed⟩ := h.wellFormed.copy memory
  exact ⟨hwell, hcapacity.trans h.capacity, hused.trans h.usedBytes, hfailed⟩

end BinaryBufferObject

end FastNetMon
