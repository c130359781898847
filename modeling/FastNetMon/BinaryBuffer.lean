/-
FastNetMon/BinaryBuffer.lean

`dynamic_binary_buffer_t`: a byte buffer of a fixed size that is filled from
the front.  An append that does not fit writes nothing and marks the buffer as
failed; the mark stays, so a caller may append many pieces and ask once.

Main result: a buffer filled piece by piece has not failed exactly if all the
pieces together fit, and then holds them one after the other
(`appendAll_errorsOccured`, `appendAll_data`).
-/
import FastNetMon.Types
import FastNetMon.Octets

namespace FastNetMon

/-- `dynamic_binary_buffer_t`.  `data` is the used part, so that
`internal_data_shift` is its length. -/
structure DynamicBinaryBuffer where
  internalStorageSize : ℕ
  data : ByteString
  errorsOccured : Bool
  fits : data.length ≤ internalStorageSize
deriving DecidableEq

namespace DynamicBinaryBuffer

/-- A new buffer after `set_buffer_size_in_bytes(size)`. -/
def ofSize (size : ℕ) : DynamicBinaryBuffer := ⟨size, [], false, Nat.zero_le size⟩

/-- `append_byte`, `append_dynamic_buffer`, `append_data_as_pointer` and
`append_data_as_object_ptr`, which differ only in where the bytes come from. -/
def append (buffer : DynamicBinaryBuffer) (bytes : ByteString) : DynamicBinaryBuffer :=
  if h : buffer.data.length + bytes.length > buffer.internalStorageSize then
    { buffer with errorsOccured := true }
  else
    { buffer with
      data := buffer.data ++ bytes
      fits := by rw [List.length_append]; omega }

/-- Append several pieces, one after the other. -/
def appendAll (buffer : DynamicBinaryBuffer) (pieces : List ByteString) : DynamicBinaryBuffer :=
  pieces.foldl append buffer

variable (buffer : DynamicBinaryBuffer) (bytes : ByteString) (pieces : List ByteString)

@[simp] theorem append_internalStorageSize :
    (buffer.append bytes).internalStorageSize = buffer.internalStorageSize := by
  rw [append]
  split <;> rfl

@[simp] theorem appendAll_nil : buffer.appendAll [] = buffer := rfl

@[simp] theorem appendAll_cons :
    buffer.appendAll (bytes :: pieces) = (buffer.append bytes).appendAll pieces := rfl

theorem appendAll_append (more : List ByteString) :
    buffer.appendAll (pieces ++ more) = (buffer.appendAll pieces).appendAll more :=
  List.foldl_append

/-- A failed buffer stays failed. -/
theorem appendAll_errorsOccured_of_failed (h : buffer.errorsOccured = true) :
    (buffer.appendAll pieces).errorsOccured = true := by
  induction pieces generalizing buffer with
  | nil => exact h
  | cons p ps ih =>
    rw [appendAll_cons]
    apply ih
    rw [append]
    split
    · rfl
    · exact h

/-- **The buffer has not failed exactly if all the pieces fit.** -/
theorem appendAll_errorsOccured :
    (buffer.appendAll pieces).errorsOccured = false ↔ buffer.errorsOccured = false ∧
      buffer.data.length + pieces.flatten.length ≤ buffer.internalStorageSize := by
  induction pieces generalizing buffer with
  | nil => simp [buffer.fits]
  | cons p ps ih =>
    rw [appendAll_cons, List.flatten_cons, List.length_append]
    by_cases hp : buffer.data.length + p.length > buffer.internalStorageSize
    · have hfailed : (buffer.append p).errorsOccured = true := by simp [append, hp]
      simp only [appendAll_errorsOccured_of_failed _ ps hfailed, Bool.true_eq_false, false_iff,
        not_and]
      omega
    · rw [ih]
      simp only [append, hp, dite_false, List.length_append, add_assoc]

/-- **A buffer that has not failed holds the pieces in order.** -/
theorem appendAll_data (h : (buffer.appendAll pieces).errorsOccured = false) :
    (buffer.appendAll pieces).data = buffer.data ++ pieces.flatten := by
  induction pieces generalizing buffer with
  | nil => simp
  | cons p ps ih =>
    rw [appendAll_cons] at h ⊢
    have hp : ¬ buffer.data.length + p.length > buffer.internalStorageSize := by
      rw [appendAll_errorsOccured] at h
      intro hbig
      simp [append, hbig] at h
    rw [ih _ h]
    simp [append, hp]

/-- What a finished buffer gives its reader: its bytes, or nothing if it failed. -/
def result : Option ByteString :=
  if buffer.errorsOccured then none else some buffer.data

/-- The result of filling a new buffer. -/
theorem result_appendAll_ofSize (size : ℕ) (pieces : List ByteString) :
    ((ofSize size).appendAll pieces).result
      = if pieces.flatten.length ≤ size then some pieces.flatten else none := by
  have hiff := appendAll_errorsOccured (ofSize size) pieces
  have hdata := appendAll_data (ofSize size) pieces
  simp only [ofSize, List.length_nil, Nat.zero_add, true_and, List.nil_append] at hiff hdata
  by_cases hfit : pieces.flatten.length ≤ size
  · have hok := hiff.mpr hfit
    rw [if_pos hfit, result, ofSize, hok, hdata hok]
    rfl
  · have hfailed := mt hiff.mp hfit
    rw [if_neg hfit, result, ofSize, if_pos (by simpa using hfailed)]

end DynamicBinaryBuffer

end FastNetMon
