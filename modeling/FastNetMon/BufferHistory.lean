/-
FastNetMon/BufferHistory.lean

Buffers that are filled, copied and moved.

A run has any number of `dynamic_binary_buffer_t` objects.  The history of an object is the
list of the appends to it and what they returned; a new object that is copied or moved from
another one takes its history over, and one that was moved from starts again.  In every run the
used bytes of an object are those of the accepted appends of its history, one after the other,
and never more than its storage; one step keeps this (`Sound.step`), and so does any run.  An
object says that it failed if an append of its history was rejected, except for copies: the copy
constructor leaves the mark out.  Main result: the buffers keep the law along a run exactly if
no failed object is copied in it (`buffer_law_iff`).
-/
import FastNetMon.BinaryBufferObject
import FastNetMon.Transition

namespace FastNetMon

/-! ### Histories -/

/-- An append, and whether it was accepted. -/
structure AppendAttempt where
  bytes : ByteString
  accepted : Bool
deriving DecidableEq

/-- The bytes of the accepted appends, one after the other. -/
def acceptedBytes (history : List AppendAttempt) : ByteString :=
  (history.map fun attempt => if attempt.accepted then attempt.bytes else []).flatten

/-- Some append was rejected. -/
def AnyRejected (history : List AppendAttempt) : Prop :=
  ∃ attempt ∈ history, attempt.accepted = false

theorem acceptedBytes_concat (history : List AppendAttempt) (attempt : AppendAttempt) :
    acceptedBytes (history ++ [attempt])
      = acceptedBytes history ++ if attempt.accepted then attempt.bytes else [] := by
  simp [acceptedBytes]

theorem anyRejected_concat (history : List AppendAttempt) (attempt : AppendAttempt) :
    AnyRejected (history ++ [attempt]) ↔ AnyRejected history ∨ attempt.accepted = false := by
  simp [AnyRejected, or_and_right, exists_or]

/-- An object with its history. -/
structure TrackedBuffer where
  object : BinaryBufferObject := {}
  history : List AppendAttempt := []
deriving DecidableEq

/-- An append to the object, noted in its history. -/
def TrackedBuffer.record (buffer : TrackedBuffer) (bytes : ByteString)
    (result : Bool × BinaryBufferObject) : TrackedBuffer where
  object := result.2
  history := buffer.history ++ [⟨bytes, result.1⟩]

/-! ### Operations -/

variable {ι : Type} [DecidableEq ι]

/-- The operations on objects with names; new storage holds `memory`. -/
inductive BufferOperation (ι : Type)
  | construct (x : ι)
  | setBufferSizeInBytes (x : ι) (memory : ℕ → UInt8) (size : Int64)
  | appendByte (x : ι) (byteValue : UInt8)
  | appendDataAsPointer (x : ι) (bytes : ByteString)
  | appendDataAsObjectPtr (x : ι) (bytes : ByteString)
  | appendDynamicBuffer (x y : ι)
  /-- A new object `x`, as a copy of `y`. -/
  | copyConstruct (x : ι) (memory : ℕ → UInt8) (y : ι)
  /-- A new object `x`, moved from `y`. -/
  | moveConstruct (x y : ι)

/-- The objects, by their names. -/
abbrev Buffers (ι : Type) := ι → TrackedBuffer

/-- One operation. -/
def Buffers.step (s : Buffers ι) : BufferOperation ι → Buffers ι
  | .construct x => Function.update s x {}
  | .setBufferSizeInBytes x memory size =>
      Function.update s x { s x with object := ((s x).object.setBufferSizeInBytes memory size).2 }
  | .appendByte x byteValue =>
      Function.update s x ((s x).record [byteValue] ((s x).object.appendByte byteValue))
  | .appendDataAsPointer x bytes =>
      Function.update s x ((s x).record bytes ((s x).object.appendDataAsPointer bytes))
  | .appendDataAsObjectPtr x bytes =>
      Function.update s x ((s x).record bytes ((s x).object.appendDataAsObjectPtr bytes))
  | .appendDynamicBuffer x y =>
      Function.update s x
        ((s x).record (s y).object.usedBytes ((s x).object.appendDynamicBuffer (s y).object))
  | .copyConstruct x memory y =>
      Function.update s x
        { s y with object := BinaryBufferObject.copyConstruct memory (s y).object }
  | .moveConstruct x y =>
      let moved := BinaryBufferObject.moveConstruct (s y).object
      Function.update (Function.update s y { object := moved.2 }) x { s y with object := moved.1 }

/-- What an operation may be: sizes are not negative, the sums of lengths fit 64 bits, and a new
object is another one than its source. -/
def Admissible (s : Buffers ι) : BufferOperation ι → Prop
  | .construct _ => True
  | .setBufferSizeInBytes _ _ size => 0 ≤ size
  | .appendByte _ _ => True
  | .appendDataAsPointer x bytes | .appendDataAsObjectPtr x bytes =>
      (s x).object.internalDataShift.toNat + bytes.length < 2 ^ 64
  | .appendDynamicBuffer _ _ => True
  | .copyConstruct x _ y | .moveConstruct x y => x ≠ y

/-- The object of an operation that appends, the bytes, and what the append returns. -/
def BufferOperation.attempted (s : Buffers ι) :
    BufferOperation ι → Option (ι × ByteString × (Bool × BinaryBufferObject))
  | .appendByte x byteValue => some (x, [byteValue], (s x).object.appendByte byteValue)
  | .appendDataAsPointer x bytes => some (x, bytes, (s x).object.appendDataAsPointer bytes)
  | .appendDataAsObjectPtr x bytes => some (x, bytes, (s x).object.appendDataAsObjectPtr bytes)
  | .appendDynamicBuffer x y =>
      some (x, (s y).object.usedBytes, (s x).object.appendDynamicBuffer (s y).object)
  | .construct _ => none
  | .setBufferSizeInBytes _ _ _ => none
  | .copyConstruct _ _ _ => none
  | .moveConstruct _ _ => none

/-- The runs of the buffers. -/
abbrev BufferRuns (C : Buffers ι → BufferOperation ι → Prop) :=
  Runs (fun s operation => some (Buffers.step s operation)) C

/-- Objects that were constructed and nothing else. -/
def Buffers.start : Buffers ι := fun _ => {}

/-! ### The law -/

/-- The law of one object. -/
structure TrackedBuffer.Lawful (buffer : TrackedBuffer) : Prop where
  used_le : (buffer.object.getUsedSize.toNat : ℤ) ≤ buffer.object.internalStorageSize.toInt
  usedBytes : buffer.object.usedBytes = acceptedBytes buffer.history
  isFailed : buffer.object.isFailed = true ↔ AnyRejected buffer.history

/-- The law of one step: a rejected append leaves the used bytes as they were, and a size that
is given to an object with a positive size changes nothing. -/
structure LawfulStep (s : Buffers ι) (operation : BufferOperation ι) : Prop where
  rejected : ∀ x bytes result, operation.attempted s = some (x, bytes, result) →
    result.1 = false → (s.step operation x).object.usedBytes = (s x).object.usedBytes
  size : ∀ x memory size, operation = .setBufferSizeInBytes x memory size →
    0 < (s x).object.internalStorageSize → s.step operation = s

/-- The law along a run: in every state that is reached, and for every step that is taken. -/
def LawfulAlong (operations : List (BufferOperation ι)) : Prop :=
  ∀ done rest s, operations = done ++ rest → BufferRuns Admissible Buffers.start done s →
    (∀ x, (s x).Lawful) ∧ ∀ operation ∈ rest.head?, LawfulStep s operation

/-- No failed object is copied. -/
def CopiesNoFailed (s : Buffers ι) (operation : BufferOperation ι) : Prop :=
  ∀ x memory y, operation = .copyConstruct x memory y → (s y).object.isFailed = false

/-- What a step has to meet for the law. -/
def AdmissibleWithoutFailedCopy (s : Buffers ι) (operation : BufferOperation ι) : Prop :=
  Admissible s operation ∧ CopiesNoFailed s operation

/-! ### What holds in every run -/

/-- An object that is well formed and holds what was appended to it. -/
structure TrackedBuffer.Sound (buffer : TrackedBuffer) : Prop where
  wellFormed : buffer.object.WellFormed
  usedBytes : buffer.object.usedBytes = acceptedBytes buffer.history

/-- The mark of failure is that of the history. -/
def TrackedBuffer.Marked (buffer : TrackedBuffer) : Prop :=
  buffer.object.errorsOccured = true ↔ AnyRejected buffer.history

theorem TrackedBuffer.sound_new : TrackedBuffer.Sound {} :=
  ⟨BinaryBufferObject.wellFormed_empty, rfl⟩

theorem TrackedBuffer.marked_new : TrackedBuffer.Marked {} := by
  simp [Marked, AnyRejected]

section Append

variable {buffer : TrackedBuffer} {bytes : ByteString} {result : Bool × BinaryBufferObject}

theorem TrackedBuffer.Sound.record (h : buffer.Sound)
    (happends : buffer.object.Appends bytes result) : (buffer.record bytes result).Sound := by
  refine ⟨happends.wellFormed, ?_⟩
  rw [TrackedBuffer.record, acceptedBytes_concat, happends.usedBytes, h.usedBytes]

theorem TrackedBuffer.Marked.record (h : buffer.Marked)
    (happends : buffer.object.Appends bytes result) : (buffer.record bytes result).Marked := by
  rw [Marked] at h
  rw [Marked, TrackedBuffer.record, anyRejected_concat, happends.failed, Bool.or_eq_true,
    Bool.not_eq_true', h]

end Append

/-- The append of an operation. -/
theorem appends_of_attempted {s : Buffers ι} {operation : BufferOperation ι} {x : ι}
    {bytes : ByteString} {result : Bool × BinaryBufferObject} (hs : ∀ x, (s x).Sound)
    (hadmissible : Admissible s operation)
    (h : operation.attempted s = some (x, bytes, result)) :
    (s x).object.Appends bytes result ∧
      s.step operation = Function.update s x ((s x).record bytes result) := by
  cases operation with
  | appendByte y byteValue =>
    obtain ⟨rfl, rfl, rfl⟩ := Option.some.inj h
    have hwell := (hs x).wellFormed
    have hlt := hwell.capacity_lt
    have hused := hwell.used_le
    exact ⟨hwell.append (by rw [List.length_singleton]; omega), rfl⟩
  | appendDataAsPointer y bytes' =>
    obtain ⟨rfl, rfl, rfl⟩ := Option.some.inj h
    exact ⟨(hs x).wellFormed.append hadmissible, rfl⟩
  | appendDataAsObjectPtr y bytes' =>
    obtain ⟨rfl, rfl, rfl⟩ := Option.some.inj h
    exact ⟨(hs x).wellFormed.append hadmissible, rfl⟩
  | appendDynamicBuffer y z =>
    obtain ⟨rfl, rfl, rfl⟩ := Option.some.inj h
    exact ⟨(hs x).wellFormed.appendBuffer (hs z).wellFormed, rfl⟩
  | construct y => exact absurd h (by simp [BufferOperation.attempted])
  | setBufferSizeInBytes y memory size => exact absurd h (by simp [BufferOperation.attempted])
  | copyConstruct y memory z => exact absurd h (by simp [BufferOperation.attempted])
  | moveConstruct y z => exact absurd h (by simp [BufferOperation.attempted])

omit [DecidableEq ι] in
/-- The operations that append nothing. -/
theorem operation_of_attempted_eq_none {s : Buffers ι} {operation : BufferOperation ι}
    (h : operation.attempted s = none) :
    (∃ x, operation = .construct x) ∨
      (∃ x memory size, operation = .setBufferSizeInBytes x memory size) ∨
      (∃ x memory y, operation = .copyConstruct x memory y) ∨
      ∃ x y, operation = .moveConstruct x y := by
  cases operation with
  | construct x => exact .inl ⟨x, rfl⟩
  | setBufferSizeInBytes x memory size => exact .inr (.inl ⟨x, memory, size, rfl⟩)
  | copyConstruct x memory y => exact .inr (.inr (.inl ⟨x, memory, y, rfl⟩))
  | moveConstruct x y => exact .inr (.inr (.inr ⟨x, y, rfl⟩))
  | appendByte x byteValue => exact absurd h (by simp [BufferOperation.attempted])
  | appendDataAsPointer x bytes => exact absurd h (by simp [BufferOperation.attempted])
  | appendDataAsObjectPtr x bytes => exact absurd h (by simp [BufferOperation.attempted])
  | appendDynamicBuffer x y => exact absurd h (by simp [BufferOperation.attempted])

/-- A property of objects that one update keeps. -/
theorem forall_update {P : TrackedBuffer → Prop} {s : Buffers ι} {x : ι} {buffer : TrackedBuffer}
    (hs : ∀ y, P (s y)) (hbuffer : P buffer) (y : ι) : P (Function.update s x buffer y) := by
  by_cases hy : y = x
  · rw [hy, Function.update_self]
    exact hbuffer
  · rw [Function.update_of_ne hy]
    exact hs y

variable {s : Buffers ι} {operation : BufferOperation ι}

/-- **Step rule.**  A property of objects that holds of new ones and is kept by sizes, by
copies and by appends is kept by every operation; a move changes no object but its source,
which starts again. -/
theorem step_preserves {P : TrackedBuffer → Prop} (hs : ∀ x, (s x).Sound)
    (hadmissible : Admissible s operation) (hP : ∀ x, P (s x)) (hnew : P {})
    (hsize : ∀ x memory size, operation = .setBufferSizeInBytes x memory size →
      P { s x with object := ((s x).object.setBufferSizeInBytes memory size).2 })
    (hcopy : ∀ x memory y, operation = .copyConstruct x memory y →
      P { s y with object := BinaryBufferObject.copyConstruct memory (s y).object })
    (happend : ∀ x bytes result, (s x).object.Appends bytes result →
      P ((s x).record bytes result)) (x : ι) : P (s.step operation x) := by
  rcases hattempted : operation.attempted s with _ | ⟨y, bytes, result⟩
  · rcases operation_of_attempted_eq_none hattempted with
      ⟨y, rfl⟩ | ⟨y, memory, size, rfl⟩ | ⟨y, memory, z, rfl⟩ | ⟨y, z, rfl⟩
    · exact forall_update hP hnew x
    · exact forall_update hP (hsize y memory size rfl) x
    · exact forall_update hP (hcopy y memory z rfl) x
    · rw [Buffers.step, BinaryBufferObject.moveConstruct_eq]
      exact forall_update (forall_update hP hnew) (hP z) x
  · obtain ⟨happends, hstep⟩ := appends_of_attempted hs hadmissible hattempted
    rw [hstep]
    exact forall_update hP (happend y bytes result happends) x

/-- **One operation keeps every object sound.** -/
theorem sound_step (hs : ∀ x, (s x).Sound) (hadmissible : Admissible s operation) (x : ι) :
    (s.step operation x).Sound := by
  refine step_preserves hs hadmissible hs TrackedBuffer.sound_new ?_ ?_ ?_ x
  · rintro y memory size rfl
    obtain ⟨hwell, hused, -⟩ := (hs y).wellFormed.setBufferSize memory hadmissible
    exact ⟨hwell, hused.trans (hs y).usedBytes⟩
  · rintro y memory z -
    obtain ⟨hwell, -, hused, -⟩ := (hs z).wellFormed.copy memory
    exact ⟨hwell, hused.trans (hs z).usedBytes⟩
  · intro y bytes result happends
    exact (hs y).record happends

/-- **One operation that copies no failed object keeps every mark.** -/
theorem marked_step (hs : ∀ x, (s x).Sound) (hmarked : ∀ x, (s x).Marked)
    (hadmissible : AdmissibleWithoutFailedCopy s operation) (x : ι) :
    (s.step operation x).Marked := by
  refine step_preserves hs hadmissible.1 hmarked TrackedBuffer.marked_new ?_ ?_ ?_ x
  · rintro y memory size rfl
    obtain ⟨-, -, hfailed⟩ := (hs y).wellFormed.setBufferSize memory hadmissible.1
    rw [TrackedBuffer.Marked, hfailed]
    exact hmarked y
  · rintro y memory z rfl
    obtain ⟨-, -, -, hfailed⟩ := (hs z).wellFormed.copy memory
    -- neither the copy nor its source says that it failed
    rw [TrackedBuffer.Marked, hfailed, ← hadmissible.2 y memory z rfl]
    exact hmarked z
  · intro y bytes result happends
    exact (hmarked y).record happends

/-! ### Runs -/

variable {operations : List (BufferOperation ι)}

/-- Every object of every run is sound. -/
theorem sound_of_run (h : BufferRuns Admissible Buffers.start operations s) :
    ∀ x, (s x).Sound := by
  refine h.invariant (I := fun s => ∀ x, (s x).Sound) ?_ fun _ => TrackedBuffer.sound_new
  rintro s operation s' hs hadmissible hstep x
  obtain rfl := Option.some.inj hstep
  exact sound_step hs hadmissible x

/-- Every object of a run without failed copies has the mark of its history. -/
theorem marked_of_run (h : BufferRuns AdmissibleWithoutFailedCopy Buffers.start operations s) :
    ∀ x, (s x).Sound ∧ (s x).Marked := by
  refine h.invariant (I := fun s => ∀ x, (s x).Sound ∧ (s x).Marked) ?_
    fun _ => ⟨TrackedBuffer.sound_new, TrackedBuffer.marked_new⟩
  rintro s operation s' hs hadmissible hstep x
  obtain rfl := Option.some.inj hstep
  exact ⟨sound_step (fun x => (hs x).1) hadmissible.1 x,
    marked_step (fun x => (hs x).1) (fun x => (hs x).2) hadmissible x⟩

theorem TrackedBuffer.Sound.lawful {buffer : TrackedBuffer} (h : buffer.Sound)
    (hmarked : buffer.Marked) : buffer.Lawful := by
  refine ⟨?_, h.usedBytes, hmarked⟩
  have hused := h.wellFormed.used_le
  have hnonneg := Int64.le_iff_toInt_le.mp h.wellFormed.size_nonneg
  rw [BinaryBufferObject.capacity_of_nonneg h.wellFormed.size_nonneg, Int64.toNatClampNeg] at hused
  rw [Int64.toInt_zero] at hnonneg
  rw [BinaryBufferObject.getUsedSize]
  omega

/-- The law of a step needs no condition. -/
theorem lawfulStep (hs : ∀ x, (s x).Sound) (hadmissible : Admissible s operation) :
    LawfulStep s operation := by
  refine ⟨?_, ?_⟩
  · intro x bytes result hattempted hrejected
    obtain ⟨happends, hstep⟩ := appends_of_attempted hs hadmissible hattempted
    rw [hstep, Function.update_self, TrackedBuffer.record, happends.usedBytes, hrejected,
      if_neg Bool.false_ne_true, List.append_nil]
  · rintro x memory size rfl hsize
    rw [Buffers.step, (hs x).wellFormed.setBufferSize_again memory size hsize]
    exact Function.update_eq_self x s

/-- A copy of an object whose history has a rejected append breaks the law. -/
theorem not_lawful_copy {x y : ι} {memory : ℕ → UInt8} (hs : ∀ x, (s x).Sound)
    (hrejected : AnyRejected (s y).history) :
    ¬ (s.step (.copyConstruct x memory y) x).Lawful := by
  intro hlawful
  obtain ⟨-, -, -, hfailed⟩ := (hs y).wellFormed.copy memory
  have hmarked := hlawful.isFailed
  rw [Buffers.step, Function.update_self, BinaryBufferObject.isFailed, hfailed] at hmarked
  exact Bool.false_ne_true (hmarked.mpr hrejected)

/-- **The law along a run.**  The used bytes, the sizes and the effect of rejected appends are
right in every run; the marks of failure are right in every state exactly if every step copies
an object that did not fail, or none. -/
theorem buffer_law_iff (h : BufferRuns Admissible Buffers.start operations s) :
    LawfulAlong operations ↔
      BufferRuns AdmissibleWithoutFailedCopy Buffers.start operations s := by
  constructor
  · intro hlaw
    have hprefix : ∀ done rest, operations = done ++ rest →
        ∃ t, BufferRuns AdmissibleWithoutFailedCopy Buffers.start done t := by
      intro done
      induction done using List.reverseRecOn with
      | nil =>
        intro rest _
        exact ⟨_, .refl _⟩
      | append_singleton done operation ih =>
        intro rest hsplit
        rw [List.append_assoc, List.singleton_append] at hsplit
        obtain ⟨t, ht⟩ := ih _ hsplit
        rw [hsplit] at h
        obtain ⟨t', hdone, hrest⟩ := h.split
        obtain rfl := ht.end_eq hdone
        cases hrest with
        | head hadmissible hstep hr =>
          have hnext := hdone.tail hadmissible hstep
          obtain rfl := Option.some.inj hstep
          refine ⟨_, ht.tail ⟨hadmissible, ?_⟩ rfl⟩
          rintro x memory y rfl
          by_contra hfailed
          have hrejected := ((hlaw done _ t hsplit hdone).1 y).isFailed.mp
            (Bool.eq_true_of_not_eq_false hfailed)
          refine not_lawful_copy (sound_of_run hdone) hrejected
            ((hlaw (done ++ [_]) rest _ ?_ hnext).1 x)
          rw [hsplit, List.append_assoc, List.singleton_append]
    obtain ⟨t, ht⟩ := hprefix operations [] (List.append_nil _).symm
    obtain rfl := ht.end_eq h
    exact ht
  · rintro hrun done rest t rfl hdone
    obtain ⟨t', hdone', hrest⟩ := hrun.split
    obtain rfl := hdone'.end_eq hdone
    have hs := marked_of_run hdone'
    refine ⟨fun x => (hs x).1.lawful (hs x).2, ?_⟩
    intro operation hoperation
    cases hrest with
    | refl => exact absurd hoperation (by simp)
    | head hadmissible _ _ =>
      obtain rfl := Option.some.inj hoperation
      exact lawfulStep (fun x => (hs x).1) hadmissible.1

/-! ### A buffer that is too small -/

/-- One byte of storage, and two bytes for it. -/
def overfull : List (BufferOperation Bool) :=
  [.setBufferSizeInBytes false (fun _ => 0) 1, .appendDataAsPointer false [1, 2]]

/-- The object is copied before it is asked whether it failed. -/
def overfullCopied : List (BufferOperation Bool) :=
  overfull ++ [.copyConstruct true (fun _ => 0) false]

/-- The state after operations. -/
def Buffers.after (operations : List (BufferOperation ι)) : Buffers ι :=
  operations.foldl Buffers.step Buffers.start

theorem overfull_run :
    BufferRuns AdmissibleWithoutFailedCopy Buffers.start overfull (Buffers.after overfull) := by
  refine .head ⟨?_, ?_⟩ rfl (.head ⟨?_, ?_⟩ rfl (.refl _))
  · show (0 : Int64) ≤ 1
    decide
  · exact fun x memory y heq => by cases heq
  · show (Buffers.step Buffers.start _ false).object.internalDataShift.toNat + 2 < 2 ^ 64
    decide
  · exact fun x memory y heq => by cases heq

theorem overfullCopied_run :
    BufferRuns Admissible Buffers.start overfullCopied (Buffers.after overfullCopied) :=
  (overfull_run.mono fun _ _ h => h.1).tail (by simp [Admissible]) rfl

theorem overfull_lawful : LawfulAlong overfull :=
  (buffer_law_iff (overfull_run.mono fun _ _ h => h.1)).mpr overfull_run

/-- **A failed buffer has a copy that did not fail.** -/
theorem overfullCopied_not_lawful :
    BufferRuns Admissible Buffers.start overfullCopied (Buffers.after overfullCopied) ∧
      ¬ LawfulAlong overfullCopied := by
  refine ⟨overfullCopied_run, ?_⟩
  intro hlaw
  have hcopy := ((hlaw overfullCopied [] _ rfl overfullCopied_run).1 true).isFailed
  exact absurd (hcopy.mpr ⟨⟨[1, 2], false⟩, by decide, rfl⟩) (by decide)

end FastNetMon
