/-
FastNetMon/NetflowCollectorBounds.lean

The common part of the collectors: what it reads, and what it keeps.

A field is read from its own bytes, and the fields of a template one behind the other
from the bytes of a record (`succeeds_forFields`).  The records of a set follow each
other, and what is done with a record depends on its bytes alone
(`processRecords_eq_forM`).
-/
import FastNetMon.NetflowCollector
import FastNetMon.NetflowV9Template
import FastNetMon.PacketParserBounds
import FastNetMon.Regions

namespace FastNetMon

open Memory Procedure

variable {m m' : Memory} {σ α : Type}

/-! ### Sums of lengths -/

/-- A 32 bit sum that stays below `2 ^ 32` is the sum of the numbers. -/
theorem toNat_foldl_add (lengths : List UInt32) (total : UInt32)
    (h : total.toNat + (lengths.map UInt32.toNat).sum < 2 ^ 32) :
    (lengths.foldl (· + ·) total).toNat = total.toNat + (lengths.map UInt32.toNat).sum := by
  induction lengths generalizing total with
  | nil => simp
  | cons length lengths ih =>
    rw [List.map_cons, List.sum_cons] at h ⊢
    have hadd : (total + length).toNat = total.toNat + length.toNat := by
      rw [UInt32.toNat_add, Nat.mod_eq_of_lt]
      omega
    rw [List.foldl_cons, ih _ (by omega), hadd, Nat.add_assoc]

/-- The total size of a template whose lengths fit 32 bits is their sum. -/
theorem totalSize_toNat {lengths : List UInt32} (h : (lengths.map UInt32.toNat).sum < 2 ^ 32) :
    (totalSize lengths).toNat = (lengths.map UInt32.toNat).sum := by
  rw [totalSize, toNat_foldl_add _ _ (by simpa using h)]
  simp

/-- Short lengths have a small sum. -/
theorem sum_toNat_le {lengths : List UInt32} (h : ∀ length ∈ lengths, length.toNat ≤ 65535) :
    (lengths.map UInt32.toNat).sum ≤ lengths.length * 65535 := by
  have hle := List.sum_le_card_nsmul (lengths.map UInt32.toNat) 65535 (by simpa using h)
  simpa using hle

/-! ### Fields -/

/-- A rule that may read the whole field always answers. -/
theorem FieldRule.decode_ok (rule : FieldRule σ) {recordLength : ℕ}
    (h : m.Readable 0 recordLength) (s : σ) : ∃ s', rule.decode m recordLength s = .ok s' := by
  rw [FieldRule.decode]
  split
  · obtain ⟨bytes, hbytes⟩ := Memory.Readable.readBytes (p := 0) (n := recordLength)
      (by rwa [Nat.zero_add])
    exact ⟨rule.store bytes s, by rw [hbytes]; rfl⟩
  · exact ⟨s, rfl⟩

@[gcongr] theorem agrees_decode (h : m.Extends m') (rule : FieldRule σ) (recordLength : ℕ)
    (s : σ) : Agrees (rule.decode m recordLength s) (rule.decode m' recordLength s) := by
  unfold FieldRule.decode
  gcongr

/-- The bytes that the fields of a template take. -/
def fieldsLength (records : List TemplateRecord) : ℕ :=
  (records.map fun record => record.recordLength.toNat).sum

@[simp] theorem fieldsLength_cons (record : TemplateRecord) (records : List TemplateRecord) :
    fieldsLength (record :: records) = record.recordLength.toNat + fieldsLength records :=
  List.sum_cons

/-- A template is decoded from the bytes that its fields take. -/
theorem succeeds_forFields {step : Memory → TemplateRecord → α → Collect α}
    {records : List TemplateRecord} {offset : ℕ} {a : α}
    (h : m.Readable offset (offset + fieldsLength records))
    (hstep : ∀ record ∈ records, ∀ m a, m.Readable 0 record.recordLength.toNat →
      Succeeds (step m record a)) :
    Succeeds (forFields step m records offset a) := by
  induction records generalizing offset a with
  | nil => exact succeeds_pure a
  | cons record records ih =>
    rw [fieldsLength_cons] at h
    have hfield : (m.shift offset).Readable 0 record.recordLength.toNat := by
      have hshift := h.shift offset
      exact hshift.mono (by omega) (by omega)
    rw [forFields]
    refine (hstep record List.mem_cons_self _ _ hfield).bind fun a => ?_
    refine ih (h.mono (by omega) (by omega)) fun record hmem => ?_
    exact hstep record (List.mem_cons_of_mem _ hmem)

/-- What every step on a field keeps, the loop over the fields keeps. -/
theorem keeps_forFields {I : CollectorState → Prop} {E : Fault → Prop} {Q : α → Prop}
    {step : Memory → TemplateRecord → α → Collect α} {records : List TemplateRecord}
    {offset : ℕ} {a : α} (ha : Q a) (h : ∀ m record a, Q a → Keeps I E (step m record a) Q) :
    Keeps I E (forFields step m records offset a) Q := by
  induction records generalizing offset a with
  | nil => exact keeps_pure ha
  | cons record records ih =>
    rw [forFields]
    exact (h _ record a ha).bind fun _ ha => ih ha

/-- What every step on a field preserves, the loop over the fields preserves. -/
theorem preserves_forFields {I : CollectorState → Prop}
    {step : Memory → TemplateRecord → α → Collect α} {records : List TemplateRecord}
    {offset : ℕ} {a : α} (h : ∀ m record a, Preserves I (step m record a)) :
    Preserves I (forFields step m records offset a) :=
  keeps_forFields trivial fun m record a _ => h m record a

/-- The loop over the fields gives the same in a larger memory. -/
theorem follows_forFields {step : Memory → TemplateRecord → α → Collect α} (h : m.Extends m')
    (hstep : ∀ {m m' : Memory}, m.Extends m' → ∀ record a,
      Follows (step m record a) (step m' record a))
    (records : List TemplateRecord) (offset : ℕ) (a : α) :
    Follows (forFields step m records offset a) (forFields step m' records offset a) := by
  induction records generalizing offset a with
  | nil => rfl
  | cons record records ih =>
    rw [forFields, forFields]
    exact (hstep (h.shift offset) record a).bind fun a => ih _ a

/-! ### The state of a collector -/

section State

variable {context : NetflowContext} {timeSec : UInt32}

/-- The update of the sampling rate cannot fail. -/
theorem succeeds_updateSamplingRate (newSamplingRate : UInt32) :
    Succeeds (updateSamplingRate context newSamplingRate) :=
  keeps_ite (fun _ => succeeds_pure ()) fun _ => succeeds_modify _

/-- The update of the timeouts cannot fail. -/
theorem succeeds_updateDeviceFlowTimeouts (deviceTimeouts : DeviceTimeouts) :
    Succeeds (updateDeviceFlowTimeouts context deviceTimeouts) :=
  keeps_ite (fun _ => succeeds_pure ()) fun _ => succeeds_modify _

theorem succeeds_freshPacket : Succeeds (freshPacket context timeSec) :=
  succeeds_get.bind fun _ => succeeds_pure _

/-- The update of the sampling rate leaves the templates alone. -/
theorem preserves_updateSamplingRate_templates (P : TemplateTable → Prop) (rate : UInt32) :
    Preserves (fun s => P s.templates) (updateSamplingRate context rate) := by
  refine preserves_ite (preserves_pure ()) (keeps_modify fun s hs => ?_)
  dsimp only
  split
  · exact hs
  · split <;> exact hs

/-- The update of the timeouts leaves the templates alone. -/
theorem preserves_updateDeviceFlowTimeouts_templates (P : TemplateTable → Prop)
    (deviceTimeouts : DeviceTimeouts) :
    Preserves (fun s => P s.templates) (updateDeviceFlowTimeouts context deviceTimeouts) := by
  refine preserves_ite (preserves_pure ()) (keeps_modify fun s hs => ?_)
  dsimp only
  split
  · exact hs
  · split <;> exact hs

/-- Every template that can be found has a property. -/
def TemplateTable.Every (P : Template → Prop) (table : TemplateTable) : Prop :=
  ∀ sourceId templateId client t,
    peerFindTemplate table sourceId templateId client = some t → P t

/-- A collector starts without templates. -/
theorem every_start (P : Template → Prop) : ({} : CollectorState).templates.Every P := by
  intro sourceId templateId client t hfound
  exact absurd hfound (by simp [peerFindTemplate])

/-- A stored template that has a property keeps all templates with it. -/
theorem preserves_storeTemplate_every {P : Template → Prop} {t : Template} {sourceId : UInt32}
    (ht : P t) : Preserves (fun s => s.templates.Every P) (storeTemplate context sourceId t) := by
  refine keeps_modify fun s hs sourceId' templateId' client' found hfound => ?_
  rcases peerFindTemplate_addUpdate hfound with hold | rfl
  · exact hs _ _ _ _ hold
  · exact ht

end State

/-! ### Records -/

/-- Records of the same length, one behind the other. -/
def recordRegions (totalLength : ℕ) : (number offset : ℕ) → List Region
  | 0, _ => []
  | number + 1, offset =>
      ⟨offset, totalLength⟩ :: recordRegions totalLength number (offset + totalLength)

variable {totalLength number offset setLength : ℕ}

/-- As many regions as records. -/
@[simp] theorem length_recordRegions :
    (recordRegions totalLength number offset).length = number := by
  induction number generalizing offset with
  | zero => rfl
  | succ number ih => rw [recordRegions, List.length_cons, ih]

/-- Every record has the total length of its template. -/
theorem length_of_mem_recordRegions {region : Region}
    (h : region ∈ recordRegions totalLength number offset) : region.length = totalLength := by
  induction number generalizing offset with
  | zero => cases h
  | succ number ih =>
    rcases List.mem_cons.mp h with rfl | h
    · rfl
    · exact ih h

/-- The records lie one behind the other, inside their set. -/
theorem consecutive_recordRegions (h : offset + number * totalLength ≤ setLength) :
    Consecutive 0 offset setLength (recordRegions totalLength number offset) := by
  induction number generalizing offset with
  | zero =>
    rw [Nat.zero_mul, Nat.add_zero] at h
    exact h
  | succ number ih =>
    rw [Nat.add_mul, Nat.one_mul] at h
    have hrest : offset + totalLength + number * totalLength ≤ setLength := by omega
    exact ⟨rfl, ih hrest⟩

theorem forM_congr {f g : α → Collect Unit} {xs : List α} (h : ∀ a ∈ xs, f a = g a) :
    xs.forM f = xs.forM g := by
  induction xs with
  | nil => rfl
  | cons a xs ih =>
    rw [List.forM, List.forM, h a List.mem_cons_self,
      ih fun a hmem => h a (List.mem_cons_of_mem _ hmem)]

/-- The bytes of a record, as they are seen from the record. -/
def recordMemory (m : Memory) (region : Region) : Memory :=
  (m.shift region.start).window 0 region.length

/-- The memory handed to the parser of a record is readable over its whole length. -/
theorem readable_recordMemory {region : Region} {lo hi : ℕ} (h : m.Readable lo hi)
    (hlo : lo ≤ region.start) (hhi : region.stop ≤ hi) :
    (recordMemory m region).Readable 0 region.length := by
  refine Memory.Readable.window ((h.shift region.start).mono (by omega) ?_)
  rw [Region.stop] at hhi
  omega

/-- The loop visits every record. -/
theorem processRecords_eq {process : Memory → Collect Unit}
    (h : offset + number * totalLength ≤ setLength) :
    processRecords m setLength totalLength process number offset
      = (recordRegions totalLength number offset).forM fun region =>
        process (m.shift region.start) := by
  induction number generalizing offset with
  | zero => rfl
  | succ number ih =>
    rw [Nat.add_mul, Nat.one_mul] at h
    have hfits : ¬ offset + totalLength > setLength := by omega
    rw [processRecords, rejectIf_of_not hfits, liftM_ok_bind, ih (by omega), recordRegions,
      List.forM]

/-- **A record is processed from its own bytes.** -/
theorem processRecords_eq_forM {process : Memory → Collect Unit}
    (hreadable : m.Readable offset setLength)
    (h : offset + number * totalLength ≤ setLength)
    (hfollows : ∀ {m m' : Memory}, m.Extends m' → Follows (process m) (process m'))
    (hsucceeds : ∀ m, m.Readable 0 totalLength → Succeeds (process m)) :
    processRecords m setLength totalLength process number offset
        = (recordRegions totalLength number offset).forM (fun region =>
          process (recordMemory m region)) ∧
      Succeeds (processRecords m setLength totalLength process number offset) := by
  have hrecord : ∀ region ∈ recordRegions totalLength number offset,
      Succeeds (process (recordMemory m region)) := by
    intro region hmem
    have hinside := (consecutive_recordRegions h).inside hmem
    have hmemory := readable_recordMemory hreadable hinside.1 hinside.2
    rw [length_of_mem_recordRegions hmem] at hmemory
    exact hsucceeds _ hmemory
  have heq : processRecords m setLength totalLength process number offset
      = (recordRegions totalLength number offset).forM fun region =>
        process (recordMemory m region) := by
    rw [processRecords_eq h]
    refine forM_congr fun region hmem => ?_
    exact (hfollows (extends_window _ _ _)).eq_of_succeeds (hrecord region hmem)
  exact ⟨heq, heq ▸ keeps_forM hrecord⟩

end FastNetMon
