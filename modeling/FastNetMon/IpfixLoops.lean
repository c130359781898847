/-
FastNetMon/IpfixLoops.lean

The loops of the collector of IPFIX.

The loop over sets is limited by their number, whatever their lengths are, and the loops
over templates by the bytes that a template takes.  A template with a field that carries
its length describes records that are not empty, so the loop over such records goes on;
what it has read and what is left add up to the set at each of its states
(`IpfixLoopReaches.fits`).  Records of a fixed length are cut out of the set before they
are decoded.  Main result: `ipfix_loops_end`.
-/
import FastNetMon.IpfixStore

namespace FastNetMon

open Memory Procedure

variable {context : NetflowContext} {timeSec : UInt32} {t : Template} {m : Memory}
  {setLength offset : ℕ}

/-! ### Records with variable fields -/

/-- The states of the loop over the records of a set with variable fields. -/
inductive IpfixLoopReaches (context : NetflowContext) (timeSec : UInt32) (t : Template)
    (m : Memory) (setLength : ℕ) (s₀ : CollectorState) : CollectorState → IpfixLoop → Prop
  | start : IpfixLoopReaches context timeSec t m setLength s₀ s₀ ⟨0, .ofNat (setLength - 4)⟩
  | next {s s' : CollectorState} {loop loop' : IpfixLoop} :
      IpfixLoopReaches context timeSec t m setLength s₀ s loop →
      loop.flowOffset.toNat < setLength - 4 →
      ipfixVariableRecord context timeSec t m loop s = (s', .ok (some loop')) →
      IpfixLoopReaches context timeSec t m setLength s₀ s' loop'

/-- A round of the loop, from any state. -/
theorem ipfixVariableRecord_next {s s' : CollectorState} {loop loop' : IpfixLoop}
    (ht : t.IpfixSound) (hvariable : t.ipfixVariableLengthElementsUsed = true)
    (h : ipfixVariableRecord context timeSec t m loop s = (s', .ok (some loop'))) :
    ∃ readFlowLength, 1 ≤ readFlowLength ∧
      readFlowLength ≤ loop.maximumDataAvailableToRead.toNat ∧ loop' = loop.advance readFlowLength := by
  have hround := (@keeps_ipfixVariableRecord m context (fun _ => True) timeSec t
    (fun _ _ _ _ => preserves_ipfixDataSetToStore_templates fun _ => True) loop ht hvariable s
    trivial).2
  rw [h] at hround
  exact hround loop' rfl

/-- What has been read and what is left are the set without its header. -/
theorem IpfixLoopReaches.fits {s₀ s : CollectorState} {loop : IpfixLoop} (ht : t.IpfixSound)
    (hvariable : t.ipfixVariableLengthElementsUsed = true) (hset : setLength < 2 ^ 32)
    (h : IpfixLoopReaches context timeSec t m setLength s₀ s loop) : loop.Fits setLength := by
  induction h with
  | start => exact IpfixLoop.fits_start hset
  | next _ _ hround ih =>
    obtain ⟨readFlowLength, -, hle, rfl⟩ := ipfixVariableRecord_next ht hvariable hround
    exact ih.advance hset hle

/-! ### Records of a fixed length -/

theorem ipfixFixedRecords_eq (number : ℕ) :
    ipfixFixedRecords context timeSec t m number offset
      = (recordRegions t.totalLength.toNat number offset).forM fun region =>
        ignoreResult (ipfixDataSetToStore context timeSec t t.totalLength.toNat
          (m.shift region.start)) := by
  induction number generalizing offset with
  | zero => rfl
  | succ number ih => rw [ipfixFixedRecords, recordRegions, List.forM, ih]

/-- A set is cut into records, or it is turned down before anything is divided. -/
theorem processIpfixRegularDataSet_fixed
    (hfixed : t.ipfixVariableLengthElementsUsed = false) :
    processIpfixRegularDataSet context timeSec t m setLength
      = if t.totalLength = 0 ∨ (setLength - 4) / t.totalLength.toNat > 0x4000 ∨
            (setLength - 4) / t.totalLength.toNat = 0 then
          liftM (Except.error Fault.rejected)
        else
          (recordRegions t.totalLength.toNat ((setLength - 4) / t.totalLength.toNat) 4).forM
            fun region => ignoreResult (ipfixDataSetToStore context timeSec t
              t.totalLength.toNat (m.shift region.start)) := by
  rw [processIpfixRegularDataSet, if_neg (by simp [hfixed])]
  dsimp only
  by_cases hzero : t.totalLength = 0
  · rw [rejectIf_of hzero, if_pos (.inl hzero)]
    rfl
  rw [rejectIf_of_not hzero, liftM_ok_bind]
  by_cases hmany : (setLength - 4) / t.totalLength.toNat > 0x4000
  · rw [rejectIf_of hmany, if_pos (.inr (.inl hmany))]
    rfl
  rw [rejectIf_of_not hmany, liftM_ok_bind]
  by_cases hnone : (setLength - 4) / t.totalLength.toNat = 0
  · rw [rejectIf_of hnone, if_pos (.inr (.inr hnone))]
    rfl
  rw [rejectIf_of_not hnone, liftM_ok_bind, if_neg (by tauto), ipfixFixedRecords_eq]

/-! ### Every loop -/

/-- What has been read and what is left add up to the set, and a record that is decoded now
takes at least one byte and at most what is left. -/
def RecordLoopInOrder (context : NetflowContext) (timeSec : UInt32) (t : Template) (m : Memory)
    (setLength : ℕ) (s : CollectorState) (loop : IpfixLoop) : Prop :=
  loop.Fits setLength ∧ ∀ readFlowLength,
    (ipfixDataSetToStore context timeSec t loop.maximumDataAvailableToRead.toNat
      (m.shift (4 + loop.flowOffset.toNat)) s).2 = .ok readFlowLength →
    1 ≤ readFlowLength ∧ readFlowLength ≤ loop.maximumDataAvailableToRead.toNat ∧
      (loop.maximumDataAvailableToRead - .ofNat readFlowLength).toNat
        = loop.maximumDataAvailableToRead.toNat - readFlowLength ∧
      (loop.advance readFlowLength).Fits setLength

theorem IpfixLoopReaches.inOrder {s₀ s : CollectorState} {loop : IpfixLoop} (ht : t.IpfixSound)
    (hvariable : t.ipfixVariableLengthElementsUsed = true) (hset : setLength < 2 ^ 32)
    (h : IpfixLoopReaches context timeSec t m setLength s₀ s loop) :
    RecordLoopInOrder context timeSec t m setLength s loop := by
  have hfits := h.fits ht hvariable hset
  refine ⟨hfits, fun readFlowLength hrecord => ?_⟩
  obtain ⟨hle, hpos⟩ := ipfixDataSetToStore_length hrecord
  exact ⟨hpos (ht.variable_eq ▸ hvariable), hle, IpfixLoop.advance_left hle,
    hfits.advance hset hle⟩

/-- A set of records of a fixed length is turned down, or cut into records inside it. -/
theorem processIpfixRegularDataSet_regions (s : CollectorState)
    (hfixed : t.ipfixVariableLengthElementsUsed = false) (hheader : 4 ≤ setLength) :
    let numberOfRecords := (setLength - 4) / t.totalLength.toNat
    if t.totalLength = 0 ∨ numberOfRecords > 0x4000 ∨ numberOfRecords = 0 then
      processIpfixRegularDataSet context timeSec t m setLength s = (s, .error .rejected)
    else ∃ regions : List Region, regions.length = numberOfRecords ∧
      Consecutive 0 4 setLength regions ∧
      (∀ region ∈ regions, region.length = t.totalLength.toNat) ∧
      processIpfixRegularDataSet context timeSec t m setLength s
        = regions.forM (fun region => ignoreResult (ipfixDataSetToStore context timeSec t
            region.length (m.shift region.start))) s := by
  intro numberOfRecords
  rw [processIpfixRegularDataSet_fixed hfixed]
  split
  · rfl
  · refine ⟨recordRegions t.totalLength.toNat numberOfRecords 4, length_recordRegions,
      consecutive_recordRegions ?_, fun region => length_of_mem_recordRegions, ?_⟩
    · have hdiv : numberOfRecords * t.totalLength.toNat ≤ setLength - 4 :=
        Nat.div_mul_le_self _ _
      omega
    · refine congrFun (forM_congr fun region hmem => ?_) s
      rw [length_of_mem_recordRegions hmem]

/-- **The loops of the collector end, and its arithmetic does not wrap.**  No datagram runs
a loop over sets, templates or records without an end.  With a stored template that has
variable fields, every round of the loop over records takes at least one byte and at most
the bytes that are left, and the two variables of the loop add up to the set without its
header.  With any other template, the set is turned down, before anything is divided, or it
is cut into records that follow each other inside the set. -/
theorem ipfix_loops_end {s : CollectorState} (hs : IpfixReachable s) :
    (∀ context packet udpPacketLength,
      (processIpfixPacket context packet udpPacketLength s).2 ≠ .error .outOfFuel) ∧
    (∀ currentInaccurateTime m setLength, 4 ≤ setLength →
      (readIpfixDataTemplates currentInaccurateTime m setLength setLength 4).2
          ≠ .error .outOfFuel ∧
        (readIpfixOptionsTemplates currentInaccurateTime m setLength setLength 4).2
          ≠ .error .outOfFuel) ∧
    ∀ context timeSec sourceId templateId client t m (setLength : UInt16),
      peerFindTemplate s.templates sourceId templateId client = some t → 4 ≤ setLength.toNat →
      (processIpfixRegularDataSet context timeSec t m setLength.toNat s).2 ≠ .error .outOfFuel ∧
      if t.ipfixVariableLengthElementsUsed then
        ∀ s' loop, IpfixLoopReaches context timeSec t m setLength.toNat s s' loop →
          RecordLoopInOrder context timeSec t m setLength.toNat s' loop
      else
        let numberOfRecords := (setLength.toNat - 4) / t.totalLength.toNat
        if t.totalLength = 0 ∨ numberOfRecords > 0x4000 ∨ numberOfRecords = 0 then
          processIpfixRegularDataSet context timeSec t m setLength.toNat s = (s, .error .rejected)
        else ∃ regions : List Region, regions.length = numberOfRecords ∧
          Consecutive 0 4 setLength.toNat regions ∧
          (∀ region ∈ regions, region.length = t.totalLength.toNat) ∧
          processIpfixRegularDataSet context timeSec t m setLength.toNat s
            = regions.forM (fun region => ignoreResult (ipfixDataSetToStore context timeSec t
                region.length (m.shift region.start))) s := by
  refine ⟨fun context packet udpPacketLength hfuel => ?_,
    fun currentInaccurateTime m setLength hheader => ⟨?_, ?_⟩, ?_⟩
  · have hends := ((@ends_processIpfixPacket_sound packet context udpPacketLength) s hs.sound).2
    rw [hfuel] at hends
    exact hends rfl
  · exact (readIpfixDataTemplates_spec (by omega)).2
  · exact (readIpfixOptionsTemplates_spec (by omega)).2
  · intro context timeSec sourceId templateId client t m setLength hfound hheader
    have ht := hs.sound _ _ _ _ hfound
    have hset := setLength.toNat_lt
    refine ⟨fun hfuel => ?_, ?_⟩
    · have hends := ((@ends_processIpfixRegularDataSet m _ context (fun _ => True) timeSec)
        (fun _ _ _ _ => preserves_ipfixDataSetToStore_templates fun _ => True) ht hheader
        (by omega) s trivial).2
      rw [hfuel] at hends
      exact hends rfl
    · split
      · rename_i hvariable
        exact fun s' loop hloop => hloop.inOrder ht hvariable (by omega)
      · rename_i hfixed
        exact processIpfixRegularDataSet_regions s (by simpa using hfixed) hheader

/-! ### An exporter -/

/-- An exporter of IPFIX with source id 0. -/
def ipfixExporter : NetflowContext := { clientAddressInStringFormat := "192.0.2.2".toList }

/-- The header of a message with source id 0. -/
def ipfixHeader (length : UInt8) : List UInt8 :=
  [0, 10, 0, length, 0, 0, 0, 0, 0, 0, 0, 0, 0, 0, 0, 0]

/-- Template 256: a name that carries its length, and a source address. -/
def namedTemplate : List UInt8 :=
  ipfixHeader 32 ++ [0, 2, 0, 16, 1, 0, 0, 2, 0, 82, 255, 255, 0, 8, 0, 4]

/-- The collector that knows the template. -/
def namedCollector : CollectorState :=
  (processIpfixPacket ipfixExporter (ofBytes namedTemplate) 32 {}).1

/-- Two records, with names of one byte and of two bytes. -/
def namedRecords : List UInt8 :=
  [1, 0, 0, 17, 1, 97, 10, 0, 0, 1, 2, 98, 99, 10, 0, 0, 2]

theorem namedRecords_in_order : ∃ t, peerFindTemplate namedCollector.templates 0 256
      ipfixExporter.clientAddressInStringFormat = some t ∧
    RecordLoopInOrder ipfixExporter 0 t (ofBytes namedRecords) 17 namedCollector ⟨0, 13⟩ := by
  refine ⟨_, rfl, ?_⟩
  have hloops := (ipfix_loops_end (.datagram ipfixExporter (ofBytes namedTemplate) 32 .start)).2.2
    ipfixExporter 0 0 256 ipfixExporter.clientAddressInStringFormat _ (ofBytes namedRecords) 17 rfl
    (by decide)
  exact hloops.2 namedCollector ⟨0, 13⟩ .start

end FastNetMon
