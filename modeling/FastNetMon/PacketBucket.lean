/-
FastNetMon/PacketBucket.lean

Packet buckets (`packet_bucket.hpp`).

A bucket collects the packets of one host in two circular buffers, the parsed
packets and, where the payload is there, the raw ones, until one of them is
full.  The storage maps hosts to buckets and is generic in the kind of host,
as the template is.  Every operation here is one critical section of
`packet_buckets_map_mutex`; the functions that hold the mutex for longer are
part of the daemon.

Main results: what each operation does to the collection pattern of the
buckets (`patternOf`), the part of them that decides who owns a capture.
-/
import Mathlib
import FastNetMon.PortClassifier

namespace FastNetMon

open Std

/-! ### Circular buffers -/

/-- `boost::circular_buffer`, the oldest element first. -/
structure CircularBuffer (α : Type*) where
  capacity : ℕ
  elements : List α
  size_le : elements.length ≤ capacity
deriving DecidableEq

namespace CircularBuffer

variable {α : Type*}

/-- A buffer of some capacity without elements. -/
def empty (capacity : ℕ) : CircularBuffer α := ⟨capacity, [], Nat.zero_le _⟩

/-- The number of elements. -/
def size (b : CircularBuffer α) : ℕ := b.elements.length

/-- `push_back`: a full buffer loses its oldest element, and one without
capacity takes nothing. -/
def pushBack (b : CircularBuffer α) (x : α) : CircularBuffer α where
  capacity := b.capacity
  elements := (b.elements ++ [x]).drop (b.elements.length + 1 - b.capacity)
  size_le := by
    rw [List.length_drop, List.length_append, List.length_singleton]
    omega

end CircularBuffer

/-! ### Packets -/

/-- `simple_packet_t`: the bytes at `payload_pointer`, if it is not null, and how
many of them were captured, at which a bucket looks, and the fields at which the
port classifiers look. -/
structure SimplePacket where
  payloadPointer : Option ByteString := none
  capturedPayloadLength : Int32 := 0
  payloadFullLength : UInt32 := 0
  fields : DirectedPacket := {}
deriving DecidableEq

/-- `fixed_size_packet_storage_t` without the time stamp; the payload without
the zeros that follow it. -/
structure FixedSizePacketStorage where
  origLen : UInt32
  inclLen : UInt32
  packetPayload : ByteString
deriving DecidableEq

/-- The raw form of a packet that has a payload: only the first 2048 bytes are copied. -/
def SimplePacket.rawPacket (packet : SimplePacket) : Option FixedSizePacketStorage :=
  match packet.payloadPointer with
  | some payload =>
      if 0 < packet.capturedPayloadLength then
        some {
          origLen := packet.payloadFullLength
          inclLen := packet.capturedPayloadLength.toUInt32
          packetPayload := payload.take (min packet.capturedPayloadLength.toNatClampNeg 2048) }
      else none
  | none => none

/-! ### Buckets -/

/-- `collection_pattern_t`. -/
inductive CollectionPattern
  | once
  | flowSpecRefreshOnce
deriving DecidableEq, Repr

/-- `is_one_shot_collection_pattern`: both patterns are. -/
def isOneShotCollectionPattern (p : CollectionPattern) : Bool :=
  p = .once || p = .flowSpecRefreshOnce

/-- `packet_bucket_t`; times are in seconds. -/
structure PacketBucket where
  collectionPattern : CollectionPattern := .once
  weCouldReceiveNewData : Bool := true
  isAlreadyProcessed : Bool := false
  weCollectedFullBufferLeastOnce : Bool := false
  parsedPacketsCircularBuffer : CircularBuffer SimplePacket := .empty 0
  collectionStartTime : Int := 0
  collectionFinishedTime : Int := 0
  rawPacketsCircularBuffer : CircularBuffer FixedSizePacketStorage := .empty 0
  attackDetails : AttackDetails := {}
deriving DecidableEq

namespace PacketBucket

/-- A one time capture that is complete and was not handled yet. -/
def isFilled (bucket : PacketBucket) : Bool :=
  isOneShotCollectionPattern bucket.collectionPattern
    && bucket.weCollectedFullBufferLeastOnce && !bucket.isAlreadyProcessed

/-- `should_remove_orphaned_bucket`. -/
def shouldRemoveOrphanedBucket (bucket : PacketBucket) (now : Int)
    (maximumTimeSinceBucketStartToRemove : UInt32) : Bool :=
  isOneShotCollectionPattern bucket.collectionPattern
    && !bucket.weCollectedFullBufferLeastOnce
    && now - bucket.collectionStartTime > maximumTimeSinceBucketStartToRemove.toNat

/-- The branch of `add_packet_to_storage` that ends the collection: one of the
two buffers is about to be full. -/
def closeIfNearOverflow (bucket : PacketBucket) (now : Int) : PacketBucket :=
  if isOneShotCollectionPattern bucket.collectionPattern
      && (bucket.parsedPacketsCircularBuffer.size + 1 = bucket.parsedPacketsCircularBuffer.capacity
        || bucket.rawPacketsCircularBuffer.size + 1 = bucket.rawPacketsCircularBuffer.capacity) then
    { bucket with
      weCouldReceiveNewData := false
      weCollectedFullBufferLeastOnce := true
      collectionFinishedTime := now }
  else bucket

/-- A packet goes into the parsed buffer, and its payload into the raw one. -/
def pushPacket (bucket : PacketBucket) (packet : SimplePacket) : PacketBucket :=
  { bucket with
    parsedPacketsCircularBuffer := bucket.parsedPacketsCircularBuffer.pushBack packet
    rawPacketsCircularBuffer :=
      match packet.rawPacket with
      | some raw => bucket.rawPacketsCircularBuffer.pushBack raw
      | none => bucket.rawPacketsCircularBuffer }

@[simp] theorem closeIfNearOverflow_collectionPattern (bucket : PacketBucket) (now : Int) :
    (bucket.closeIfNearOverflow now).collectionPattern = bucket.collectionPattern := by
  unfold closeIfNearOverflow
  split <;> rfl

@[simp] theorem pushPacket_collectionPattern (bucket : PacketBucket) (packet : SimplePacket) :
    (bucket.pushPacket packet).collectionPattern = bucket.collectionPattern := rfl

end PacketBucket

/-! ### The storage -/

/-- `packet_buckets_storage_t`. -/
structure PacketBucketsStorage (κ : Type) [Ord κ] where
  buffersMaximumCapacity : UInt32 := 500
  packetBucketsMap : ExtTreeMap κ PacketBucket compare := ∅

namespace PacketBucketsStorage

variable {κ : Type} [Ord κ] [TransOrd κ] (s : PacketBucketsStorage κ) (clientIp : κ)

/-- `we_have_bucket_for_this_ip`. -/
def weHaveBucketForThisIp : Bool := s.packetBucketsMap.contains clientIp

/-- `remove_packet_capture_for_ip`. -/
def removePacketCaptureForIp : PacketBucketsStorage κ :=
  { s with packetBucketsMap := s.packetBucketsMap.erase clientIp }

/-- The bucket of a new capture: without capacity it is complete at once. -/
def newPacketBucket (attackDetails : AttackDetails) (collectionPattern : CollectionPattern)
    (now : Int) : PacketBucket :=
  { collectionPattern := collectionPattern
    weCouldReceiveNewData := s.buffersMaximumCapacity ≠ 0
    weCollectedFullBufferLeastOnce := s.buffersMaximumCapacity = 0
    parsedPacketsCircularBuffer := .empty s.buffersMaximumCapacity.toNat
    rawPacketsCircularBuffer := .empty s.buffersMaximumCapacity.toNat
    collectionStartTime := now
    collectionFinishedTime := if s.buffersMaximumCapacity = 0 then now else 0
    attackDetails := attackDetails }

/-- `enable_packet_capture`. -/
def enablePacketCapture (attackDetails : AttackDetails) (collectionPattern : CollectionPattern)
    (now : Int) : Bool × PacketBucketsStorage κ :=
  if s.packetBucketsMap.contains clientIp then (false, s)
  else
    let bucket := s.newPacketBucket attackDetails collectionPattern now
    (true, { s with packetBucketsMap := s.packetBucketsMap.insert clientIp bucket })

/-- `add_packet_to_storage`. -/
def addPacketToStorage (packet : SimplePacket) (now : Int) : Bool × PacketBucketsStorage κ :=
  match s.packetBucketsMap[clientIp]? with
  | none => (false, s)
  | some bucket =>
      if bucket.weCouldReceiveNewData then
        let bucket' := (bucket.closeIfNearOverflow now).pushPacket packet
        (true, { s with packetBucketsMap := s.packetBucketsMap.insert clientIp bucket' })
      else (false, s)

/-- The hosts whose buckets have a property, in the order of the map. -/
def keysWith (p : PacketBucket → Bool) : List κ :=
  s.packetBucketsMap.toList.filterMap fun entry => if p entry.2 then some entry.1 else none

/-- `bucket.we_could_receive_new_data = false` for the bucket of a host. -/
def stopCollection : PacketBucketsStorage κ :=
  { s with
    packetBucketsMap := s.packetBucketsMap.modify clientIp
      fun bucket => { bucket with weCouldReceiveNewData := false } }

/-! ### Who owns a capture -/

/-- The collection pattern of the bucket of a host, if there is one. -/
def patternOf : Option CollectionPattern :=
  (s.packetBucketsMap[clientIp]?).map PacketBucket.collectionPattern

variable {s clientIp} {v : κ}

/-- There is a bucket exactly if there is a pattern. -/
theorem weHaveBucketForThisIp_iff :
    s.weHaveBucketForThisIp clientIp = true ↔ s.patternOf clientIp ≠ none := by
  simp [weHaveBucketForThisIp, patternOf]

/-- `packet_buckets_map[client_ip]` has the default pattern where there is no bucket. -/
theorem getD_collectionPattern (s : PacketBucketsStorage κ) (clientIp : κ) :
    ((s.packetBucketsMap[clientIp]?).getD {}).collectionPattern = .flowSpecRefreshOnce ↔
      s.patternOf clientIp = some .flowSpecRefreshOnce := by
  rw [patternOf]
  cases s.packetBucketsMap[clientIp]? <;> simp

/-- A key that is listed has a bucket. -/
theorem patternOf_of_mem_keysWith [LawfulEqOrd κ] {p : PacketBucket → Bool}
    (h : v ∈ s.keysWith p) : s.patternOf v ≠ none := by
  obtain ⟨⟨u, bucket⟩, hmem, hkey⟩ := List.mem_filterMap.mp h
  have hbucket : s.packetBucketsMap[u]? = some bucket :=
    ExtTreeMap.mem_toList_iff_getElem?_eq_some.mp hmem
  obtain rfl : u = v := by
    dsimp only at hkey
    split at hkey
    · exact Option.some.inj hkey
    · cases hkey
  rw [patternOf, hbucket]
  exact Option.some_ne_none _

variable [LawfulEqOrd κ] [DecidableEq κ]

/-- The bucket of the host goes, the others stay. -/
theorem patternOf_removePacketCaptureForIp :
    (s.removePacketCaptureForIp clientIp).patternOf v
      = if clientIp = v then none else s.patternOf v := by
  rw [patternOf, removePacketCaptureForIp, ExtTreeMap.getElem?_erase, patternOf]
  by_cases hv : clientIp = v <;> simp [hv]

/-- A capture is enabled only where there is no bucket, and then its pattern is
the one asked for. -/
theorem enablePacketCapture_cases (s : PacketBucketsStorage κ) (clientIp : κ)
    (attackDetails : AttackDetails) (p : CollectionPattern) (now : Int) :
    (s.patternOf clientIp ≠ none ∧
        s.enablePacketCapture clientIp attackDetails p now = (false, s)) ∨
      (s.patternOf clientIp = none ∧
        (s.enablePacketCapture clientIp attackDetails p now).1 = true ∧
        ∀ v, (s.enablePacketCapture clientIp attackDetails p now).2.patternOf v
          = if clientIp = v then some p else s.patternOf v) := by
  unfold enablePacketCapture
  split
  · rename_i hmem
    exact .inl ⟨weHaveBucketForThisIp_iff.mp hmem, rfl⟩
  · rename_i hmem
    refine .inr ⟨?_, rfl, fun v => ?_⟩
    · have hnone := mt weHaveBucketForThisIp_iff.mpr hmem
      simpa using hnone
    · show ((s.packetBucketsMap.insert clientIp _)[v]?).map PacketBucket.collectionPattern = _
      rw [ExtTreeMap.getElem?_insert, patternOf]
      by_cases hv : clientIp = v <;> simp [hv, newPacketBucket]

/-- Packets change no pattern. -/
theorem patternOf_addPacketToStorage (packet : SimplePacket) (now : Int) :
    (s.addPacketToStorage clientIp packet now).2.patternOf v = s.patternOf v := by
  unfold addPacketToStorage
  split
  · rfl
  · rename_i bucket hb
    split
    · show ((s.packetBucketsMap.insert clientIp _)[v]?).map PacketBucket.collectionPattern = _
      rw [ExtTreeMap.getElem?_insert, patternOf]
      by_cases hv : clientIp = v
      · subst hv
        simp [hb]
      · simp [hv]
    · rfl

/-- A bucket that is stopped keeps its pattern. -/
theorem patternOf_stopCollection :
    (s.stopCollection clientIp).patternOf v = s.patternOf v := by
  rw [patternOf, stopCollection, ExtTreeMap.getElem?_modify, patternOf]
  by_cases hv : clientIp = v
  · subst hv
    simp [Function.comp_def]
  · simp [hv]

end PacketBucketsStorage

end FastNetMon
