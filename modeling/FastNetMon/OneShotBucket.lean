/-
FastNetMon/OneShotBucket.lean

What a packet bucket holds after any calls of its storage.

A capture is described by the packets that were offered since it was enabled and before it was
disabled; its bucket is to hold the first of them, as many as there is room for, and nothing
after.  The storage refines a map of captures, call by call, and what is said of a bucket in
any reachable state is read off from its capture.  Main result: `one_shot_buckets`.
-/
import FastNetMon.PacketBucket

namespace FastNetMon

open Std

/-! ### Full buffers -/

namespace CircularBuffer

variable {α : Type*} {b : CircularBuffer α}

/-- A buffer with room takes a packet and loses none. -/
theorem pushBack_elements (h : b.size < b.capacity) (x : α) :
    (b.pushBack x).elements = b.elements ++ [x] := by
  have hzero : b.elements.length + 1 - b.capacity = 0 := by
    rw [size] at h
    omega
  show (b.elements ++ [x]).drop _ = _
  rw [hzero, List.drop_zero]

@[simp] theorem pushBack_capacity (b : CircularBuffer α) (x : α) :
    (b.pushBack x).capacity = b.capacity := rfl

end CircularBuffer

/-! ### Calls -/

/-- The calls that change one bucket, each with the time at which it is made. -/
inductive BucketCall (κ : Type)
  | enable (clientIp : κ) (attackDetails : AttackDetails) (pattern : CollectionPattern) (now : Int)
  | add (clientIp : κ) (packet : SimplePacket) (now : Int)
  | disable (clientIp : κ)
  | remove (clientIp : κ)

variable {κ : Type}

/-- The host of a call. -/
def BucketCall.clientIp : BucketCall κ → κ
  | enable clientIp .. => clientIp
  | add clientIp .. => clientIp
  | disable clientIp => clientIp
  | remove clientIp => clientIp

namespace PacketBucketsStorage

variable [Ord κ] [TransOrd κ]

/-- `disable_packet_capture`. -/
def disablePacketCapture (s : PacketBucketsStorage κ) (clientIp : κ) :
    Bool × PacketBucketsStorage κ :=
  if s.packetBucketsMap.contains clientIp then (true, s.stopCollection clientIp) else (false, s)

/-- A call and what it returns. -/
def call (s : PacketBucketsStorage κ) : BucketCall κ → Bool × PacketBucketsStorage κ
  | .enable clientIp attackDetails pattern now =>
      s.enablePacketCapture clientIp attackDetails pattern now
  | .add clientIp packet now => s.addPacketToStorage clientIp packet now
  | .disable clientIp => s.disablePacketCapture clientIp
  | .remove clientIp => (true, s.removePacketCaptureForIp clientIp)

/-- The storage after some calls. -/
def run (s : PacketBucketsStorage κ) (calls : List (BucketCall κ)) : PacketBucketsStorage κ :=
  calls.foldl (fun s c => (s.call c).2) s

end PacketBucketsStorage

/-! ### Calls for other hosts, and closed buckets -/

namespace PacketBucketsStorage

variable [Ord κ] [TransOrd κ] {s : PacketBucketsStorage κ} {v : κ} {bucket : PacketBucket}

/-- A host that has a bucket gets no other one. -/
theorem call_enable_of_bucket (hbucket : s.packetBucketsMap[v]? = some bucket)
    (attackDetails : AttackDetails) (p : CollectionPattern) (now : Int) :
    s.call (.enable v attackDetails p now) = (false, s) := by
  show s.enablePacketCapture v attackDetails p now = (false, s)
  rw [enablePacketCapture, ExtTreeMap.contains_eq_isSome_getElem?, hbucket]
  rfl

/-- A bucket that does not receive takes no packet. -/
theorem call_add_of_closed (hbucket : s.packetBucketsMap[v]? = some bucket)
    (hclosed : bucket.weCouldReceiveNewData = false) (packet : SimplePacket) (now : Int) :
    s.call (.add v packet now) = (false, s) := by
  show s.addPacketToStorage v packet now = (false, s)
  simp only [addPacketToStorage, hbucket, hclosed, Bool.false_eq_true, if_false]

variable [LawfulEqOrd κ]

omit [TransOrd κ] in
/-- Different keys do not compare as equal. -/
theorem compare_ne_eq {a b : κ} (h : a ≠ b) : ¬ compare a b = .eq :=
  fun heq => h (LawfulEqOrd.eq_of_compare heq)

/-- What an update of one key leaves at another. -/
theorem getElem?_update_of_ne {clientIp : κ} (hv : clientIp ≠ v) (bucket : PacketBucket) :
    (s.packetBucketsMap.insert clientIp bucket)[v]? = s.packetBucketsMap[v]? := by
  rw [ExtTreeMap.getElem?_insert, if_neg (compare_ne_eq hv)]

/-- A call for one host leaves the buckets of the others. -/
theorem call_of_ne (request : BucketCall κ) (hv : request.clientIp ≠ v) :
    (s.call request).2.packetBucketsMap[v]? = s.packetBucketsMap[v]? := by
  cases request with
  | enable clientIp attackDetails pattern now =>
    show (s.enablePacketCapture clientIp attackDetails pattern now).2.packetBucketsMap[v]? = _
    unfold enablePacketCapture
    split
    · rfl
    · exact getElem?_update_of_ne hv _
  | add clientIp packet now =>
    show (s.addPacketToStorage clientIp packet now).2.packetBucketsMap[v]? = _
    unfold addPacketToStorage
    split
    · rfl
    · split
      · exact getElem?_update_of_ne hv _
      · rfl
  | disable clientIp =>
    change clientIp ≠ v at hv
    show (s.disablePacketCapture clientIp).2.packetBucketsMap[v]? = _
    unfold disablePacketCapture
    split
    · show (s.packetBucketsMap.modify clientIp _)[v]? = _
      rw [ExtTreeMap.getElem?_modify, if_neg (compare_ne_eq hv)]
    · rfl
  | remove clientIp =>
    change clientIp ≠ v at hv
    show (s.packetBucketsMap.erase clientIp)[v]? = _
    rw [ExtTreeMap.getElem?_erase, if_neg (compare_ne_eq hv)]

/-- A bucket that does not receive stays as it is until it is removed. -/
theorem call_of_closed (hbucket : s.packetBucketsMap[v]? = some bucket)
    (hclosed : bucket.weCouldReceiveNewData = false) {request : BucketCall κ}
    (hrequest : request ≠ .remove v) :
    (s.call request).2.packetBucketsMap[v]? = some bucket := by
  by_cases hv : request.clientIp = v
  · subst hv
    cases request with
    | enable clientIp attackDetails pattern now =>
      exact (congrArg (·.2.packetBucketsMap[clientIp]?)
        (call_enable_of_bucket hbucket attackDetails pattern now)).trans hbucket
    | add clientIp packet now =>
      exact (congrArg (·.2.packetBucketsMap[clientIp]?)
        (call_add_of_closed hbucket hclosed packet now)).trans hbucket
    | disable clientIp =>
      change s.packetBucketsMap[clientIp]? = some bucket at hbucket
      show (s.disablePacketCapture clientIp).2.packetBucketsMap[clientIp]? = some bucket
      rw [disablePacketCapture, ExtTreeMap.contains_eq_isSome_getElem?, hbucket]
      show (s.packetBucketsMap.modify clientIp _)[clientIp]? = some bucket
      rw [ExtTreeMap.getElem?_modify, if_pos compare_self, hbucket, Option.map_some, ← hclosed]
    | remove clientIp => exact absurd rfl hrequest
  · rw [call_of_ne request hv]
    exact hbucket

theorem run_of_closed (hclosed : bucket.weCouldReceiveNewData = false)
    (later : List (BucketCall κ)) (hlater : ∀ request ∈ later, request ≠ .remove v)
    (hbucket : s.packetBucketsMap[v]? = some bucket) :
    (s.run later).packetBucketsMap[v]? = some bucket := by
  induction later generalizing s with
  | nil => exact hbucket
  | cons request rest ih =>
    refine ih (fun r hr => hlater r (List.mem_cons_of_mem _ hr)) ?_
    exact call_of_closed hbucket hclosed (hlater request List.mem_cons_self)

end PacketBucketsStorage

/-! ### Captures -/

/-- A capture: the packets that were offered until it was disabled. -/
structure Capture where
  offered : List SimplePacket := []
  disabled : Bool := false

/-- A packet of the host: a capture that is disabled does not take it. -/
def Capture.offer (capture : Capture) (packet : SimplePacket) : Capture :=
  if capture.disabled then capture
  else { capture with offered := capture.offered ++ [packet] }

/-- What a call does to the captures of all hosts. -/
def BucketCall.captures [DecidableEq κ] (c : BucketCall κ) (captures : κ → Option Capture) :
    κ → Option Capture :=
  match c with
  | enable clientIp .. => Function.update captures clientIp (some ((captures clientIp).getD {}))
  | add clientIp packet _ =>
      Function.update captures clientIp ((captures clientIp).map (·.offer packet))
  | disable clientIp =>
      Function.update captures clientIp ((captures clientIp).map ({ · with disabled := true }))
  | remove clientIp => Function.update captures clientIp none

/-- The captures after some calls, none being there before. -/
def capturesAfter [DecidableEq κ] (calls : List (BucketCall κ)) : κ → Option Capture :=
  calls.foldl (fun captures c => c.captures captures) fun _ => none

/-- A bucket of capacity `c` is that of a capture. -/
structure BucketOf (c : ℕ) (capture : Capture) (bucket : PacketBucket) : Prop where
  parsed : bucket.parsedPacketsCircularBuffer.elements = capture.offered.take c
  raw : bucket.rawPacketsCircularBuffer.elements
    = (capture.offered.take c).filterMap SimplePacket.rawPacket
  parsedCapacity : bucket.parsedPacketsCircularBuffer.capacity = c
  rawCapacity : bucket.rawPacketsCircularBuffer.capacity = c
  receives : bucket.weCouldReceiveNewData = true ↔
    capture.disabled = false ∧ capture.offered.length < c
  collected : bucket.weCollectedFullBufferLeastOnce = true ↔ c ≤ capture.offered.length

/-- The storage has a bucket for each capture, and no other buckets. -/
structure Represents [Ord κ] [TransOrd κ] (c : UInt32) (captures : κ → Option Capture)
    (s : PacketBucketsStorage κ) : Prop where
  capacity : s.buffersMaximumCapacity = c
  buckets : ∀ v, Option.Rel (BucketOf c.toNat) (captures v) s.packetBucketsMap[v]?

variable {c : ℕ} {capture : Capture} {bucket : PacketBucket}

/-! ### One bucket -/

/-- All patterns are one-shot patterns. -/
theorem isOneShotCollectionPattern_eq (p : CollectionPattern) :
    isOneShotCollectionPattern p = true := by
  cases p <;> rfl

/-- A bucket is closed by the packet that fills its parsed buffer: the raw buffer is never the
first one to be full. -/
theorem BucketOf.closes_iff (h : BucketOf c capture bucket) (hroom : capture.offered.length < c) :
    (bucket.parsedPacketsCircularBuffer.size + 1 = bucket.parsedPacketsCircularBuffer.capacity ∨
      bucket.rawPacketsCircularBuffer.size + 1 = bucket.rawPacketsCircularBuffer.capacity) ↔
    capture.offered.length + 1 = c := by
  have hraw := List.length_filterMap_le SimplePacket.rawPacket (capture.offered.take c)
  rw [CircularBuffer.size, CircularBuffer.size, h.parsed, h.raw, h.parsedCapacity, h.rawCapacity]
  rw [List.length_take] at hraw ⊢
  omega

/-- A bucket that receives has room in both buffers. -/
theorem BucketOf.room (h : BucketOf c capture bucket) (hroom : capture.offered.length < c) :
    bucket.parsedPacketsCircularBuffer.size < bucket.parsedPacketsCircularBuffer.capacity ∧
      bucket.rawPacketsCircularBuffer.size < bucket.rawPacketsCircularBuffer.capacity := by
  have hraw := List.length_filterMap_le SimplePacket.rawPacket (capture.offered.take c)
  rw [CircularBuffer.size, CircularBuffer.size, h.parsed, h.raw, h.parsedCapacity, h.rawCapacity]
  rw [List.length_take] at hraw ⊢
  omega

theorem Capture.offered_offer (henabled : capture.disabled = false) (packet : SimplePacket) :
    capture.offer packet = { capture with offered := capture.offered ++ [packet] } := by
  rw [offer, henabled]
  rfl

/-- Both buffers take a packet for which there is room. -/
theorem BucketOf.pushed (h : BucketOf c capture bucket) (hroom : capture.offered.length < c)
    (packet : SimplePacket) :
    (bucket.pushPacket packet).parsedPacketsCircularBuffer.elements
        = (capture.offered ++ [packet]).take c ∧
      (bucket.pushPacket packet).rawPacketsCircularBuffer.elements
        = ((capture.offered ++ [packet]).take c).filterMap SimplePacket.rawPacket ∧
      (bucket.pushPacket packet).parsedPacketsCircularBuffer.capacity = c ∧
      (bucket.pushPacket packet).rawPacketsCircularBuffer.capacity = c := by
  obtain ⟨hparsed, hraw⟩ := h.room hroom
  have hall : (capture.offered ++ [packet]).take c = capture.offered ++ [packet] :=
    List.take_of_length_le (by rw [List.length_append, List.length_singleton]; omega)
  have hbefore : capture.offered.take c = capture.offered := List.take_of_length_le hroom.le
  rw [hall, List.filterMap_append]
  refine ⟨?_, ?_, h.parsedCapacity, ?_⟩
  · show (bucket.parsedPacketsCircularBuffer.pushBack packet).elements = _
    rw [CircularBuffer.pushBack_elements hparsed, h.parsed, hbefore]
  · have hrest := h.raw
    rw [hbefore] at hrest
    cases hpayload : packet.rawPacket with
    | none =>
      simp only [PacketBucket.pushPacket, hpayload, List.filterMap_cons, List.filterMap_nil,
        List.append_nil, hrest]
    | some raw =>
      simp only [PacketBucket.pushPacket, hpayload, List.filterMap_cons, List.filterMap_nil,
        CircularBuffer.pushBack_elements hraw, hrest]
  · cases hpayload : packet.rawPacket with
    | none => simp only [PacketBucket.pushPacket, hpayload, h.rawCapacity]
    | some raw =>
      simp only [PacketBucket.pushPacket, hpayload, CircularBuffer.pushBack_capacity,
        h.rawCapacity]

/-- The packet that fills a bucket closes it. -/
theorem BucketOf.closeIfNearOverflow_eq (h : BucketOf c capture bucket)
    (hroom : capture.offered.length < c) (now : Int) :
    bucket.closeIfNearOverflow now = if capture.offered.length + 1 = c then
      { bucket with
        weCouldReceiveNewData := false
        weCollectedFullBufferLeastOnce := true
        collectionFinishedTime := now } else bucket := by
  rw [PacketBucket.closeIfNearOverflow, isOneShotCollectionPattern_eq, Bool.true_and]
  refine if_congr ?_ rfl rfl
  rw [Bool.or_eq_true, decide_eq_true_iff, decide_eq_true_iff]
  exact h.closes_iff hroom

/-- A packet that is offered to a bucket that receives. -/
theorem BucketOf.add (h : BucketOf c capture bucket)
    (hreceives : bucket.weCouldReceiveNewData = true) (packet : SimplePacket) (now : Int) :
    BucketOf c (capture.offer packet) ((bucket.closeIfNearOverflow now).pushPacket packet) := by
  obtain ⟨henabled, hroom⟩ := h.receives.mp hreceives
  obtain ⟨hparsed, hraw, hparsedCapacity, hrawCapacity⟩ := h.pushed hroom packet
  have hopen : ¬ c ≤ capture.offered.length := Nat.not_le.mpr hroom
  rw [Capture.offered_offer henabled, h.closeIfNearOverflow_eq hroom]
  by_cases hlast : capture.offered.length + 1 = c
  · rw [if_pos hlast]
    refine ⟨hparsed, hraw, hparsedCapacity, hrawCapacity, ?_, ?_⟩
    · refine iff_of_false Bool.false_ne_true fun hfew => ?_
      have hfew := hfew.2
      rw [List.length_append, List.length_singleton] at hfew
      exact hfew.ne hlast
    · refine iff_of_true rfl ?_
      rw [List.length_append, List.length_singleton]
      exact hlast.ge
  · rw [if_neg hlast]
    refine ⟨hparsed, hraw, hparsedCapacity, hrawCapacity, ?_, ?_⟩
    · show bucket.weCouldReceiveNewData = true ↔
        capture.disabled = false ∧ (capture.offered ++ [packet]).length < c
      rw [h.receives, List.length_append, List.length_singleton]
      refine and_congr_right fun _ => ?_
      omega
    · show bucket.weCollectedFullBufferLeastOnce = true ↔ c ≤ (capture.offered ++ [packet]).length
      rw [h.collected, List.length_append, List.length_singleton]
      omega

/-- A packet that is offered to a bucket that does not receive. -/
theorem BucketOf.ignore (h : BucketOf c capture bucket)
    (hreceives : bucket.weCouldReceiveNewData = false) (packet : SimplePacket) :
    BucketOf c (capture.offer packet) bucket := by
  by_cases henabled : capture.disabled = false
  · -- the bucket is full, so that the packet is not among the first ones
    have hfull : c ≤ capture.offered.length := by
      by_contra hroom
      have hopen := h.receives.mpr ⟨henabled, by omega⟩
      rw [hreceives] at hopen
      exact Bool.false_ne_true hopen
    rw [Capture.offered_offer henabled]
    have htake : (capture.offered ++ [packet]).take c = capture.offered.take c :=
      List.take_append_of_le_length hfull
    refine ⟨h.parsed.trans htake.symm, ?_, h.parsedCapacity, h.rawCapacity, ?_, ?_⟩
    · rw [htake]
      exact h.raw
    · rw [h.receives, List.length_append, List.length_singleton]
      omega
    · rw [h.collected, List.length_append, List.length_singleton]
      omega
  · rw [Capture.offer, if_pos (by simpa using henabled)]
    exact h

theorem BucketOf.disable (h : BucketOf c capture bucket) :
    BucketOf c { capture with disabled := true } { bucket with weCouldReceiveNewData := false } :=
  ⟨h.parsed, h.raw, h.parsedCapacity, h.rawCapacity, by simp, h.collected⟩

/-- A bucket of a new capture. -/
theorem bucketOf_newPacketBucket [Ord κ] (s : PacketBucketsStorage κ)
    (hc : s.buffersMaximumCapacity ≠ 0) (attackDetails : AttackDetails) (p : CollectionPattern)
    (now : Int) :
    BucketOf s.buffersMaximumCapacity.toNat {} (s.newPacketBucket attackDetails p now) := by
  have hpos : 0 < s.buffersMaximumCapacity.toNat := by
    refine Nat.pos_of_ne_zero fun hzero => hc ?_
    exact UInt32.toNat_inj.mp hzero
  have hnil : ([] : List SimplePacket).take s.buffersMaximumCapacity.toNat = [] := List.take_nil
  refine ⟨hnil.symm, ?_, rfl, rfl, ?_, ?_⟩
  · show [] = (([] : List SimplePacket).take _).filterMap SimplePacket.rawPacket
    rw [hnil, List.filterMap_nil]
  · refine iff_of_true (decide_eq_true hc) ⟨rfl, hpos⟩
  · refine iff_of_false (fun hcollected => hc (of_decide_eq_true hcollected)) ?_
    exact Nat.not_le.mpr hpos

/-! ### All buckets -/

namespace Represents

open PacketBucketsStorage

variable [Ord κ] [TransOrd κ] {c : UInt32} {captures : κ → Option Capture}
  {s : PacketBucketsStorage κ} {clientIp : κ}

/-- What is at an address: neither a capture nor a bucket, or both. -/
theorem cases (h : Represents c captures s) (v : κ) :
    (captures v = none ∧ s.packetBucketsMap[v]? = none) ∨
      ∃ capture bucket, captures v = some capture ∧ s.packetBucketsMap[v]? = some bucket ∧
        BucketOf c.toNat capture bucket := by
  have hv := h.buckets v
  cases hcapture : captures v <;> cases hbucket : s.packetBucketsMap[v]? <;>
    rw [hcapture, hbucket] at hv
  · exact .inl ⟨rfl, rfl⟩
  · cases hv
  · cases hv
  · cases hv with
    | some hv => exact .inr ⟨_, _, rfl, rfl, hv⟩

variable [DecidableEq κ]

/-- The captures stay when that of a host is written once more. -/
theorem same (h : Represents c captures s) {written : Option Capture}
    (hwritten : Option.Rel (BucketOf c.toNat) written s.packetBucketsMap[clientIp]?) :
    Represents c (Function.update captures clientIp written) s := by
  refine ⟨h.capacity, fun v => ?_⟩
  by_cases hv : clientIp = v
  · subst hv
    rw [Function.update_self]
    exact hwritten
  · rw [Function.update_of_ne (Ne.symm hv)]
    exact h.buckets v

variable [LawfulEqOrd κ]

/-- A bucket is put in the place of that of a host, with the capture that it is of. -/
theorem insert (h : Represents c captures s) (hbucket : BucketOf c.toNat capture bucket) :
    Represents c (Function.update captures clientIp (some capture))
      { s with packetBucketsMap := s.packetBucketsMap.insert clientIp bucket } := by
  refine ⟨h.capacity, fun v => ?_⟩
  show Option.Rel _ _ (s.packetBucketsMap.insert clientIp bucket)[v]?
  rw [ExtTreeMap.getElem?_insert]
  by_cases hv : clientIp = v
  · subst hv
    rw [Function.update_self, if_pos compare_self]
    exact .some hbucket
  · rw [Function.update_of_ne (Ne.symm hv), if_neg (compare_ne_eq hv)]
    exact h.buckets v

/-- A bucket that is stopped is that of a disabled capture. -/
theorem stopCollection (h : Represents c captures s)
    (hbucket : s.packetBucketsMap[clientIp]? = some bucket)
    (hof : BucketOf c.toNat capture bucket) :
    Represents c (Function.update captures clientIp (some { capture with disabled := true }))
      (s.stopCollection clientIp) := by
  refine ⟨h.capacity, fun v => ?_⟩
  show Option.Rel _ _ (s.packetBucketsMap.modify clientIp _)[v]?
  rw [ExtTreeMap.getElem?_modify]
  by_cases hv : clientIp = v
  · subst hv
    rw [Function.update_self, if_pos compare_self, hbucket]
    exact .some hof.disable
  · rw [Function.update_of_ne (Ne.symm hv), if_neg (compare_ne_eq hv)]
    exact h.buckets v

/-- **The buckets follow the captures** through one call. -/
theorem call (h : Represents c captures s) (hc : c ≠ 0) (request : BucketCall κ) :
    Represents c (request.captures captures) (s.call request).2 := by
  cases request with
  | enable clientIp attackDetails pattern now =>
    show Represents c _ (s.enablePacketCapture clientIp attackDetails pattern now).2
    rw [enablePacketCapture, ExtTreeMap.contains_eq_isSome_getElem?]
    obtain ⟨hcapture, hbucket⟩ | ⟨capture, bucket, hcapture, hbucket, hof⟩ := h.cases clientIp
    · rw [hbucket, BucketCall.captures, hcapture]
      have hnew := bucketOf_newPacketBucket s (h.capacity.symm ▸ hc) attackDetails pattern now
      rw [h.capacity] at hnew
      exact h.insert hnew
    · -- the capture that is there goes on
      rw [hbucket, BucketCall.captures, hcapture]
      refine h.same ?_
      rw [hbucket]
      exact .some hof
  | add clientIp packet now =>
    show Represents c _ (s.addPacketToStorage clientIp packet now).2
    rw [addPacketToStorage, BucketCall.captures]
    obtain ⟨hcapture, hbucket⟩ | ⟨capture, bucket, hcapture, hbucket, hof⟩ := h.cases clientIp
    · rw [hbucket, hcapture]
      refine h.same ?_
      rw [hbucket]
      exact .none
    · rw [hbucket, hcapture]
      by_cases hreceives : bucket.weCouldReceiveNewData = true
      · simp only [hreceives, if_true]
        exact h.insert (hof.add hreceives packet now)
      · simp only [hreceives]
        refine h.same ?_
        rw [hbucket]
        exact .some (hof.ignore (Bool.eq_false_iff.mpr hreceives) packet)
  | disable clientIp =>
    show Represents c _ (s.disablePacketCapture clientIp).2
    rw [disablePacketCapture, BucketCall.captures, ExtTreeMap.contains_eq_isSome_getElem?]
    obtain ⟨hcapture, hbucket⟩ | ⟨capture, bucket, hcapture, hbucket, hof⟩ := h.cases clientIp
    · rw [hbucket, hcapture]
      refine h.same ?_
      rw [hbucket]
      exact .none
    · rw [hbucket, hcapture]
      exact h.stopCollection hbucket hof
  | remove clientIp =>
    refine ⟨h.capacity, fun v => ?_⟩
    show Option.Rel _ (Function.update captures clientIp none v)
      (s.packetBucketsMap.erase clientIp)[v]?
    rw [ExtTreeMap.getElem?_erase]
    by_cases hv : clientIp = v
    · subst hv
      rw [Function.update_self, if_pos compare_self]
      exact .none
    · have hcompare : ¬ compare clientIp v = .eq := compare_ne_eq hv
      rw [Function.update_of_ne (Ne.symm hv), if_neg hcompare]
      exact h.buckets v

end Represents

/-- The buckets follow the captures through a run. -/
theorem represents_run [Ord κ] [TransOrd κ] [LawfulEqOrd κ] [DecidableEq κ] {c : UInt32}
    (hc : c ≠ 0) (calls : List (BucketCall κ)) {captures : κ → Option Capture}
    {s : PacketBucketsStorage κ} (h : Represents c captures s) :
    Represents c (calls.foldl (fun captures call => call.captures captures) captures)
      (s.run calls) := by
  induction calls generalizing captures s with
  | nil => exact h
  | cons request rest ih => exact ih (h.call hc request)

/-- A full bucket does not receive. -/
theorem BucketOf.closed_of_collected (h : BucketOf c capture bucket)
    (hcollected : bucket.weCollectedFullBufferLeastOnce = true) :
    bucket.weCouldReceiveNewData = false := by
  have hfull := h.collected.mp hcollected
  refine Bool.eq_false_iff.mpr fun hreceives => ?_
  exact Nat.not_lt.mpr hfull (h.receives.mp hreceives).2

/-- The flag of a full bucket says that its parsed buffer is full. -/
theorem BucketOf.collected_iff_size (h : BucketOf c capture bucket) :
    bucket.weCollectedFullBufferLeastOnce = true ↔
      bucket.parsedPacketsCircularBuffer.size = c := by
  rw [h.collected, CircularBuffer.size, h.parsed, List.length_take, min_eq_left_iff]

/-- **A bucket holds the first packets that it was offered**: in every storage that calls lead
to, a bucket is that of the packets offered to its host since it was enabled, it is marked full
when its parsed buffer is, and then neither a packet nor any call but its removal changes it; a
host that has a bucket is not enabled again, and no call changes the bucket of another host. -/
theorem one_shot_buckets [Ord κ] [TransOrd κ] [LawfulEqOrd κ] [DecidableEq κ] {c : UInt32}
    (hc : 1 ≤ c) (calls : List (BucketCall κ)) :
    let s := PacketBucketsStorage.run { buffersMaximumCapacity := c } calls
    (∀ v bucket, s.packetBucketsMap[v]? = some bucket →
      (∃ capture, capturesAfter calls v = some capture ∧ BucketOf c.toNat capture bucket) ∧
      (bucket.weCollectedFullBufferLeastOnce = true ↔
        bucket.parsedPacketsCircularBuffer.size = c.toNat) ∧
      (bucket.weCollectedFullBufferLeastOnce = true → ∀ later : List (BucketCall κ),
        (∀ request ∈ later, request ≠ .remove v) →
          (s.run later).packetBucketsMap[v]? = some bucket ∧
          ∀ packet now, (s.run later).call (.add v packet now) = (false, s.run later)) ∧
      ∀ attackDetails p now, s.call (.enable v attackDetails p now) = (false, s)) ∧
    ∀ request v, request.clientIp ≠ v →
      (s.call request).2.packetBucketsMap[v]? = s.packetBucketsMap[v]? := by
  intro s
  have hne : c ≠ 0 := by
    rintro rfl
    exact absurd hc (by decide)
  have hinitial : Represents c (fun _ : κ => none) { buffersMaximumCapacity := c } :=
    ⟨rfl, fun v => by rw [ExtTreeMap.getElem?_empty]; exact .none⟩
  have hrun : Represents c (capturesAfter calls) s := represents_run hne calls hinitial
  refine ⟨fun v bucket hbucket => ?_,
    fun request v hv => PacketBucketsStorage.call_of_ne request hv⟩
  obtain ⟨-, hnone⟩ | ⟨capture, bucket', hcapture, hbucket', hof⟩ := hrun.cases v
  · rw [hnone] at hbucket
    cases hbucket
  · obtain rfl : bucket' = bucket := Option.some_injective _ (hbucket'.symm.trans hbucket)
    refine ⟨⟨capture, hcapture, hof⟩, hof.collected_iff_size, fun hcollected later hlater => ?_,
      PacketBucketsStorage.call_enable_of_bucket hbucket⟩
    have hclosed := hof.closed_of_collected hcollected
    have hlater := PacketBucketsStorage.run_of_closed hclosed later hlater hbucket
    exact ⟨hlater, PacketBucketsStorage.call_add_of_closed hlater hclosed⟩

/-- A packet of 60 bytes, of which four were captured. -/
def packetWithPayload : SimplePacket where
  payloadPointer := some [69, 0, 0, 60]
  capturedPayloadLength := 4
  payloadFullLength := 60

/-- A bucket for two packets that is offered three of them: one without a payload and two
with it. -/
def threeOffered : List (BucketCall UInt32) :=
  [.enable 7 {} .once 0, .add 7 {} 1, .add 7 packetWithPayload 2, .add 7 packetWithPayload 3]

/-- It holds the first two, and the raw form of the second. -/
theorem one_shot_buckets_three :
    ∃ bucket : PacketBucket,
      (PacketBucketsStorage.run { buffersMaximumCapacity := 2 }
        threeOffered).packetBucketsMap[(7 : UInt32)]? = some bucket ∧
      BucketOf 2 ⟨[{}, packetWithPayload, packetWithPayload], false⟩ bucket ∧
      bucket.parsedPacketsCircularBuffer.elements = [{}, packetWithPayload] ∧
      bucket.rawPacketsCircularBuffer.elements = [⟨60, 4, [69, 0, 0, 60]⟩] := by
  have hrun := (one_shot_buckets (c := 2) (by decide) threeOffered).1 7 _ rfl
  obtain ⟨⟨capture, hcapture, hof⟩, -⟩ := hrun
  obtain rfl : ⟨[{}, packetWithPayload, packetWithPayload], false⟩ = capture :=
    Option.some_injective _ hcapture
  exact ⟨_, rfl, hof, rfl, rfl⟩

end FastNetMon
