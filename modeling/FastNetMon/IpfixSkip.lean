/-
FastNetMon/IpfixSkip.lean

IPFIX sets that are to be skipped.

What a set does depends on its bytes and, at most, on those behind it; so a message is the
run of its sets one after the other (`runSets`).  A reserved set is passed over in this
run.  A data set without a template is not: the run ends there, and sets behind it are
lost.  Main result: `ipfix_skipped_unless_unknown`.
-/
import FastNetMon.IpfixStore
import FastNetMon.NetflowV9Skip

namespace FastNetMon

open Memory Procedure

variable {m m' : Memory} {setLength offset : ℕ} {context : NetflowContext}
  {timeSec sourceId : UInt32} {t : Template} {s : CollectorState}

/-! ### Data records in a larger memory -/

/-- A record does the same in a larger memory. -/
@[gcongr] theorem follows_ipfixDataSetToStore (h : m.Extends m') (timeSec : UInt32)
    (t : Template) (setMaximumLength : ℕ) :
    Follows (ipfixDataSetToStore context timeSec t setMaximumLength m)
      (ipfixDataSetToStore context timeSec t setMaximumLength m') := by
  unfold ipfixDataSetToStore
  gcongr

@[gcongr] theorem Follows.ignoreResult {α : Type} {p q : Collect α} (h : Follows p q) :
    Follows (ignoreResult p) (ignoreResult q) := by
  intro s
  rw [FastNetMon.ignoreResult, FastNetMon.ignoreResult]
  rcases h s with houtside | heq
  · left
    rcases hp : p s with ⟨s', fault | a⟩
    · rw [hp] at houtside
      obtain rfl := Except.error.inj houtside
      rfl
    · rw [hp] at houtside
      cases houtside
  · rw [heq]
    exact .inr rfl

/-- The loop over fixed records does the same in a larger memory. -/
theorem follows_ipfixFixedRecords (h : m.Extends m') (left offset : ℕ) :
    Follows (ipfixFixedRecords context timeSec t m left offset)
      (ipfixFixedRecords context timeSec t m' left offset) := by
  induction left generalizing offset with
  | zero => rfl
  | succ left ih =>
    rw [ipfixFixedRecords, ipfixFixedRecords]
    gcongr
    apply ih

/-- A record with variable fields does the same in a larger memory. -/
theorem follows_ipfixVariableRecord (h : m.Extends m') (loop : IpfixLoop) :
    Follows (ipfixVariableRecord context timeSec t m loop)
      (ipfixVariableRecord context timeSec t m' loop) := by
  unfold ipfixVariableRecord
  dsimp only
  gcongr

/-- So does the loop over them. -/
theorem follows_ipfixVariableRecords (h : m.Extends m') (setLength fuel : ℕ) (loop : IpfixLoop) :
    Follows (ipfixVariableRecords context timeSec t m setLength fuel loop)
      (ipfixVariableRecords context timeSec t m' setLength fuel loop) := by
  induction fuel generalizing loop with
  | zero => rfl
  | succ fuel ih =>
    rw [ipfixVariableRecords, ipfixVariableRecords]
    refine Follows.ite ((follows_ipfixVariableRecord h loop).bind fun next => ?_) (by rfl)
    cases next with
    | none => rfl
    | some loop' => exact ih loop'

/-- An options record does the same in a larger memory. -/
theorem follows_ipfixOptionsSetToStore (h : m.Extends m') (t : Template) :
    Follows (ipfixOptionsSetToStore context t m) (ipfixOptionsSetToStore context t m') := by
  unfold ipfixOptionsSetToStore
  dsimp only
  refine Follows.bind (follows_forFields (h.shift _) ?_ _ _ _) fun options => by rfl
  intro m m' h record options
  unfold ipfixOptionsField
  cases ipfixOptionsRule record.recordType.toNat with
  | none => rfl
  | some rule =>
    dsimp only
    gcongr

/-- The records of a template of any kind do the same in a larger memory. -/
theorem follows_processIpfixRecords (h : m.Extends m') (t : Template) (setLength : ℕ) :
    Follows (processIpfixRecords context timeSec t m setLength)
      (processIpfixRecords context timeSec t m' setLength) := by
  unfold processIpfixRecords
  refine Follows.bind (by rfl) fun _ => ?_
  cases t.type with
  | data =>
    refine Follows.ite (follows_ipfixVariableRecords h _ _ _) ?_
    refine Follows.bind (by rfl) fun _ => ?_
    dsimp only
    refine Follows.bind (by rfl) fun _ => Follows.bind (by rfl) fun _ => ?_
    exact follows_ipfixFixedRecords h _ _
  | options =>
    refine Follows.ite (by rfl) (Follows.bind (by rfl) fun _ => ?_)
    exact follows_ipfixOptionsSetToStore (h.shift _) t
  | unknown => rfl

/-- A data set does the same in a larger memory. -/
theorem follows_processIpfixDataSet (h : m.Extends m') (setLength : ℕ) :
    Follows (processIpfixDataSet context timeSec sourceId m setLength)
      (processIpfixDataSet context timeSec sourceId m' setLength) := by
  unfold processIpfixDataSet
  gcongr with _ setId s
  cases peerFindTemplate s.templates sourceId setId.toUInt32
      context.clientAddressInStringFormat with
  | none => rfl
  | some t => exact follows_processIpfixRecords h t setLength

/-! ### Sets of templates in a larger memory -/

variable {currentInaccurateTime : Int64}

/-- Templates are the same in a larger memory, unless the smaller one ends in them. -/
theorem readIpfixDataTemplates_extends (h : m.Extends m') (fuel : ℕ) :
    (readIpfixDataTemplates currentInaccurateTime m setLength fuel offset).2
        = .error .outOfBounds ∨
      readIpfixDataTemplates currentInaccurateTime m setLength fuel offset
        = readIpfixDataTemplates currentInaccurateTime m' setLength fuel offset := by
  induction fuel generalizing offset with
  | zero => exact .inr rfl
  | succ fuel ih =>
    rw [readIpfixDataTemplates, readIpfixDataTemplates]
    split
    · rcases (@agrees_readIpfixDataTemplate _ currentInaccurateTime _) h setLength offset
        with houtside | heq
      · rw [houtside]
        exact .inl rfl
      · rw [← heq]
        cases readIpfixDataTemplate currentInaccurateTime m setLength offset with
        | error fault => exact .inr rfl
        | ok read =>
          rcases @ih read.2 with houtside | heq
          · exact .inl houtside
          · dsimp only
            rw [heq]
            exact .inr rfl
    · exact .inr rfl

/-- The same for options templates. -/
theorem readIpfixOptionsTemplates_extends (h : m.Extends m') (fuel : ℕ) :
    (readIpfixOptionsTemplates currentInaccurateTime m setLength fuel offset).2
        = .error .outOfBounds ∨
      readIpfixOptionsTemplates currentInaccurateTime m setLength fuel offset
        = readIpfixOptionsTemplates currentInaccurateTime m' setLength fuel offset := by
  induction fuel generalizing offset with
  | zero => exact .inr rfl
  | succ fuel ih =>
    rw [readIpfixOptionsTemplates, readIpfixOptionsTemplates]
    split
    · rcases (@agrees_readIpfixOptionsTemplate _ currentInaccurateTime _) h setLength offset
        with houtside | heq
      · rw [houtside]
        exact .inl rfl
      · rw [← heq]
        cases readIpfixOptionsTemplate currentInaccurateTime m setLength offset with
        | error fault => exact .inr rfl
        | ok read =>
          dsimp only
          split
          · rcases agrees_areAllPaddingBytesAreZero h read.2 (setLength - read.2)
              with houtside | heq
            · rw [houtside]
              exact .inl rfl
            · rw [← heq]
              exact .inr rfl
          · rcases @ih read.2 with houtside | heq
            · exact .inl houtside
            · rw [heq]
              exact .inr rfl
    · exact .inr rfl

/-- Templates that are stored as far as they can be read. -/
theorem follows_storeTemplates {read read' : List Template × Except Fault Unit}
    (h : read.2 = .error .outOfBounds ∨ read = read') :
    Follows (do
        read.1.forM fun fieldTemplate => storeTemplate context sourceId fieldTemplate
        read.2 : Collect Unit)
      (do
        read'.1.forM fun fieldTemplate => storeTemplate context sourceId fieldTemplate
        read'.2) := by
  rcases h with houtside | rfl
  · intro s
    left
    have hstored : Succeeds (read.1.forM fun fieldTemplate =>
        storeTemplate context sourceId fieldTemplate) :=
      keeps_forM fun _ _ => succeeds_modify _
    obtain ⟨u, hu⟩ := hstored.run s
    rw [bind_run]
    rcases hp : (read.1.forM fun fieldTemplate =>
        storeTemplate context sourceId fieldTemplate) s with ⟨s', fault | u⟩
    · rw [hp] at hu
      cases hu
    · exact houtside
  · rfl

/-- A set of any kind does the same in a larger memory. -/
theorem follows_processIpfixSetOfId (h : m.Extends m') (setId setLength : UInt16) :
    Follows (processIpfixSetOfId context timeSec sourceId m setId setLength)
      (processIpfixSetOfId context timeSec sourceId m' setId setLength) := by
  unfold processIpfixSetOfId processIpfixDataTemplateSet processIpfixOptionsTemplateSet
  gcongr
  · exact follows_storeTemplates (readIpfixDataTemplates_extends h _)
  · exact follows_storeTemplates (readIpfixOptionsTemplates_extends h _)
  · exact follows_processIpfixDataSet h _

/-! ### Lists of sets -/

/-- A set with an id that is reserved. -/
def Flowset.ReservedSet (f : Flowset) : Prop := f.id ≠ 2 ∧ f.id ≠ 3 ∧ f.id < 256

instance (f : Flowset) : Decidable f.ReservedSet :=
  inferInstanceAs (Decidable (_ ∧ _ ∧ _))

/-- What is done with a set that has other bytes behind it. -/
def setStep (context : NetflowContext) (timeSec sourceId : UInt32) (f : Flowset)
    (behind : List UInt8) : Collect Unit :=
  processIpfixSetOfId context timeSec sourceId (ofBytes (f.bytes ++ behind)) f.id f.length

/-- Sets one after the other, with other bytes behind them. -/
def runSets (context : NetflowContext) (timeSec sourceId : UInt32) :
    List Flowset → (behind : List UInt8) → Collect Unit
  | [], _ => pure ()
  | f :: fs, behind => do
      setStep context timeSec sourceId f (flowsetsBytes fs ++ behind)
      runSets context timeSec sourceId fs behind

/-- Sets run one after the other. -/
theorem runSets_append (fs gs : List Flowset) (behind : List UInt8) :
    runSets context timeSec sourceId (fs ++ gs) behind
      = (runSets context timeSec sourceId fs (flowsetsBytes gs ++ behind) >>= fun _ =>
          runSets context timeSec sourceId gs behind) := by
  induction fs with
  | nil => rfl
  | cons f fs ih =>
    rw [List.cons_append, runSets, runSets, ih, flowsetsBytes_append, List.append_assoc,
      Procedure.bind_assoc]

/-- Further bytes behind the sets change nothing, as long as none reads past its end. -/
theorem follows_runSets (fs : List Flowset) (behind further : List UInt8) :
    Follows (runSets context timeSec sourceId fs behind)
      (runSets context timeSec sourceId fs (behind ++ further)) := by
  induction fs with
  | nil => rfl
  | cons f fs ih =>
    have hbytes : f.bytes ++ (flowsetsBytes fs ++ (behind ++ further))
        = (f.bytes ++ (flowsetsBytes fs ++ behind)) ++ further := by
      simp only [List.append_assoc]
    rw [runSets, runSets]
    refine Follows.bind ?_ fun _ => ih
    rw [setStep, setStep, hbytes]
    exact follows_processIpfixSetOfId
      (extends_ofBytes_append (f.bytes ++ (flowsetsBytes fs ++ behind)) further) f.id f.length

/-- Sets that are read inside of themselves do the same whatever is behind them. -/
theorem runSets_behind {fs : List Flowset}
    (h : (runSets context timeSec sourceId fs [] s).2 ≠ .error .outOfBounds)
    (behind : List UInt8) :
    runSets context timeSec sourceId fs behind s = runSets context timeSec sourceId fs [] s :=
  (follows_runSets fs [] behind).eq h

/-- A reserved set does nothing. -/
theorem setStep_reserved {f : Flowset} (h : f.ReservedSet) (behind : List UInt8) :
    setStep context timeSec sourceId f behind = pure () := by
  rw [setStep, processIpfixSetOfId, if_neg h.1, if_neg h.2.1, if_pos h.2.2]

/-- A data set without a template is an error. -/
theorem setStep_unknown {f : Flowset} (hid : 256 ≤ f.id)
    (hunknown : peerFindTemplate s.templates sourceId f.id.toUInt32
      context.clientAddressInStringFormat = none) (behind : List UInt8) :
    setStep context timeSec sourceId f behind s = (s, .error .rejected) := by
  have hheld : (ofBytes (f.bytes ++ behind)).Holds 0 f.bytes :=
    (holds_append.mp (holds_ofBytes (f.bytes ++ behind))).1
  have hfour := f.four_le_length
  have htwo : f.id ≠ 2 := fun hcontra => absurd (hcontra ▸ hid) (by decide)
  have hthree : f.id ≠ 3 := fun hcontra => absurd (hcontra ▸ hid) (by decide)
  rw [setStep, processIpfixSetOfId, if_neg htwo, if_neg hthree, if_neg (UInt16.not_lt.mpr hid),
    processIpfixDataSet, rejectIf_of_not (by omega), liftM_ok_bind, hheld.readNtohs_id,
    liftM_ok_bind, bind_of_ok (get_run s), hunknown]
  rfl

/-! ### The loop over the sets -/

variable {n fuel number : ℕ}

/-- The body of the loop at a set. -/
theorem processIpfixSet_eq {f : Flowset} {fs : List Flowset}
    (hm : m.shift offset = ofBytes (flowsetsBytes (f :: fs)))
    (hn : n = offset + (flowsetsBytes (f :: fs)).length) :
    processIpfixSet context timeSec sourceId m n offset
      = (setStep context timeSec sourceId f (flowsetsBytes fs) >>= fun _ =>
          pure (offset + f.length.toNat)) := by
  have hheld := holds_of_shift_eq hm
  have hfour := f.four_le_length
  rw [flowsetsBytes_cons, List.length_append, Flowset.length_bytes] at hn
  rw [processIpfixSet, rejectIf_of_not (by omega), liftM_ok_bind, rejectIf_of_not (by omega),
    liftM_ok_bind, hheld.readNtohs_id, liftM_ok_bind, hheld.readNtohs_length, liftM_ok_bind,
    rejectIf_of_not (by omega), liftM_ok_bind, hm]
  rfl

/-- **A message is the run of its sets.** -/
theorem processIpfixSets_eq_run {f : Flowset} {fs : List Flowset}
    (hm : m.shift offset = ofBytes (flowsetsBytes (f :: fs)))
    (hn : n = offset + (flowsetsBytes (f :: fs)).length)
    (hnumber : number + (f :: fs).length ≤ setsPerPacketMaximumNumber)
    (hfuel : (f :: fs).length ≤ fuel) :
    processIpfixSets context timeSec sourceId m n fuel number offset
      = runSets context timeSec sourceId (f :: fs) [] := by
  induction fs generalizing f fuel number offset with
  | nil =>
    obtain ⟨fuel, rfl⟩ := Nat.exists_eq_add_of_le' hfuel
    have hend : offset + f.length.toNat = n := by
      rw [hn]
      simp
    rw [List.length_singleton] at hnumber
    rw [List.length_singleton, processIpfixSets, rejectIf_of_not (by omega), liftM_ok_bind,
      processIpfixSet_eq hm hn, Procedure.bind_assoc, runSets]
    refine bind_congr fun _ => ?_
    rw [Procedure.pure_bind, if_pos hend]
    rfl
  | cons g gs ih =>
    obtain ⟨fuel, rfl⟩ : ∃ left, fuel = left + 1 :=
      Nat.exists_eq_add_of_le' (Nat.le_trans (Nat.le_add_left 1 _) hfuel)
    have hstep := (@processIpfixSet_eq _ _ context timeSec sourceId _) hm hn
    have hgfour := g.four_le_length
    have hmove := shift_of_append (flowsetsBytes_cons f (g :: gs) ▸ hm)
    rw [f.length_bytes] at hmove
    rw [flowsetsBytes_cons, List.length_append, f.length_bytes] at hn
    have hne : offset + f.length.toNat ≠ n := by
      rw [hn, flowsetsBytes_cons, List.length_append, g.length_bytes]
      omega
    rw [List.length_cons] at hnumber hfuel
    rw [processIpfixSets, rejectIf_of_not (by omega), liftM_ok_bind, hstep,
      Procedure.bind_assoc, runSets, List.append_nil]
    refine bind_congr fun _ => ?_
    rw [Procedure.pure_bind, if_neg hne]
    exact ih hmove (by omega) (by omega) (by omega)

/-! ### Messages -/

/-- `ipfix_header_t` but for the length. -/
structure IpfixHeader where
  version : UInt16 := 10
  timeSec : UInt32 := 0
  packageSequence : UInt32 := 0
  sourceId : UInt32 := 0

/-- A message of some sets. -/
def messageOfSets (header : IpfixHeader) (sets : List Flowset) : List UInt8 :=
  bytes16 (byteSwap16 header.version) ++
    (bytes16 (byteSwap16 (.ofNat (16 + (flowsetsBytes sets).length))) ++
      (bytes32 (byteSwap32 header.timeSec) ++ (bytes32 (byteSwap32 header.packageSequence) ++
        (bytes32 (byteSwap32 header.sourceId) ++ flowsetsBytes sets))))

/-- The collector after a message of some sets. -/
def afterMessage (context : NetflowContext) (header : IpfixHeader) (sets : List Flowset)
    (s : CollectorState) : CollectorState :=
  let packet := messageOfSets header sets
  (processIpfixPacket context (ofBytes packet) packet.length s).1

/-- A message is its sets, one after the other. -/
theorem afterMessage_eq_run {header : IpfixHeader} {sets : List Flowset}
    (hfits : 16 + (flowsetsBytes sets).length < 65536)
    (hnumber : sets.length ≤ setsPerPacketMaximumNumber) :
    afterMessage context header sets s
      = (runSets context header.timeSec header.sourceId sets [] s).1 := by
  rw [afterMessage]
  generalize hpacket : messageOfSets header sets = packet
  rw [messageOfSets] at hpacket
  have hlength : packet.length = 16 + (flowsetsBytes sets).length := by
    rw [← hpacket]
    simp only [List.length_append, bytes16_length, bytes32_length]
    omega
  have hheld := holds_ofBytes packet
  nth_rewrite 2 [← hpacket] at hheld
  simp only [holds_append, bytes16_length, bytes32_length, Nat.zero_add, Nat.reduceAdd] at hheld
  obtain ⟨-, hmessage, htime, -, hsource, -⟩ := hheld
  have hshift : (ofBytes packet).shift 16 = ofBytes (flowsetsBytes sets) := by
    rw [← hpacket, ← List.append_assoc, ← List.append_assoc, ← List.append_assoc,
      ← List.append_assoc]
    exact shift_ofBytes_append _ _
  have htotal : (UInt16.ofNat (16 + (flowsetsBytes sets).length)).toNat = packet.length := by
    rw [UInt16.toNat_ofNat', Nat.mod_eq_of_lt hfits, hlength]
  have hshort : ¬ packet.length < 16 := by omega
  rw [processIpfixPacket, rejectIf_of_not hshort, liftM_ok_bind, hmessage.readNtohs,
    liftM_ok_bind, rejectIf_of_not (by omega), liftM_ok_bind, htime.readNtohl, liftM_ok_bind,
    hsource.readNtohl, liftM_ok_bind, htotal]
  cases sets with
  | nil =>
    -- a message with no sets is rejected
    have hend : 16 ≥ packet.length := by simp at hlength; omega
    rw [processIpfixSets, rejectIf_of_not (by decide), liftM_ok_bind, processIpfixSet,
      rejectIf_of hend]
    rfl
  | cons f fs =>
    rw [processIpfixSets_eq_run hshift hlength (by omega) (by omega)]

/-- A set is skipped exactly if it is no data set in front of sets that matter.  The set is
put between `before` and `after`; it has a reserved id, or it is a data set without a
template at this point. -/
theorem sameEffect_message_iff (context : NetflowContext) (header : IpfixHeader)
    (before after : List Flowset) (f : Flowset) (s : CollectorState)
    (hfits : 16 + (flowsetsBytes (before ++ f :: after)).length < 65536)
    (hnumber : (before ++ f :: after).length ≤ setsPerPacketMaximumNumber)
    (hinside : (runSets context header.timeSec header.sourceId before [] s).2
      ≠ .error .outOfBounds)
    (hskip : f.ReservedSet ∨ 256 ≤ f.id ∧
      let reached := runSets context header.timeSec header.sourceId before [] s
      (reached.2 = .ok () → peerFindTemplate reached.1.templates header.sourceId f.id.toUInt32
        context.clientAddressInStringFormat = none)) :
    let reached := runSets context header.timeSec header.sourceId before [] s
    SameEffect (afterMessage context header (before ++ after) s)
        (afterMessage context header (before ++ f :: after) s) ↔
      (¬ f.ReservedSet → reached.2 = .ok () →
        SameEffect (runSets context header.timeSec header.sourceId after [] reached.1).1
          reached.1) := by
  have hbytes : (flowsetsBytes (before ++ f :: after)).length
      = (flowsetsBytes (before ++ after)).length + f.bytes.length := by
    simp only [flowsetsBytes_append, flowsetsBytes_cons, List.length_append]
    omega
  have hlength : (before ++ f :: after).length = (before ++ after).length + 1 := by
    simp only [List.length_append, List.length_cons]
    omega
  dsimp only at hskip ⊢
  rw [afterMessage_eq_run (by omega) (by omega), afterMessage_eq_run hfits hnumber,
    runSets_append, runSets_append, bind_run, bind_run,
    runSets_behind hinside (flowsetsBytes after ++ []),
    runSets_behind hinside (flowsetsBytes (f :: after) ++ [])]
  rcases hreached : runSets context header.timeSec header.sourceId before [] s
    with ⟨s', fault | u⟩
  · exact iff_of_true (SameEffect.refl _) fun _ hcontra => by cases hcontra
  · rw [hreached] at hskip
    have hskip' : f.ReservedSet ∨ 256 ≤ f.id ∧ peerFindTemplate s'.templates header.sourceId
        f.id.toUInt32 context.clientAddressInStringFormat = none :=
      hskip.imp_right fun h => ⟨h.1, h.2 rfl⟩
    dsimp only
    rw [runSets]
    rcases hskip' with hreserved | ⟨hid, hunknown⟩
    · rw [setStep_reserved hreserved, Procedure.pure_bind]
      exact iff_of_true (SameEffect.refl _) fun hcontra => absurd hreserved hcontra
    · have hother : ¬ f.ReservedSet := fun hreserved =>
        absurd hreserved.2.2 (UInt16.not_lt.mpr hid)
      rw [bind_of_error (setStep_unknown hid hunknown _)]
      exact ⟨fun hsame _ _ => hsame, fun hsame => hsame hother rfl⟩

/-- The set that a template with one address is learned from. -/
def oneAddressSet (source : Bool) : Flowset :=
  ⟨2, (oneAddressFlowset source).body, (oneAddressFlowset source).body_length⟩

theorem readIpfixDataTemplates_oneAddress (source : Bool) :
    readIpfixDataTemplates currentInaccurateTime (ofBytes (oneAddressSet source).bytes) 12 12 4
      = ([oneAddressTemplate currentInaccurateTime source], .ok ()) := by
  cases source <;> rfl

/-- A set with one template stores just that template. -/
theorem runSets_oneAddress (source : Bool) (s : CollectorState) :
    (runSets context timeSec sourceId [oneAddressSet source] [] s).1.templates
      = (s.templates.addUpdate ⟨context.clientAddressInStringFormat, sourceId, 256⟩
          (oneAddressTemplate context.currentInaccurateTime source)).table := by
  have hlength : (oneAddressSet source).length.toNat = 12 := rfl
  have hid : (oneAddressSet source).id = 2 := rfl
  have hheld : (ofBytes (oneAddressSet source).bytes).Holds 0 (oneAddressSet source).bytes :=
    holds_ofBytes _
  have hstep : setStep context timeSec sourceId (oneAddressSet source) [] s =
      ({ s with templates := (s.templates.addUpdate
          ⟨context.clientAddressInStringFormat, sourceId, 256⟩
          (oneAddressTemplate context.currentInaccurateTime source)).table }, .ok ()) := by
    rw [setStep, List.append_nil, processIpfixSetOfId, if_pos hid, processIpfixDataTemplateSet,
      hlength, rejectIf_of_not (by decide), liftM_ok_bind, hheld.readNtohs_id, liftM_ok_bind,
      rejectIf_of_not (not_not.mpr hid), liftM_ok_bind, readIpfixDataTemplates_oneAddress]
    rfl
  rw [runSets, flowsetsBytes_nil, List.append_nil, bind_of_ok hstep]
  rfl

/-- Whatever is known, there is a template that is new. -/
theorem exists_set_that_matters (s : CollectorState) :
    ∃ f : Flowset, f.bytes.length = 12 ∧
      ¬ SameEffect (runSets context timeSec sourceId [f] [] s).1 s := by
  have hdiffer : (oneAddressTemplate context.currentInaccurateTime true).operatorEq
      (oneAddressTemplate context.currentInaccurateTime false) = false := rfl
  rcases addUpdate_changes hdiffer s.templates ⟨context.clientAddressInStringFormat, sourceId, 256⟩
    with hchanges | hchanges
  · refine ⟨oneAddressSet true, rfl, fun hsame => hchanges ?_⟩
    rw [← runSets_oneAddress]
    exact hsame.2.1
  · refine ⟨oneAddressSet false, rfl, fun hsame => hchanges ?_⟩
    rw [← runSets_oneAddress]
    exact hsame.2.1

/-- **A set that is to be skipped is skipped, unless it is a data set that is reached.**  The
set is put between `before` and `after`; it has a reserved id, or it is a data set without
a template at this point.  Behind a data set that is reached there are always sets that get
lost, if there is room for one. -/
theorem ipfix_skipped_unless_unknown (context : NetflowContext) (header : IpfixHeader)
    (before : List Flowset) (f : Flowset) (s : CollectorState)
    (hinside : (runSets context header.timeSec header.sourceId before [] s).2
      ≠ .error .outOfBounds)
    (hskip : f.ReservedSet ∨ 256 ≤ f.id ∧
      let reached := runSets context header.timeSec header.sourceId before [] s
      (reached.2 = .ok () → peerFindTemplate reached.1.templates header.sourceId f.id.toUInt32
        context.clientAddressInStringFormat = none)) :
    let reached := runSets context header.timeSec header.sourceId before [] s
    (∀ after : List Flowset,
      16 + (flowsetsBytes (before ++ f :: after)).length < 65536 →
      (before ++ f :: after).length ≤ setsPerPacketMaximumNumber →
      (¬ f.ReservedSet → reached.2 = .ok () → after = []) →
        SameEffect (afterMessage context header (before ++ after) s)
          (afterMessage context header (before ++ f :: after) s)) ∧
    (¬ f.ReservedSet → reached.2 = .ok () →
      16 + (flowsetsBytes (before ++ [f])).length + 12 < 65536 →
      before.length + 2 ≤ setsPerPacketMaximumNumber →
      ∃ after : List Flowset,
        16 + (flowsetsBytes (before ++ f :: after)).length < 65536 ∧
        (before ++ f :: after).length ≤ setsPerPacketMaximumNumber ∧
        ¬ SameEffect (afterMessage context header (before ++ after) s)
          (afterMessage context header (before ++ f :: after) s)) := by
  intro reached
  constructor
  · intro after hfits hnumber hnothing
    refine (sameEffect_message_iff context header before after f s hfits hnumber hinside
      hskip).mpr fun hother hgoes => ?_
    rw [hnothing hother hgoes]
    exact SameEffect.refl _
  · intro hother hgoes hroom hsets
    obtain ⟨lost, hlength, hlost⟩ := @exists_set_that_matters context header.timeSec
      header.sourceId reached.1
    have hfits : 16 + (flowsetsBytes (before ++ [f, lost])).length < 65536 := by
      simp only [flowsetsBytes_append, flowsetsBytes_cons, flowsetsBytes_nil, List.length_append,
        List.length_nil] at hroom ⊢
      omega
    have hnumber : (before ++ [f, lost]).length ≤ setsPerPacketMaximumNumber := by
      rw [List.length_append]
      exact hsets
    refine ⟨[lost], hfits, hnumber, fun hsame => hlost ?_⟩
    exact (sameEffect_message_iff context header before [lost] f s hfits hnumber hinside
      hskip).mp hsame hother hgoes

/-! ### Two messages -/

/-- The set of template 256 with two addresses. -/
def addressTemplateSet : Flowset := ⟨2, [1, 0, 0, 2, 0, 8, 0, 4, 0, 12, 0, 4],
  addressTemplateFlowset.body_length⟩

/-- A set with a reserved id. -/
def reservedSet : Flowset := ⟨5, [], reservedFlowset.body_length⟩

/-- A reserved set can be left out. -/
theorem reservedSet_skipped :
    SameEffect (afterMessage exporter {} [addressTemplateSet, addressDataFlowset] {})
      (afterMessage exporter {} [addressTemplateSet, reservedSet, addressDataFlowset] {}) := by
  have hrun : (runSets exporter 0 0 [addressTemplateSet] [] {}).2 = .ok () := rfl
  have hinside : (runSets exporter 0 0 [addressTemplateSet] [] {}).2 ≠ .error .outOfBounds :=
    fun hcontra => by cases hrun.symm.trans hcontra
  exact (ipfix_skipped_unless_unknown exporter {} [addressTemplateSet] reservedSet {} hinside
    (.inl (by decide))).1 [addressDataFlowset] (by decide) (by decide)
      fun hother => absurd (by decide) hother

/-- The template behind an unknown data set is not learned, and the packets are lost. -/
theorem unknownSet_not_skipped :
    (afterMessage exporter {} [addressTemplateSet, addressDataFlowset] {}).emitted.length = 2 ∧
    (afterMessage exporter {} [unknownFlowset, addressTemplateSet, addressDataFlowset]
      {}).emitted.length = 0 ∧
    ¬ SameEffect (afterMessage exporter {} [addressTemplateSet, addressDataFlowset] {})
      (afterMessage exporter {} [unknownFlowset, addressTemplateSet, addressDataFlowset] {}) := by
  have htwo : (afterMessage exporter {}
      [addressTemplateSet, addressDataFlowset] {}).emitted.length = 2 := rfl
  have hzero : (afterMessage exporter {}
      [unknownFlowset, addressTemplateSet, addressDataFlowset] {}).emitted.length = 0 := rfl
  refine ⟨htwo, hzero, fun hsame => ?_⟩
  rw [hsame.1, hzero] at htwo
  exact absurd htwo (by decide)

end FastNetMon
