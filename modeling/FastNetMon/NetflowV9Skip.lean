/-
FastNetMon/NetflowV9Skip.lean

Flowsets that are to be skipped.

What a flowset does depends on its own bytes, and in one case on the first bytes behind
it; it does not depend on its place in the datagram.  So a datagram is the run of its
flowsets one after the other (`runFlowsets`).  A data flowset without a template is passed
over in this run.  A reserved flowset is not: the loop stays at it, and the flowsets
behind it are lost.  Main result: `skipped_unless_reserved`.
-/
import FastNetMon.NetflowV9Bounds
import FastNetMon.NetflowTemplateStore
import FastNetMon.Flowset

namespace FastNetMon

open Memory Procedure

variable {m m' : Memory} {n pkt flowsetLength offset : ℕ} {currentInaccurateTime : Int64}

/-! ### Templates in a larger memory -/

/-- A field of a template is read alike in a larger memory. -/
@[gcongr] theorem agrees_readTemplateRecord (h : m.Extends m') (p : ℕ) :
    Agrees (readTemplateRecord m p) (readTemplateRecord m' p) := by
  unfold readTemplateRecord
  gcongr

/-- So are all fields of a template. -/
@[gcongr] theorem agrees_readTemplateFields (h : m.Extends m') (pkt flowsetLength : ℕ)
    (fieldsCount offset : ℕ) :
    Agrees (readTemplateFields m pkt flowsetLength fieldsCount offset)
      (readTemplateFields m' pkt flowsetLength fieldsCount offset) := by
  induction fieldsCount generalizing offset with
  | zero => rfl
  | succ fieldsCount ih =>
    unfold readTemplateFields
    gcongr
    apply ih

/-- So is a whole template. -/
@[gcongr] theorem agrees_readDataTemplate (h : m.Extends m') (pkt flowsetLength offset : ℕ) :
    Agrees (readDataTemplate currentInaccurateTime m pkt flowsetLength offset)
      (readDataTemplate currentInaccurateTime m' pkt flowsetLength offset) := by
  unfold readDataTemplate
  dsimp only
  gcongr

/-- The templates of a flowset are the same in a larger memory, unless the smaller one ends in them.
-/
theorem readDataTemplates_extends (h : m.Extends m') (fuel : ℕ) :
    (readDataTemplates currentInaccurateTime m pkt flowsetLength fuel offset).2
        = .error .outOfBounds ∨
      readDataTemplates currentInaccurateTime m pkt flowsetLength fuel offset
        = readDataTemplates currentInaccurateTime m' pkt flowsetLength fuel offset := by
  induction fuel generalizing offset with
  | zero => exact .inr rfl
  | succ fuel ih =>
    rw [readDataTemplates, readDataTemplates]
    split
    · rcases (@agrees_readDataTemplate _ _ currentInaccurateTime) h pkt
        flowsetLength offset with houtside | heq
      · rw [houtside]
        exact .inl rfl
      · rw [← heq]
        cases readDataTemplate currentInaccurateTime m pkt flowsetLength offset with
        | error fault => exact .inr rfl
        | ok learned =>
          rcases @ih (learned.last - pkt) with houtside | heq
          · exact .inl houtside
          · dsimp only
            rw [heq]
            exact .inr rfl
    · exact .inr rfl

/-- The same for a template flowset with its header. -/
theorem processNetflowV9Template_extends (h : m.Extends m') :
    (processNetflowV9Template currentInaccurateTime m pkt flowsetLength).2
        = .error .outOfBounds ∨
      processNetflowV9Template currentInaccurateTime m pkt flowsetLength
        = processNetflowV9Template currentInaccurateTime m' pkt flowsetLength := by
  rw [processNetflowV9Template, processNetflowV9Template]
  split
  · exact .inr rfl
  · rcases agrees_readNtohs h pkt with houtside | heq
    · rw [houtside]
      exact .inl rfl
    · rw [← heq]
      cases m.readNtohs pkt with
      | error fault => exact .inr rfl
      | ok flowsetId =>
        dsimp only
        split
        · exact .inr rfl
        · exact readDataTemplates_extends h flowsetLength

/-- A zone of an options template is read alike in a larger memory. -/
@[gcongr] theorem agrees_readZone {α : Type} {readRecord readRecord' : ℕ → Except Fault α}
    (h : ∀ p, Agrees (readRecord p) (readRecord' p))
    (zoneAddress optionsFlowsetEnd length fuel offset : ℕ) :
    Agrees (readZone readRecord zoneAddress optionsFlowsetEnd length fuel offset)
      (readZone readRecord' zoneAddress optionsFlowsetEnd length fuel offset) := by
  induction fuel generalizing offset with
  | zero => rfl
  | succ fuel ih =>
    unfold readZone
    gcongr
    · apply h
    · apply ih

@[gcongr] theorem agrees_processNetflowV9OptionsTemplate (h : m.Extends m')
    (pkt flowsetLength : ℕ) :
    Agrees (processNetflowV9OptionsTemplate currentInaccurateTime m pkt flowsetLength)
      (processNetflowV9OptionsTemplate currentInaccurateTime m' pkt flowsetLength) := by
  unfold processNetflowV9OptionsTemplate readScopeSize
  dsimp only
  gcongr

/-! ### Flowsets in a larger memory -/

variable {context : NetflowContext} {timeSec sourceId : UInt32} {s : CollectorState}

/-- A template flowset does the same in a larger memory. -/
theorem follows_processTemplateFlowset (h : m.Extends m') :
    Follows (processTemplateFlowset context sourceId m pkt flowsetLength)
      (processTemplateFlowset context sourceId m' pkt flowsetLength) := by
  intro s
  rw [run_processTemplateFlowset, run_processTemplateFlowset]
  rcases (@processNetflowV9Template_extends _ _ pkt flowsetLength context.currentInaccurateTime) h
      with houtside | heq
  · exact .inl houtside
  · rw [heq]
    exact .inr rfl

/-- The loop over fixed records does the same in a larger memory. -/
theorem follows_processRecords {process : Memory → Collect Unit} (h : m.Extends m')
    (hprocess : ∀ {m m' : Memory}, m.Extends m' → Follows (process m) (process m'))
    (setLength totalLength left offset : ℕ) :
    Follows (processRecords m setLength totalLength process left offset)
      (processRecords m' setLength totalLength process left offset) := by
  induction left generalizing offset with
  | zero => rfl
  | succ left ih =>
    rw [processRecords, processRecords]
    gcongr
    · exact hprocess (h.shift _)
    · apply ih

/-- A data flowset does the same in a larger memory. -/
theorem follows_processNetflowV9Data (h : m.Extends m') (flowsetLength : ℕ) :
    Follows (processNetflowV9Data context timeSec sourceId m flowsetLength)
      (processNetflowV9Data context timeSec sourceId m' flowsetLength) := by
  unfold processNetflowV9Data
  gcongr with _ flowsetId s
  cases peerFindTemplate s.templates sourceId flowsetId.toUInt32
      context.clientAddressInStringFormat with
  | none => rfl
  | some t =>
    dsimp only
    unfold processNetflowV9Records
    dsimp only
    gcongr
    exact follows_processRecords h (fun h => follows_netflow9Record h t) _ _ _ _

/-- A flowset of any kind does the same in a larger memory. -/
theorem follows_processFlowsetOfId (h : m.Extends m') (offset : ℕ)
    (flowsetId flowsetLength : UInt16) :
    Follows (processFlowsetOfId context timeSec sourceId m offset flowsetId flowsetLength)
      (processFlowsetOfId context timeSec sourceId m' offset flowsetId flowsetLength) := by
  unfold processFlowsetOfId processOptionsTemplateFlowset
  gcongr
  · exact follows_processTemplateFlowset h
  · exact follows_processNetflowV9Data (h.shift _) _

/-! ### Flowsets at another place -/

/-- A template that was read at another place. -/
def LearnedTemplate.relocate (pkt : ℕ) (learned : LearnedTemplate) : LearnedTemplate :=
  { learned with first := pkt + learned.first, last := pkt + learned.last }

theorem readTemplateRecord_shift (p : ℕ) :
    readTemplateRecord (m.shift pkt) p = readTemplateRecord m (pkt + p) := rfl

/-- Fields are read at the same distance from the flowset, wherever it stands. -/
theorem readTemplateFields_shift (fieldsCount : ℕ) :
    readTemplateFields m pkt flowsetLength fieldsCount offset
      = readTemplateFields (m.shift pkt) 0 flowsetLength fieldsCount offset := by
  induction fieldsCount generalizing offset with
  | zero => rfl
  | succ fieldsCount ih =>
    rw [readTemplateFields, readTemplateFields, readTemplateRecord_shift, Nat.zero_add, ih]

/-- A map after a sequence goes into its last step. -/
theorem map_bind {ε α β γ : Type} (x : Except ε α) (f : α → Except ε β) (g : β → γ) :
    (x >>= f).map g = x >>= fun a => (f a).map g := by
  cases x <;> rfl

/-- A template moves with its flowset. -/
theorem readDataTemplate_shift :
    readDataTemplate currentInaccurateTime m pkt flowsetLength offset
      = (readDataTemplate currentInaccurateTime (m.shift pkt) 0 flowsetLength offset).map
        (LearnedTemplate.relocate pkt) := by
  rw [readDataTemplate, readDataTemplate]
  simp only [map_bind, readNtohs_shift, Nat.zero_add, ← Nat.add_assoc,
    (@readTemplateFields_shift m pkt)]
  rfl

/-- All templates move with their flowset. -/
theorem readDataTemplates_shift (fuel : ℕ) :
    let result := readDataTemplates currentInaccurateTime (m.shift pkt) 0 flowsetLength fuel offset
    readDataTemplates currentInaccurateTime m pkt flowsetLength fuel offset
      = (result.1.map (LearnedTemplate.relocate pkt), result.2) := by
  induction fuel generalizing offset with
  | zero => rfl
  | succ fuel ih =>
    rw [readDataTemplates, readDataTemplates]
    split
    · rw [(@readDataTemplate_shift m pkt)]
      cases readDataTemplate currentInaccurateTime (m.shift pkt) 0 flowsetLength offset with
      | error fault => rfl
      | ok learned =>
        have hlast : pkt + learned.last - pkt = learned.last := Nat.add_sub_cancel_left _ _
        have hih := @ih learned.last
        dsimp only [Except.map, LearnedTemplate.relocate] at hih ⊢
        rw [hlast, hih]
        rfl
    · rfl

/-- A template flowset is read at its own start. -/
theorem processNetflowV9Template_shift :
    let result := processNetflowV9Template currentInaccurateTime (m.shift pkt) 0 flowsetLength
    processNetflowV9Template currentInaccurateTime m pkt flowsetLength
      = (result.1.map (LearnedTemplate.relocate pkt), result.2) := by
  rw [processNetflowV9Template, processNetflowV9Template, readNtohs_shift, Nat.add_zero]
  split
  · rfl
  · cases m.readNtohs pkt with
    | error fault => rfl
    | ok flowsetId =>
      dsimp only
      split
      · rfl
      · exact readDataTemplates_shift flowsetLength

theorem rejectIf_congr {c d : Prop} [Decidable c] [Decidable d] (h : c ↔ d) :
    rejectIf c = rejectIf d := by
  rw [rejectIf, rejectIf]
  simp only [h]

/-- A zone moves with its flowset. -/
theorem readZone_shift {α : Type} {readRecord readRecord' : ℕ → Except Fault α}
    (h : ∀ p, readRecord (pkt + p) = readRecord' p) (zoneAddress optionsFlowsetEnd length fuel : ℕ) :
    readZone readRecord (pkt + zoneAddress) (pkt + optionsFlowsetEnd) length fuel offset
      = readZone readRecord' zoneAddress optionsFlowsetEnd length fuel offset := by
  induction fuel generalizing offset with
  | zero => rfl
  | succ fuel ih =>
    have hend : pkt + zoneAddress + offset + 4 > pkt + optionsFlowsetEnd ↔
        zoneAddress + offset + 4 > optionsFlowsetEnd := by omega
    rw [readZone, readZone, rejectIf_congr hend, ih, Nat.add_assoc pkt, h]

/-- An options template flowset is read at its own start. -/
theorem processNetflowV9OptionsTemplate_shift :
    processNetflowV9OptionsTemplate currentInaccurateTime m pkt flowsetLength
      = (processNetflowV9OptionsTemplate currentInaccurateTime (m.shift pkt) 0 flowsetLength).map
        (LearnedTemplate.relocate pkt) := by
  have hzone : ∀ optionScopeLength optionLength : ℕ,
      pkt + (4 + 6 + optionScopeLength + optionLength) > pkt + flowsetLength ↔
        4 + 6 + optionScopeLength + optionLength > flowsetLength := by omega
  rw [processNetflowV9OptionsTemplate, processNetflowV9OptionsTemplate]
  simp only [map_bind, readNtohs_shift, Nat.zero_add, Nat.add_assoc pkt]
  refine bind_congr fun _ => bind_congr fun templateId => bind_congr fun optionScopeLength =>
    bind_congr fun _ => bind_congr fun _ => ?_
  rw [(@readZone_shift _ _ _ _ (readScopeSize (m.shift pkt))) fun p => rfl]
  refine bind_congr fun scopes => bind_congr fun optionLength => bind_congr fun _ => ?_
  rw [rejectIf_congr (hzone optionScopeLength.toNat optionLength.toNat),
    (@readZone_shift _ _ _ _ (readTemplateRecord (m.shift pkt))) fun p => rfl]
  rfl

/-- A flowset does the same at the beginning of a memory. -/
theorem processFlowsetOfId_shift (offset : ℕ) (flowsetId flowsetLength : UInt16)
    (s : CollectorState) :
    let result :=
      processFlowsetOfId context timeSec sourceId (m.shift offset) 0 flowsetId flowsetLength s
    processFlowsetOfId context timeSec sourceId m offset flowsetId flowsetLength s
      = (result.1, result.2.map (offset + ·)) := by
  have hreturn : ∀ (p q : Collect Unit) (next : ℕ), p s = q s →
      (do p; return offset + next : Collect ℕ) s
        = (((do q; return 0 + next : Collect ℕ) s).1,
          ((do q; return 0 + next : Collect ℕ) s).2.map (offset + ·)) := by
    intro p q next hpq
    rw [bind_run, bind_run, hpq]
    rcases q s with ⟨s', fault | u⟩
    · rfl
    · simp [Except.map]
  rw [processFlowsetOfId, processFlowsetOfId]
  split
  · refine hreturn _ _ _ ?_
    rw [run_processTemplateFlowset, run_processTemplateFlowset, processNetflowV9Template_shift]
    simp only [storeAll, List.foldl_map]
    rfl
  · split
    · refine hreturn _ _ _ ?_
      rw [processOptionsTemplateFlowset, processOptionsTemplateFlowset,
        processNetflowV9OptionsTemplate_shift, bind_run, bind_run, liftM_run, liftM_run]
      cases processNetflowV9OptionsTemplate context.currentInaccurateTime (m.shift offset) 0
        flowsetLength.toNat <;> rfl
    · split
      · rfl
      · refine hreturn _ _ _ ?_
        rw [shift_zero]

/-! ### The bytes behind a flowset -/

theorem readTemplateFields_clean (h : m.Readable 0 n) (hspace : pkt + flowsetLength + 3 ≤ n)
    (fieldsCount : ℕ) :
    Clean (readTemplateFields m pkt flowsetLength fieldsCount offset) := by
  induction fieldsCount generalizing offset with
  | zero => exact clean_ok _
  | succ fieldsCount ih =>
    rw [readTemplateFields]
    refine (clean_rejectIf _).bind fun _ hstart => ?_
    rw [rejectIf_eq_ok_iff] at hstart
    exact (readTemplateRecord_clean h (by omega)).bind fun _ _ =>
      ih.bind fun _ _ => clean_pure _

theorem readDataTemplate_clean (h : m.Readable 0 n) (hspace : pkt + flowsetLength + 3 ≤ n)
    (hoffset : offset < flowsetLength) :
    Clean (readDataTemplate currentInaccurateTime m pkt flowsetLength offset) :=
  (h.clean_readNtohs (Nat.zero_le _) (by omega)).bind fun _ _ =>
    (h.clean_readNtohs (Nat.zero_le _) (by omega)).bind fun _ _ =>
      (readTemplateFields_clean h hspace _).bind fun _ _ =>
        (clean_rejectIf _).bind fun _ _ => clean_pure _

/-- Templates are read without a fault if three bytes behind the flowset may be read. -/
theorem readDataTemplates_clean (h : m.Readable 0 n) (hspace : pkt + flowsetLength + 3 ≤ n)
    {fuel : ℕ} (hfuel : flowsetLength - offset < fuel) :
    Clean (readDataTemplates currentInaccurateTime m pkt flowsetLength fuel offset).2 := by
  induction fuel generalizing offset with
  | zero => exact absurd hfuel (Nat.not_lt_zero _)
  | succ fuel ih =>
    rw [readDataTemplates]
    split
    · rename_i hoffset
      have htemplate := (@readDataTemplate_clean _ _ _ _ _ currentInaccurateTime)
        h hspace hoffset
      cases hlearned : readDataTemplate currentInaccurateTime m pkt flowsetLength offset with
      | error fault =>
        rw [hlearned] at htemplate
        exact htemplate
      | ok learned =>
        simp only [readDataTemplate, bind_eq_ok_iff, pure_eq_ok_iff] at hlearned
        obtain ⟨-, -, fieldsCount, -, fields, hfields, -, -, rfl⟩ := hlearned
        have hnext := (readTemplateFields_spec hfields).2.1
        exact ih (by dsimp only; omega)
    · exact clean_ok ()

/-- Three bytes behind a flowset of templates are enough. -/
theorem processNetflowV9Template_clean (h : m.Readable 0 n)
    (hspace : pkt + flowsetLength + 3 ≤ n) :
    Clean (processNetflowV9Template currentInaccurateTime m pkt flowsetLength).2 := by
  rw [processNetflowV9Template]
  split
  · exact clean_rejected
  · obtain ⟨flowsetId, hid⟩ := h.readNtohs (p := pkt) (Nat.zero_le _) (by omega)
    rw [hid]
    dsimp only
    split
    · exact clean_rejected
    · exact readDataTemplates_clean h hspace (by omega)

/-- The flowset is one of templates, and it is read beyond its end. -/
def Flowset.Overruns (f : Flowset) : Prop :=
  TemplateFlowsetOverruns (ofBytes f.bytes) f.bytes.length 0

instance (f : Flowset) : Decidable f.Overruns :=
  inferInstanceAs (Decidable (TemplateFlowsetOverruns _ _ _))

/-- What is done with a flowset that has other bytes behind it. -/
def flowsetStep (context : NetflowContext) (timeSec sourceId : UInt32) (f : Flowset)
    (behind : List UInt8) : Collect ℕ :=
  processFlowsetOfId context timeSec sourceId (ofBytes (f.bytes ++ behind)) 0 f.id f.length

/-- Further bytes at the end change nothing for a flowset that stays inside. -/
theorem flowsetStep_append {f : Flowset} {behind further : List UInt8}
    (h : Clean (flowsetStep context timeSec sourceId f behind s).2) :
    flowsetStep context timeSec sourceId f (behind ++ further) s
      = flowsetStep context timeSec sourceId f behind s := by
  have hfollows := (@follows_processFlowsetOfId _ _ context timeSec sourceId)
      (extends_ofBytes_append (f.bytes ++ behind) further) 0 f.id f.length
  rw [List.append_assoc] at hfollows
  refine hfollows.eq fun houtside => ?_
  rw [flowsetStep, houtside] at h
  exact absurd h (by simp [Clean])

/-- Three bytes behind a flowset say all about its effect. -/
theorem flowsetStep_of_space {f : Flowset} {behind : List UInt8} (hs : s.templates.Sound)
    (hspace : 3 ≤ behind.length) (further : List UInt8) :
    flowsetStep context timeSec sourceId f (behind ++ further) s
      = flowsetStep context timeSec sourceId f behind s := by
  have hlength : (f.bytes ++ behind).length = f.length.toNat + behind.length := by simp
  refine flowsetStep_append ((clean_processFlowsetOfId_iff (n := (f.bytes ++ behind).length)
    (readable_ofBytes _) hs (by omega)).mpr fun _ => ?_)
  exact processNetflowV9Template_clean (readable_ofBytes _) (by omega)

/-- If a flowset does not overrun, nothing behind it matters. -/
theorem flowsetStep_of_not_overruns {f : Flowset} (hs : s.templates.Sound) (h : ¬ f.Overruns)
    (behind : List UInt8) :
    flowsetStep context timeSec sourceId f behind s
      = flowsetStep context timeSec sourceId f [] s := by
  have hheld : (ofBytes (f.bytes ++ [])).Holds 0 f.bytes :=
    (holds_append.mp (holds_ofBytes (f.bytes ++ []))).1
  have hfour := f.four_le_length
  have hlength : (f.bytes ++ []).length = f.length.toNat := by simp
  rw [← List.nil_append behind]
  refine flowsetStep_append ((processFlowsetOfId_inside_iff (n := (f.bytes ++ []).length)
    (endsAt_ofBytes _) hs (by omega) (by omega) (numberAt_of_read hheld.readNtohs_id).symm
    (numberAt_of_read hheld.readNtohs_length).symm).mpr ?_).1
  rw [List.append_nil]
  exact h

/-! ### Lists of flowsets -/

/-- A flowset with an id that is reserved. -/
def Flowset.Reserved (f : Flowset) : Prop := f.id ≠ 0 ∧ f.id ≠ 1 ∧ f.id < 256

instance (f : Flowset) : Decidable f.Reserved :=
  inferInstanceAs (Decidable (_ ∧ _ ∧ _))

/-- Flowsets one after the other, with other bytes behind them: the state that they lead to,
and whether the loop gets behind them. -/
def runFlowsets (context : NetflowContext) (timeSec sourceId : UInt32) :
    List Flowset → (behind : List UInt8) → CollectorState → CollectorState × Bool
  | [], _, s => (s, true)
  | f :: fs, behind, s =>
      match flowsetStep context timeSec sourceId f (flowsetsBytes fs ++ behind) s with
      | (s', .ok next) =>
          if next = 0 then (s', false) else runFlowsets context timeSec sourceId fs behind s'
      | (s', .error _) => (s', false)

/-- Flowsets run one after the other. -/
theorem runFlowsets_append (fs gs : List Flowset) (behind : List UInt8) (s : CollectorState) :
    runFlowsets context timeSec sourceId (fs ++ gs) behind s
      = let result := runFlowsets context timeSec sourceId fs (flowsetsBytes gs ++ behind) s
        if result.2 then runFlowsets context timeSec sourceId gs behind result.1 else result := by
  induction fs generalizing s with
  | nil => rfl
  | cons f fs ih =>
    rw [List.cons_append, runFlowsets, runFlowsets, flowsetsBytes_append, List.append_assoc]
    rcases flowsetStep context timeSec sourceId f (flowsetsBytes fs ++ (flowsetsBytes gs ++ behind)) s
      with ⟨s', fault | next⟩
    · rfl
    · dsimp only
      split
      · rfl
      · exact ih s'

/-- A flowset keeps all stored templates sound. -/
theorem sound_flowsetStep (f : Flowset) (behind : List UInt8) (hs : s.templates.Sound) :
    (flowsetStep context timeSec sourceId f behind s).1.templates.Sound :=
  sound_processFlowsetOfId hs

/-- If the last one of some flowsets does not overrun, nothing behind them matters. -/
theorem runFlowsets_behind {fs : List Flowset} (hs : s.templates.Sound)
    (hlast : ∀ f ∈ fs.getLast?, ¬ f.Overruns) (behind : List UInt8) :
    runFlowsets context timeSec sourceId fs behind s
      = runFlowsets context timeSec sourceId fs [] s := by
  induction fs generalizing s with
  | nil => rfl
  | cons f fs ih =>
    have hstep : flowsetStep context timeSec sourceId f (flowsetsBytes fs ++ behind) s
        = flowsetStep context timeSec sourceId f (flowsetsBytes fs ++ []) s := by
      cases fs with
      | nil =>
        have hover : ¬ f.Overruns := hlast f (by simp)
        rw [flowsetStep_of_not_overruns hs hover (flowsetsBytes [] ++ behind),
          flowsetStep_of_not_overruns hs hover (flowsetsBytes [] ++ [])]
      | cons g gs =>
        have hfour := g.four_le_length
        rw [List.append_nil]
        exact flowsetStep_of_space hs (by simp; omega) behind
    have hs' := (@sound_flowsetStep context timeSec sourceId)
      f (flowsetsBytes fs ++ []) hs
    rw [runFlowsets, runFlowsets, hstep]
    revert hs'
    rcases flowsetStep context timeSec sourceId f (flowsetsBytes fs ++ []) s
      with ⟨s', fault | next⟩
    · exact fun _ => rfl
    · intro hs'
      dsimp only
      split
      · rfl
      · refine ih hs' fun last hmem => hlast last ?_
        cases fs with
        | nil => cases hmem
        | cons g gs => exact hmem

/-! ### The loop over the flowsets -/

/-- A reserved flowset does nothing. -/
theorem flowsetStep_reserved {f : Flowset} (h : f.Reserved) (behind : List UInt8) :
    flowsetStep context timeSec sourceId f behind s = (s, .ok 0) := by
  rw [flowsetStep, processFlowsetOfId, if_neg h.1, if_neg h.2.1, if_pos h.2.2]
  rfl

/-- The offset is moved by the length of the flowset, or not at all if the id is reserved. -/
theorem flowsetStep_next {f : Flowset} {behind : List UInt8} {s' : CollectorState} {next : ℕ}
    (h : flowsetStep context timeSec sourceId f behind s = (s', .ok next)) :
    if f.Reserved then next = 0 ∧ s' = s else next = f.length.toNat := by
  have hreturn : ∀ {p : Collect Unit},
      (do p; return 0 + f.length.toNat : Collect ℕ) s = (s', .ok next) →
        next = f.length.toNat := by
    intro p hp
    rw [bind_run] at hp
    revert hp
    rcases p s with ⟨s'', fault | u⟩
    · intro hp
      cases congrArg Prod.snd hp
    · intro hp
      have hnext := Except.ok.inj (congrArg Prod.snd hp)
      omega
  split
  · rename_i hreserved
    rw [flowsetStep_reserved hreserved] at h
    exact ⟨(Except.ok.inj (congrArg Prod.snd h)).symm, (congrArg Prod.fst h).symm⟩
  · rename_i hother
    rw [flowsetStep, processFlowsetOfId] at h
    split at h
    · exact hreturn h
    · split at h
      · exact hreturn h
      · split at h
        · exact absurd ⟨‹_›, ‹_›, ‹_›⟩ hother
        · exact hreturn h

/-- The body of the loop at a flowset. -/
theorem processFlowset_eq {f : Flowset} {fs : List Flowset}
    (hm : m.shift offset = ofBytes (flowsetsBytes (f :: fs)))
    (hn : n = offset + (flowsetsBytes (f :: fs)).length) :
    processFlowset context timeSec sourceId m n offset s
      = let result := flowsetStep context timeSec sourceId f (flowsetsBytes fs) s
        (result.1, result.2.map (offset + ·)) := by
  have hheld := holds_of_shift_eq hm
  have hfour := f.four_le_length
  rw [flowsetsBytes_cons, List.length_append, Flowset.length_bytes] at hn
  rw [processFlowset_of_header (by omega) hheld.readNtohs_id hheld.readNtohs_length (by omega),
    processFlowsetOfId_shift, hm]
  rfl

/-- At a reserved flowset the loop goes round without an effect. -/
theorem processFlowsets_reserved {f : Flowset} {fs : List Flowset} (hreserved : f.Reserved)
    (hm : m.shift offset = ofBytes (flowsetsBytes (f :: fs)))
    (hn : n = offset + (flowsetsBytes (f :: fs)).length) (left : ℕ) :
    processFlowsets context timeSec sourceId m n left offset s = (s, .ok ()) := by
  induction left with
  | zero => rfl
  | succ left ih =>
    have hfour := f.four_le_length
    have hstep : processFlowset context timeSec sourceId m n offset s = (s, .ok offset) := by
      rw [processFlowset_eq hm hn, flowsetStep_reserved hreserved]
      rfl
    have hne : offset ≠ n := by
      rw [flowsetsBytes_cons, List.length_append, Flowset.length_bytes] at hn
      omega
    rw [processFlowsets, bind_of_ok hstep, if_neg hne, ih]

/-- **A datagram is the run of its flowsets.** -/
theorem processFlowsets_eq_run {fs : List Flowset} {left : ℕ}
    (hm : m.shift offset = ofBytes (flowsetsBytes fs))
    (hn : n = offset + (flowsetsBytes fs).length) (hleft : fs.length ≤ left) :
    (processFlowsets context timeSec sourceId m n left offset s).1
      = (runFlowsets context timeSec sourceId fs [] s).1 := by
  induction left generalizing fs offset s with
  | zero =>
    obtain rfl := List.eq_nil_of_length_eq_zero (Nat.le_zero.mp hleft)
    rfl
  | succ left ih =>
    cases fs with
    | nil =>
      have hend : offset ≥ n := by simp at hn; omega
      rw [processFlowsets, processFlowset, rejectIf_of hend]
      rfl
    | cons f fs =>
      have hstep := (@processFlowset_eq _ _ _ context timeSec sourceId s) hm hn
      by_cases hreserved : f.Reserved
      · rw [processFlowsets_reserved hreserved hm hn, runFlowsets, flowsetStep_reserved hreserved]
        rfl
      rw [runFlowsets, List.append_nil]
      cases hresult : flowsetStep context timeSec sourceId f (flowsetsBytes fs) s with
      | mk s' outcome =>
        rw [hresult] at hstep
        cases outcome with
        | error fault => rw [processFlowsets, bind_of_error hstep]
        | ok next =>
          have hnext := flowsetStep_next hresult
          rw [if_neg hreserved] at hnext
          subst hnext
          have hfour := f.four_le_length
          have hadvance : f.length.toNat ≠ 0 := by omega
          rw [flowsetsBytes_cons, List.length_append, Flowset.length_bytes] at hn
          rw [processFlowsets, bind_of_ok hstep]
          dsimp only
          rw [if_neg hadvance]
          split
          · rename_i hend
            obtain rfl := (@length_flowsetsBytes_eq_zero fs) (by omega)
            rfl
          · refine ih ?_ (by omega) (Nat.le_of_succ_le_succ hleft)
            rw [flowsetsBytes_cons] at hm
            rw [← f.length_bytes]
            exact shift_of_append hm

/-! ### Datagrams -/

/-- `netflow9_header_t` but for the number of flowsets. -/
structure Netflow9Header where
  version : UInt16 := 9
  uptimeMs : UInt32 := 0
  timeSec : UInt32 := 0
  packageSequence : UInt32 := 0
  sourceId : UInt32 := 0

/-- A datagram of some flowsets. -/
def packetOfFlowsets (header : Netflow9Header) (flowsetNumber : UInt16)
    (flowsets : List Flowset) : List UInt8 :=
  bytes16 (byteSwap16 header.version) ++ (bytes16 (byteSwap16 flowsetNumber) ++
    (bytes32 (byteSwap32 header.uptimeMs) ++ (bytes32 (byteSwap32 header.timeSec) ++
      (bytes32 (byteSwap32 header.packageSequence) ++ (bytes32 (byteSwap32 header.sourceId) ++
        flowsetsBytes flowsets)))))

/-- The collector after a datagram of some flowsets. -/
def afterPacket (context : NetflowContext) (header : Netflow9Header) (flowsetNumber : UInt16)
    (flowsets : List Flowset) (s : CollectorState) : CollectorState :=
  let packet := packetOfFlowsets header flowsetNumber flowsets
  (processNetflowPacketV9 context (ofBytes packet) packet.length s).1

/-- A packet is its flowsets, one after the other, if it announces enough of them. -/
theorem afterPacket_eq_run {header : Netflow9Header} {flowsetNumber : UInt16}
    {flowsets : List Flowset} (hnumber : flowsets.length ≤ flowsetNumber.toNat)
    (hlimit : flowsetNumber.toNat ≤ setsPerPacketMaximumNumber) :
    afterPacket context header flowsetNumber flowsets s
      = (runFlowsets context header.timeSec header.sourceId flowsets [] s).1 := by
  rw [afterPacket]
  generalize hpacket : packetOfFlowsets header flowsetNumber flowsets = packet
  rw [packetOfFlowsets] at hpacket
  have hlength : packet.length = 20 + (flowsetsBytes flowsets).length := by
    rw [← hpacket]
    simp only [List.length_append, bytes16_length, bytes32_length]
    omega
  have hheld := holds_ofBytes packet
  nth_rewrite 2 [← hpacket] at hheld
  simp only [holds_append, bytes16_length, bytes32_length, Nat.zero_add, Nat.reduceAdd] at hheld
  obtain ⟨-, hcount, -, htime, -, hsource, -⟩ := hheld
  have hshift : (ofBytes packet).shift 20 = ofBytes (flowsetsBytes flowsets) := by
    rw [← hpacket, ← List.append_assoc, ← List.append_assoc, ← List.append_assoc,
      ← List.append_assoc, ← List.append_assoc]
    exact shift_ofBytes_append _ _
  have hshort : ¬ packet.length < 20 := by omega
  rw [processNetflowPacketV9, rejectIf_of_not hshort, liftM_ok_bind, hcount.readNtohs,
    liftM_ok_bind, rejectIf_of_not (by omega), liftM_ok_bind, htime.readNtohl, liftM_ok_bind,
    hsource.readNtohl, liftM_ok_bind]
  exact processFlowsets_eq_run hshift hlength hnumber

/-- The packets that were handed over, the templates and the sampling rates are the same. -/
def SameEffect (s s' : CollectorState) : Prop :=
  s.emitted = s'.emitted ∧ s.templates = s'.templates ∧ s.samplingRates = s'.samplingRates

theorem SameEffect.refl (s : CollectorState) : SameEffect s s := ⟨rfl, rfl, rfl⟩

/-- A data flowset without a template is passed over. -/
theorem flowsetStep_unknown {f : Flowset} (hid : 256 ≤ f.id)
    (hunknown : peerFindTemplate s.templates sourceId f.id.toUInt32
      context.clientAddressInStringFormat = none) (behind : List UInt8) :
    flowsetStep context timeSec sourceId f behind s = (s, .ok f.length.toNat) := by
  have hheld : (ofBytes (f.bytes ++ behind)).Holds 0 f.bytes :=
    (holds_append.mp (holds_ofBytes (f.bytes ++ behind))).1
  have hfour := f.four_le_length
  have hzero : f.id ≠ 0 := fun hcontra => absurd (hcontra ▸ hid) (by decide)
  have hone : f.id ≠ 1 := fun hcontra => absurd (hcontra ▸ hid) (by decide)
  rw [flowsetStep, processFlowsetOfId, if_neg hzero, if_neg hone,
    if_neg (UInt16.not_lt.mpr hid), shift_zero,
    bind_of_ok (processNetflowV9Data_unknown (by omega) hheld.readNtohs_id hunknown), Nat.zero_add]
  rfl

/-- A flowset is skipped exactly if it is no reserved one in front of flowsets that matter.
The flowset is put between `before` and `after`; it has a reserved id, or it is a data flowset
without a template at this point. -/
theorem sameEffect_inserted_iff {s : CollectorState} (hs : NetflowV9Reachable s)
    (context : NetflowContext)
    (header : Netflow9Header) (flowsetNumber : UInt16) (before after : List Flowset) (f : Flowset)
    (hnumber : (before ++ after).length ≤ flowsetNumber.toNat)
    (hlimit : flowsetNumber.toNat + 1 ≤ setsPerPacketMaximumNumber)
    (hlast : ∀ last ∈ before.getLast?, ¬ last.Overruns)
    (hskip : f.Reserved ∨ 256 ≤ f.id ∧
      let reached :=
        runFlowsets context header.timeSec header.sourceId before (flowsetsBytes after) s
      (reached.2 = true → peerFindTemplate reached.1.templates header.sourceId f.id.toUInt32
        context.clientAddressInStringFormat = none)) :
    let reached :=
      runFlowsets context header.timeSec header.sourceId before (flowsetsBytes after) s
    SameEffect (afterPacket context header flowsetNumber (before ++ after) s)
        (afterPacket context header (flowsetNumber + 1) (before ++ f :: after) s) ↔
      (f.Reserved → reached.2 = true →
        SameEffect (runFlowsets context header.timeSec header.sourceId after [] reached.1).1
          reached.1) := by
  have hnext : (flowsetNumber + 1).toNat = flowsetNumber.toNat + 1 := by
    rw [setsPerPacketMaximumNumber] at hlimit
    rw [UInt16.toNat_add, Nat.mod_eq_of_lt]
    · rfl
    · exact (Nat.lt_succ_of_le hlimit).trans (by norm_num)
  have hbehind := (@runFlowsets_behind context header.timeSec header.sourceId) hs.sound hlast
  intro reached
  rw [afterPacket_eq_run hnumber (by omega), afterPacket_eq_run (by
      simp only [List.length_append, List.length_cons] at hnumber ⊢
      omega) (by omega), runFlowsets_append, runFlowsets_append, List.append_nil, List.append_nil]
  have hreached : runFlowsets context header.timeSec header.sourceId before
      (flowsetsBytes (f :: after)) s = reached := by
    rw [hbehind, ← hbehind (flowsetsBytes after)]
  rw [hreached]
  dsimp only
  by_cases hgoes : reached.2 = true
  swap
  · rw [if_neg hgoes, if_neg hgoes]
    exact iff_of_true (SameEffect.refl _) fun _ hcontra => absurd hcontra hgoes
  rw [if_pos hgoes, if_pos hgoes, runFlowsets, List.append_nil]
  rcases hskip with hreserved | ⟨hid, hunknown⟩
  · rw [flowsetStep_reserved hreserved]
    exact ⟨fun hsame _ _ => hsame, fun hsame => hsame hreserved hgoes⟩
  · have hfour := f.four_le_length
    have hadvance : f.length.toNat ≠ 0 := by omega
    rw [flowsetStep_unknown hid (hunknown hgoes)]
    dsimp only
    rw [if_neg hadvance]
    exact iff_of_true (SameEffect.refl _) fun hreserved =>
      absurd hreserved.2.2 (UInt16.not_lt.mpr hid)

/-- Template 256 with one field, the source or the destination address. -/
def oneAddressTemplate (currentInaccurateTime : Int64) (source : Bool) : Template :=
  { templateId := 256, numRecords := 1, totalLength := 4, timestamp := currentInaccurateTime
    type := .data
    records := [{ recordType := if source then 8 else 12, recordLength := 4 }] }

/-- The flowset that it is learned from. -/
def oneAddressFlowset (source : Bool) : Flowset :=
  ⟨0, [1, 0, 0, 1, 0, if source then 8 else 12, 0, 4], by cases source <;> decide⟩

theorem processNetflowV9Template_oneAddress (source : Bool) :
    processNetflowV9Template currentInaccurateTime (ofBytes (oneAddressFlowset source).bytes) 0 12
      = ([⟨oneAddressTemplate currentInaccurateTime source, 4, 12⟩], .ok ()) := by
  cases source <;> rfl

/-- A flowset with one template stores just that template. -/
theorem runFlowsets_oneAddress (source : Bool) (s : CollectorState) :
    (runFlowsets context timeSec sourceId [oneAddressFlowset source] [] s).1.templates
      = (s.templates.addUpdate ⟨context.clientAddressInStringFormat, sourceId, 256⟩
          (oneAddressTemplate context.currentInaccurateTime source)).table := by
  have hlength : (oneAddressFlowset source).length.toNat = 12 := rfl
  have hid : (oneAddressFlowset source).id = 0 := rfl
  have hrun := @run_processTemplateFlowset (ofBytes (oneAddressFlowset source).bytes) 0 12 context
    sourceId s
  dsimp only at hrun
  rw [processNetflowV9Template_oneAddress] at hrun
  have hstep : flowsetStep context timeSec sourceId (oneAddressFlowset source) [] s =
      ({ s with templates := (s.templates.addUpdate
          ⟨context.clientAddressInStringFormat, sourceId, 256⟩
          (oneAddressTemplate context.currentInaccurateTime source)).table }, .ok 12) := by
    rw [flowsetStep, List.append_nil, processFlowsetOfId, if_pos hid, hlength, bind_of_ok hrun]
    rfl
  rw [runFlowsets, flowsetsBytes_nil, List.append_nil, hstep]
  rfl

/-- Whatever is known, there is a template that is new. -/
theorem exists_flowset_that_matters (s : CollectorState) :
    ∃ f : Flowset, ¬ SameEffect (runFlowsets context timeSec sourceId [f] [] s).1 s := by
  have hdiffer : (oneAddressTemplate context.currentInaccurateTime true).operatorEq
      (oneAddressTemplate context.currentInaccurateTime false) = false := rfl
  rcases addUpdate_changes hdiffer s.templates ⟨context.clientAddressInStringFormat, sourceId, 256⟩
    with hchanges | hchanges
  · refine ⟨oneAddressFlowset true, fun hsame => hchanges ?_⟩
    rw [← runFlowsets_oneAddress]
    exact hsame.2.1
  · refine ⟨oneAddressFlowset false, fun hsame => hchanges ?_⟩
    rw [← runFlowsets_oneAddress]
    exact hsame.2.1

/-- **A flowset that is to be skipped is skipped, unless it is a reserved one that is reached.**
The flowset is put between `before` and `after`; it has a reserved id, or it is a data flowset
without a template at this point.  Behind a reserved flowset that is reached there are always
flowsets that get lost, if there is room for one. -/
theorem skipped_unless_reserved {s : CollectorState} (hs : NetflowV9Reachable s)
    (context : NetflowContext) (header : Netflow9Header) (before : List Flowset) (f : Flowset)
    (hlast : ∀ last ∈ before.getLast?, ¬ last.Overruns)
    (hskip : f.Reserved ∨ 256 ≤ f.id ∧
      let reached := runFlowsets context header.timeSec header.sourceId before [] s
      (reached.2 = true → peerFindTemplate reached.1.templates header.sourceId f.id.toUInt32
        context.clientAddressInStringFormat = none)) :
    let reached := runFlowsets context header.timeSec header.sourceId before [] s
    (∀ (flowsetNumber : UInt16) (after : List Flowset),
      (before ++ after).length ≤ flowsetNumber.toNat →
      flowsetNumber.toNat + 1 ≤ setsPerPacketMaximumNumber →
      (f.Reserved → reached.2 = true → after = []) →
        SameEffect (afterPacket context header flowsetNumber (before ++ after) s)
          (afterPacket context header (flowsetNumber + 1) (before ++ f :: after) s)) ∧
    (f.Reserved → reached.2 = true → before.length + 2 ≤ setsPerPacketMaximumNumber →
      ∃ (flowsetNumber : UInt16) (after : List Flowset),
        (before ++ after).length ≤ flowsetNumber.toNat ∧
        flowsetNumber.toNat + 1 ≤ setsPerPacketMaximumNumber ∧
        ¬ SameEffect (afterPacket context header flowsetNumber (before ++ after) s)
          (afterPacket context header (flowsetNumber + 1) (before ++ f :: after) s)) := by
  intro reached
  have hbehind : ∀ after : List Flowset, runFlowsets context header.timeSec header.sourceId before
      (flowsetsBytes after) s = reached := fun after =>
    runFlowsets_behind hs.sound hlast (flowsetsBytes after)
  have hiff : ∀ (flowsetNumber : UInt16) (after : List Flowset),
      (before ++ after).length ≤ flowsetNumber.toNat →
      flowsetNumber.toNat + 1 ≤ setsPerPacketMaximumNumber →
      (SameEffect (afterPacket context header flowsetNumber (before ++ after) s)
          (afterPacket context header (flowsetNumber + 1) (before ++ f :: after) s) ↔
        (f.Reserved → reached.2 = true →
          SameEffect (runFlowsets context header.timeSec header.sourceId after [] reached.1).1
            reached.1)) := by
    intro flowsetNumber after hnumber hlimit
    have h := sameEffect_inserted_iff hs context header flowsetNumber before after f hnumber hlimit
      hlast
    rw [hbehind after] at h
    exact h hskip
  constructor
  · intro flowsetNumber after hnumber hlimit hnothing
    refine (hiff flowsetNumber after hnumber hlimit).mpr fun hreserved hgoes => ?_
    rw [hnothing hreserved hgoes]
    exact SameEffect.refl _
  · intro hreserved hgoes hroom
    obtain ⟨lost, hlost⟩ := @exists_flowset_that_matters context header.timeSec header.sourceId
      reached.1
    rw [setsPerPacketMaximumNumber] at hroom
    have hcount : (UInt16.ofNat (before.length + 1)).toNat = before.length + 1 :=
      UInt16.toNat_ofNat_of_lt' (show before.length + 1 < 65536 by omega)
    have hnumber : (before ++ [lost]).length ≤ (UInt16.ofNat (before.length + 1)).toNat := by
      rw [hcount, List.length_append, List.length_singleton]
    have hlimit : (UInt16.ofNat (before.length + 1)).toNat + 1 ≤ setsPerPacketMaximumNumber := by
      rw [hcount, setsPerPacketMaximumNumber]
      omega
    refine ⟨UInt16.ofNat (before.length + 1), [lost], hnumber, hlimit, fun hsame => hlost ?_⟩
    exact (hiff _ _ hnumber hlimit).mp hsame hreserved hgoes

/-! ### Two datagrams -/

/-- The flowset of template 256 with two addresses. -/
def addressTemplateFlowset : Flowset := ⟨0, [1, 0, 0, 2, 0, 8, 0, 4, 0, 12, 0, 4], by decide⟩

/-- Two records of template 256. -/
def addressDataFlowset : Flowset :=
  ⟨256, [10, 0, 0, 1, 10, 0, 0, 2, 10, 0, 0, 3, 10, 0, 0, 4], by decide⟩

/-- A data flowset whose template is not known. -/
def unknownFlowset : Flowset := ⟨300, [1, 2, 3, 4], by decide⟩

/-- A flowset with a reserved id. -/
def reservedFlowset : Flowset := ⟨2, [], by decide⟩

/-- A data flowset without a template can be left out. -/
theorem unknownFlowset_skipped :
    SameEffect (afterPacket exporter {} 2 [addressTemplateFlowset, addressDataFlowset] {})
      (afterPacket exporter {} 3 [addressTemplateFlowset, unknownFlowset, addressDataFlowset] {}) :=
  (skipped_unless_reserved .start exporter {} [addressTemplateFlowset] unknownFlowset
    (by decide) (.inr ⟨by decide, fun _ => rfl⟩)).1 2 [addressDataFlowset] (by decide) (by decide)
    fun hreserved => absurd hreserved (by decide)

/-- The two packets behind a reserved flowset are lost. -/
theorem reservedFlowset_not_skipped :
    (afterPacket exporter {} 2 [addressTemplateFlowset, addressDataFlowset] {}).emitted.length = 2 ∧
    (afterPacket exporter {} 3 [reservedFlowset, addressTemplateFlowset, addressDataFlowset]
      {}).emitted.length = 0 ∧
    ¬ SameEffect (afterPacket exporter {} 2 [addressTemplateFlowset, addressDataFlowset] {})
      (afterPacket exporter {} 3 [reservedFlowset, addressTemplateFlowset, addressDataFlowset]
        {}) := by
  have htwo : (afterPacket exporter {} 2
      [addressTemplateFlowset, addressDataFlowset] {}).emitted.length = 2 := rfl
  have hzero : (afterPacket exporter {} 3
      [reservedFlowset, addressTemplateFlowset, addressDataFlowset] {}).emitted.length = 0 := rfl
  refine ⟨htwo, hzero, fun hsame => ?_⟩
  rw [hsame.1, hzero] at htwo
  exact absurd htwo (by decide)

end FastNetMon
