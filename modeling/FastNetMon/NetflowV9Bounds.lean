/-
FastNetMon/NetflowV9Bounds.lean

Where the reading of templates leaves its flowset.

Headers and fields of a data template take four bytes each, but the loops compare only
the first of the four with the end of the flowset.  So a flowset whose length is not a
multiple of four has one word that is cut by its end, and everything depends on what the
collector takes this word for: `walkWords` follows the complete words in front of it.
Main result: a datagram is read inside its bounds, and stored templates are made of bytes
of their own flowsets, exactly if no flowset that the loop reaches overruns
(`templates_stay_inside_iff`).
-/
import FastNetMon.NetflowV9Store

namespace FastNetMon

open Memory Procedure

/-! ### Numbers in a datagram -/

/-- Exactly the addresses below `n` can be read. -/
def Memory.EndsAt (m : Memory) (n : ℕ) : Prop := m.Readable 0 n ∧ ∀ i, n ≤ i → m i = none

/-- The memory of a datagram ends with it. -/
theorem endsAt_ofBytes (bs : List UInt8) : (ofBytes bs).EndsAt bs.length :=
  ⟨readable_ofBytes bs, fun _ hi => List.getElem?_eq_none hi⟩

/-- The number of 16 bits at an address. -/
def numberAt (m : Memory) (p : ℕ) : ℕ :=
  match m.readNtohs p with
  | .ok number => number.toNat
  | .error _ => 0

variable {m : Memory} {n p pkt flowsetLength offset : ℕ} {currentInaccurateTime : Int64}

/-- The number that is read is the number there. -/
theorem numberAt_of_read {number : UInt16} (h : m.readNtohs p = .ok number) :
    numberAt m p = number.toNat := by
  rw [numberAt, h]

theorem numberAt_lt : numberAt m p < 65536 := by
  rw [numberAt]
  split
  · exact UInt16.toNat_lt _
  · norm_num

/-- Two bytes inside are read. -/
theorem Memory.EndsAt.readNtohs_inside (h : m.EndsAt n) (hp : p + 2 ≤ n) :
    ∃ number, m.readNtohs p = .ok number ∧ number.toNat = numberAt m p := by
  obtain ⟨number, hnumber⟩ := h.1.readNtohs (Nat.zero_le p) hp
  exact ⟨number, hnumber, (numberAt_of_read hnumber).symm⟩

/-- Two bytes that are not both inside are a fault. -/
theorem Memory.EndsAt.readNtohs_outside (h : m.EndsAt n) (hp : n < p + 2) :
    m.readNtohs p = .error .outOfBounds := by
  have hlast : m.read (p + 1) = .error .outOfBounds :=
    read_eq_outOfBounds_iff.mpr (h.2 (p + 1) (by omega))
  rw [Memory.readNtohs, Memory.read16]
  by_cases hfirst : p < n
  · obtain ⟨b, hb, -⟩ := h.1.read (Nat.zero_le p) hfirst
    rw [hb, ok_bind, hlast]
    rfl
  · rw [read_eq_outOfBounds_iff.mpr (h.2 p (by omega))]
    rfl

/-- A word of a template inside the datagram. -/
theorem Memory.EndsAt.readTemplateRecord_inside (h : m.EndsAt n) (hp : p + 4 ≤ n) :
    ∃ record, readTemplateRecord m p = .ok record ∧
      record.recordLength.toNat = numberAt m (p + 2) := by
  obtain ⟨recordType, htype, -⟩ := h.readNtohs_inside (p := p) (by omega)
  obtain ⟨recordLength, hlength, hnumber⟩ := h.readNtohs_inside (p := p + 2) (by omega)
  refine ⟨{ recordType := recordType.toUInt32, recordLength := recordLength.toUInt32 }, ?_, ?_⟩
  · rw [readTemplateRecord, htype, ok_bind, hlength]
    rfl
  · simpa using hnumber

/-- A word of a template that reaches behind the datagram. -/
theorem Memory.EndsAt.readTemplateRecord_outside (h : m.EndsAt n) (hp : n < p + 4) :
    readTemplateRecord m p = .error .outOfBounds := by
  have hlast := h.readNtohs_outside (p := p + 2) (by omega)
  rw [readTemplateRecord]
  by_cases hfirst : p + 2 ≤ n
  · obtain ⟨recordType, htype, -⟩ := h.readNtohs_inside hfirst
    rw [htype, ok_bind, hlast]
    rfl
  · rw [h.readNtohs_outside (by omega)]
    rfl

/-! ### Following the words of a flowset -/

/-- What the next word of a flowset of templates is taken for: the header of a template, a
field with so many more behind it and so many bytes in front of it, or nothing, because
the flowset was turned down. -/
inductive TemplateWalk
  | header
  | field (left total : ℕ)
  | stopped
deriving DecidableEq, Repr

/-- The step over a word; the number is the second half of it. -/
def TemplateWalk.next : TemplateWalk → ℕ → TemplateWalk
  | .header, 0 => .stopped
  | .header, fieldsCount + 1 => .field fieldsCount 0
  | .field 0 total, recordLength => if total + recordLength = 0 then .stopped else .header
  | .field (left + 1) total, recordLength => .field left (total + recordLength)
  | .stopped, _ => .stopped

/-- The steps over some words. -/
def walkWords (m : Memory) (pkt : ℕ) : (words offset : ℕ) → TemplateWalk → TemplateWalk
  | 0, _, walk => walk
  | words + 1, offset, walk =>
      walkWords m pkt words (offset + 4) (walk.next (numberAt m (pkt + offset + 2)))

@[simp] theorem walkWords_stopped (words : ℕ) :
    walkWords m pkt words offset .stopped = .stopped := by
  induction words generalizing offset with
  | zero => rfl
  | succ words ih =>
    rw [walkWords, TemplateWalk.next]
    exact ih

/-- The word at address `p`, which is cut by the end of its flowset, does harm: it reaches
behind the datagram, or it is the last field of a template that is stored. -/
def TemplateWalk.Overruns (m : Memory) (n p : ℕ) : TemplateWalk → Prop
  | .header => n < p + 4
  | .field 0 total => n < p + 4 ∨ total + numberAt m (p + 2) ≠ 0
  | .field (_ + 1) _ => n < p + 4
  | .stopped => False

instance (m : Memory) (n p : ℕ) (walk : TemplateWalk) : Decidable (walk.Overruns m n p) :=
  match walk with
  | .header => inferInstanceAs (Decidable (_ < _))
  | .field 0 _ => inferInstanceAs (Decidable (_ ∨ _))
  | .field (_ + 1) _ => inferInstanceAs (Decidable (_ < _))
  | .stopped => inferInstanceAs (Decidable False)

/-! ### The fields of a template -/

/-- The fields in complete words are read, and the walk follows them. -/
theorem readTemplateFields_prefix (h : m.EndsAt n) (hflowset : pkt + flowsetLength ≤ n)
    {words : ℕ} (hwords : offset + 4 * words ≤ flowsetLength) :
    ∃ records, (∀ left, readTemplateFields m pkt flowsetLength (words + left) offset
        = (readTemplateFields m pkt flowsetLength left (offset + 4 * words)).map
          fun rest => (records ++ rest.1, rest.2)) ∧
      ∀ more left total, walkWords m pkt (words + more) offset (.field (words + left) total)
        = walkWords m pkt more (offset + 4 * words) (.field left (total + fieldsLength records)) := by
  induction words generalizing offset with
  | zero =>
    refine ⟨[], fun left => ?_, fun more left total => ?_⟩
    · rw [Nat.zero_add, Nat.mul_zero, Nat.add_zero]
      cases readTemplateFields m pkt flowsetLength left offset <;> rfl
    · simp [fieldsLength]
  | succ words ih =>
    obtain ⟨records, hread, hwalk⟩ := @ih (offset + 4) (by omega)
    obtain ⟨record, hrecord, hlength⟩ :=
      h.readTemplateRecord_inside (p := pkt + offset) (by omega)
    have hstart : ¬ offset ≥ flowsetLength := by omega
    have hoffset : offset + 4 + 4 * words = offset + 4 * (words + 1) := by omega
    refine ⟨record :: records, fun left => ?_, fun more left total => ?_⟩
    · rw [Nat.add_right_comm words 1 left, readTemplateFields, rejectIf_of_not hstart, ok_bind,
        hrecord, ok_bind, hread, hoffset]
      cases readTemplateFields m pkt flowsetLength left (offset + 4 * (words + 1)) <;> rfl
    · rw [Nat.add_right_comm words 1 more, Nat.add_right_comm words 1 left, walkWords,
        TemplateWalk.next, hwalk, hoffset, fieldsLength_cons, hlength, Nat.add_assoc]

/-- A template all of whose fields are in complete words. -/
theorem readTemplateFields_fit (h : m.EndsAt n) (hflowset : pkt + flowsetLength ≤ n)
    {left : ℕ} (hwords : offset + 4 * (left + 1) ≤ flowsetLength) :
    ∃ records, readTemplateFields m pkt flowsetLength (left + 1) offset
        = .ok (records, offset + 4 * (left + 1)) ∧
      ∀ more total, walkWords m pkt (left + 1 + more) offset (.field left total)
        = walkWords m pkt more (offset + 4 * (left + 1))
          (if total + fieldsLength records = 0 then .stopped else .header) := by
  obtain ⟨records, hread, hwalk⟩ :=
    readTemplateFields_prefix h hflowset (show offset + 4 * left ≤ flowsetLength by omega)
  obtain ⟨record, hrecord, hlength⟩ :=
    h.readTemplateRecord_inside (p := pkt + (offset + 4 * left)) (by omega)
  have hstart : ¬ offset + 4 * left ≥ flowsetLength := by omega
  refine ⟨records ++ [record], ?_, fun more total => ?_⟩
  · rw [hread 1, readTemplateFields, rejectIf_of_not hstart, ok_bind, hrecord, ok_bind]
    rfl
  · have hsum : fieldsLength (records ++ [record])
        = fieldsLength records + numberAt m (pkt + (offset + 4 * left) + 2) := by
      rw [← hlength]
      simp [fieldsLength]
    have hwalk := hwalk (1 + more) 0 total
    rw [Nat.add_zero] at hwalk
    rw [Nat.add_assoc, hwalk, Nat.add_comm 1 more, walkWords, TemplateWalk.next, hsum,
      ← Nat.add_assoc total]
    rfl

/-- A template with a field in the word that is cut. -/
theorem readTemplateFields_cut (h : m.EndsAt n) (hflowset : pkt + flowsetLength ≤ n)
    {words left cut : ℕ} (hcut : offset + 4 * words = cut) (hlo : cut ≤ flowsetLength)
    (hhi : flowsetLength < cut + 4) (hleft : words ≤ left) :
    ∃ records,
      (∀ total, walkWords m pkt words offset (.field left total)
        = .field (left - words) (total + fieldsLength records)) ∧
      (cut = flowsetLength →
        readTemplateFields m pkt flowsetLength (left + 1) offset = .error .rejected) ∧
      (cut < flowsetLength → n < pkt + cut + 4 →
        readTemplateFields m pkt flowsetLength (left + 1) offset = .error .outOfBounds) ∧
      (cut < flowsetLength → pkt + cut + 4 ≤ n → words < left →
        readTemplateFields m pkt flowsetLength (left + 1) offset = .error .rejected) ∧
      (cut < flowsetLength → pkt + cut + 4 ≤ n → words = left →
        ∃ record, record.recordLength.toNat = numberAt m (pkt + cut + 2) ∧
          readTemplateFields m pkt flowsetLength (left + 1) offset
            = .ok (records ++ [record], cut + 4)) := by
  obtain ⟨records, hread, hwalk⟩ :=
    readTemplateFields_prefix h hflowset (show offset + 4 * words ≤ flowsetLength by omega)
  have hread := hread (left - words + 1)
  rw [← Nat.add_assoc, Nat.add_sub_cancel' hleft, hcut] at hread
  refine ⟨records, fun total => ?_, fun hend => ?_, fun hend hout => ?_, fun hend hfit hlt => ?_,
    fun hend hfit heq => ?_⟩
  · have hwalk := hwalk 0 (left - words) total
    rwa [Nat.add_zero, Nat.add_sub_cancel' hleft] at hwalk
  · rw [hread, readTemplateFields, rejectIf_of hend.ge]
    rfl
  · rw [hread, readTemplateFields, rejectIf_of_not hend.not_ge, ok_bind,
      h.readTemplateRecord_outside hout]
    rfl
  · obtain ⟨record, hrecord, -⟩ := h.readTemplateRecord_inside hfit
    obtain ⟨further, hfurther⟩ : ∃ further, left - words = further + 1 :=
      ⟨left - words - 1, by omega⟩
    rw [hread, readTemplateFields, rejectIf_of_not hend.not_ge, ok_bind, hrecord, ok_bind, hfurther,
      readTemplateFields, rejectIf_of (show cut + 4 ≥ flowsetLength by omega)]
    rfl
  · obtain ⟨record, hrecord, hlength⟩ := h.readTemplateRecord_inside hfit
    refine ⟨record, hlength, ?_⟩
    rw [hread, readTemplateFields, rejectIf_of_not hend.not_ge, ok_bind, hrecord, ok_bind, heq,
      Nat.sub_self, readTemplateFields]
    rfl

/-! ### The templates of a flowset -/

/-- A header that reaches behind the datagram. -/
theorem readDataTemplate_outside (h : m.EndsAt n) (hp : n < pkt + offset + 4) :
    readDataTemplate currentInaccurateTime m pkt flowsetLength offset = .error .outOfBounds := by
  have hlast := h.readNtohs_outside (p := pkt + offset + 2) (by omega)
  rw [readDataTemplate]
  by_cases hfirst : pkt + offset + 2 ≤ n
  · obtain ⟨templateId, hid, -⟩ := h.readNtohs_inside hfirst
    rw [hid, ok_bind, hlast]
    rfl
  · rw [h.readNtohs_outside (by omega)]
    rfl

/-- A template whose fields are turned down or read outside. -/
theorem readDataTemplate_of_error (h : m.EndsAt n) (hp : pkt + offset + 4 ≤ n) {fault : Fault}
    (hfields : readTemplateFields m pkt flowsetLength (numberAt m (pkt + offset + 2)) (offset + 4)
      = .error fault) :
    readDataTemplate currentInaccurateTime m pkt flowsetLength offset = .error fault := by
  obtain ⟨templateId, hid, -⟩ := h.readNtohs_inside (p := pkt + offset) (by omega)
  obtain ⟨fieldsCount, hcount, hnumber⟩ := h.readNtohs_inside (p := pkt + offset + 2) (by omega)
  rw [readDataTemplate, hid, ok_bind, hcount, ok_bind, hnumber, hfields]
  rfl

/-- A template whose fields are read is stored, unless they take no bytes. -/
theorem readDataTemplate_of_ok (h : m.EndsAt n) (hp : pkt + offset + 4 ≤ n)
    {fields : List TemplateRecord × ℕ}
    (hfields : readTemplateFields m pkt flowsetLength (numberAt m (pkt + offset + 2)) (offset + 4)
      = .ok fields) :
    if fieldsLength fields.1 = 0 then
      readDataTemplate currentInaccurateTime m pkt flowsetLength offset = .error .rejected
    else ∃ learned,
      readDataTemplate currentInaccurateTime m pkt flowsetLength offset = .ok learned ∧
        learned.last = pkt + fields.2 := by
  obtain ⟨templateId, hid, -⟩ := h.readNtohs_inside (p := pkt + offset) (by omega)
  obtain ⟨fieldsCount, hcount, hnumber⟩ := h.readNtohs_inside (p := pkt + offset + 2) (by omega)
  obtain ⟨hlength, -, hle⟩ := readTemplateFields_spec hfields
  have htotal : (totalSize (fields.1.map TemplateRecord.recordLength)).toNat
      = fieldsLength fields.1 := by
    have hsum := (@sum_toNat_le (fields.1.map TemplateRecord.recordLength))
      (by simpa using hle)
    have hlt := numberAt_lt (m := m) (p := pkt + offset + 2)
    rw [List.length_map, hlength] at hsum
    rw [totalSize_toNat, fieldsLength, List.map_map, Function.comp_def]
    calc _ ≤ numberAt m (pkt + offset + 2) * 65535 := hsum
      _ ≤ 65535 * 65535 := Nat.mul_le_mul_right _ (by omega)
      _ < 2 ^ 32 := by norm_num
  have hzero : totalSize (fields.1.map TemplateRecord.recordLength) = 0
      ↔ fieldsLength fields.1 = 0 := by
    rw [← htotal, ← UInt32.toNat_inj]
    rfl
  rw [readDataTemplate, hid, ok_bind, hcount, ok_bind, hnumber, hfields, ok_bind]
  dsimp only
  split
  · rename_i hnone
    rw [rejectIf_of (hzero.mpr hnone)]
    rfl
  · rename_i hsome
    rw [rejectIf_of_not fun hnone => hsome (hzero.mp hnone)]
    exact ⟨_, rfl, rfl⟩

/-- A template without fields is rejected. -/
theorem readDataTemplate_of_no_fields (h : m.EndsAt n) (hp : pkt + offset + 4 ≤ n)
    (hcount : numberAt m (pkt + offset + 2) = 0) :
    readDataTemplate currentInaccurateTime m pkt flowsetLength offset = .error .rejected := by
  have hfields : readTemplateFields m pkt flowsetLength (numberAt m (pkt + offset + 2)) (offset + 4)
      = .ok ([], offset + 4) := by
    rw [hcount]
    rfl
  have hempty := (@readDataTemplate_of_ok _ _ _ _ _ currentInaccurateTime) h hp hfields
  simpa [fieldsLength] using hempty

/-- The templates end in the flowset, and nothing is read outside. -/
def EndsInside (stop : ℕ) (result : List LearnedTemplate × Except Fault Unit) : Prop :=
  Clean result.2 ∧ ∀ learned ∈ result.1, learned.last ≤ stop

theorem endsInside_rejected {stop : ℕ} : EndsInside stop ([], .error .rejected) :=
  ⟨clean_rejected, by simp⟩

theorem not_endsInside_outOfBounds {stop : ℕ} : ¬ EndsInside stop ([], .error .outOfBounds) :=
  fun h => absurd h.1 (by simp [Clean])

/-- What is left of the loop over the templates, once one of them is read. -/
theorem readDataTemplates_of_error {fuel : ℕ} {fault : Fault} (hoffset : offset < flowsetLength)
    (h : readDataTemplate currentInaccurateTime m pkt flowsetLength offset = .error fault) :
    readDataTemplates currentInaccurateTime m pkt flowsetLength (fuel + 1) offset
      = ([], .error fault) := by
  rw [readDataTemplates, if_pos hoffset, h]

/-- After one template, it is the rest of the loop that may leave the flowset. -/
theorem endsInside_readDataTemplates_of_ok {fuel stop : ℕ} {learned : LearnedTemplate}
    (hoffset : offset < flowsetLength)
    (h : readDataTemplate currentInaccurateTime m pkt flowsetLength offset = .ok learned) :
    EndsInside stop
        (readDataTemplates currentInaccurateTime m pkt flowsetLength (fuel + 1) offset) ↔
      learned.last ≤ stop ∧ EndsInside stop
        (readDataTemplates currentInaccurateTime m pkt flowsetLength fuel (learned.last - pkt)) := by
  rw [readDataTemplates, if_pos hoffset, h]
  simp only [EndsInside, List.forall_mem_cons]
  exact and_left_comm

/-- **The templates stay in their flowset exactly if the word that is cut does no harm.** -/
theorem endsInside_readDataTemplates_iff (h : m.EndsAt n) (hflowset : pkt + flowsetLength ≤ n)
    {fuel words cut : ℕ} (hcut : offset + 4 * words = cut) (hlo : cut ≤ flowsetLength)
    (hhi : flowsetLength < cut + 4) (hfuel : flowsetLength < fuel + offset) :
    EndsInside (pkt + flowsetLength)
        (readDataTemplates currentInaccurateTime m pkt flowsetLength fuel offset) ↔
      ¬ (cut < flowsetLength ∧
        (walkWords m pkt words offset .header).Overruns m n (pkt + cut)) := by
  induction fuel generalizing offset words with
  | zero => omega
  | succ fuel ih =>
    by_cases hoffset : offset < flowsetLength
    swap
    · -- the flowset is read to its end
      rw [readDataTemplates, if_neg hoffset]
      refine iff_of_true ⟨trivial, by simp⟩ ?_
      omega
    cases words with
    | zero =>
      -- the header is in the word that is cut
      obtain rfl : offset = cut := by omega
      by_cases hout : n < pkt + offset + 4
      · rw [readDataTemplates_of_error hoffset (readDataTemplate_outside h hout)]
        exact iff_of_false not_endsInside_outOfBounds (not_not.mpr ⟨hoffset, hout⟩)
      · have hreject : readDataTemplate currentInaccurateTime m pkt flowsetLength offset
            = .error .rejected := by
          rcases hcount : numberAt m (pkt + offset + 2) with - | left
          · exact readDataTemplate_of_no_fields h (by omega) hcount
          · refine readDataTemplate_of_error h (by omega) ?_
            rw [hcount, readTemplateFields, rejectIf_of (by omega)]
            rfl
        rw [readDataTemplates_of_error hoffset hreject]
        exact iff_of_true endsInside_rejected fun hcontra => hout hcontra.2
    | succ words =>
      have hfit : pkt + offset + 4 ≤ n := by omega
      rw [walkWords]
      rcases hcount : numberAt m (pkt + offset + 2) with - | left
      · -- a template without fields
        rw [readDataTemplates_of_error hoffset (readDataTemplate_of_no_fields h hfit hcount),
          TemplateWalk.next, walkWords_stopped]
        exact iff_of_true endsInside_rejected fun hcontra => hcontra.2
      rw [TemplateWalk.next]
      rcases Nat.lt_or_ge left words with hshort | hlong
      · -- all fields are in complete words
        obtain ⟨records, hread, hwalk⟩ :=
          readTemplateFields_fit h hflowset
            (show offset + 4 + 4 * (left + 1) ≤ flowsetLength by omega)
        rw [← hcount] at hread
        have htemplate := (@readDataTemplate_of_ok _ _ _ _ _ currentInaccurateTime)
          h hfit hread
        have hwalk := hwalk (words - (left + 1)) 0
        rw [Nat.add_sub_cancel' hshort, Nat.zero_add] at hwalk
        rw [hwalk]
        split at htemplate
        · rename_i hnone
          rw [readDataTemplates_of_error hoffset htemplate, if_pos hnone, walkWords_stopped]
          exact iff_of_true endsInside_rejected fun hcontra => hcontra.2
        · rename_i hsome
          obtain ⟨learned, hlearned, hlast⟩ := htemplate
          rw [hcount] at hlast
          rw [endsInside_readDataTemplates_of_ok hoffset hlearned, if_neg hsome, hlast,
            Nat.add_sub_cancel_left, ← ih (by omega) (by omega)]
          exact and_iff_right (by omega)
      · -- a field is in the word that is cut
        obtain ⟨records, hwalk, hend, hout, hmore, hexact⟩ :=
          readTemplateFields_cut h hflowset (show offset + 4 + 4 * words = cut by omega) hlo hhi
            hlong
        rw [← hcount] at hend hout hmore hexact
        rw [hwalk]
        rcases hlo.eq_or_lt with heq | hlt
        · rw [readDataTemplates_of_error hoffset (readDataTemplate_of_error h hfit (hend heq))]
          exact iff_of_true endsInside_rejected fun hcontra => absurd heq hcontra.1.ne
        by_cases hbehind : n < pkt + cut + 4
        · rw [readDataTemplates_of_error hoffset
            (readDataTemplate_of_error h hfit (hout hlt hbehind))]
          refine iff_of_false not_endsInside_outOfBounds (not_not.mpr ⟨hlt, ?_⟩)
          cases left - words with
          | zero => exact .inl hbehind
          | succ further => exact hbehind
        rcases hlong.eq_or_lt with heq | hlt'
        · obtain ⟨record, hlength, hread⟩ := hexact hlt (by omega) heq
          have htemplate := (@readDataTemplate_of_ok _ _ _ _ _ currentInaccurateTime)
            h hfit hread
          have hsum : fieldsLength (records ++ [record])
              = fieldsLength records + numberAt m (pkt + cut + 2) := by
            rw [← hlength]
            simp [fieldsLength]
          rw [heq, Nat.sub_self, Nat.zero_add]
          split at htemplate
          · rename_i hnone
            rw [readDataTemplates_of_error hoffset htemplate]
            refine iff_of_true endsInside_rejected fun hcontra => ?_
            exact hcontra.2.elim hbehind fun hsome => hsome (hsum ▸ hnone)
          · rename_i hsome
            obtain ⟨learned, hlearned, hlast⟩ := htemplate
            rw [endsInside_readDataTemplates_of_ok hoffset hlearned, hlast]
            refine iff_of_false (fun hcontra => ?_) (not_not.mpr ⟨hlt, .inr (hsum ▸ hsome)⟩)
            have hle := hcontra.1
            dsimp only at hle
            omega
        · rw [readDataTemplates_of_error hoffset
            (readDataTemplate_of_error h hfit (hmore hlt (by omega) hlt'))]
          obtain ⟨further, hfurther⟩ : ∃ further, left - words = further + 1 :=
            ⟨left - words - 1, by omega⟩
          rw [hfurther]
          exact iff_of_true endsInside_rejected fun hcontra => hbehind hcontra.2

/-- A flowset of templates that does harm. -/
def TemplateFlowsetOverruns (m : Memory) (n pkt : ℕ) : Prop :=
  let flowsetLength := numberAt m (pkt + 2)
  numberAt m pkt = 0 ∧ 4 ≤ flowsetLength ∧ pkt + flowsetLength ≤ n ∧ flowsetLength % 4 ≠ 0 ∧
    (walkWords m pkt (flowsetLength / 4 - 1) 4 .header).Overruns m n
      (pkt + flowsetLength / 4 * 4)

instance (m : Memory) (n pkt : ℕ) : Decidable (TemplateFlowsetOverruns m n pkt) := by
  unfold TemplateFlowsetOverruns
  infer_instance

/-- A template flowset stays inside exactly if the walk over its words does. -/
theorem endsInside_processNetflowV9Template_iff (h : m.EndsAt n) (hid : numberAt m pkt = 0)
    (hheader : pkt + 4 ≤ n) (hflowset : pkt + numberAt m (pkt + 2) ≤ n) :
    EndsInside (pkt + numberAt m (pkt + 2))
        (processNetflowV9Template currentInaccurateTime m pkt (numberAt m (pkt + 2))) ↔
      ¬ TemplateFlowsetOverruns m n pkt := by
  obtain ⟨flowsetId, hread, hnumber⟩ := h.readNtohs_inside (p := pkt) (by omega)
  have hzero : ¬ flowsetId ≠ 0 := by
    rw [not_not, ← UInt16.toNat_inj, hnumber, hid]
    rfl
  rw [processNetflowV9Template, hread]
  simp only [hzero, if_false]
  generalize hlength : numberAt m (pkt + 2) = flowsetLength at *
  by_cases hshort : flowsetLength < 4
  · rw [if_pos hshort]
    refine iff_of_true endsInside_rejected fun hcontra => ?_
    rw [TemplateFlowsetOverruns, hlength] at hcontra
    exact absurd hcontra.2.1 (by omega)
  · rw [if_neg hshort, endsInside_readDataTemplates_iff h hflowset
      (show 4 + 4 * (flowsetLength / 4 - 1) = flowsetLength / 4 * 4 by omega) (by omega) (by omega)
      (by omega),
      TemplateFlowsetOverruns, hlength]
    refine not_congr ⟨fun hcut => ⟨hid, by omega, hflowset, by omega, hcut.2⟩, ?_⟩
    rintro ⟨-, -, -, hmod, hoverruns⟩
    exact ⟨by omega, hoverruns⟩

/-- No template begins in front of its flowset. -/
theorem le_first_readDataTemplates {fuel : ℕ} {learned : LearnedTemplate}
    (h : learned ∈ (readDataTemplates currentInaccurateTime m pkt flowsetLength fuel offset).1) :
    pkt ≤ learned.first := by
  induction fuel generalizing offset with
  | zero => simp [readDataTemplates] at h
  | succ fuel ih =>
    rw [readDataTemplates] at h
    split at h
    · split at h
      · simp at h
      · rename_i first hfirst
        rcases List.mem_cons.mp h with rfl | h
        · simp only [readDataTemplate, bind_eq_ok_iff, pure_eq_ok_iff] at hfirst
          obtain ⟨-, -, -, -, -, -, -, -, rfl⟩ := hfirst
          exact Nat.le_add_right pkt offset
        · exact ih h
    · simp at h

theorem le_first_processNetflowV9Template {learned : LearnedTemplate}
    (h : learned ∈ (processNetflowV9Template currentInaccurateTime m pkt flowsetLength).1) :
    pkt ≤ learned.first := by
  rw [processNetflowV9Template] at h
  split at h
  · simp at h
  · split at h
    · simp at h
    · split at h
      · simp at h
      · exact le_first_readDataTemplates h

/-! ### Options templates -/

/-- A zone is read without a fault if its records are. -/
theorem readZone_clean {α : Type} {readRecord : ℕ → Except Fault α}
    {zoneAddress optionsFlowsetEnd length fuel : ℕ} (hfuel : length - offset < fuel)
    (h : ∀ p, p + 4 ≤ optionsFlowsetEnd → Clean (readRecord p)) :
    Clean (readZone readRecord zoneAddress optionsFlowsetEnd length fuel offset) := by
  induction fuel generalizing offset with
  | zero => exact absurd hfuel (Nat.not_lt_zero _)
  | succ fuel ih =>
    rw [readZone]
    split
    · refine (clean_rejectIf _).bind fun _ hfits => ?_
      rw [rejectIf_eq_ok_iff] at hfits
      exact (h _ (by omega)).bind fun _ _ => (ih (by omega)).bind fun _ _ => clean_pure _
    · exact clean_pure _

theorem readTemplateRecord_clean (h : m.Readable 0 n) (hp : p + 4 ≤ n) :
    Clean (readTemplateRecord m p) :=
  (h.clean_readNtohs (Nat.zero_le p) (by omega)).bind fun _ _ =>
    (h.clean_readNtohs (Nat.zero_le _) (by omega)).bind fun _ _ => clean_pure _

theorem readScopeSize_clean (h : m.Readable 0 n) (hp : p + 4 ≤ n) : Clean (readScopeSize m p) :=
  (h.clean_readNtohs (Nat.zero_le _) (by omega)).bind fun _ _ => clean_pure _

/-- The reader of options templates compares every word with the end of the flowset. -/
theorem processNetflowV9OptionsTemplate_clean (h : m.Readable 0 n)
    (hflowset : pkt + flowsetLength ≤ n) :
    Clean (processNetflowV9OptionsTemplate currentInaccurateTime m pkt flowsetLength) := by
  refine (clean_rejectIf _).bind fun _ hheader => ?_
  rw [rejectIf_eq_ok_iff] at hheader
  refine (h.clean_readNtohs (Nat.zero_le _) (by omega)).bind fun templateId _ => ?_
  refine (h.clean_readNtohs (Nat.zero_le _) (by omega)).bind fun optionScopeLength _ => ?_
  refine (clean_rejectIf _).bind fun _ _ => (clean_rejectIf _).bind fun _ _ => ?_
  have hscopes : Clean (readZone (readScopeSize m) (pkt + 4 + 6) (pkt + flowsetLength)
      optionScopeLength.toNat (optionScopeLength.toNat + 1) 0) :=
    readZone_clean (by omega) fun p hp => readScopeSize_clean h (by omega)
  refine hscopes.bind fun scopes _ => ?_
  refine (h.clean_readNtohs (Nat.zero_le _) (by omega)).bind fun optionLength _ => ?_
  refine (clean_rejectIf _).bind fun _ _ => (clean_rejectIf _).bind fun _ _ => ?_
  have hrecords : Clean (readZone (readTemplateRecord m)
      (pkt + 4 + 6 + optionScopeLength.toNat) (pkt + flowsetLength) optionLength.toNat
      (optionLength.toNat + 1) 0) :=
    readZone_clean (by omega) fun p hp => readTemplateRecord_clean h (by omega)
  exact hrecords.bind fun records _ => (clean_rejectIf _).bind fun _ _ => clean_pure _

/-- An options template lies inside its flowset. -/
theorem processNetflowV9OptionsTemplate_inside {learned : LearnedTemplate}
    (h : processNetflowV9OptionsTemplate currentInaccurateTime m pkt flowsetLength = .ok learned) :
    pkt ≤ learned.first ∧ learned.last ≤ pkt + flowsetLength := by
  simp only [processNetflowV9OptionsTemplate, bind_eq_ok_iff, pure_eq_ok_iff,
    rejectIf_eq_ok_iff] at h
  obtain ⟨-, -, -, -, optionScopeLength, -, -, -, -, -, scopes, -, optionLength, -, -, -, -, hend,
    records, -, -, -, rfl⟩ := h
  dsimp only
  omega

/-! ### Flowsets -/

/-- The templates that the flowset at an offset stores. -/
def flowsetTemplates (currentInaccurateTime : Int64) (packet : Memory)
    (packetLength offset : ℕ) : List LearnedTemplate :=
  let flowsetLength := numberAt packet (offset + 2)
  if offset + 4 > packetLength ∨ offset + flowsetLength > packetLength then []
  else if numberAt packet offset = 0 then
    (processNetflowV9Template currentInaccurateTime packet offset flowsetLength).1
  else if numberAt packet offset = 1 then
    match processNetflowV9OptionsTemplate currentInaccurateTime packet offset flowsetLength with
    | .ok learned => [learned]
    | .error _ => []
  else []

variable {context : NetflowContext} {timeSec sourceId : UInt32} {s : CollectorState}

/-- The table after some templates of a peer are stored. -/
def storeAll (context : NetflowContext) (sourceId : UInt32) (learned : List LearnedTemplate)
    (table : TemplateTable) : TemplateTable :=
  learned.foldl (fun table fieldTemplate => (addUpdatePeerTemplate table sourceId
    fieldTemplate.template.templateId.toUInt32 context.clientAddressInStringFormat
    fieldTemplate.template).table) table

/-- The templates are stored one after the other. -/
theorem run_forM_storeTemplate (learned : List LearnedTemplate) (s : CollectorState) :
    (learned.forM fun fieldTemplate => storeTemplate context sourceId fieldTemplate.template) s
      = ({ s with templates := storeAll context sourceId learned s.templates }, .ok ()) := by
  induction learned generalizing s with
  | nil => rfl
  | cons first learned ih => exact ih _

/-- A template flowset stores what it has read, then ends as the reader does. -/
theorem run_processTemplateFlowset (s : CollectorState) :
    let result := processNetflowV9Template context.currentInaccurateTime m pkt flowsetLength
    processTemplateFlowset context sourceId m pkt flowsetLength s
      = ({ s with templates := storeAll context sourceId result.1 s.templates }, result.2) := by
  rw [processTemplateFlowset]
  dsimp only
  rw [bind_of_ok (run_forM_storeTemplate _ s)]
  rfl

/-- A data flowset stays inside, the stored templates being sound. -/
theorem clean_processNetflowV9Data (hs : s.templates.Sound)
    (h : m.Readable 0 flowsetLength) :
    Clean (processNetflowV9Data context timeSec sourceId m flowsetLength s).2 := by
  by_cases hshort : flowsetLength < 4
  · rw [processNetflowV9Data, rejectIf_of hshort]
    exact clean_rejected
  obtain ⟨flowsetId, hid⟩ := h.readNtohs le_rfl (by omega : 0 + 1 < flowsetLength)
  cases hfound : peerFindTemplate s.templates sourceId flowsetId.toUInt32
      context.clientAddressInStringFormat with
  | none =>
    rw [processNetflowV9Data_unknown hshort hid hfound]
    exact clean_ok ()
  | some t =>
    rw [processNetflowV9Data_known hshort hid hfound]
    have hspec := (@processNetflowV9Records_spec _ _ context timeSec)
      (hs _ _ _ _ hfound) h
    split at hspec
    · rw [hspec]
      exact clean_rejected
    · obtain ⟨u, hu⟩ := hspec.2.run s
      rw [hu]
      exact clean_ok u

/-- The templates of a flowset come from its own bytes. -/
def FlowsetTemplatesInside (currentInaccurateTime : Int64) (packet : Memory)
    (packetLength offset : ℕ) : Prop :=
  ∀ learned ∈ flowsetTemplates currentInaccurateTime packet packetLength offset,
    offset ≤ learned.first ∧ learned.last ≤ offset + numberAt packet (offset + 2)

theorem processFlowset_of_header {flowsetId flowsetLength : UInt16} (hheader : offset + 4 ≤ n)
    (hid : m.readNtohs offset = .ok flowsetId)
    (hlength : m.readNtohs (offset + 2) = .ok flowsetLength)
    (hflowset : offset + flowsetLength.toNat ≤ n) :
    processFlowset context timeSec sourceId m n offset
      = processFlowsetOfId context timeSec sourceId m offset flowsetId flowsetLength := by
  rw [processFlowset, rejectIf_of_not (by omega), liftM_ok_bind, rejectIf_of_not (by omega),
    liftM_ok_bind, hid, liftM_ok_bind, hlength, liftM_ok_bind, rejectIf_of_not (by omega),
    liftM_ok_bind]

/-- Without space for its header, or for itself, a flowset is turned down. -/
theorem processFlowset_rejected (h : m.EndsAt n)
    (hspace : offset + 4 > n ∨ offset + numberAt m (offset + 2) > n) :
    processFlowset context timeSec sourceId m n offset s = (s, .error .rejected) := by
  by_cases hend : offset ≥ n
  · rw [processFlowset, rejectIf_of hend]
    rfl
  by_cases hheader : offset + 4 > n
  · rw [processFlowset, rejectIf_of_not hend, liftM_ok_bind, rejectIf_of hheader]
    rfl
  · obtain ⟨flowsetId, hid, -⟩ := h.readNtohs_inside (p := offset) (by omega)
    obtain ⟨flowsetLength, hlength, hnumber⟩ :=
      h.readNtohs_inside (p := offset + 2) (by omega)
    have hflowset := hnumber ▸ hspace.resolve_left hheader
    rw [processFlowset, rejectIf_of_not hend, liftM_ok_bind, rejectIf_of_not hheader,
      liftM_ok_bind, hid, liftM_ok_bind, hlength, liftM_ok_bind, rejectIf_of hflowset]
    rfl

theorem clean_bind_return {p : Collect Unit} {next : ℕ} :
    Clean ((do p; return next : Collect ℕ) s).2 ↔ Clean (p s).2 := by
  rw [bind_run]
  rcases p s with ⟨s', fault | u⟩ <;> rfl

/-- An options template flowset stays inside. -/
theorem clean_processOptionsTemplateFlowset (h : m.Readable 0 n)
    (hflowset : pkt + flowsetLength ≤ n) :
    Clean (processOptionsTemplateFlowset context sourceId m pkt flowsetLength s).2 := by
  have hclean := (@processNetflowV9OptionsTemplate_clean _ _ _ _ context.currentInaccurateTime) h
      hflowset
  rw [processOptionsTemplateFlowset, bind_run, liftM_run]
  revert hclean
  cases processNetflowV9OptionsTemplate context.currentInaccurateTime m pkt flowsetLength with
  | error fault => exact id
  | ok learned => exact fun _ => clean_ok ()

/-- Only templates of data flowsets are read outside. -/
theorem clean_processFlowsetOfId_iff (h : m.Readable 0 n) (hs : s.templates.Sound)
    {flowsetId flowsetLength : UInt16} (hflowset : offset + flowsetLength.toNat ≤ n) :
    Clean (processFlowsetOfId context timeSec sourceId m offset flowsetId flowsetLength s).2 ↔
      (flowsetId = 0 → Clean (processNetflowV9Template context.currentInaccurateTime m offset
        flowsetLength.toNat).2) := by
  rw [processFlowsetOfId]
  split
  · rename_i hzero
    rw [clean_bind_return, run_processTemplateFlowset]
    exact ⟨fun hclean _ => hclean, fun hclean => hclean hzero⟩
  · rename_i hzero
    refine iff_of_true ?_ fun hcontra => absurd hcontra hzero
    split
    · exact clean_bind_return.mpr (clean_processOptionsTemplateFlowset h hflowset)
    · split
      · exact clean_ok _
      · refine clean_bind_return.mpr (clean_processNetflowV9Data hs ?_)
        exact (h.shift offset).mono (by omega) (by omega)

/-- A flowset that has space in the datagram, by its id. -/
theorem processFlowsetOfId_inside_iff (h : m.EndsAt n) (hs : s.templates.Sound)
    {flowsetId flowsetLength : UInt16} (hheader : offset + 4 ≤ n)
    (hflowset : offset + flowsetLength.toNat ≤ n) (hid : flowsetId.toNat = numberAt m offset)
    (hlength : flowsetLength.toNat = numberAt m (offset + 2)) :
    Clean (processFlowsetOfId context timeSec sourceId m offset flowsetId flowsetLength s).2 ∧
        FlowsetTemplatesInside context.currentInaccurateTime m n offset ↔
      ¬ TemplateFlowsetOverruns m n offset := by
  have hspace : ¬ (offset + 4 > n ∨ offset + numberAt m (offset + 2) > n) := by
    rw [← hlength]
    omega
  rw [clean_processFlowsetOfId_iff h.1 hs hflowset, FlowsetTemplatesInside, flowsetTemplates,
    if_neg hspace]
  by_cases hzero : flowsetId = 0
  · -- a flowset of templates
    have hnumber : numberAt m offset = 0 := by rw [← hid, hzero]; rfl
    rw [if_pos hnumber, ← (@endsInside_processNetflowV9Template_iff _ _ _
        context.currentInaccurateTime) h hnumber hheader (hlength ▸ hflowset),
      EndsInside, ← hlength, forall_prop_of_true hzero]
    refine and_congr_right fun _ => ⟨fun hinside learned hmem => (hinside learned hmem).2, ?_⟩
    exact fun hinside learned hmem =>
      ⟨le_first_processNetflowV9Template hmem, hinside learned hmem⟩
  have hne : numberAt m offset ≠ 0 := by
    rw [← hid]
    exact fun hcontra => hzero (UInt16.toNat_inj.mp hcontra)
  rw [if_neg hne]
  refine iff_of_true ⟨fun hcontra => absurd hcontra hzero, ?_⟩ fun hcontra => hne hcontra.1
  split
  · -- an options template
    cases hlearned : processNetflowV9OptionsTemplate context.currentInaccurateTime m offset
        (numberAt m (offset + 2)) with
    | error fault => simp
    | ok learned => simpa using processNetflowV9OptionsTemplate_inside hlearned
  · simp

/-- The body of the loop stays inside exactly if the flowset does not overrun. -/
theorem processFlowset_inside_iff (h : m.EndsAt n) (hs : s.templates.Sound) :
    Clean (processFlowset context timeSec sourceId m n offset s).2 ∧
        FlowsetTemplatesInside context.currentInaccurateTime m n offset ↔
      ¬ TemplateFlowsetOverruns m n offset := by
  by_cases hspace : offset + 4 > n ∨ offset + numberAt m (offset + 2) > n
  · rw [processFlowset_rejected h hspace]
    refine iff_of_true ⟨clean_rejected, ?_⟩ fun hcontra => ?_
    · rw [FlowsetTemplatesInside, flowsetTemplates, if_pos hspace]
      simp
    · obtain ⟨-, hfour, hflowset, -⟩ := hcontra
      omega
  · obtain ⟨flowsetId, hid, hidNumber⟩ := h.readNtohs_inside (p := offset) (by omega)
    obtain ⟨flowsetLength, hlength, hlengthNumber⟩ :=
      h.readNtohs_inside (p := offset + 2) (by omega)
    rw [processFlowset_of_header (by omega) hid hlength (by omega)]
    exact processFlowsetOfId_inside_iff h hs (by omega) (by omega) hidNumber hlengthNumber

/-! ### Datagrams -/

/-- The offsets that the loop over the flowsets gets to. -/
def visitedFlowsets (context : NetflowContext) (timeSec sourceId : UInt32) (packet : Memory)
    (packetLength : ℕ) : (left offset : ℕ) → CollectorState → List ℕ
  | 0, _, _ => []
  | left + 1, offset, s =>
      offset :: match processFlowset context timeSec sourceId packet packetLength offset s with
        | (s', .ok next) =>
            if next = packetLength then []
            else visitedFlowsets context timeSec sourceId packet packetLength left next s'
        | (_, .error _) => []

/-- The offsets of the flowsets that are processed for a datagram. -/
def visitedOffsets (context : NetflowContext) (packet : Memory) (packetLength : ℕ)
    (s : CollectorState) : List ℕ :=
  match packet.readNtohl 8, packet.readNtohl 16 with
  | .ok timeSec, .ok sourceId =>
      if packetLength < 20 ∨ numberAt packet 2 > setsPerPacketMaximumNumber then []
      else visitedFlowsets context timeSec sourceId packet packetLength (numberAt packet 2) 20 s
  | _, _ => []

/-- All flowsets stay inside exactly if every visited template flowset does. -/
theorem processFlowsets_inside_iff (h : m.EndsAt n) {left : ℕ} (hs : s.templates.Sound) :
    Clean (processFlowsets context timeSec sourceId m n left offset s).2 ∧
        (∀ visited ∈ visitedFlowsets context timeSec sourceId m n left offset s,
          FlowsetTemplatesInside context.currentInaccurateTime m n visited) ↔
      ∀ visited ∈ visitedFlowsets context timeSec sourceId m n left offset s,
        ¬ TemplateFlowsetOverruns m n visited := by
  induction left generalizing offset s with
  | zero => exact iff_of_true ⟨clean_ok (), by simp [visitedFlowsets]⟩ (by simp [visitedFlowsets])
  | succ left ih =>
    have hstep := (@processFlowset_inside_iff _ _ offset context timeSec sourceId) h hs
    have hs' : (processFlowset context timeSec sourceId m n offset s).1.templates.Sound :=
      (preserves_processFlowset (fun _ _ ht => preserves_storeTemplate_sound ht)
        (fun _ t m => preserves_netflow9Record_templates _ t m) s hs).1
    rw [visitedFlowsets, processFlowsets, bind_run, List.forall_mem_cons, List.forall_mem_cons,
      ← hstep]
    revert hs'
    rcases processFlowset context timeSec sourceId m n offset s with ⟨s', fault | next⟩
    · intro _
      simp only [List.not_mem_nil, false_implies, implies_true, and_true]
      exact Iff.rfl
    · intro hs'
      dsimp only
      split
      · simp
      · rw [← ih hs']
        exact ⟨fun hall => ⟨⟨clean_ok _, hall.2.1⟩, hall.1, hall.2.2⟩,
          fun hall => ⟨hall.2.1, hall.1.2, hall.2.2⟩⟩

/-- The datagram is read inside its bounds, and the templates that are stored come from the
bytes of their own flowsets. -/
def TemplatesStayInside (context : NetflowContext) (packet : List UInt8) (s : CollectorState) :
    Prop :=
  Clean (processNetflowPacketV9 context (ofBytes packet) packet.length s).2 ∧
    ∀ offset ∈ visitedOffsets context (ofBytes packet) packet.length s,
      FlowsetTemplatesInside context.currentInaccurateTime (ofBytes packet) packet.length offset

/-- **A datagram is read inside its bounds, and templates are made of the bytes of their own
flowsets, exactly if no flowset that the loop gets to overruns.** -/
theorem templates_stay_inside_iff {s : CollectorState} (hs : NetflowV9Reachable s)
    (context : NetflowContext) (packet : List UInt8) :
    TemplatesStayInside context packet s ↔
      ∀ offset ∈ visitedOffsets context (ofBytes packet) packet.length s,
        ¬ TemplateFlowsetOverruns (ofBytes packet) packet.length offset := by
  have h := endsAt_ofBytes packet
  rw [TemplatesStayInside, processNetflowPacketV9]
  by_cases hshort : packet.length < 20
  · have hvisited : visitedOffsets context (ofBytes packet) packet.length s = [] := by
      rw [visitedOffsets]
      split
      · rw [if_pos (.inl hshort)]
      · rfl
    rw [hvisited, rejectIf_of hshort]
    exact iff_of_true ⟨clean_rejected, by simp⟩ (by simp)
  obtain ⟨count, hcount, hnumber⟩ := h.readNtohs_inside (p := 2) (by omega)
  obtain ⟨timeSec, htime⟩ := h.1.readNtohl (p := 8) (Nat.zero_le _) (by omega)
  obtain ⟨sourceId, hsource⟩ := h.1.readNtohl (p := 16) (Nat.zero_le _) (by omega)
  rw [visitedOffsets, htime, hsource, rejectIf_of_not hshort, liftM_ok_bind, hcount,
    liftM_ok_bind, hnumber]
  dsimp only
  by_cases hmany : numberAt (ofBytes packet) 2 > setsPerPacketMaximumNumber
  · rw [if_pos (.inr hmany), rejectIf_of hmany]
    exact iff_of_true ⟨clean_rejected, by simp⟩ (by simp)
  · rw [if_neg (by omega), rejectIf_of_not hmany, liftM_ok_bind, liftM_ok_bind, liftM_ok_bind]
    exact processFlowsets_inside_iff h hs.sound

/-- A complete template stays inside. -/
theorem addressTemplate_stays_inside : TemplatesStayInside exporter addressTemplate {} :=
  (templates_stay_inside_iff .start exporter addressTemplate).mpr (by decide)

/-- A datagram that ends in the middle of the header of a template. -/
def cutTemplate : List UInt8 := netflow9Header 1 ++ [0, 0, 0, 6, 1, 0]

theorem cutTemplate_not_inside :
    (processNetflowPacketV9 exporter (ofBytes cutTemplate) cutTemplate.length {}).2
        = .error .outOfBounds ∧ ¬ TemplatesStayInside exporter cutTemplate {} := by
  have houtside : (processNetflowPacketV9 exporter (ofBytes cutTemplate) cutTemplate.length {}).2
      = .error .outOfBounds := rfl
  exact ⟨houtside, fun hinside => absurd (houtside ▸ hinside.1) (by decide)⟩

end FastNetMon
