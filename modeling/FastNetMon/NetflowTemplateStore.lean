/-
FastNetMon/NetflowTemplateStore.lean

The template store is a map.

Templates are kept by a key that joins the address of the peer and its source id
into one text.  The number behind the last underscore is the source id, so the key
tells the peers apart whatever the address is (`peerKey_inj`), and the store is
described by what one update does to what is found (`peerFindTemplate_update`).
Main result: over any sequence of updates, the store is the map from peers and
template ids to the template that was added last (`template_store_is_map`).
-/
import FastNetMon.NetflowTemplate

namespace FastNetMon

/-! ### Keys -/

/-- The digits behind the last underscore. -/
theorem takeWhile_reverse_peerKey (address : Text) (sourceId : UInt32) :
    (peerKey address sourceId).reverse.takeWhile Char.isDigit
      = (decimal sourceId.toNat).reverse := by
  rw [peerKey, List.reverse_append, List.reverse_cons, List.append_assoc,
    List.takeWhile_append_of_pos fun c hc => isDigit_of_mem_decimal (List.mem_reverse.mp hc)]
  simp

/-- A key determines the address and the source id. -/
theorem peerKey_inj {address address' : Text} {sourceId sourceId' : UInt32}
    (h : peerKey address sourceId = peerKey address' sourceId') :
    address = address' ∧ sourceId = sourceId' := by
  have hdigits : decimal sourceId.toNat = decimal sourceId'.toNat := by
    apply List.reverse_injective
    rw [← takeWhile_reverse_peerKey address, h, takeWhile_reverse_peerKey]
  have hid : sourceId = sourceId' := by
    apply UInt32.toNat_inj.mp
    rw [← ofDigitChars_decimal sourceId.toNat, hdigits, ofDigitChars_decimal]
  subst hid
  exact ⟨List.append_cancel_right h, rfl⟩

/-! ### Templates up to the time stamp -/

theorem operatorEq_iff {lhs rhs : Template} :
    lhs.operatorEq rhs = true ↔ { lhs with timestamp := 0 } = { rhs with timestamp := 0 } := by
  cases lhs
  cases rhs
  simp only [Template.operatorEq, Bool.and_eq_true, beq_iff_eq, Template.mk.injEq, true_and,
    and_assoc]

@[simp] theorem operatorEq_refl (fieldTemplate : Template) :
    fieldTemplate.operatorEq fieldTemplate = true :=
  operatorEq_iff.mpr rfl

/-! ### One update -/

/-- What a template is stored for. -/
structure TemplateKey where
  clientAddress : Text
  sourceId : UInt32
  templateId : UInt32
deriving DecidableEq, Repr

/-- `peer_find_template` for a key. -/
def TemplateTable.find (table : TemplateTable) (key : TemplateKey) : Option Template :=
  peerFindTemplate table key.sourceId key.templateId key.clientAddress

/-- `add_update_peer_template` for a key. -/
def TemplateTable.addUpdate (table : TemplateTable) (key : TemplateKey)
    (fieldTemplate : Template) : TemplateUpdate :=
  addUpdatePeerTemplate table key.sourceId key.templateId key.clientAddress fieldTemplate

variable {table : TemplateTable} {key key' : TemplateKey} {fieldTemplate : Template}

/-- What is found once the templates of one peer are replaced. -/
theorem find_update {templates : UInt32 → Option Template}
    (h : ∀ templateId, table.find { key with templateId } = templates templateId) :
    TemplateTable.find (Function.update table (peerKey key.clientAddress key.sourceId)
        (some (Function.update templates key.templateId (some fieldTemplate)))) key'
      = if key' = key then some fieldTemplate else table.find key' := by
  rw [TemplateTable.find, peerFindTemplate, Function.update_apply]
  by_cases hpeer : peerKey key'.clientAddress key'.sourceId
      = peerKey key.clientAddress key.sourceId
  · obtain ⟨haddress, hsource⟩ := peerKey_inj hpeer
    rw [if_pos hpeer, Option.bind_some, Function.update_apply]
    by_cases hid : key'.templateId = key.templateId
    · rw [if_pos hid, if_pos (by cases key; cases key'; simp_all)]
    · rw [if_neg hid, if_neg (fun heq => hid (congrArg TemplateKey.templateId heq)), ← h,
        ← haddress, ← hsource]
  · rw [if_neg hpeer, if_neg (fun heq => hpeer (by rw [heq])), TemplateTable.find,
      peerFindTemplate]

/-- **An update is a write to the map.**  It leaves an equal template in place, and
reports whether the key was new or its template was replaced. -/
theorem addUpdate_spec (table : TemplateTable) (key : TemplateKey) (fieldTemplate : Template) :
    (∀ key', (table.addUpdate key fieldTemplate).table.find key' =
      if key' = key ∧ ∀ stored, table.find key = some stored →
          stored.operatorEq fieldTemplate = false
        then some fieldTemplate else table.find key') ∧
    ((table.addUpdate key fieldTemplate).updated = true ↔
      ∀ stored, table.find key = some stored → stored.operatorEq fieldTemplate = false) ∧
    ((table.addUpdate key fieldTemplate).updatedExistingTemplate = true ↔
      ∃ stored, table.find key = some stored ∧ stored.operatorEq fieldTemplate = false) := by
  rw [TemplateTable.addUpdate, addUpdatePeerTemplate]
  cases hpeer : table (peerKey key.clientAddress key.sourceId) with
  | none =>
    have hnone : ∀ templateId, table.find { key with templateId } = none := by
      intro templateId
      rw [TemplateTable.find, peerFindTemplate, hpeer, Option.bind_none]
    have hkey : table.find key = none := hnone key.templateId
    refine ⟨fun key' => ?_, by simp [hkey], by simp [hkey]⟩
    rw [find_update (fun templateId => (hnone templateId : _ = (fun _ => none) templateId))]
    simp [hkey]
  | some templates =>
    have hsome : ∀ templateId, table.find { key with templateId } = templates templateId := by
      intro templateId
      rw [TemplateTable.find, peerFindTemplate, hpeer, Option.bind_some]
    have hkey : table.find key = templates key.templateId := hsome key.templateId
    simp only
    cases hknown : templates key.templateId with
    | none =>
      rw [hknown] at hkey
      refine ⟨fun key' => ?_, by simp [hkey], by simp [hkey]⟩
      rw [find_update hsome]
      simp [hkey]
    | some known =>
      rw [hknown] at hkey
      cases hequal : known.operatorEq fieldTemplate with
      | true => simp [hkey, hequal]
      | false =>
        simp only [hequal, Bool.not_false, if_true]
        refine ⟨fun key' => ?_, by simp [hkey, hequal], by simp [hkey, hequal]⟩
        refine (find_update hsome).trans ?_
        simp [hkey, hequal]

/-- Of two templates that differ, one changes the table. -/
theorem addUpdate_changes {t t' : Template} (h : t.operatorEq t' = false) (table : TemplateTable)
    (key : TemplateKey) :
    (table.addUpdate key t).table ≠ table ∨ (table.addUpdate key t').table ≠ table := by
  have hstored : ∀ {fieldTemplate}, (table.addUpdate key fieldTemplate).table = table →
      ∃ stored, table.find key = some stored ∧ stored.operatorEq fieldTemplate = true := by
    intro fieldTemplate hsame
    have hfind := (addUpdate_spec table key fieldTemplate).1 key
    rw [hsame] at hfind
    by_contra hnone
    have hnew : ∀ stored, table.find key = some stored →
        stored.operatorEq fieldTemplate = false := fun stored hstored =>
      Bool.eq_false_iff.mpr fun hequal => hnone ⟨stored, hstored, hequal⟩
    rw [if_pos ⟨rfl, hnew⟩] at hfind
    exact hnone ⟨fieldTemplate, hfind, operatorEq_refl fieldTemplate⟩
  by_contra hboth
  obtain ⟨hsame, hsame'⟩ := not_or.mp hboth
  obtain ⟨stored, hfound, hequal⟩ := hstored (not_not.mp hsame)
  obtain ⟨stored', hfound', hequal'⟩ := hstored (not_not.mp hsame')
  obtain rfl : stored = stored' := Option.some.inj (hfound.symm.trans hfound')
  rw [operatorEq_iff] at hequal hequal'
  rw [operatorEq_iff.mpr (hequal.symm.trans hequal')] at h
  cases h

/-! ### Any sequence of updates -/

/-- The store after some templates were added to an empty one. -/
def addAll (adds : List (TemplateKey × Template)) : TemplateTable :=
  adds.foldl (fun table add => (table.addUpdate add.1 add.2).table) fun _ => none

/-- The template that was added last for a key. -/
def lastAdded (adds : List (TemplateKey × Template)) (key : TemplateKey) : Option Template :=
  (adds.reverse.find? fun add => add.1 = key).map Prod.snd

theorem lastAdded_concat (adds : List (TemplateKey × Template)) (key key' : TemplateKey)
    (fieldTemplate : Template) :
    lastAdded (adds ++ [(key, fieldTemplate)]) key' =
      if key' = key then some fieldTemplate else lastAdded adds key' := by
  rw [lastAdded, List.reverse_append, List.reverse_cons, List.reverse_nil, List.nil_append,
    List.singleton_append, List.find?_cons]
  by_cases h : key' = key
  · simp [h]
  · simp [lastAdded, h, Ne.symm h]

/-- After some updates, what is found is what was added last or was there before, up to
the time stamp. -/
theorem find_foldl_addUpdate (adds : List (TemplateKey × Template)) (table : TemplateTable)
    (key : TemplateKey) :
    Option.Rel (fun found last => found.operatorEq last = true)
      ((adds.foldl (fun table add => (table.addUpdate add.1 add.2).table) table).find key)
      ((lastAdded adds key).or (table.find key)) := by
  induction adds using List.reverseRecOn generalizing key with
  | nil =>
    rw [List.foldl_nil, lastAdded, List.reverse_nil, List.find?_nil, Option.map_none, Option.none_or]
    cases table.find key with
    | none => exact .none
    | some stored => exact .some (operatorEq_refl stored)
  | append_singleton adds add ih =>
    obtain ⟨key', fieldTemplate⟩ := add
    rw [List.foldl_append, List.foldl_cons, List.foldl_nil, lastAdded_concat, (addUpdate_spec _ _ _).1]
    by_cases h : key = key'
    · subst h
      rw [if_pos (rfl : key = key), Option.some_or]
      split
      · exact .some (operatorEq_refl _)
      · rename_i hsame
        -- an equal template stands there already
        obtain ⟨stored, hstored, hequal⟩ : ∃ stored,
            (adds.foldl (fun table add => (table.addUpdate add.1 add.2).table) table).find key
              = some stored ∧ stored.operatorEq fieldTemplate = true := by
          simpa using hsame
        rw [hstored]
        exact .some hequal
    · rw [if_neg h, if_neg (fun hboth => h hboth.1)]
      exact ih key

/-- What is found is what was added last, up to the time stamp. -/
theorem find_addAll (adds : List (TemplateKey × Template)) (key : TemplateKey) :
    Option.Rel (fun found last => found.operatorEq last = true) ((addAll adds).find key)
      (lastAdded adds key) := by
  have hrel := find_foldl_addUpdate adds (fun _ => none) key
  have hnone : TemplateTable.find (fun _ => none) key = none := rfl
  rwa [hnone, Option.or_none] at hrel

theorem lastAdded_isSome_iff {adds : List (TemplateKey × Template)} :
    (lastAdded adds key).isSome ↔ ∃ fieldTemplate, (key, fieldTemplate) ∈ adds := by
  rw [lastAdded, Option.isSome_map, List.find?_isSome]
  constructor
  · rintro ⟨⟨key', fieldTemplate⟩, hmem, hkey⟩
    obtain rfl : key' = key := of_decide_eq_true hkey
    exact ⟨fieldTemplate, List.mem_reverse.mp hmem⟩
  · rintro ⟨fieldTemplate, hmem⟩
    exact ⟨(key, fieldTemplate), List.mem_reverse.mpr hmem, decide_eq_true rfl⟩

/-- **The template store is a map.**  After any additions, a template is found for
a key exactly if one was added, and it equals the last one.  One more addition
leaves every other key alone; it is reported as an update exactly if the key was new
or its template differs, and as a change of a template exactly in the second case. -/
theorem template_store_is_map (adds : List (TemplateKey × Template)) :
    (∀ key, ((addAll adds).find key).isSome ↔ ∃ fieldTemplate, (key, fieldTemplate) ∈ adds) ∧
    (∀ key found, (addAll adds).find key = some found →
      ∃ last, lastAdded adds key = some last ∧ found.operatorEq last = true) ∧
    ∀ key fieldTemplate,
      (∀ key', key' ≠ key →
        ((addAll adds).addUpdate key fieldTemplate).table.find key' = (addAll adds).find key') ∧
      (((addAll adds).addUpdate key fieldTemplate).updated = true ↔
        (addAll adds).find key = none ∨
          ∃ stored, (addAll adds).find key = some stored ∧
            stored.operatorEq fieldTemplate = false) ∧
      (((addAll adds).addUpdate key fieldTemplate).updatedExistingTemplate = true ↔
        ∃ stored, (addAll adds).find key = some stored ∧
          stored.operatorEq fieldTemplate = false) := by
  refine ⟨fun key => ?_, fun key found hfound => ?_, fun key fieldTemplate => ?_⟩
  · rw [← lastAdded_isSome_iff]
    have hrel := find_addAll adds key
    generalize (addAll adds).find key = found at hrel ⊢
    generalize lastAdded adds key = last at hrel ⊢
    cases hrel <;> simp
  · have hrel := find_addAll adds key
    rw [hfound] at hrel
    cases hlast : lastAdded adds key with
    | none =>
      rw [hlast] at hrel
      cases hrel
    | some last =>
      rw [hlast] at hrel
      cases hrel with
      | some hequal => exact ⟨last, rfl, hequal⟩
  · obtain ⟨hfind, hupdated, hexisting⟩ := addUpdate_spec (addAll adds) key fieldTemplate
    refine ⟨fun key' hne => ?_, hupdated.trans ?_, hexisting⟩
    · rw [hfind, if_neg fun hboth => hne hboth.1]
    · cases (addAll adds).find key <;> simp

end FastNetMon
