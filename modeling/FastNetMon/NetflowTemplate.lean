/-
FastNetMon/NetflowTemplate.lean

Flow templates and where they are kept (`netflow_template.hpp`,
`netflow_template_storage.cpp`).

A table maps a peer, which is the text of its address and its source id, to the
templates of this peer by their ids.  A template that is equal to the stored one,
time stamp aside, does not replace it.  Main result: what is found after an update
was found before or is the new template (`peerFindTemplate_addUpdate`).
-/
import Mathlib.Logic.Function.Basic
import Mathlib.Tactic
import FastNetMon.Texts

namespace FastNetMon

/-! ### Templates -/

/-- `netflow_template_type_t`. -/
inductive NetflowTemplateType
  | unknown
  | data
  | options
deriving DecidableEq, Repr

/-- `template_record_t`. -/
structure TemplateRecord where
  recordType : UInt32 := 0
  recordLength : UInt32 := 0
  enterpriseBit : Bool := false
  enterpriseNumber : UInt32 := 0
deriving DecidableEq, Repr

/-- `template_t`. -/
structure Template where
  templateId : UInt16 := 0
  numRecords : UInt32 := 0
  totalLength : UInt32 := 0
  optionScopeLength : UInt32 := 0
  ipfixVariableLengthElementsUsed : Bool := false
  timestamp : Int64 := 0
  type : NetflowTemplateType := .unknown
  records : List TemplateRecord := []
deriving DecidableEq, Repr

/-- `operator==(template_t, template_t)`; time stamps are not compared. -/
def Template.operatorEq (lhs rhs : Template) : Bool :=
  lhs.templateId == rhs.templateId && lhs.numRecords == rhs.numRecords &&
    lhs.totalLength == rhs.totalLength && lhs.optionScopeLength == rhs.optionScopeLength &&
    lhs.ipfixVariableLengthElementsUsed == rhs.ipfixVariableLengthElementsUsed &&
    lhs.type == rhs.type && lhs.records == rhs.records

/-! ### Tables -/

/-- The templates of each peer by their ids. -/
abbrev TemplateTable := Text → Option (UInt32 → Option Template)

/-- The key of a peer; the source id tells agents with one address apart. -/
def peerKey (clientAddressInStringFormat : Text) (sourceId : UInt32) : Text :=
  clientAddressInStringFormat ++ '_' :: decimal sourceId.toNat

/-- `peer_find_template`. -/
def peerFindTemplate (table : TemplateTable) (sourceId templateId : UInt32)
    (clientAddressInStringFormat : Text) : Option Template :=
  (table (peerKey clientAddressInStringFormat sourceId)).bind fun templates => templates templateId

/-- What `add_update_peer_template` reports. -/
structure TemplateUpdate where
  table : TemplateTable
  updated : Bool := false
  updatedExistingTemplate : Bool := false

/-- `add_update_peer_template`. -/
def addUpdatePeerTemplate (table : TemplateTable) (sourceId templateId : UInt32)
    (clientAddressInStringFormat : Text) (fieldTemplate : Template) : TemplateUpdate :=
  let key := peerKey clientAddressInStringFormat sourceId
  match table key with
  | none =>
      { table := Function.update table key
          (some (Function.update (fun _ => none) templateId (some fieldTemplate)))
        updated := true }
  | some templates =>
      match templates templateId with
      | none =>
          { table := Function.update table key
              (some (Function.update templates templateId (some fieldTemplate)))
            updated := true }
      | some known =>
          if !known.operatorEq fieldTemplate then
            { table := Function.update table key
                (some (Function.update templates templateId (some fieldTemplate)))
              updated := true
              updatedExistingTemplate := true }
          else { table }

/-- **What is found after an update was found before, or is the new template.** -/
theorem peerFindTemplate_addUpdate {table : TemplateTable} {sourceId templateId : UInt32}
    {client : Text} {fieldTemplate : Template} {sourceId' templateId' : UInt32} {client' : Text}
    {found : Template}
    (h : peerFindTemplate
      (addUpdatePeerTemplate table sourceId templateId client fieldTemplate).table
      sourceId' templateId' client' = some found) :
    peerFindTemplate table sourceId' templateId' client' = some found ∨ found = fieldTemplate := by
  have hupdate : ∀ templates : UInt32 → Option Template,
      (∀ t, templates templateId' = some t →
        peerFindTemplate table sourceId' templateId' client' = some t ∨
          peerKey client' sourceId' ≠ peerKey client sourceId) →
      peerFindTemplate (Function.update table (peerKey client sourceId)
        (some (Function.update templates templateId (some fieldTemplate))))
        sourceId' templateId' client' = some found →
      peerFindTemplate table sourceId' templateId' client' = some found ∨ found = fieldTemplate := by
    intro templates hold hfound
    rw [peerFindTemplate, Function.update_apply] at hfound
    split at hfound
    · rename_i hkey
      rw [Option.bind_some, Function.update_apply] at hfound
      split at hfound
      · exact .inr (Option.some.inj hfound).symm
      · exact (hold found hfound).imp_right fun hne => absurd hkey hne
    · exact .inl hfound
  rw [addUpdatePeerTemplate] at h
  split at h
  · exact hupdate _ (by simp) h
  · rename_i templates htemplates
    have hold : ∀ t, templates templateId' = some t →
        peerFindTemplate table sourceId' templateId' client' = some t ∨
          peerKey client' sourceId' ≠ peerKey client sourceId := by
      intro t ht
      by_cases hkey : peerKey client' sourceId' = peerKey client sourceId
      · exact .inl (by rw [peerFindTemplate, hkey, htemplates, Option.bind_some, ht])
      · exact .inr hkey
    split at h
    · exact hupdate _ hold h
    · split at h
      · exact hupdate _ hold h
      · exact .inl h

end FastNetMon
