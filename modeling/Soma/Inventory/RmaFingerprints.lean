import Soma.Foundation.CanonicalCodec
import Soma.Inventory.Tables

/-!
The fingerprint column of `rma_lifecycle_projection`. Each writer of the row builds the
fingerprinted object itself. The corrections of the C10 and of the target, the receipt and
the open return write constants for columns they take to be empty; the Fault Tag writers
leave the C10 out. A row whose writers all stamped what it holds (`RmaWrite.StampsWhole`)
is identified by its fingerprint.
-/

namespace Soma.Inventory

open Foundation

/-- `rma_lifecycle_projection.state`. -/
def RmaState.text : RmaState → String
  | .promised => "promised"
  | .dispatched => "dispatched"
  | .received => "received"
  | .physicalConsequencePending => "physical_consequence_pending"
  | .returnOpen => "return_open"
  | .faultTagged => "fault_tagged"
  | .warehouseReceived => "warehouse_received"
  | .closedAccepted => "closed_accepted"
  | .returnRejected => "return_rejected"

theorem RmaState.text_injective : Function.Injective RmaState.text := by
  intro first second same
  cases first <;> cases second <;> first | rfl | exact absurd same (by decide)

/-- The projection row of an RMA with its fingerprint, and its current C10 alias. -/
structure StampedRma where
  projection : RmaProjection
  currentC10 : String
  inputFingerprint : String

/-- What a fingerprint is to identify: the row without its revision, and the C10. -/
def StampedRma.facts (row : StampedRma) : RmaProjection × String :=
  ({ row.projection with revision := 0 }, row.currentC10)

/-! ## Writers -/

/-- A value of a fingerprinted field. -/
inductive Scalar where
  | null
  | text (value : String)
  | flag (value : Bool)
  deriving DecidableEq

def Scalar.json : Scalar → Json
  | .null => .null
  | .text value => .str value
  | .flag value => .int (if value then 1 else 0)

def optionalText : Option String → Scalar
  | none => .null
  | some value => .text value

/-- The object of schema `SOMA_RMA_LIFECYCLE_V1`. -/
def rmaFields (row : RmaProjection) (currentC10 : Option String) : List (String × Scalar) :=
  [("schema", .text "SOMA_RMA_LIFECYCLE_V1"),
    ("rma_id", .text row.rmaId),
    ("state", .text row.state.text),
    ("current_target_device_part_unit_id", optionalText row.currentTargetDevicePartUnitId),
    ("direct_inbound_spare_part_unit_id", optionalText row.directInboundSparePartUnitId),
    ("return_device_part_unit_id", optionalText row.returnDevicePartUnitId),
    ("return_spare_part_unit_id", optionalText row.returnSparePartUnitId),
    ("return_obligation_open", .flag row.returnObligationOpen),
    ("active_fault_tag_membership_id", optionalText row.activeFaultTagMembershipId)] ++
  currentC10.toList.map fun c10 => ("current_c10", .text c10)

def rmaStamp (python : PythonLibrary) (row : RmaProjection) (currentC10 : Option String) :
    Except Raised String :=
  sha256CanonicalJson python
    (.obj ((rmaFields row currentC10).map fun field => (field.1, field.2.json)))

/-- A row with a state and a target and nothing else. -/
def bareProjection (rmaId : String) (state : RmaState) (target : Option String) :
    RmaProjection where
  rmaId
  state
  currentTargetDevicePartUnitId := target
  directInboundSparePartUnitId := none
  returnDevicePartUnitId := none
  returnSparePartUnitId := none
  returnObligationOpen := false
  activeFaultTagMembershipId := none
  revision := 1

def rmaProjectionFingerprint (python : PythonLibrary) (rmaId : String) (state : RmaState)
    (target : Option String) (currentC10 : String) : Except Raised String :=
  rmaStamp python (bareProjection rmaId state target) (some currentC10)

/-- The row `accept_authorization_batch` inserts. -/
def authorizeRma (python : PythonLibrary) (rmaId : String) (target : Option String)
    (c10 : String) : Except Raised StampedRma := do
  let inputFingerprint ← rmaProjectionFingerprint python rmaId .promised target c10
  return ⟨bareProjection rmaId .promised target, c10, inputFingerprint⟩

/-- The writers of the row once it is there, with what they write. -/
inductive RmaWrite where
  | correctC10 (newC10 : String)
  | setTargetAssignment (target : Option String)
  | recordRmaInboundReceipt (sparePartUnitId : String)
  /-- `accept_physical_consequence` with a selected return. -/
  | acceptPhysicalConsequence (returnDevice returnSpare : Option String)
  | updateRmaFaultTagProjection (membershipId : Option String)
  | rebuildRmaWarehouseState (membershipId : Option String) (state : RmaState)
      (obligationOpen : Bool)

/-- What a writer leaves of the row, past its checks. -/
def StampedRma.apply (python : PythonLibrary) (row : StampedRma) :
    RmaWrite → Except Raised StampedRma
  | .correctC10 newC10 => do
    let projection := { row.projection with revision := row.projection.revision + 1 }
    let inputFingerprint ← rmaProjectionFingerprint python row.projection.rmaId
      row.projection.state row.projection.currentTargetDevicePartUnitId newC10
    return ⟨projection, newC10, inputFingerprint⟩
  | .setTargetAssignment target => do
    let projection := { row.projection with
      currentTargetDevicePartUnitId := target
      revision := row.projection.revision + 1 }
    let inputFingerprint ← rmaProjectionFingerprint python row.projection.rmaId
      row.projection.state target row.currentC10
    return ⟨projection, row.currentC10, inputFingerprint⟩
  | .recordRmaInboundReceipt sparePartUnitId => do
    ensure (row.projection.directInboundSparePartUnitId = none)
      (invStale "RMA changed during inbound receipt")
    let projection := { row.projection with
      state := .received
      directInboundSparePartUnitId := some sparePartUnitId
      revision := row.projection.revision + 1 }
    let inputFingerprint ← rmaStamp python { projection with
      returnDevicePartUnitId := none
      returnSparePartUnitId := none
      returnObligationOpen := false
      activeFaultTagMembershipId := none } (some row.currentC10)
    return ⟨projection, row.currentC10, inputFingerprint⟩
  | .acceptPhysicalConsequence returnDevice returnSpare => do
    let projection := { row.projection with
      state := .returnOpen
      returnDevicePartUnitId := returnDevice
      returnSparePartUnitId := returnSpare
      returnObligationOpen := true
      revision := row.projection.revision + 1 }
    let inputFingerprint ← rmaStamp python { projection with activeFaultTagMembershipId := none }
      (some row.currentC10)
    return ⟨projection, row.currentC10, inputFingerprint⟩
  | .updateRmaFaultTagProjection membershipId => do
    let projection := { row.projection with
      state :=
        if membershipId ≠ none then .faultTagged
        else if row.projection.returnObligationOpen then .returnOpen
        else row.projection.state
      activeFaultTagMembershipId := membershipId
      revision := row.projection.revision + 1 }
    let inputFingerprint ← rmaStamp python projection none
    return ⟨projection, row.currentC10, inputFingerprint⟩
  | .rebuildRmaWarehouseState membershipId state obligationOpen => do
    let projection := { row.projection with
      state
      returnObligationOpen := obligationOpen
      activeFaultTagMembershipId := membershipId
      revision := row.projection.revision + 1 }
    let inputFingerprint ← rmaStamp python projection none
    return ⟨projection, row.currentC10, inputFingerprint⟩

/-- The rows of an RMA reached by writers that meet a condition on the row they find. -/
inductive RmaRun (python : PythonLibrary) (meets : RmaWrite → StampedRma → Prop)
    (rmaId : String) : StampedRma → Prop
  | authorized {target : Option String} {c10 : String} {row : StampedRma} :
      authorizeRma python rmaId target c10 = .ok row → RmaRun python meets rmaId row
  | wrote {row next : StampedRma} {write : RmaWrite} :
      RmaRun python meets rmaId row → meets write row → row.apply python write = .ok next →
      RmaRun python meets rmaId next

def RmaProjection.NoReturn (row : RmaProjection) : Prop :=
  row.returnDevicePartUnitId = none ∧ row.returnSparePartUnitId = none ∧
    row.returnObligationOpen = false

/-- The columns a writer takes to be empty are, and it writes the C10. -/
def RmaWrite.StampsWhole : RmaWrite → StampedRma → Prop
  | .correctC10 _, row | .setTargetAssignment _, row =>
    row.projection.directInboundSparePartUnitId = none ∧ row.projection.NoReturn ∧
      row.projection.activeFaultTagMembershipId = none
  | .recordRmaInboundReceipt _, row =>
    row.projection.NoReturn ∧ row.projection.activeFaultTagMembershipId = none
  | .acceptPhysicalConsequence _ _, row => row.projection.activeFaultTagMembershipId = none
  | .updateRmaFaultTagProjection _, _ | .rebuildRmaWarehouseState _ _ _, _ => False

/-! ## Stamps -/

section Stamps

variable {python : PythonLibrary}

/-- The fingerprinted object of a row with its C10. -/
def rmaObject (row : RmaProjection) (currentC10 : String) : Json :=
  .obj ((rmaFields row (some currentC10)).map fun field => (field.1, field.2.json))

theorem Scalar.json_strict (value : Scalar) :
    value.json.Strict (fun _ => none) ∧ value.json.convertible = true := by
  cases value with
  | null => exact ⟨.null, rfl⟩
  | text value => exact ⟨.str value, rfl⟩
  | flag value => cases value <;> exact ⟨.int _, rfl⟩

theorem rmaObject_strict (row : RmaProjection) (currentC10 : String) :
    (rmaObject row currentC10).Strict (fun _ => none) ∧
      (rmaObject row currentC10).convertible = true := by
  have each : ∀ field ∈ (rmaFields row (some currentC10)).map fun field => (field.1, field.2.json),
      field.2.Strict (fun _ => none) ∧ field.2.convertible = true := by
    intro field inside
    obtain ⟨part, -, rfl⟩ := List.mem_map.mp inside
    exact part.2.json_strict
  refine ⟨.obj ?_ fun field inside => (each field inside).1, ?_⟩
  · change List.Nodup ["schema", "rma_id", "state", "current_target_device_part_unit_id",
      "direct_inbound_spare_part_unit_id", "return_device_part_unit_id",
      "return_spare_part_unit_id", "return_obligation_open", "active_fault_tag_membership_id",
      "current_c10"]
    decide
  · rw [rmaObject, Json.convertible, convertibleFields_eq, List.all_eq_true]
    exact fun field inside => (each field inside).2

theorem dumps_rmaObject (row : RmaProjection) (currentC10 : String) :
    dumps (rmaObject row currentC10) = some (rmaObject row currentC10).text := by
  obtain ⟨text, encoded⟩ := Option.isSome_iff_exists.mp
    (strict_encodes (rmaObject_strict row currentC10).1)
  rw [encoded, dumps_text encoded]

theorem rmaStamp_eq (row : RmaProjection) (currentC10 : String) :
    rmaStamp python row (some currentC10) =
      .ok (python.sha256Hex (rmaObject row currentC10).text) := by
  have text := canonicalJson_ok.mpr (dumps_rmaObject row currentC10)
  rw [rmaObject] at text
  rw [rmaStamp, sha256CanonicalJson, text]
  rfl

/-- Objects of one text hold the same. -/
theorem rmaObject_alike
    (same : (rmaObject first firstC10).text = (rmaObject second secondC10).text) :
    (rmaObject first firstC10).alike (rmaObject second secondC10) = true := by
  obtain ⟨strict, converted⟩ := rmaObject_strict first firstC10
  obtain ⟨other, otherConverted⟩ := rmaObject_strict second secondC10
  refine (canonicalJsonBytes_iff strict other
    (canonicalJsonBytes_ok.mpr ⟨converted, dumps_rmaObject first firstC10⟩)).mp ?_
  exact canonicalJsonBytes_ok.mpr ⟨otherConverted, by rw [same, dumps_rmaObject]⟩

theorem Scalar.json_alike {first second : Scalar} :
    first.json.alike second.json = true ↔ first = second := by
  cases first with
  | flag first => cases first <;> rcases second with _ | _ | (_ | _) <;> simp [Scalar.json, Json.alike]
  | _ => rcases second with _ | _ | (_ | _) <;> simp [Scalar.json, Json.alike]

theorem optionalText_injective : Function.Injective optionalText := by
  intro first second same
  cases first <;> cases second <;> simp_all [optionalText]

/-- Equal stamps of whole rows are stamps of equal facts. -/
theorem rmaStamp_inj (injective : Function.Injective python.sha256Hex)
    (same : rmaStamp python first (some firstC10) = rmaStamp python second (some secondC10)) :
    { first with revision := 0 } = { second with revision := 0 } ∧ firstC10 = secondC10 := by
  rw [rmaStamp_eq, rmaStamp_eq] at same
  have alike := rmaObject_alike (injective (Except.ok.inj same))
  simp [rmaObject, rmaFields, Json.alike, alikeFields, Scalar.json_alike,
    optionalText_injective.eq_iff, RmaState.text_injective.eq_iff] at alike
  obtain ⟨rma, state, target, inbound, device, spare, obligation, membership, c10⟩ := alike
  refine ⟨?_, c10⟩
  rw [membership, target, inbound, device, obligation, spare, rma, state]

/-- The fingerprint is that of everything the row holds. -/
def StampedRma.Whole (python : PythonLibrary) (row : StampedRma) : Prop :=
  rmaStamp python row.projection (some row.currentC10) = .ok row.inputFingerprint

theorem rmaStamp_congr (same : { first with revision := 0 } = { second with revision := 0 })
    (c10 : Option String) : rmaStamp python first c10 = rmaStamp python second c10 := by
  have reads (row : RmaProjection) :
      rmaFields row c10 = rmaFields { row with revision := 0 } c10 := rfl
  rw [rmaStamp, rmaStamp, reads first, reads second, same]

theorem authorizeRma_whole (ran : authorizeRma python rmaId target c10 = .ok row) :
    row.Whole python := by
  simp only [authorizeRma, except_bind_ok] at ran
  obtain ⟨_, stamped, done⟩ := ran
  obtain rfl := Except.ok.inj done
  exact stamped

theorem whole_of_stamped (stamped : rmaStamp python stampedAs (some c10) = .ok stamp)
    (same : { projection with revision := 0 } = { stampedAs with revision := 0 }) :
    (StampedRma.mk projection c10 stamp).Whole python := by
  rw [StampedRma.Whole, ← stamped]
  exact rmaStamp_congr same _

/-- A writer that takes for empty only what is empty stamps what it leaves. -/
theorem apply_whole {write : RmaWrite} (whole : write.StampsWhole row)
    (ran : row.apply python write = .ok next) : next.Whole python := by
  cases write with
  | correctC10 newC10 | setTargetAssignment target =>
    simp only [StampedRma.apply, except_bind_ok] at ran
    obtain ⟨stamp, stamped, done⟩ := ran
    obtain rfl := Except.ok.inj done
    obtain ⟨inbound, ⟨device, spare, obligation⟩, membership⟩ := whole
    refine whole_of_stamped stamped ?_
    simp [bareProjection, inbound, device, spare, obligation, membership]
  | recordRmaInboundReceipt sparePartUnitId =>
    simp only [StampedRma.apply, except_bind_ok, ensure_ok, exists_const] at ran
    obtain ⟨-, stamp, stamped, done⟩ := ran
    obtain rfl := Except.ok.inj done
    obtain ⟨⟨device, spare, obligation⟩, membership⟩ := whole
    refine whole_of_stamped stamped ?_
    simp [device, spare, obligation, membership]
  | acceptPhysicalConsequence returnDevice returnSpare =>
    simp only [StampedRma.apply, except_bind_ok] at ran
    obtain ⟨stamp, stamped, done⟩ := ran
    obtain rfl := Except.ok.inj done
    have membership : row.projection.activeFaultTagMembershipId = none := whole
    refine whole_of_stamped stamped ?_
    simp [membership]
  | updateRmaFaultTagProjection membershipId => exact whole.elim
  | rebuildRmaWarehouseState membershipId state obligationOpen => exact whole.elim

theorem run_whole (run : RmaRun python RmaWrite.StampsWhole rmaId row) : row.Whole python := by
  induction run with
  | authorized ran => exact authorizeRma_whole ran
  | wrote _ whole ran _ => exact apply_whole whole ran

end Stamps

/-- Where every writer stamps what it leaves, two rows reached have one fingerprint if and
only if they hold the same. -/
theorem fingerprint_identifies (python : PythonLibrary)
    (injective : Function.Injective python.sha256Hex) (rmaId : String) (first second : StampedRma)
    (ranFirst : RmaRun python RmaWrite.StampsWhole rmaId first)
    (ranSecond : RmaRun python RmaWrite.StampsWhole rmaId second) :
    first.inputFingerprint = second.inputFingerprint ↔ first.facts = second.facts := by
  have wholeFirst := run_whole ranFirst
  have wholeSecond := run_whole ranSecond
  rw [StampedRma.Whole] at wholeFirst wholeSecond
  constructor
  · intro same
    rw [same, ← wholeSecond] at wholeFirst
    obtain ⟨projections, c10⟩ := rmaStamp_inj injective wholeFirst
    exact Prod.ext projections c10
  · intro same
    obtain ⟨projections, c10⟩ := Prod.mk.inj same
    rw [rmaStamp_congr projections, c10, wholeSecond] at wholeFirst
    exact (Except.ok.inj wholeFirst).symm

/-! ## Two histories of one RMA -/

def textDigest : PythonLibrary where
  jsonLoads _ := none
  sha256Hex := id

theorem authorizeRma_runs (python : PythonLibrary) (rmaId c10 : String) (target : Option String) :
    ∃ row, authorizeRma python rmaId target c10 = .ok row ∧
      row.projection = bareProjection rmaId .promised target ∧ row.currentC10 = c10 := by
  rw [authorizeRma, rmaProjectionFingerprint, rmaStamp_eq]
  exact ⟨_, rfl, rfl, rfl⟩

theorem correctC10_runs (python : PythonLibrary) (row : StampedRma) (newC10 : String) :
    ∃ next, row.apply python (.correctC10 newC10) = .ok next ∧
      next.projection = { row.projection with revision := row.projection.revision + 1 } ∧
      next.currentC10 = newC10 ∧
      rmaProjectionFingerprint python row.projection.rmaId row.projection.state
        row.projection.currentTargetDevicePartUnitId newC10 = .ok next.inputFingerprint := by
  rw [StampedRma.apply, rmaProjectionFingerprint, rmaStamp_eq]
  exact ⟨_, rfl, rfl, rfl, rfl⟩

theorem recordRmaInboundReceipt_runs (python : PythonLibrary) (row : StampedRma) (unit : String)
    (empty : row.projection.directInboundSparePartUnitId = none) :
    ∃ next, row.apply python (.recordRmaInboundReceipt unit) = .ok next ∧
      next.projection = { row.projection with
        state := .received
        directInboundSparePartUnitId := some unit
        revision := row.projection.revision + 1 } := by
  simp only [StampedRma.apply, empty, ensure, if_pos, rmaStamp_eq]
  exact ⟨_, rfl, rfl⟩

/-- Authorized under its C10, or under another one that was corrected to it. -/
theorem corrected_c10_identified : ∃ first second : StampedRma,
    RmaRun textDigest RmaWrite.StampsWhole "rma" first ∧
      RmaRun textDigest RmaWrite.StampsWhole "rma" second ∧
      second.projection.revision = 2 ∧ first.inputFingerprint = second.inputFingerprint := by
  obtain ⟨first, ranFirst, heldFirst, c10⟩ := authorizeRma_runs textDigest "rma" "C2" none
  obtain ⟨draft, ranDraft, heldDraft, -⟩ := authorizeRma_runs textDigest "rma" "C1" none
  obtain ⟨second, ranSecond, heldSecond, corrected, -⟩ := correctC10_runs textDigest draft "C2"
  have whole : RmaWrite.StampsWhole (.correctC10 "C2") draft := by
    rw [RmaWrite.StampsWhole, heldDraft]
    exact ⟨rfl, ⟨rfl, rfl, rfl⟩, rfl⟩
  have runFirst : RmaRun textDigest RmaWrite.StampsWhole "rma" first := .authorized ranFirst
  have runSecond : RmaRun textDigest RmaWrite.StampsWhole "rma" second :=
    .wrote (.authorized ranDraft) whole ranSecond
  refine ⟨first, second, runFirst, runSecond, ?_, ?_⟩
  · rw [heldSecond, heldDraft]
    rfl
  · refine (fingerprint_identifies textDigest Function.injective_id "rma" first second runFirst
      runSecond).mpr ?_
    rw [StampedRma.facts, StampedRma.facts, heldFirst, c10, heldSecond, heldDraft, corrected]

/-- Two units arrive in two histories, and the C10 is corrected after each. -/
theorem received_units_not_identified : ¬ ∀ python : PythonLibrary,
    Function.Injective python.sha256Hex → ∀ (rmaId : String) (first second : StampedRma),
      RmaRun python (fun _ _ => True) rmaId first → RmaRun python (fun _ _ => True) rmaId second →
      (first.inputFingerprint = second.inputFingerprint ↔ first.facts = second.facts) := by
  intro all
  have history (unit : String) : ∃ row, RmaRun textDigest (fun _ _ => True) "rma" row ∧
      row.projection.directInboundSparePartUnitId = some unit ∧
      rmaProjectionFingerprint textDigest "rma" .received none "C2" = .ok row.inputFingerprint := by
    obtain ⟨promised, ran, held, -⟩ := authorizeRma_runs textDigest "rma" "C1" none
    obtain ⟨received, arrived, heldReceived⟩ := recordRmaInboundReceipt_runs textDigest promised unit
      (by rw [held]; rfl)
    obtain ⟨row, corrected, heldRow, -, stamp⟩ := correctC10_runs textDigest received "C2"
    rw [heldReceived, held] at stamp
    refine ⟨row, .wrote (.wrote (.authorized ran) trivial arrived) trivial corrected, ?_, stamp⟩
    rw [heldRow, heldReceived]
  obtain ⟨first, runFirst, unitFirst, stampFirst⟩ := history "unit1"
  obtain ⟨second, runSecond, unitSecond, stampSecond⟩ := history "unit2"
  have stamps : first.inputFingerprint = second.inputFingerprint :=
    Except.ok.inj (stampFirst.symm.trans stampSecond)
  have same := (all textDigest Function.injective_id "rma" first second runFirst runSecond).mp stamps
  have units := congrArg (fun facts => facts.1.directInboundSparePartUnitId) same
  change first.projection.directInboundSparePartUnitId =
    second.projection.directInboundSparePartUnitId at units
  rw [unitFirst, unitSecond] at units
  exact absurd units (by decide)

end Soma.Inventory
