import Soma.Inventory.TagRuns

/-!
Physical consequences under acceptances and corrections. Acceptance checks what a
disposition asks of the units and of the RMA; a correction checks the shape of the
units and that they stay the same. `other_reviewed` names any unit, so a correction
that leaves it is the one that can break a rule of acceptance
(`ConsequenceCorrection.Faithful`).
-/

namespace Soma.Inventory

open Foundation Transaction Rows

/-! ## Rules -/

/-- The device part an RMA is assigned to and the unit it received. -/
def RmaTables.authority? (tables : RmaTables) (rmaId : String) :
    Option (Option String × Option String) :=
  (tables.lifecycle? rmaId).map fun row =>
    (row.currentTargetDevicePartUnitId, row.directInboundSparePartUnitId)

/-- What acceptance asks of a consequence of an RMA with this target and this
inbound unit. -/
structure RmaRules (target inbound named : Option String) (disposition : Disposition)
    (units : PhysicalUnits) : Prop where
  assigned : named = none ∨ target = named
  received : disposition ∉ [.removedOnly, .noPhysicalChange, .otherReviewed] → inbound ≠ none
  installed : disposition = .installedUsed → units.installedSparePartUnitId = inbound
  returned : disposition ∈ [.unused, .inboundFaulty, .incompatible] →
    units.inboundSparePartUnitId = inbound
  dismantled : disposition = .dismantled → units.parentDismantledUnitId = inbound
  removed : units.removedDevicePartUnitId = none ∨ target = none ∨
    units.removedDevicePartUnitId = target

section Rules

variable {disposition : Disposition} {units : PhysicalUnits}

theorem needsInbound_iff : disposition.needsInbound = true ↔
    disposition ∉ [.removedOnly, .noPhysicalChange, .otherReviewed] := by
  cases disposition <;> simp [Disposition.needsInbound]

/-- What the check of acceptance asks, disposition by disposition. -/
theorem matchesInbound_iff : disposition.MatchesInbound units inbound ↔
    (disposition = .installedUsed → units.installedSparePartUnitId = inbound) ∧
    (disposition ∈ [.unused, .inboundFaulty, .incompatible] →
      units.inboundSparePartUnitId = inbound) ∧
    (disposition = .dismantled → units.parentDismantledUnitId = inbound) := by
  cases disposition <;> simp [Disposition.MatchesInbound]

theorem RmaRules.of_checks (assigned : named = none ∨ target = named)
    (received : disposition.needsInbound → inbound ≠ none)
    (matching : disposition.MatchesInbound units inbound)
    (removed : units.removedDevicePartUnitId = none ∨ target = none ∨
      units.removedDevicePartUnitId = target) :
    RmaRules target inbound named disposition units := by
  obtain ⟨installed, returned, dismantled⟩ := matchesInbound_iff.mp matching
  exact ⟨assigned, fun needs => received (needsInbound_iff.mpr needs), installed, returned,
    dismantled, removed⟩

theorem RmaRules.matching (rules : RmaRules target inbound named disposition units) :
    disposition.MatchesInbound units inbound :=
  matchesInbound_iff.mpr ⟨rules.installed, rules.returned, rules.dismantled⟩

end Rules

/-- A current consequence is one acceptance could leave. -/
structure Ruled (rmas : RmaTables) (units : UnitTables) (consequence : PhysicalConsequence)
    (current : ConsequenceCurrent) : Prop where
  shape : ∃ selection, validateConsequenceShape current.disposition current.units = .ok selection ∧
    ¬ (selection = none ∧ current.disposition ≠ .noPhysicalChange)
  known : ∀ unit, unit ∈ current.units.installedSparePartUnitId ∨
    unit ∈ current.units.inboundSparePartUnitId ∨ unit ∈ current.units.parentDismantledUnitId →
    unit ∈ units.projections.map (·.sparePartUnitId)
  rma : ∀ rmaId ∈ consequence.rmaId, ∃ target inbound,
    rmas.authority? rmaId = some (target, inbound) ∧
    RmaRules target inbound consequence.targetDevicePartUnitId current.disposition current.units

/-- Every current consequence follows the rules. -/
def ConsequencesRuled (rows : InventoryRows) : Prop :=
  ∀ consequence ∈ rows.consequences.consequences, ∀ current ∈ rows.consequences.current,
    current.physicalConsequenceId = consequence.physicalConsequenceId →
      Ruled rows.rmas rows.units consequence current

structure ConsequencesSound (rows : InventoryRows) : Prop where
  keyedConsequences : (rows.consequences.consequences.map (·.physicalConsequenceId)).Nodup
  keyedCurrent : (rows.consequences.current.map (·.physicalConsequenceId)).Nodup
  ruled : ConsequencesRuled rows

/-! ## Frames -/

/-- The consequences are untouched, and so is what they are checked against. -/
structure LeavesConsequences (before after : InventoryRows) : Prop where
  consequences : after.consequences = before.consequences
  authorities : after.rmas.authority? = before.rmas.authority?
  known : after.units.projections.map (·.sparePartUnitId) =
    before.units.projections.map (·.sparePartUnitId)

theorem LeavesConsequences.trans (early : LeavesConsequences first second)
    (late : LeavesConsequences second third) : LeavesConsequences first third :=
  ⟨late.consequences.trans early.consequences, late.authorities.trans early.authorities,
    late.known.trans early.known⟩

theorem LeavesConsequences.refl (rows : InventoryRows) : LeavesConsequences rows rows :=
  ⟨rfl, rfl, rfl⟩

section Frames

variable {rows : InventoryRows}

theorem writeRelease_known (eventId : String) (now : Int) (current : TaskAllocation) (revision : Nat)
    (projection : UnitProjection) (tables : UnitTables) :
    Gives (fun after => after.projections.map (·.sparePartUnitId) =
        tables.projections.map (·.sparePartUnitId))
      (writeRelease eventId now current revision projection tables) := by
  refine gives_insertKeyed.bind fun _ _ => gives_ensure.bind fun _ _ => ?_
  refine gives_updateOne.bind ?_
  rintro projections ⟨_, -, replaced⟩
  exact replaced.map_eq rfl

theorem releaseReservation_leaves (now : Int) (eventId allocationId : String) (revision : Nat) :
    Gives (LeavesConsequences rows)
      (releaseReservation now eventId allocationId revision rows) := by
  unfold releaseReservation
  split
  · exact gives_error _
  · refine gives_ensure.bind fun _ _ => gives_ensure.bind fun _ _ => ?_
    refine (gives_any _).bind fun detail _ => ?_
    exact (writeRelease_known _ _ _ _ _ _).bind fun units known => ⟨rfl, rfl, known⟩

theorem markSpareDisposition_leaves (now : Int) (eventId sparePartUnitId taskId : String)
    (disposition : UnitDisposition) :
    Gives (LeavesConsequences rows)
      (markSpareDisposition now eventId sparePartUnitId disposition taskId rows) := by
  refine (gives_any _).bind fun unit _ => ?_
  have released : Gives (LeavesConsequences rows)
      (releaseForConsequence now eventId taskId unit.activeTaskAllocationId rows) := by
    unfold releaseForConsequence
    split
    · exact LeavesConsequences.refl rows
    · split
      · exact gives_error _
      · exact gives_ensure.bind fun _ _ => releaseReservation_leaves _ _ _ _
  refine released.bind fun middle leaves => (gives_any _).bind fun unit _ => ?_
  refine gives_updateOne.bind ?_
  rintro projections ⟨_, -, replaced⟩
  exact leaves.trans ⟨rfl, rfl, replaced.map_eq rfl⟩

theorem markNamedUnit_leaves (now : Int) (eventId taskId : String) (named : Option String)
    (disposition : UnitDisposition) :
    Gives (LeavesConsequences rows)
      (markNamedUnit now eventId named disposition taskId rows) := by
  cases named with
  | none => exact LeavesConsequences.refl rows
  | some sparePartUnitId => exact markSpareDisposition_leaves _ _ _ _ _

theorem rebuildRmaAttention_leaves (rmaId : String) :
    Gives (LeavesConsequences rows) (rebuildRmaAttention rmaId rows) := by
  unfold rebuildRmaAttention
  split
  · exact gives_error _
  · exact ⟨rfl, rfl, rfl⟩

/-- A new state of an RMA leaves what it was assigned and received. -/
theorem updateRmaProjection_authority {read : RmaProjection}
    {change : RmaProjection → RmaProjection} {missed : String} {tables : RmaTables}
    (keeps : ∀ row, (change row).rmaId = row.rmaId ∧
      (change row).currentTargetDevicePartUnitId = row.currentTargetDevicePartUnitId ∧
      (change row).directInboundSparePartUnitId = row.directInboundSparePartUnitId) :
    Gives (fun after => after.authority? = tables.authority?)
      (updateRmaProjection read change missed tables) := by
  refine gives_updateOne.bind ?_
  rintro lifecycle ⟨old, -, replaced⟩
  funext rmaId
  obtain ⟨id, target, inbound⟩ := keeps old
  have same : (lifecycle.map fun row => (row.rmaId, row.currentTargetDevicePartUnitId,
      row.directInboundSparePartUnitId)) = tables.lifecycle.map fun row => (row.rmaId,
      row.currentTargetDevicePartUnitId, row.directInboundSparePartUnitId) :=
    replaced.map_eq (by simp only [id, target, inbound])
  have looked : ∀ rows : List RmaProjection,
      (rows.find? (·.rmaId = rmaId)).map (fun row =>
        (row.currentTargetDevicePartUnitId, row.directInboundSparePartUnitId)) =
      ((rows.map fun row => (row.rmaId, row.currentTargetDevicePartUnitId,
        row.directInboundSparePartUnitId)).find? (·.1 = rmaId)).map (·.2) := by
    intro rows
    rw [List.find?_map, Option.map_map]
    rfl
  change ((lifecycle.find? _).map _) = ((tables.lifecycle.find? _).map _)
  rw [looked, looked, same]

theorem selectReturn_leaves (consequenceId eventId : String)
    (authority : Option (RmaDetail × ReturnObligation)) (selection : Option ReturnSelection) :
    Gives (LeavesConsequences rows)
      (selectReturn consequenceId eventId authority selection rows) := by
  unfold selectReturn
  split
  · next detail obligation selection =>
    have opened : Gives (fun after => after.authority? = rows.rmas.authority?)
        (openReturnObligation consequenceId eventId detail.rma.rmaId detail obligation selection
          rows.rmas) :=
      gives_updateOne.bind fun _ _ => updateRmaProjection_authority fun _ => ⟨rfl, rfl, rfl⟩
    refine opened.bind fun rmas kept => (rebuildRmaAttention_leaves _).mono fun after leaves => ?_
    have written : LeavesConsequences rows { rows with rmas } := ⟨rfl, kept, rfl⟩
    exact written.trans leaves
  · exact LeavesConsequences.refl rows

theorem correctReturn_leaves (eventId : String) (obligation : Option ReturnObligation)
    (selection : Option ReturnSelection) :
    Gives (LeavesConsequences rows) (correctReturn eventId obligation selection rows) := by
  unfold correctReturn
  split
  · refine gives_ensure.bind fun _ _ => gives_updateOne.bind fun obligations _ => ?_
    refine (rebuildRmaAttention_leaves _).mono fun after leaves => ?_
    have written : LeavesConsequences rows { rows with rmas := { rows.rmas with obligations } } :=
      ⟨rfl, rfl, rfl⟩
    exact written.trans leaves
  · exact LeavesConsequences.refl rows

/-! ## Steps -/

theorem LeavesConsequences.ruled (leaves : LeavesConsequences rows after)
    (ruled : Ruled rows.rmas rows.units consequence current) :
    Ruled after.rmas after.units consequence current where
  shape := ruled.shape
  known unit named := leaves.known ▸ ruled.known unit named
  rma rmaId inside := leaves.authorities ▸ ruled.rma rmaId inside

theorem validateConsequenceShape_selects
    (shaped : validateConsequenceShape disposition units = .ok selection) :
    ¬ (selection = none ∧ disposition ≠ .noPhysicalChange) := by
  rintro ⟨rfl, changed⟩
  revert shaped
  unfold validateConsequenceShape
  cases disposition <;> first | exact absurd rfl changed | (dsimp only; split <;> rintro ⟨⟩)

theorem validateConsequenceRma_rules (intent : ConsequenceIntent)
    (selection : Option ReturnSelection) :
    Gives (fun _ => ∀ rmaId ∈ intent.rmaId, ∃ target inbound,
        rows.rmas.authority? rmaId = some (target, inbound) ∧
        RmaRules target inbound intent.targetDevicePartUnitId intent.disposition intent.units)
      (validateConsequenceRma rows intent selection) := by
  unfold validateConsequenceRma
  split
  · next absent =>
    intro rmaId inside
    rw [absent] at inside
    cases inside
  · next rmaId named =>
    have required : Gives (fun detail => rows.currentRma rmaId = some detail)
        (rows.requireRma rmaId) := by
      unfold InventoryRows.requireRma
      split
      · next detail found => exact found
      · exact gives_error _
    have checked : Gives (fun _ => ∃ target inbound,
          rows.rmas.authority? rmaId = some (target, inbound) ∧
          RmaRules target inbound intent.targetDevicePartUnitId intent.disposition intent.units)
        (validateRmaConsequence rows rmaId intent.targetDevicePartUnitId intent.disposition
          intent.units selection) := by
      refine required.bind fun detail found => gives_ensure.bind fun _ assigned => ?_
      refine gives_ensure.bind fun _ received => gives_ensure.bind fun _ matching => ?_
      refine gives_ensure.bind fun _ removed => ?_
      have rules : RmaRules detail.projection.currentTargetDevicePartUnitId
          detail.projection.directInboundSparePartUnitId intent.targetDevicePartUnitId
          intent.disposition intent.units :=
        .of_checks assigned (fun needs none => received ⟨needs, none⟩) matching removed
      obtain ⟨_, -, rest⟩ := Option.bind_eq_some_iff.mp found
      obtain ⟨_, -, rest⟩ := Option.bind_eq_some_iff.mp rest
      obtain ⟨_, -, rest⟩ := Option.bind_eq_some_iff.mp rest
      obtain ⟨projection, there, same⟩ := Option.bind_eq_some_iff.mp rest
      obtain rfl := Option.some.inj same
      have authority : rows.rmas.authority? rmaId = some
          (projection.currentTargetDevicePartUnitId, projection.directInboundSparePartUnitId) := by
        rw [RmaTables.authority?, there]
        rfl
      split
      · exact gives_error _
      · exact (gives_any _).bind fun _ _ => ⟨_, _, authority, rules⟩
    refine checked.bind fun _ found rmaId' inside => ?_
    rw [named] at inside
    obtain rfl := Option.some.inj inside
    exact found

theorem requireNamedUnit_known (named : Option String) :
    Gives (fun _ => ∀ unit ∈ named, unit ∈ rows.units.projections.map (·.sparePartUnitId))
      (requireNamedUnit rows.units named) := by
  cases named with
  | none => exact fun unit inside => absurd inside (Option.not_mem_none unit)
  | some sparePartUnitId =>
    have required : Gives (fun _ => sparePartUnitId ∈
        rows.units.projections.map (·.sparePartUnitId))
        (requireSpareUnit rows.units sparePartUnitId) := by
      unfold requireSpareUnit
      split
      · next projection found =>
        obtain ⟨inside, same⟩ := key_of_find? found
        exact List.mem_map.mpr ⟨projection, inside, same⟩
      · exact gives_error _
    refine required.bind fun _ known unit inside => ?_
    obtain rfl := Option.some.inj inside
    exact known

theorem acceptInventoryPhysicalConsequence_sound (sound : ConsequencesSound rows)
    (call : InventoryCall) (intent : ConsequenceIntent) :
    Gives ConsequencesSound (acceptInventoryPhysicalConsequence call intent rows) := by
  have shaped : Gives (fun selection => validateConsequenceShape intent.disposition intent.units =
      .ok selection) (validateConsequenceShape intent.disposition intent.units) := by
    cases outcome : validateConsequenceShape intent.disposition intent.units with
    | ok selection => exact rfl
    | error raised => exact not_false
  refine shaped.bind fun selection shape => (gives_any _).bind fun _ _ => ?_
  refine gives_ensure.bind fun _ _ => gives_ensure.bind fun _ _ => ?_
  refine (validateConsequenceRma_rules intent selection).bind fun authority rules => ?_
  refine (requireNamedUnit_known _).bind fun _ installed => ?_
  refine (requireNamedUnit_known _).bind fun _ inbound => ?_
  refine (requireNamedUnit_known _).bind fun _ parent => (gives_any _).bind fun _ _ => ?_
  refine gives_insertKeyed.bind ?_
  rintro consequences ⟨fresh, rfl⟩
  refine (markNamedUnit_leaves _ _ _ _ _).bind fun early leavesEarly => ?_
  refine (markNamedUnit_leaves _ _ _ _ _).bind fun late leavesLate => ?_
  have marked := leavesEarly.trans leavesLate
  refine gives_insertKeyed.bind ?_
  rintro current ⟨freshCurrent, rfl⟩
  refine (selectReturn_leaves _ _ _ _).mono fun after leaves => ?_
  rw [marked.consequences] at freshCurrent leaves
  have kept : ∀ consequence row, Ruled rows.rmas rows.units consequence row →
      Ruled after.rmas after.units consequence row :=
    fun consequence row ruled => leaves.ruled (marked.ruled ruled)
  refine ⟨?_, ?_, ?_⟩
  · rw [leaves.consequences]
    exact nodup_concat sound.keyedConsequences fresh
  · rw [leaves.consequences]
    exact nodup_concat sound.keyedCurrent freshCurrent
  · rw [ConsequencesRuled, leaves.consequences]
    intro consequence listed row inside same
    rcases List.mem_append.mp listed with listed | listed <;>
      rcases List.mem_append.mp inside with inside | inside
    · exact kept _ _ (sound.ruled consequence listed row inside same)
    · rw [List.mem_singleton.mp inside] at same
      exact absurd (List.mem_map.mpr ⟨consequence, listed, same.symm⟩) fresh
    · rw [List.mem_singleton.mp listed] at same
      exact absurd (List.mem_map.mpr ⟨row, inside, same⟩) freshCurrent
    · rw [List.mem_singleton.mp listed, List.mem_singleton.mp inside]
      refine kept _ _ ⟨⟨selection, shape, validateConsequenceShape_selects shape⟩, ?_, rules⟩
      rintro unit (named | named | named)
      · exact installed unit named
      · exact inbound unit named
      · exact parent unit named

/-- A disposition of the inbound unit names a unit. -/
theorem received_of_matching (shaped : validateConsequenceShape disposition units = .ok selection)
    (matching : disposition.MatchesInbound units inbound) (needs : disposition.needsInbound) :
    inbound ≠ none := by
  rintro rfl
  revert shaped
  unfold validateConsequenceShape
  cases disposition <;> first
    | exact absurd needs Bool.false_ne_true
    | (dsimp only; split <;> first | exact absurd matching (by rintro ⟨⟩) | rintro ⟨⟩)

/-- Two dispositions of the same units ask the same of the inbound unit, unless the
first is `other_reviewed`, which asks nothing. -/
theorem matching_shared (reviewed : disposition ≠ .otherReviewed)
    (shaped : validateConsequenceShape disposition units = .ok selection)
    (shaped' : validateConsequenceShape next units = .ok selection')
    (matching : disposition.MatchesInbound units inbound) : next.MatchesInbound units inbound := by
  revert shaped
  unfold validateConsequenceShape
  cases disposition <;> first
    | exact absurd rfl reviewed
    | (dsimp only; split <;> first
        | (rintro -
           cases next <;> first | exact matching | exact trivial | cases shaped')
        | rintro ⟨⟩)

/-! ## Runs -/

/-- The commands on physical consequences. -/
inductive ConsequenceCommand where
  | accept (intent : ConsequenceIntent)
  | correct (correction : ConsequenceCorrection)

namespace ConsequenceCommand

def execute (call : InventoryCall) :
    ConsequenceCommand → InventoryRows → Except Raised InventoryRows
  | accept intent => acceptInventoryPhysicalConsequence call intent
  | correct correction => correctInventoryPhysicalConsequence call correction

/-- The tables after a command, which are as before when it raises. -/
def perform (call : InventoryCall) (command : ConsequenceCommand) (rows : InventoryRows) :
    InventoryRows :=
  match command.execute call rows with
  | .ok next => next
  | .error _ => rows

end ConsequenceCommand

/-- A correction that leaves `other_reviewed` names the inbound unit of the RMA
wherever its new disposition asks for it. -/
def ConsequenceCorrection.Faithful (rows : InventoryRows) (correction : ConsequenceCorrection) :
    Prop :=
  ∀ detail, rows.consequences.detail? correction.physicalConsequenceId = some detail →
    detail.current.disposition = .otherReviewed → ∀ rmaId ∈ detail.consequence.rmaId,
    ∀ target inbound, rows.rmas.authority? rmaId = some (target, inbound) →
      correction.disposition.MatchesInbound correction.units inbound

/-- If the command is a correction that goes through, it is faithful. -/
def ConsequenceCommand.Faithful (call : InventoryCall) (rows : InventoryRows) :
    ConsequenceCommand → Prop
  | accept _ => True
  | correct correction => ∀ next,
    correctInventoryPhysicalConsequence call correction rows = .ok next → correction.Faithful rows

theorem correctInventoryPhysicalConsequence_sound (sound : ConsequencesSound rows)
    (call : InventoryCall) (faithful : correction.Faithful rows) :
    Gives ConsequencesSound (correctInventoryPhysicalConsequence call correction rows) := by
  unfold correctInventoryPhysicalConsequence
  cases shape : validateConsequenceShape correction.disposition correction.units with
  | error raised => exact gives_error _
  | ok selection =>
    cases found : rows.consequences.detail? correction.physicalConsequenceId with
    | none =>
      exact gives_error _
    | some detail =>
      refine gives_ensure.bind fun _ _ => gives_ensure.bind fun _ _ => ?_
      unfold correctPhysicalConsequence
      simp only [found]
      refine gives_ensure.bind fun _ _ => gives_ensure.bind fun _ units => ?_
      refine gives_ensure.bind fun _ _ => (gives_any _).bind fun obligation _ => ?_
      refine gives_updateOne.bind ?_
      rintro current ⟨old, selected, replaced⟩
      refine (correctReturn_leaves _ _ _).mono fun after leaves => ?_
      obtain ⟨id, -, -⟩ := of_decide_eq_true selected
      obtain ⟨consequence, here, rest⟩ := Option.bind_eq_some_iff.mp found
      obtain ⟨_, there, same⟩ := Option.bind_eq_some_iff.mp rest
      obtain rfl := Option.some.inj same
      obtain ⟨listed, named⟩ := key_of_find? here
      obtain ⟨inside, named'⟩ := key_of_find? there
      obtain rfl := List.inj_on_of_nodup_map sound.keyedCurrent replaced.mem_old inside
        (id.trans named'.symm)
      have before := sound.ruled consequence listed old inside (named'.trans named.symm)
      obtain ⟨_, shaped, -⟩ := before.shape
      rw [units] at shaped
      refine ⟨leaves.consequences ▸ sound.keyedConsequences, ?_, ?_⟩
      · rw [leaves.consequences]
        have keys : current.map (·.physicalConsequenceId) =
            rows.consequences.current.map (·.physicalConsequenceId) := replaced.map_eq rfl
        exact keys ▸ sound.keyedCurrent
      rw [ConsequencesRuled, leaves.consequences]
      intro consequence' listed' row' inside' same
      rcases replaced.mem_next_keyed sound.keyedCurrent rfl inside' with rfl | ⟨kept, -⟩
      · obtain rfl := List.inj_on_of_nodup_map sound.keyedConsequences listed' listed
          (same.symm.trans (named'.trans named.symm))
        refine leaves.ruled ⟨⟨selection, shape, validateConsequenceShape_selects shape⟩,
          fun unit named => before.known unit (units ▸ named), fun rmaId about => ?_⟩
        obtain ⟨target, inbound, authority, rules⟩ := before.rma rmaId about
        have matching : correction.disposition.MatchesInbound correction.units inbound := by
          by_cases reviewed : old.disposition = .otherReviewed
          · exact faithful _ found reviewed rmaId about target inbound authority
          · exact matching_shared reviewed shaped shape (units ▸ rules.matching)
        exact ⟨target, inbound, authority, .of_checks rules.assigned
          (received_of_matching shape matching) matching (units ▸ rules.removed)⟩
      · exact leaves.ruled (sound.ruled consequence' listed' row' kept same)

end Frames

/-- The tables after commands in a row. -/
def performConsequences (rows : InventoryRows) :
    List (InventoryCall × ConsequenceCommand) → InventoryRows
  | [] => rows
  | (call, command) :: later => performConsequences (command.perform call rows) later

/-- Every command of a run is faithful where it is given. -/
def FaithfulRun (rows : InventoryRows) : List (InventoryCall × ConsequenceCommand) → Prop
  | [] => True
  | (call, command) :: later =>
    command.Faithful call rows ∧ FaithfulRun (command.perform call rows) later

theorem perform_sound (sound : ConsequencesSound rows) (call : InventoryCall)
    {command : ConsequenceCommand} (faithful : command.Faithful call rows) :
    ConsequencesSound (command.perform call rows) := by
  unfold ConsequenceCommand.perform
  cases outcome : command.execute call rows with
  | error raised => exact sound
  | ok next =>
    cases command with
    | accept intent =>
      exact (acceptInventoryPhysicalConsequence_sound sound call intent).returned outcome
    | correct correction =>
      exact (correctInventoryPhysicalConsequence_sound sound call
        (faithful next outcome)).returned outcome

/-- In every run of acceptances and corrections whose corrections are faithful, every
current consequence follows the rules of acceptance for its disposition. -/
theorem consequences_ruled {start : InventoryRows} (sound : ConsequencesSound start)
    (commands : List (InventoryCall × ConsequenceCommand))
    (faithful : FaithfulRun start commands) :
    ConsequencesRuled (performConsequences start commands) := by
  induction commands generalizing start with
  | nil => exact sound.ruled
  | cons command later ih => exact ih (perform_sound sound command.1 faithful.1) faithful.2

/-! ## A reviewed unit -/

local instance instNeZeroConsequenceCalls : NeZero 16 := ⟨by decide⟩

/-- An RMA that received `unit`, and another unit in stock. -/
def receivedReturn : InventoryRows := { noInventory with
  requests := { noInventory.requests with
    requests := [⟨"request", 1, "SR-1", "service", "contact", .null, .somaDraft⟩] }
  rmas := ⟨[⟨"rma", "request", "batch", 1, "BOM", "bom"⟩], [⟨"rma", "C1", .current⟩], [],
    [⟨"rma", .notEstablished, none, none, none, 1, none⟩],
    [⟨"rma", .received, none, some "unit", none, none, false, none, 1⟩]⟩
  units := { noInventory.units with
    projections := [⟨"unit", .new, .available, none, 1⟩, ⟨"other", .new, .available, none, 1⟩] } }

def reviewedIntent (unit : String) : ConsequenceIntent :=
  ⟨"task", "reviewed", none, some "rma", .otherReviewed, ⟨none, none, some unit, none⟩⟩

def asUnused (unit : String) : ConsequenceCorrection :=
  ⟨sampleText 1 0, 1, sampleText 1 1, "reviewed", .unused, ⟨none, none, some unit, none⟩⟩

def reviewedRun (unit : String) : List (InventoryCall × ConsequenceCommand) :=
  [(sampleUnitCall 1, .accept (reviewedIntent unit)), (sampleUnitCall 2, .correct (asUnused unit))]

theorem receivedReturn_sound : ConsequencesSound receivedReturn :=
  ⟨List.nodup_nil, List.nodup_nil, fun _ inside => absurd inside List.not_mem_nil⟩

/-- A unit the RMA never received becomes its unused inbound unit. -/
theorem reviewed_becomes_unused : ConsequencesSound receivedReturn ∧
    ¬ ConsequencesRuled (performConsequences receivedReturn (reviewedRun "other")) := by
  refine ⟨receivedReturn_sound, fun ruled => ?_⟩
  have consequences : (performConsequences receivedReturn
      (reviewedRun "other")).consequences.consequences =
      [⟨sampleText 1 0, "task", none, some "rma"⟩] := by decide +kernel
  have current : (performConsequences receivedReturn (reviewedRun "other")).consequences.current =
      [⟨sampleText 1 0, "reviewed", .unused, ⟨none, none, some "other", none⟩, 2,
        sampleText 2 0⟩] := by decide +kernel
  have authority : (performConsequences receivedReturn (reviewedRun "other")).rmas.authority? "rma" =
      some (none, some "unit") := by decide +kernel
  have broken := ruled _ (consequences ▸ List.mem_singleton_self _) _
    (current ▸ List.mem_singleton_self _) rfl
  obtain ⟨target, inbound, found, rules⟩ := broken.rma "rma" rfl
  rw [authority] at found
  cases found
  exact absurd (rules.returned (by decide)) (by decide)

/-- The received unit may become it. -/
theorem received_becomes_unused :
    ConsequencesRuled (performConsequences receivedReturn (reviewedRun "unit")) := by
  refine consequences_ruled receivedReturn_sound _ ⟨trivial, ?_, trivial⟩
  intro _ _ detail found reviewed rmaId about target inbound authority
  have lifecycle : (performConsequences receivedReturn
      [(sampleUnitCall 1, .accept (reviewedIntent "unit"))]).rmas.lifecycle =
      [⟨"rma", .returnOpen, none, some "unit", none, some "unit", true, none, 2⟩] := by
    decide +kernel
  obtain ⟨projection, there, same⟩ := Option.map_eq_some_iff.mp authority
  have inside := (key_of_find? there).1
  change projection ∈ (performConsequences receivedReturn
    [(sampleUnitCall 1, .accept (reviewedIntent "unit"))]).rmas.lifecycle at inside
  rw [lifecycle, List.mem_singleton] at inside
  cases inside
  cases same
  exact rfl

end Soma.Inventory
