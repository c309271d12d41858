import Soma.Theory.History
import Soma.Foundation.StrictJson
import Soma.Tickets.Tables

/-!
The tables of `migrations/0009_product_line_sla.sql` that hold the catalog, the
SLA policies and the classification of Service Requests, beside the ticket
tables a classification reads.

The foreign keys to the tables of other packages are left out, with the command
ids and times. The trigger `cpl_policy_owner_update_guard` belongs to the one
statement it guards.
-/

namespace Soma.ProductLineSla

open Foundation Tickets Transaction

/-- `lifecycle_state` of a catalog row. -/
inductive LifecycleState where
  | active
  | archived
  deriving DecidableEq

def LifecycleState.text : LifecycleState → String
  | .active => "active"
  | .archived => "archived"

structure ProductLine where
  productLineId : String
  name : String
  lifecycleState : LifecycleState
  revision : Int

structure Contract where
  contractId : String
  customerOrgId : String
  name : String
  contractReference : String
  lifecycleState : LifecycleState
  revision : Int

structure ContractProductLine where
  contractProductLineId : String
  contractId : String
  productLineId : String
  lifecycleState : LifecycleState
  currentPolicyRevisionId : Option String
  revision : Int

inductive Severity where
  | critical
  | major
  | minor
  | nonFaultInquiry
  deriving DecidableEq

inductive TemplateSource where
  | itDefault
  | nfvDefault

/-- A row of `sla_policy_revisions`. -/
structure PolicyRevision where
  policyRevisionId : String
  contractProductLineId : String
  revisionOrdinal : Nat
  policyName : String
  templateSource : Option TemplateSource

/-- `ExactDuration`: a positive reduced rational number of seconds. -/
structure ExactDuration where
  numeratorSeconds : Nat
  denominator : Nat
  positive : 0 < numeratorSeconds ∧ 0 < denominator
  reduced : numeratorSeconds.gcd denominator = 1
  bounded : numeratorSeconds ≤ 9223372036854775807 ∧ denominator ≤ 1000000000

/-- The three columns of a tier that is derived from another. -/
structure Derivation where
  derivedFromTierId : String
  derivationNum : Nat
  derivationDen : Nat

/-- A row of `sla_policy_tiers`. -/
structure PolicyTier where
  policyTierId : String
  policyRevisionId : String
  severity : Severity
  tierOrdinal : Nat
  requiredPercentageMillionths : Nat
  maximumDuration : ExactDuration
  derivation : Option Derivation

/-- A row of `sla_classification_mappings`; its key type is the Customer
Account Code. -/
structure ClassificationMapping where
  mappingId : String
  normalizedKey : String
  customerOrgId : String
  contractProductLineId : String
  active : Bool
  revision : Int

inductive EventKind where
  | assign
  | reclassify
  | invalidateCustomer
  | clear
  deriving DecidableEq

inductive Origin where
  | manualReview
  | automaticMapping
  | batchReview
  | customerCorrection
  deriving DecidableEq

/-- A row of `sr_classification_events`. -/
structure ClassificationEvent where
  classificationEventId : String
  serviceRequestId : String
  eventKind : EventKind
  priorContractProductLineId : Option String
  newContractProductLineId : Option String
  origin : Origin
  mappingId : Option String
  reasonCode : Option String

/-- The history of a Service Request: the Contract Product Lines its events
name as prior and as new. -/
def classifications : History.Reading ClassificationEvent String String where
  key := (·.serviceRequestId)
  found := (·.priorContractProductLineId)
  left := (·.newContractProductLineId)

/-- A row of `sr_classification_current`. -/
structure ClassificationCurrent where
  serviceRequestId : String
  contractProductLineId : String
  classificationEventId : String
  revision : Int
  deriving DecidableEq

structure SlaRows where
  productLines : List ProductLine
  contracts : List Contract
  contractProductLines : List ContractProductLine
  policyRevisions : List PolicyRevision
  policyTiers : List PolicyTier
  mappings : List ClassificationMapping
  events : List ClassificationEvent
  current : List ClassificationCurrent

namespace SlaRows

/-- `ContractRepository.get`. -/
def contract? (rows : SlaRows) (contractId : String) : Option Contract :=
  rows.contracts.find? (·.contractId = contractId)

/-- `ContractProductLineRepository.get`. -/
def contractProductLine? (rows : SlaRows) (contractProductLineId : String) :
    Option ContractProductLine :=
  rows.contractProductLines.find? (·.contractProductLineId = contractProductLineId)

/-- `SrClassificationRepository.current`. -/
def current? (rows : SlaRows) (serviceRequestId : String) : Option ClassificationCurrent :=
  rows.current.find? (·.serviceRequestId = serviceRequestId)

/-- The declared keys, references and checks of the catalog. -/
@[mk_iff]
structure CatalogConstraints (rows : SlaRows) : Prop where
  productLineIds : (rows.productLines.map (·.productLineId)).Nodup
  productLineChecks : ∀ row ∈ rows.productLines, row.name ≠ "" ∧ 0 < row.revision
  contractIds : (rows.contracts.map (·.contractId)).Nodup
  contractChecks : ∀ row ∈ rows.contracts,
    row.name ≠ "" ∧ row.contractReference ≠ "" ∧ 0 < row.revision
  contractProductLineIds : (rows.contractProductLines.map (·.contractProductLineId)).Nodup
  contractProductLineChecks : ∀ row ∈ rows.contractProductLines, 0 < row.revision ∧
    row.contractId ∈ rows.contracts.map (·.contractId) ∧
    row.productLineId ∈ rows.productLines.map (·.productLineId) ∧
    ∀ policy ∈ row.currentPolicyRevisionId,
      policy ∈ rows.policyRevisions.map (·.policyRevisionId)
  mappingIds : (rows.mappings.map (·.mappingId)).Nodup
  mappingChecks : ∀ row ∈ rows.mappings, row.normalizedKey ≠ "" ∧ 0 < row.revision ∧
    row.contractProductLineId ∈ rows.contractProductLines.map (·.contractProductLineId)

/-- Those of the policies and their tiers. -/
@[mk_iff]
structure PolicyConstraints (rows : SlaRows) : Prop where
  policyIds : (rows.policyRevisions.map (·.policyRevisionId)).Nodup
  policyChecks : ∀ row ∈ rows.policyRevisions, 0 < row.revisionOrdinal ∧ row.policyName ≠ "" ∧
    row.contractProductLineId ∈ rows.contractProductLines.map (·.contractProductLineId)
  policyOrdinals : (rows.policyRevisions.map fun row =>
    (row.contractProductLineId, row.revisionOrdinal)).Nodup
  tierIds : (rows.policyTiers.map (·.policyTierId)).Nodup
  tierChecks : ∀ row ∈ rows.policyTiers, 0 < row.tierOrdinal ∧
    0 < row.requiredPercentageMillionths ∧ row.requiredPercentageMillionths ≤ 100000000 ∧
    row.policyRevisionId ∈ rows.policyRevisions.map (·.policyRevisionId) ∧
    (row.severity = .nonFaultInquiry ↔ row.derivation ≠ none) ∧
    ∀ derivation ∈ row.derivation, derivation.derivationNum = 3 ∧ derivation.derivationDen = 2 ∧
      derivation.derivedFromTierId ∈ rows.policyTiers.map (·.policyTierId)
  tierOrdinals : (rows.policyTiers.map fun row =>
    (row.policyRevisionId, row.severity, row.tierOrdinal)).Nodup

/-- Those of the classification events and the current classifications. -/
@[mk_iff]
structure ClassificationConstraints (rows : SlaRows) : Prop where
  eventIds : (rows.events.map (·.classificationEventId)).Nodup
  eventChecks : ∀ row ∈ rows.events,
    (∀ prior ∈ row.priorContractProductLineId,
      prior ∈ rows.contractProductLines.map (·.contractProductLineId)) ∧
    (∀ new ∈ row.newContractProductLineId,
      new ∈ rows.contractProductLines.map (·.contractProductLineId)) ∧
    (∀ mapping ∈ row.mappingId, mapping ∈ rows.mappings.map (·.mappingId)) ∧
    (row.eventKind ∈ [.invalidateCustomer, .clear] → row.newContractProductLineId = none) ∧
    (row.origin = .automaticMapping ↔ row.mappingId ≠ none)
  currentOwners : (rows.current.map (·.serviceRequestId)).Nodup
  currentEvents : (rows.current.map (·.classificationEventId)).Nodup
  currentChecks : ∀ row ∈ rows.current, 0 < row.revision ∧
    row.contractProductLineId ∈ rows.contractProductLines.map (·.contractProductLineId) ∧
    row.classificationEventId ∈ rows.events.map (·.classificationEventId)

/-- What the migration declares about all these tables. -/
structure Constraints (rows : SlaRows) : Prop where
  catalog : rows.CatalogConstraints
  policies : rows.PolicyConstraints
  classifications : rows.ClassificationConstraints

instance (rows : SlaRows) : Decidable rows.CatalogConstraints :=
  decidable_of_iff' _ (catalogConstraints_iff rows)

instance (rows : SlaRows) : Decidable rows.PolicyConstraints :=
  decidable_of_iff' _ (policyConstraints_iff rows)

instance (rows : SlaRows) : Decidable rows.ClassificationConstraints :=
  decidable_of_iff' _ (classificationConstraints_iff rows)

instance (rows : SlaRows) : Decidable rows.Constraints :=
  decidable_of_iff
    (rows.CatalogConstraints ∧ rows.PolicyConstraints ∧ rows.ClassificationConstraints)
    ⟨fun ⟨a, b, c⟩ => ⟨a, b, c⟩, fun held => ⟨held.1, held.2, held.3⟩⟩

/-! ## Statements -/

def appendEvent (event : ClassificationEvent) (rows : SlaRows) : SlaRows :=
  { rows with events := rows.events ++ [event] }

def clearCurrent (serviceRequestId : String) (rows : SlaRows) : SlaRows :=
  { rows with current := rows.current.filter (·.serviceRequestId ≠ serviceRequestId) }

/-- `set_current`: the row of the Service Request is inserted or overwritten. -/
def setCurrent (row : ClassificationCurrent) (rows : SlaRows) : SlaRows :=
  { rows with current := (rows.clearCurrent row.serviceRequestId).current ++ [row] }

end SlaRows

/-- Rows that meet the constraints. -/
structure SlaTables where
  rows : SlaRows
  valid : rows.Constraints

/-- A body over these tables, inside one transaction. -/
abbrev SlaBody (Result : Type) := Body SlaTables Raised Result

/-- One SQL statement that rewrites these tables. -/
def writeSla (change : SlaRows → SlaRows) : SlaBody PUnit := do
  let tables ← get
  setChecked (change tables.rows).Constraints (fun valid => ⟨change tables.rows, valid⟩) .other

theorem writeSla_ok {change : SlaRows → SlaRows} :
    (writeSla change).run tables = .ok (value, next) ↔ next.rows = change tables.rows := by
  simp only [writeSla, steps_ok, setChecked_ok]
  constructor
  · rintro ⟨_, rfl⟩
    rfl
  · intro same
    refine ⟨same ▸ next.valid, ?_⟩
    obtain ⟨rows, valid⟩ := next
    cases same
    rfl

/-- The tables of both packages: a classification is read beside the Customer
of its Service Request. -/
structure Store where
  tickets : TicketTables
  sla : SlaTables

/-- A body over the tables of both packages, inside one transaction. -/
abbrev StoreBody (Result : Type) := Body Store Raised Result

/-- Runs a body of this package. -/
def onSla {Result : Type} (body : SlaBody Result) : StoreBody Result :=
  within Store.sla (fun sla store => { store with sla }) body

/-- Runs a body of the ticket package. -/
def onTickets {Result : Type} (body : TicketBody Result) : StoreBody Result :=
  within Store.tickets (fun tickets store => { store with tickets }) body

end Soma.ProductLineSla
