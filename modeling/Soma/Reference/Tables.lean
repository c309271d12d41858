import Soma.Foundation.Commands
import Soma.Reference.Validation

/-!
The customer tables of `migrations/0002_identity_reference.sql`: Customer
Organizations, their account code claims (`customer_org_identifiers`), the
lifecycle events and the generation counter of `reference_metadata`, with the
declared constraints and the triggers.

Every claim is of the one type the table admits, so the type is not stored.
`identifier_type` and the foreign keys into the command receipts are left out:
the boundary inserts the receipt before a handler's callback writes.
-/

namespace Soma.Reference

open Foundation Transaction

/-- `customer_organizations.lifecycle_state`. -/
inductive LifecycleState where
  | active
  | archived
  deriving DecidableEq

/-- `customer_org_identifiers.lifecycle_state` with the two columns that are
set exactly when the claim is superseded. -/
inductive ClaimState where
  | active
  | superseded (atUtc : Int) (commandId : String)
  deriving DecidableEq

structure CustomerOrganization where
  customerOrgId : String
  name : String
  nameMatchKey : String
  lifecycleState : LifecycleState
  revision : Int
  createdAtUtc : Int
  updatedAtUtc : Int

/-- A row of `customer_org_identifiers`: a claim of an account code. -/
structure CustomerOrgIdentifier where
  customerOrgIdentifierId : String
  customerOrgId : String
  valueText : String
  matchKey : String
  lifecycleState : ClaimState
  createdAtUtc : Int
  createdCommandId : String

/-- `reference_lifecycle_events.event_type`. -/
inductive LifecycleEventType where
  | created
  | archived
  | reactivated
  | descriptiveCorrected

/-- A row of `reference_lifecycle_events` about a Customer Organization. -/
structure ReferenceLifecycleEvent where
  referenceLifecycleEventId : String
  targetId : String
  eventType : LifecycleEventType
  occurredAtUtc : Int
  commandId : String
  reasonCategory : Option String

structure ReferenceRows where
  matchingProfileId : String
  customerReferenceGeneration : Nat
  customers : List CustomerOrganization
  identifiers : List CustomerOrgIdentifier
  lifecycleEvents : List ReferenceLifecycleEvent

/-- The claims that stand. -/
def ReferenceRows.activeIdentifiers (rows : ReferenceRows) : List CustomerOrgIdentifier :=
  rows.identifiers.filter fun row => row.lifecycleState = .active

/-- The declared constraints. `activeClaims` is the partial unique index
`uq_customer_org_active_identifier_type`. -/
@[mk_iff]
structure ReferenceRows.Constraints (rows : ReferenceRows) : Prop where
  profileNamed : rows.matchingProfileId ≠ ""
  customerIds : (rows.customers.map (·.customerOrgId)).Nodup
  customerChecks : ∀ row ∈ rows.customers, row.name ≠ "" ∧ row.nameMatchKey ≠ "" ∧
    0 < row.revision ∧ 0 ≤ row.createdAtUtc ∧ row.createdAtUtc ≤ row.updatedAtUtc
  identifierIds : (rows.identifiers.map (·.customerOrgIdentifierId)).Nodup
  identifierOwners : ∀ row ∈ rows.identifiers,
    row.customerOrgId ∈ rows.customers.map (·.customerOrgId)
  identifierChecks : ∀ row ∈ rows.identifiers,
    row.valueText ≠ "" ∧ row.matchKey ≠ "" ∧ 0 ≤ row.createdAtUtc
  activeClaims : (rows.activeIdentifiers.map (·.customerOrgId)).Nodup
  eventIds : (rows.lifecycleEvents.map (·.referenceLifecycleEventId)).Nodup
  eventChecks : ∀ row ∈ rows.lifecycleEvents, 0 ≤ row.occurredAtUtc

instance (rows : ReferenceRows) : Decidable rows.Constraints :=
  decidable_of_iff' _ (ReferenceRows.constraints_iff rows)

/-- Rows that meet the constraints. -/
structure ReferenceTables where
  rows : ReferenceRows
  valid : rows.Constraints

/-- What the migration leaves. -/
def ReferenceTables.migrated : ReferenceTables where
  rows := ⟨profileId, 0, [], [], []⟩
  valid := by constructor <;> simp [ReferenceRows.activeIdentifiers, profileId]


/-! ## Statements, with what the triggers add -/

/-- `count` firings of the `customer_reference_generation_after_*` triggers. -/
def ReferenceRows.advance (count : Nat) (rows : ReferenceRows) : ReferenceRows :=
  { rows with customerReferenceGeneration := rows.customerReferenceGeneration + count }

def ReferenceRows.insertCustomer (row : CustomerOrganization) (rows : ReferenceRows) :
    ReferenceRows :=
  .advance 1 { rows with customers := rows.customers ++ [row] }

/-- `UPDATE customer_organizations SET .. WHERE customer_org_id = ?`. -/
def ReferenceRows.updateCustomer (customerOrgId : String)
    (change : CustomerOrganization → CustomerOrganization) (rows : ReferenceRows) : ReferenceRows :=
  .advance (rows.customers.countP fun row => row.customerOrgId = customerOrgId)
    { rows with customers := rows.customers.map fun row =>
        if row.customerOrgId = customerOrgId then change row else row }

def ReferenceRows.insertIdentifier (row : CustomerOrgIdentifier) (rows : ReferenceRows) :
    ReferenceRows :=
  .advance 1 { rows with identifiers := rows.identifiers ++ [row] }

/-- The claim as an update that closes the claim with this id leaves it. -/
def CustomerOrgIdentifier.closedAt (identifierId : String) (now : Int) (commandId : String)
    (row : CustomerOrgIdentifier) : CustomerOrgIdentifier :=
  if row.customerOrgIdentifierId = identifierId then
    { row with lifecycleState := .superseded now commandId }
  else row

def ReferenceRows.supersedeIdentifier (identifierId : String) (now : Int) (commandId : String)
    (rows : ReferenceRows) : ReferenceRows :=
  .advance (rows.identifiers.countP fun row => row.customerOrgIdentifierId = identifierId)
    { rows with identifiers := rows.identifiers.map (·.closedAt identifierId now commandId) }

def ReferenceRows.insertLifecycleEvent (row : ReferenceLifecycleEvent) (rows : ReferenceRows) :
    ReferenceRows :=
  { rows with lifecycleEvents := rows.lifecycleEvents ++ [row] }

section Statements

/-- One SQL statement that rewrites the customer tables. -/
def writeReference (change : ReferenceRows → ReferenceRows) :
    DomainAction ReferenceTables PUnit := do
  let tables ← get
  setChecked (change tables.rows).Constraints (fun valid => ⟨change tables.rows, valid⟩) .other

/-- The `customer_identifier_history_update_guard` trigger: only a standing
claim may be superseded. -/
def supersedeClaim (identifierId : String) (now : Int) (commandId : String) :
    DomainAction ReferenceTables PUnit := do
  let tables ← get
  require (∀ row ∈ tables.rows.identifiers, row.customerOrgIdentifierId = identifierId →
    row.lifecycleState = .active) .other
  writeReference (·.supersedeIdentifier identifierId now commandId)

variable {tables next : ReferenceTables} {value : PUnit}

theorem writeReference_ok {change : ReferenceRows → ReferenceRows}
    (ran : (writeReference change).run tables = .ok (value, next)) :
    next.rows = change tables.rows := by
  simp only [writeReference, steps_ok, setChecked_ok] at ran
  obtain ⟨_, rfl⟩ := ran
  rfl

theorem supersedeClaim_ok
    (ran : (supersedeClaim identifierId now commandId).run tables = .ok (value, next)) :
    next.rows = tables.rows.supersedeIdentifier identifierId now commandId := by
  simp only [supersedeClaim, steps_ok] at ran
  obtain ⟨_, wrote⟩ := ran
  exact writeReference_ok wrote

end Statements

end Soma.Reference
