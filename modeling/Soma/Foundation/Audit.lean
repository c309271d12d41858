import Mathlib.Data.Prod.Lex
import Mathlib.Data.String.Basic
import Soma.Foundation.StrictJson
import Soma.Foundation.UnitOfWork

/-!
`audit/registry.py` and `audit/writer.py`: registered audit actions, and the
writer that admits an event only under its action's contract, the writer's own
byte ceiling and its limit on result references.
-/

namespace Soma.Foundation

open Transaction

structure AuditResultRef where
  resultType : String
  resultId : String
  deriving DecidableEq

structure AuditEventInput where
  auditEventId : String
  actionType : String
  actionVersion : Int
  actorKind : String
  targetType : String
  commandId : String
  payloadSchema : String
  payloadVersion : Int
  payload : List (String × Json)
  actorId : Option String := none
  targetId : Option String := none
  reasonCategory : Option String := none
  correlationId : Option String := none
  jobId : Option String := none
  importRunId : Option String := none
  proposalId : Option String := none
  batchId : Option String := none
  resultingEventRefs : List AuditResultRef := []

structure AuditActionContract where
  actionType : String
  actionVersion : Int
  payloadSchema : String
  payloadVersion : Int
  payloadContract : ObjectContract
  allowedReasonCategories : Option (List String) := none
  sensitivityValidator : Option (List (String × Json) → Except Raised Unit) := none

/-- `AuditRegistry`: registered actions, one per type and version. -/
structure AuditRegistry where
  actions : List AuditActionContract
  distinct : (actions.map fun action => (action.actionType, action.actionVersion)).Nodup
  named : ∀ action ∈ actions, action.payloadContract.name = action.payloadSchema ∧
    action.payloadContract.version = action.payloadVersion

/-- `SomaError(code, message)` of the audit layer. -/
def auditError (code message : String) : Raised :=
  .soma ⟨.somaError, code, message, false⟩

def auditPayloadInvalid (message : String) : Raised :=
  auditError "AUDIT_PAYLOAD_INVALID" message

def AuditRegistry.resolve (registry : AuditRegistry) (actionType : String) (actionVersion : Int) :
    Except Raised AuditActionContract :=
  match registry.actions.find? fun action =>
      action.actionType = actionType ∧ action.actionVersion = actionVersion with
  | some action => .ok action
  | none => .error (auditError "AUDIT_ACTION_UNKNOWN"
      ("unknown audit action: " ++ actionType ++ " v" ++ toString actionVersion))

/-- What the two allocation tables of the writer are keyed by. -/
abbrev AllocationKey := String × Int × String × Int

def AuditEventInput.allocationKey (event : AuditEventInput) : AllocationKey :=
  (event.actionType, event.actionVersion, event.payloadSchema, event.payloadVersion)

def defaultAuditPayloadBytes : Nat := 16384
def defaultAuditResultRefs : Nat := 128

def auditPayloadByteAllocations : List (AllocationKey × Nat) :=
  [(("ticket.working_note.edited", 1, "WorkingNoteAuditV1", 1), 524288),
   (("ticket.working_note.removed", 1, "WorkingNoteAuditV1", 1), 524288),
   (("sla.service_request.batch_classification_applied", 1, "BatchClassificationAuditV1", 1), 32768),
   (("inventory.bulk.accepted", 1, "InventoryBulkAuditV1", 1), 262144)]

def auditResultRefAllocations : List (AllocationKey × Nat) :=
  [(("sla.service_request.batch_classification_applied", 1, "BatchClassificationAuditV1", 1), 500)]

/-- The byte ceiling Foundation puts on an event's payload. -/
def foundationPayloadCeiling (event : AuditEventInput) : Nat :=
  (auditPayloadByteAllocations.lookup event.allocationKey).getD defaultAuditPayloadBytes

/-- The number of result references an event may carry. -/
def maxResultRefs (event : AuditEventInput) : Nat :=
  (auditResultRefAllocations.lookup event.allocationKey).getD defaultAuditResultRefs

/-- The checks of `AuditWriter.write` that precede its first statement; the
payload text it stores. -/
def admitAuditEvent (registry : AuditRegistry) (event : AuditEventInput) :
    Except Raised String := do
  let contract ← registry.resolve event.actionType event.actionVersion
  ensure (contract.payloadSchema = event.payloadSchema ∧
      contract.payloadVersion = event.payloadVersion)
    (auditPayloadInvalid "audit payload schema/version mismatch")
  ensure (∀ allowed ∈ contract.allowedReasonCategories, ∃ reason ∈ event.reasonCategory,
      reason ∈ allowed)
    (auditPayloadInvalid "audit reason category is not allowed")
  let maxPayloadBytes := min contract.payloadContract.bounds.maxBytes (foundationPayloadCeiling event)
  ensure (event.resultingEventRefs.length ≤ maxResultRefs event)
    (auditPayloadInvalid "audit result reference count exceeds its action allocation")
  contract.payloadContract.validate (.obj event.payload)
  contract.sensitivityValidator.forM fun validator => validator event.payload
  let payloadJson ← match dumps (.obj event.payload) with
    | some text => .ok text
    | none => .error (auditPayloadInvalid "audit payload cannot be serialized")
  ensure (payloadJson.utf8ByteSize ≤ maxPayloadBytes)
    (auditPayloadInvalid ("audit payload exceeds its " ++ toString maxPayloadBytes ++
      "-byte action contract"))
  return payloadJson

structure AuditEventRow where
  event : AuditEventInput
  recordedAtUtc : Int
  payloadJson : String

/-- A row of `audit_event_results`. -/
structure AuditResultRow where
  auditEventId : String
  ordinal : Nat
  ref : AuditResultRef

/-- References in the order `write` stores them. -/
def sortedRefs (refs : List AuditResultRef) : List AuditResultRef :=
  refs.insertionSort fun left right =>
    toLex (left.resultType, left.resultId) ≤ toLex (right.resultType, right.resultId)

end Soma.Foundation
