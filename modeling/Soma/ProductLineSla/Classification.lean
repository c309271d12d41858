import Soma.ProductLineSla.Validation
import Soma.Reference.Validation
import Soma.Tickets.CustomerChanges

/-!
`product_line_sla/services/classification.py`: the classification of a Service
Request by hand or by a trusted mapping from its account code, its clearing, and the participant the ticket package calls when a Service Request
gets another Customer.

The account code a Service Request carries is a reading of the call: the source
projection belongs to another package.
-/

namespace Soma.ProductLineSla

open Foundation Reference Tickets Transaction

/-! ## Previews -/

/-- The columns `_sr_input` reads of the source projection. -/
structure SourceReading where
  projectionRevision : Nat
  accountObservationId : Option String
  accountCodeText : Option String

structure SrClassificationInput where
  srRevision : Int
  customerRelationshipId : Option String
  customerOrgId : Option String
  source : SourceReading
  current : Option ClassificationCurrent

def srInput (store : Store) (source : SourceReading) (serviceRequestId : String) :
    Except Raised SrClassificationInput :=
  match store.tickets.rows.serviceRequest? serviceRequestId with
  | none => .error (slaError "SLA_CATALOG_NOT_FOUND" "Service Request does not exist")
  | some row =>
    let relationship := store.tickets.rows.currentCustomer? serviceRequestId
    .ok {
      srRevision := row.revision
      customerRelationshipId := relationship.map (·.srCustomerRelationshipId)
      customerOrgId := relationship.map (·.customerOrgId)
      source
      current := store.sla.rows.current? serviceRequestId }

structure TargetAuthority where
  contractProductLineId : String
  cplRevision : Int
  cplLifecycle : LifecycleState
  currentPolicyRevisionId : Option String
  contractId : String
  contractRevision : Int
  contractLifecycle : LifecycleState
  customerOrgId : String

def SlaRows.target? (rows : SlaRows) (contractProductLineId : String) : Option TargetAuthority := do
  let row ← rows.contractProductLine? contractProductLineId
  let contract ← rows.contract? row.contractId
  return {
    contractProductLineId := row.contractProductLineId
    cplRevision := row.revision
    cplLifecycle := row.lifecycleState
    currentPolicyRevisionId := row.currentPolicyRevisionId
    contractId := contract.contractId
    contractRevision := contract.revision
    contractLifecycle := contract.lifecycleState
    customerOrgId := contract.customerOrgId }

/-- The state of a `ClassificationPreview`. -/
inductive PreviewState where
  | eligible
  | unchanged
  | customerUnresolved
  | crossCustomer
  | ambiguous
  | unclassified
  | incompatible
  deriving DecidableEq

structure ClassificationPreview where
  serviceRequestId : String
  state : PreviewState
  customerOrgId : Option String
  targetContractProductLineId : Option String
  mappingId : Option String
  currentContractProductLineId : Option String
  currentRevision : Int
  inputFingerprint : String

/-- A text or JSON null. -/
def optionalText (value : Option String) : Json :=
  (value.map Json.str).getD .null

/-- The target as the preview document shows it. -/
def TargetAuthority.document (target : TargetAuthority) : Json :=
  .obj [("contract_product_line_id", .str target.contractProductLineId),
    ("cpl_revision", .int target.cplRevision),
    ("cpl_lifecycle", .str target.cplLifecycle.text),
    ("current_policy_revision_id", optionalText target.currentPolicyRevisionId),
    ("contract_id", .str target.contractId),
    ("contract_revision", .int target.contractRevision),
    ("contract_lifecycle", .str target.contractLifecycle.text),
    ("customer_org_id", .str target.customerOrgId)]

/-- The mapping a preview rests on: its id, its revision and the match key, each
as far as the preview got. -/
structure MappingReading where
  mappingId : Option String := none
  mappingRevision : Option Int := none
  mappingKey : Option String := none

/-- The document `_preview_fingerprint` hashes. -/
def previewDocument (sr : SrClassificationInput) (target : Option TargetAuthority)
    (mapping : MappingReading) : Json :=
  .obj [("schema", .str "SOMA_SLA_CLASSIFICATION_PREVIEW_V1"),
    ("sr_revision", .int sr.srRevision),
    ("customer_relationship_id", optionalText sr.customerRelationshipId),
    ("customer_org_id", optionalText sr.customerOrgId),
    ("source_projection_revision", .int sr.source.projectionRevision),
    ("account_observation_id", optionalText sr.source.accountObservationId),
    ("account_code_text", optionalText sr.source.accountCodeText),
    ("current_contract_product_line_id", optionalText (sr.current.map (·.contractProductLineId))),
    ("current_classification_revision", .int ((sr.current.map (·.revision)).getD 0)),
    ("target", (target.map TargetAuthority.document).getD .null),
    ("mapping_id", optionalText mapping.mappingId),
    ("mapping_revision", (mapping.mappingRevision.map Json.int).getD .null),
    ("mapping_key", optionalText mapping.mappingKey)]

def targetState (sr : SrClassificationInput) (target : Option TargetAuthority) : PreviewState :=
  match sr.customerOrgId, target with
  | none, _ => .customerUnresolved
  | some _, none => .incompatible
  | some customerOrgId, some target =>
    if target.customerOrgId ≠ customerOrgId then .crossCustomer
    else if target.cplLifecycle ≠ .active ∨ target.contractLifecycle ≠ .active ∨
        target.currentPolicyRevisionId = none then .incompatible
    else if sr.current.map (·.contractProductLineId) = some target.contractProductLineId then
      .unchanged
    else .eligible

/-- The preview of one Service Request against a target. -/
def previewOf (python : PythonLibrary) (serviceRequestId : String) (sr : SrClassificationInput)
    (state : PreviewState) (targetId : Option String) (target : Option TargetAuthority)
    (mapping : MappingReading) : Except Raised ClassificationPreview := do
  let inputFingerprint ← sha256CanonicalJson python (previewDocument sr target mapping)
  return {
    serviceRequestId
    state
    customerOrgId := sr.customerOrgId
    targetContractProductLineId := targetId
    mappingId := targetId.bind fun _ => mapping.mappingId
    currentContractProductLineId := sr.current.map (·.contractProductLineId)
    currentRevision := (sr.current.map (·.revision)).getD 0
    inputFingerprint }

/-- `_manual_preview_from_reader`. -/
def manualPreview (python : PythonLibrary) (store : Store) (source : SourceReading)
    (serviceRequestId contractProductLineId : String) : Except Raised ClassificationPreview := do
  let sr ← srInput store source serviceRequestId
  let target := store.sla.rows.target? contractProductLineId
  previewOf python serviceRequestId sr (targetState sr target) (some contractProductLineId) target {}

/-- `ClassificationMappingRepository.match`. -/
def SlaRows.matchMappings (rows : SlaRows) (normalizedKey customerOrgId : String) :
    List ClassificationMapping :=
  (rows.mappings.filter fun row => row.normalizedKey = normalizedKey ∧
    row.customerOrgId = customerOrgId ∧ row.active = true).insertionSort
      fun left right => left.mappingId ≤ right.mappingId

/-- `validate_account_code` under `except ValidationError`. -/
def matchKeyOf (unicode : UnicodeMatch) (accountCode : String) : Except Raised String :=
  match validateAccountCode unicode accountCode with
  | .ok (_, matchKey) => .ok matchKey
  | .error (.soma error) =>
    if error.raisedAs = .validationError then
      .error (slaError "SLA_INPUT_INDETERMINATE"
        "accepted Customer Account Code cannot be normalized")
    else .error (.soma error)
  | .error .other => .error .other

/-- `_automatic_preview_from_reader`. -/
def automaticPreview (python : PythonLibrary) (unicode : UnicodeMatch) (store : Store)
    (source : SourceReading) (serviceRequestId : String) : Except Raised ClassificationPreview := do
  let sr ← srInput store source serviceRequestId
  match sr.customerOrgId, sr.source.accountCodeText with
  | none, _ => previewOf python serviceRequestId sr .customerUnresolved none none {}
  | some _, none => previewOf python serviceRequestId sr .unclassified none none {}
  | some customerOrgId, some accountCode => do
    let matchKey ← matchKeyOf unicode accountCode
    match store.sla.rows.matchMappings matchKey customerOrgId with
    | [mapping] =>
      let target := store.sla.rows.target? mapping.contractProductLineId
      previewOf python serviceRequestId sr (targetState sr target)
        (some mapping.contractProductLineId) target
        ⟨some mapping.mappingId, some mapping.revision, some matchKey⟩
    | [] => previewOf python serviceRequestId sr .unclassified none none { mappingKey := matchKey }
    | _ => previewOf python serviceRequestId sr .ambiguous none none { mappingKey := matchKey }

/-! ## Classification -/

/-- `outcome` of a `ClassificationMutationResult`. -/
inductive Outcome where
  | applied
  | noChange
  | cleared

structure ClassificationMutationResult where
  serviceRequestId : String
  contractProductLineId : Option String
  classificationEventId : String
  revision : Int
  outcome : Outcome

/-- The arguments of `classify_service_request`. -/
structure ClassificationRequest where
  serviceRequestId : String
  targetContractProductLineId : String
  previewFingerprint : String
  origin : Origin
  mappingId : Option String
  reasonCategory : String

/-- The argument checks of `classify_service_request`. -/
def ClassificationRequest.validate (library : TextLibrary) (request : ClassificationRequest) :
    Except Raised Unit := do
  requireUuid4 request.serviceRequestId
  requireUuid4 request.targetContractProductLineId
  ensure (request.previewFingerprint.length = 64)
    (validationError "preview_fingerprint must be SHA-256 text")
  ensure (request.origin ∈ [.manualReview, .automaticMapping])
    (validationError "classification origin must be manual_review or automatic_mapping")
  request.mappingId.forM requireUuid4
  ensure (request.origin = .automaticMapping ↔ request.mappingId.isSome)
    (validationError "automatic classification requires exactly one mapping_id")
  let _ ← validateReasonCode library request.reasonCategory

def classificationStale (message : String) : Raised :=
  slaError "SLA_CLASSIFICATION_STALE" message

/-- `_raise_preview_state`. -/
def previewRefusal : PreviewState → Raised
  | .customerUnresolved =>
    slaError "SLA_CLASSIFICATION_CUSTOMER_UNRESOLVED" "Service Request Customer is unresolved"
  | .crossCustomer =>
    slaError "SLA_CLASSIFICATION_CROSS_CUSTOMER" "target CPL belongs to another Customer"
  | .ambiguous =>
    slaError "SLA_CLASSIFICATION_MAPPING_AMBIGUOUS" "more than one trusted mapping applies"
  | .unclassified =>
    slaError "SLA_CLASSIFICATION_MAPPING_MISSING" "no trusted mapping applies"
  | _ => slaError "SLA_CLASSIFICATION_INCOMPATIBLE" "target CPL is not eligible"

/-- The preview a request is checked against. -/
def requestedPreview (python : PythonLibrary) (unicode : UnicodeMatch) (store : Store)
    (source : SourceReading) (request : ClassificationRequest) :
    Except Raised ClassificationPreview :=
  if request.origin = .automaticMapping then
    automaticPreview python unicode store source request.serviceRequestId
  else
    manualPreview python store source request.serviceRequestId request.targetContractProductLineId

/-- The reads of `classify_service_request.prepare`: the current classification
before the change, and whether there is a change to make. -/
def prepareClassification (python : PythonLibrary) (unicode : UnicodeMatch) (store : Store)
    (source : SourceReading) (request : ClassificationRequest) :
    Except Raised (Option ClassificationCurrent × Bool) := do
  let preview ← requestedPreview python unicode store source request
  ensure (preview.inputFingerprint = request.previewFingerprint)
    (classificationStale "classification preview changed")
  ensure (preview.targetContractProductLineId = some request.targetContractProductLineId)
    (classificationStale "classification target changed")
  ensure (request.origin = .automaticMapping → preview.mappingId = request.mappingId)
    (classificationStale "classification mapping changed")
  let sr ← srInput store source request.serviceRequestId
  if preview.state = .unchanged then return (sr.current, false)
  else do
    ensure (preview.state = .eligible) (previewRefusal preview.state)
    let target := store.sla.rows.target? request.targetContractProductLineId
    ensure ((target.bind (·.currentPolicyRevisionId)) ≠ none ∧ sr.customerOrgId ≠ none)
      (classificationStale "classification authority changed")
    return (sr.current, true)

/-- The event of an assignment or a reclassification. -/
def classificationEvent (request : ClassificationRequest) (eventId : Uuid4)
    (current : Option ClassificationCurrent) : ClassificationEvent where
  classificationEventId := eventId.value
  serviceRequestId := request.serviceRequestId
  eventKind := if current.isNone then .assign else .reclassify
  priorContractProductLineId := current.map (·.contractProductLineId)
  newContractProductLineId := some request.targetContractProductLineId
  origin := request.origin
  mappingId := request.mappingId
  reasonCode := some request.reasonCategory

/-- The current classification an assignment or a reclassification leaves. -/
def classified (request : ClassificationRequest) (eventId : Uuid4)
    (current : Option ClassificationCurrent) : ClassificationCurrent where
  serviceRequestId := request.serviceRequestId
  contractProductLineId := request.targetContractProductLineId
  classificationEventId := eventId.value
  revision := (current.map (·.revision)).getD 0 + 1

def classifyServiceRequest (python : PythonLibrary) (library : TextLibrary)
    (unicode : UnicodeMatch) (source : SourceReading) (eventId : Uuid4)
    (request : ClassificationRequest) : StoreBody ClassificationMutationResult := do
  attempt (request.validate library)
  let store ← get
  let (current, changes) ← attempt (prepareClassification python unicode store source request)
  if changes then
    onSla (writeSla (·.appendEvent (classificationEvent request eventId current)))
    onSla (writeSla (·.setCurrent (classified request eventId current)))
    return ⟨request.serviceRequestId, some request.targetContractProductLineId, eventId.value,
      (classified request eventId current).revision, .applied⟩
  else
    match current with
    | none => throw .other
    | some current =>
      return ⟨request.serviceRequestId, some current.contractProductLineId,
        current.classificationEventId, current.revision, .noChange⟩

/-- An event that leaves a Service Request without a classification. -/
def endingEvent (kind : EventKind) (origin : Origin) (eventId : Uuid4)
    (current : ClassificationCurrent) (reason : String) : ClassificationEvent where
  classificationEventId := eventId.value
  serviceRequestId := current.serviceRequestId
  eventKind := kind
  priorContractProductLineId := some current.contractProductLineId
  newContractProductLineId := none
  origin
  mappingId := none
  reasonCode := some reason

/-- The two writes that end a classification. -/
def endClassification (event : ClassificationEvent) : SlaBody PUnit := do
  writeSla (·.appendEvent event)
  writeSla (·.clearCurrent event.serviceRequestId)

def clearServiceRequestClassification (library : TextLibrary) (source : SourceReading)
    (eventId : Uuid4) (serviceRequestId : String) (classificationRevision : Int)
    (reasonCategory : String) : StoreBody ClassificationMutationResult := do
  attempt (requireUuid4 serviceRequestId)
  attempt (ensure (0 < classificationRevision)
    (validationError "classification_revision must be a positive integer"))
  let reason ← attempt (validateReasonCode library reasonCategory)
  let store ← get
  match store.sla.rows.current? serviceRequestId with
  | none => throw (classificationStale "current classification changed")
  | some current => do
    require (current.revision = classificationRevision)
      (classificationStale "current classification changed")
    let _ ← attempt (srInput store source serviceRequestId)
    require ((store.sla.rows.target? current.contractProductLineId).isSome)
      (slaError "SLA_DEPENDENCY_INDETERMINATE" "current classification target no longer resolves")
    onSla (endClassification (endingEvent .clear .manualReview eventId current reason))
    return ⟨serviceRequestId, none, eventId.value, classificationRevision + 1, .cleared⟩

/-! ## Customer changes -/

/-- What `apply_customer_change` returns. -/
inductive ParticipantResult where
  | indeterminate
  | noChange
  | invalidated
  deriving DecidableEq

/-- What a Customer change tells the participant: the event id `new_uuid4`
returns for it, whether its command id has a receipt, and its reason. -/
structure ChangeContext where
  eventId : Uuid4
  receipted : Bool
  reasonCategory : String

def applyCustomerChange (context : ChangeContext) (serviceRequestId : String)
    (newCustomerOrgId : Option String) : SlaBody ParticipantResult := do
  attempt (requireUuid4 serviceRequestId)
  attempt (newCustomerOrgId.forM requireUuid4)
  let tables ← get
  if context.receipted = false then return .indeterminate
  else
    match tables.rows.current? serviceRequestId with
    | none => return .noChange
    | some current =>
      match tables.rows.target? current.contractProductLineId with
      | none => return .indeterminate
      | some target =>
        if some target.customerOrgId = newCustomerOrgId then return .noChange
        else do
          let reason := if context.reasonCategory = "" then "customer_change"
            else context.reasonCategory
          endClassification
            (endingEvent .invalidateCustomer .customerCorrection context.eventId current reason)
          return .invalidated

/-- Whether the participant comes to an outcome the ticket command goes on with. -/
def participantApplies (context : ChangeContext) (tables : SlaTables) (serviceRequestId : String)
    (newCustomerOrgId : Option String) : Bool :=
  match (applyCustomerChange context serviceRequestId newCustomerOrgId).run tables with
  | .ok (result, _) => result ≠ .indeterminate
  | .error _ => false

/-- A ticket command that gives a Service Request another Customer, with the
participant it calls once its own rows are written. The participant reads no
ticket row, so what it comes to is known beforehand. -/
def withClassification (context : ChangeContext)
    (command : Tickets.Call → TicketBody TicketMutationResult) (call : Tickets.Call)
    (serviceRequestId : String) (newCustomerOrgId : Option String) :
    StoreBody TicketMutationResult := do
  let store ← get
  let classificationApplies :=
    participantApplies context store.sla serviceRequestId newCustomerOrgId
  let result ← onTickets (command { call with classificationApplies })
  if result.noChange then return result
  else do
    let _ ← onSla (applyCustomerChange context serviceRequestId newCustomerOrgId)
    return result

def setServiceRequestCustomer (context : ChangeContext) (call : Tickets.Call)
    (serviceRequestId : String) (baseRevision : Int) (customerOrgId : Option String) :
    StoreBody TicketMutationResult :=
  withClassification context
    (Tickets.setServiceRequestCustomer · serviceRequestId baseRevision customerOrgId)
    call serviceRequestId customerOrgId

def setServiceRequestCustomerFromReview (context : ChangeContext) (call : Tickets.Call)
    (serviceRequestId customerOrgId : String) (expectedPrior : Option String) :
    StoreBody TicketMutationResult :=
  withClassification context
    (Tickets.setServiceRequestCustomerFromReview · serviceRequestId customerOrgId expectedPrior)
    call serviceRequestId (some customerOrgId)

end Soma.ProductLineSla
