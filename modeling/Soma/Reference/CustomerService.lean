import Soma.Reference.AccountCodeReview

/-!
`reference/application/customer_service.py`, and `lifecycle_service.py` at the
target type `customer_organization`: the commands that create Customers, claim
account codes for them, confirm a shared claim, reassign one, and archive or
reactivate a Customer.

A service function validates its arguments, builds the envelope and hands the
command boundary a `prepare` callback. There is no command that only clears a
claim: a claim ends when another claim of its Customer replaces it or when it
is reassigned.
-/

namespace Soma.Reference

open Foundation Transaction

/-- What one call brings along: its command id and actor, the identifiers
`new_uuid4` returns, the clock readings and what goes wrong on its connection. -/
structure Invocation where
  commandId : String
  actorKind : String := "local_user"
  actorId : Option String := none
  customerOrgId : Uuid4
  identifierId : Uuid4
  lifecycleEventId : Uuid4
  auditEventId : Uuid4
  now : Int
  clock : Int
  faults : Faults := .quiet

def requirePersistedMatchingProfile (rows : ReferenceRows) : Except Raised Unit :=
  ensure (rows.matchingProfileId = profileId)
    (validationError "stored matching profile is unsupported; migration/reindex is required")

def activeCustomer (rows : ReferenceRows) (customerOrgId : String) (baseRevision : Int) :
    Except Raised CustomerOrganization :=
  match rows.customers.find? (·.customerOrgId = customerOrgId) with
  | none => .error customerNotActive
  | some customer => do
    ensure (customer.lifecycleState = .active) customerNotActive
    ensure (customer.revision = baseRevision)
      (referenceError "STALE_REVISION" "Customer Organization revision changed")
    return customer

def mutationResponse (targetId : String) (revision : Int) (noChange : Bool) : Json :=
  .obj [("outcome", .str (if noChange then "NO_CHANGE" else "APPLIED")),
    ("target_id", .str targetId), ("revision", .int revision)]

/-- The mutation a handler prepares when there is nothing to do. -/
def unchanged (targetId : String) (revision : Int) : PreparedMutation ReferenceTables where
  noChange := true
  resultType := none
  resultId := none
  responseSchema := "ReferenceMutationResultV1"
  responseVersion := 1
  response := some (mutationResponse targetId revision true)

/-- The mutation a handler prepares with its `apply` callback. -/
def material (resultType resultId targetId : String) (revision : Int)
    (apply : DomainAction ReferenceTables (Option AuditEmission)) :
    PreparedMutation ReferenceTables where
  noChange := false
  resultType := some resultType
  resultId := some resultId
  apply := some apply
  responseSchema := "ReferenceMutationResultV1"
  responseVersion := 1
  response := some (mutationResponse targetId revision false)

def textOrNull (value : Option String) : Json :=
  (value.map Json.str).getD .null

def textList (values : List String) : Json :=
  .arr (values.map Json.str)

/-- The audit event of a command about one Customer. -/
def Invocation.event (invocation : Invocation) (actionType payloadSchema targetId : String)
    (reasonCategory : Option String) (payload : List (String × Json)) (refs : List AuditResultRef) :
    AuditEmission :=
  .event {
    auditEventId := invocation.auditEventId.value
    actionType
    actionVersion := 1
    actorKind := invocation.actorKind
    actorId := invocation.actorId
    targetType := "customer_organization"
    targetId := some targetId
    reasonCategory
    commandId := invocation.commandId
    payloadSchema
    payloadVersion := 1
    payload
    resultingEventRefs := refs }

/-! ## The statements the callbacks share -/

/-- Opens a claim of a code for a Customer. -/
def openClaim (invocation : Invocation) (customerOrgId : String) (code : String × String) :
    DomainAction ReferenceTables PUnit :=
  writeReference (·.insertIdentifier
    ⟨invocation.identifierId.value, customerOrgId, code.1, code.2, .active, invocation.now,
      invocation.commandId⟩)

/-- Supersedes a Customer's current claim, when there is one. -/
def closeClaim (invocation : Invocation) :
    Option CustomerOrgIdentifier → DomainAction ReferenceTables PUnit
  | none => return ⟨⟩
  | some current =>
    supersedeClaim current.customerOrgIdentifierId invocation.now invocation.commandId

/-- `UPDATE customer_organizations SET revision=revision+1, updated_at_utc=? WHERE ..`. -/
def reviseCustomer (invocation : Invocation) (customerOrgId : String) :
    DomainAction ReferenceTables PUnit :=
  writeReference (·.updateCustomer customerOrgId fun row =>
    { row with revision := row.revision + 1, updatedAtUtc := invocation.now })

/-- Records a lifecycle event of a Customer. -/
def recordLifecycle (invocation : Invocation) (customerOrgId : String)
    (eventType : LifecycleEventType) (reasonCategory : Option String) :
    DomainAction ReferenceTables PUnit :=
  writeReference (·.insertLifecycleEvent
    ⟨invocation.lifecycleEventId.value, customerOrgId, eventType, invocation.now,
      invocation.commandId, reasonCategory⟩)

def identifierRef (identifierId : String) : AuditResultRef :=
  ⟨"customer_org_identifier", identifierId⟩

def customerRef (customerOrgId : String) : AuditResultRef :=
  ⟨"customer_organization", customerOrgId⟩

def lifecycleRef (invocation : Invocation) : AuditResultRef :=
  ⟨"reference_lifecycle_event", invocation.lifecycleEventId.value⟩

def claimConflict (message : String) : Raised :=
  referenceError "ACCOUNT_CODE_CONFLICT_REVIEW" message

/-! ## `create_customer_organization` -/

/-- The claim a new Customer opens, when a code was given. -/
def openInitialClaim (invocation : Invocation) :
    Option (String × String) → DomainAction ReferenceTables PUnit
  | none => return ⟨⟩
  | some code => openClaim invocation invocation.customerOrgId.value code

/-- The `apply` callback. -/
def applyCreate (invocation : Invocation) (name : String × String)
    (code : Option (String × String)) :
    DomainAction ReferenceTables (Option AuditEmission) := do
  let customerOrgId := invocation.customerOrgId.value
  writeReference (·.insertCustomer
    ⟨customerOrgId, name.1, name.2, .active, 1, invocation.now, invocation.now⟩)
  openInitialClaim invocation code
  recordLifecycle invocation customerOrgId .created none
  return some (invocation.event "reference.customer_organization.created"
    "CustomerOrganizationAuditV1" customerOrgId none
    [("customer_org_id", .str customerOrgId), ("new_revision", .int 1),
     ("account_code_claim_created", .bool code.isSome), ("reason_category", .null)]
    (customerRef customerOrgId ::
      ((code.map fun _ => identifierRef invocation.identifierId.value).toList ++
        [lifecycleRef invocation])))

/-- A code given at creation has no standing claimant. -/
def requireUnclaimed (rows : ReferenceRows) : Option (String × String) → Except Raised Unit
  | none => .ok ()
  | some code => ensure (rows.claimants code.2 = [])
      (claimConflict "Customer Account Code already has an active canonical claimant")

def prepareCreate (invocation : Invocation) (name : String × String)
    (code : Option (String × String)) :
    DomainAction ReferenceTables (PreparedMutation ReferenceTables) := do
  let tables ← get
  attempt (requirePersistedMatchingProfile tables.rows)
  attempt (requireUnclaimed tables.rows code)
  return material "customer_organization" invocation.customerOrgId.value
    invocation.customerOrgId.value 1 (applyCreate invocation name code)

/-- `validate_account_code` on an optional argument. -/
def validateOptionalCode (unicode : UnicodeMatch) :
    Option String → Except Raised (Option (String × String))
  | none => .ok none
  | some code => (validateAccountCode unicode code).map some

def createCustomerOrganization (unicode : UnicodeMatch) (invocation : Invocation) (name : String)
    (accountCode : Option String) : Except Raised (Call ReferenceTables) := do
  let validName ← validateCustomerName unicode name
  let code ← validateOptionalCode unicode accountCode
  return {
    envelope := {
      commandId := invocation.commandId
      commandType := "CreateCustomerOrganization"
      targetType := "customer_organization"
      targetId := none
      semanticPayload := [("name", .str validName.1),
        ("account_code", textOrNull (code.map (·.1)))] }
    prepare := prepareCreate invocation validName code
    clock := invocation.clock
    faults := invocation.faults }

/-! ## `update_descriptive_data` -/

/-- The `apply` callback. -/
def applyDescriptive (invocation : Invocation) (customerOrgId : String) (baseRevision : Int)
    (name : String × String) : DomainAction ReferenceTables (Option AuditEmission) := do
  writeReference (·.updateCustomer customerOrgId fun row =>
    { row with
      name := name.1, nameMatchKey := name.2
      revision := row.revision + 1, updatedAtUtc := invocation.now })
  recordLifecycle invocation customerOrgId .descriptiveCorrected none
  return some (invocation.event "reference.customer_organization.descriptive_updated"
    "ReferenceDescriptiveAuditV1" customerOrgId none
    [("target_type", .str "customer_organization"), ("target_id", .str customerOrgId),
     ("prior_revision", .int baseRevision), ("new_revision", .int (baseRevision + 1)),
     ("changed_fields", textList ["name"]),
     ("lifecycle_event_id", .str invocation.lifecycleEventId.value)]
    [customerRef customerOrgId, lifecycleRef invocation])

def prepareDescriptive (invocation : Invocation) (customerOrgId : String) (baseRevision : Int)
    (name : String × String) :
    DomainAction ReferenceTables (PreparedMutation ReferenceTables) := do
  let tables ← get
  attempt (requirePersistedMatchingProfile tables.rows)
  let customer ← attempt (activeCustomer tables.rows customerOrgId baseRevision)
  return if customer.name = name.1 ∧ customer.nameMatchKey = name.2 then
      unchanged customerOrgId baseRevision
    else
      material "customer_organization" customerOrgId customerOrgId (baseRevision + 1)
        (applyDescriptive invocation customerOrgId baseRevision name)

def updateDescriptiveData (unicode : UnicodeMatch) (invocation : Invocation)
    (customerOrgId : String) (baseRevision : Int) (name : String) :
    Except Raised (Call ReferenceTables) := do
  let validName ← validateCustomerName unicode name
  return {
    envelope := {
      commandId := invocation.commandId
      commandType := "UpdateReferenceDescriptiveData"
      targetType := "customer_organization"
      targetId := some customerOrgId
      semanticPayload := [("name", .str validName.1)]
      baseRevisions := [("customer_organization", baseRevision)] }
    prepare := prepareDescriptive invocation customerOrgId baseRevision validName
    clock := invocation.clock
    faults := invocation.faults }

/-! ## `set_customer_account_code` -/

/-- The identifiers a replaced claim and its successor leave in the audit. -/
def changedIds (invocation : Invocation) (current : Option CustomerOrgIdentifier) : List String :=
  (current.map (·.customerOrgIdentifierId)).toList ++ [invocation.identifierId.value]

/-- Replaces a Customer's claim, if any, by a claim of another code. -/
def replaceClaim (invocation : Invocation) (customerOrgId : String)
    (current : Option CustomerOrgIdentifier) (code : String × String) :
    DomainAction ReferenceTables PUnit := do
  closeClaim invocation current
  openClaim invocation customerOrgId code
  reviseCustomer invocation customerOrgId

/-- The `apply` callback. -/
def applySet (invocation : Invocation) (customerOrgId : String) (priorRevision : Int)
    (current : Option CustomerOrgIdentifier) (code : String × String)
    (reasonCategory : Option String) :
    DomainAction ReferenceTables (Option AuditEmission) := do
  replaceClaim invocation customerOrgId current code
  return some (invocation.event "reference.customer_account_code.set"
    "CustomerAccountCodeAuditV1" customerOrgId reasonCategory
    [("customer_org_id", .str customerOrgId),
     ("customer_org_identifier_id", .str invocation.identifierId.value),
     ("superseded_identifier_id", textOrNull (current.map (·.customerOrgIdentifierId))),
     ("prior_revision", .int priorRevision), ("new_revision", .int (priorRevision + 1)),
     ("change_kind", .str (if current.isNone then "SET" else "REPLACE")),
     ("reason_category", textOrNull reasonCategory)]
    [identifierRef invocation.identifierId.value])

/-- The Customer has no claim of this key, and nobody else has one. -/
def requireSoleClaimant (rows : ReferenceRows) (customerOrgId key : String) : Except Raised Unit :=
  ensure (∀ row ∈ rows.claimants key, row.customerOrgId = customerOrgId)
    (claimConflict "Customer Account Code has another active canonical claimant")

/-- What `prepare` returns once it knows the Customer's current claim. -/
def prepareSetClaim (invocation : Invocation) (customerOrgId : String) (priorRevision : Int)
    (code : String × String) (reasonCategory : Option String) (rows : ReferenceRows)
    (current : Option CustomerOrgIdentifier) : Except Raised (PreparedMutation ReferenceTables) :=
  if current.map (·.matchKey) = some code.2 then .ok (unchanged customerOrgId priorRevision)
  else do
    requireSoleClaimant rows customerOrgId code.2
    return material "customer_org_identifier" invocation.identifierId.value customerOrgId
      (priorRevision + 1)
      (applySet invocation customerOrgId priorRevision current code reasonCategory)

def prepareSet (invocation : Invocation) (customerOrgId : String) (baseRevision : Int)
    (code : String × String) (reasonCategory : Option String) :
    DomainAction ReferenceTables (PreparedMutation ReferenceTables) := do
  let tables ← get
  attempt (requirePersistedMatchingProfile tables.rows)
  let customer ← attempt (activeCustomer tables.rows customerOrgId baseRevision)
  attempt (prepareSetClaim invocation customerOrgId customer.revision code reasonCategory
    tables.rows (tables.rows.activeCodeClaim customerOrgId))

def setCustomerAccountCode (unicode : UnicodeMatch) (invocation : Invocation)
    (customerOrgId : String) (baseRevision : Int) (accountCode : String)
    (reasonCategory : Option String) : Except Raised (Call ReferenceTables) := do
  let code ← validateAccountCode unicode accountCode
  let reason ← validateReasonCategory reasonCategory
  return {
    envelope := {
      commandId := invocation.commandId
      commandType := "SetCustomerAccountCode"
      targetType := "customer_organization"
      targetId := some customerOrgId
      semanticPayload := [("account_code", .str code.1), ("reason_category", textOrNull reason)]
      baseRevisions := [("customer_org", baseRevision)] }
    prepare := prepareSet invocation customerOrgId baseRevision code reason
    clock := invocation.clock
    faults := invocation.faults }

/-! ## `confirm_customer_account_code_shared_claim` -/

/-- The payload of the two reviewed changes. -/
def reviewPayload (action : ProposedAction) (reviewSnapshotHash : String)
    (reviewContextId fromCustomerOrgId : Option String) (toCustomerOrgId : String)
    (identifierIds customerIds : List String) (reasonCategory : String) : List (String × Json) :=
  [("proposed_action", .str action.text), ("review_snapshot_hash", .str reviewSnapshotHash),
   ("review_context_id", textOrNull reviewContextId),
   ("from_customer_org_id", textOrNull fromCustomerOrgId),
   ("to_customer_org_id", .str toCustomerOrgId),
   ("changed_identifier_ids", textList identifierIds),
   ("changed_customer_org_ids", textList customerIds), ("reason_category", .str reasonCategory)]

/-- The `apply` callback. -/
def applyConfirm (invocation : Invocation) (customerOrgId : String)
    (current : Option CustomerOrgIdentifier) (code : String × String)
    (reviewSnapshotHash : String) (reviewContextId : Option String) (reasonCategory : String) :
    DomainAction ReferenceTables (Option AuditEmission) := do
  replaceClaim invocation customerOrgId current code
  return some (invocation.event "reference.customer_account_code.shared_claim_confirmed"
    "CustomerAccountCodeReviewAuditV1" customerOrgId (some reasonCategory)
    (reviewPayload .confirmSharedClaim reviewSnapshotHash reviewContextId none customerOrgId
      (changedIds invocation current) [customerOrgId] reasonCategory)
    [identifierRef invocation.identifierId.value])

/-- What `prepare` returns once it knows the Customer's current claim. -/
def prepareConfirmClaim (invocation : Invocation) (customerOrgId : String) (priorRevision : Int)
    (code : String × String) (reviewSnapshotHash : String) (reviewContextId : Option String)
    (reasonCategory : String) (current : Option CustomerOrgIdentifier) :
    PreparedMutation ReferenceTables :=
  if current.map (·.matchKey) = some code.2 then unchanged customerOrgId priorRevision
  else
    material "customer_org_identifier" invocation.identifierId.value customerOrgId
      (priorRevision + 1)
      (applyConfirm invocation customerOrgId current code reviewSnapshotHash reviewContextId
        reasonCategory)

def prepareConfirm (python : PythonLibrary) (unicode : UnicodeMatch) (invocation : Invocation)
    (customerOrgId : String) (baseRevision : Int) (codeValue reviewSnapshotHash : String)
    (reviewContextId : Option String) (reasonCategory : String) :
    DomainAction ReferenceTables (PreparedMutation ReferenceTables) := do
  let tables ← get
  attempt (requirePersistedMatchingProfile tables.rows)
  let (codeKey, _) ← attempt (validateAccountCodeReview python unicode tables.rows codeValue
    .confirmSharedClaim customerOrgId reviewSnapshotHash none)
  let customer ← attempt (activeCustomer tables.rows customerOrgId baseRevision)
  return prepareConfirmClaim invocation customerOrgId customer.revision (codeValue, codeKey)
    reviewSnapshotHash reviewContextId reasonCategory
    (tables.rows.activeCodeClaim customerOrgId)

/-- `validate_reason_category` where a reviewed change demands one. -/
def requireReason (message : String) (reasonCategory : Option String) : Except Raised String := do
  match ← validateReasonCategory reasonCategory with
  | none => .error (referenceError "REASON_REQUIRED" message)
  | some reason => return reason

def confirmCustomerAccountCodeSharedClaim (python : PythonLibrary) (unicode : UnicodeMatch)
    (invocation : Invocation) (customerOrgId : String) (baseRevision : Int)
    (accountCode reviewSnapshotHash : String) (reasonCategory reviewContextId : Option String) :
    Except Raised (Call ReferenceTables) := do
  let code ← validateAccountCode unicode accountCode
  let reason ← requireReason "reviewed shared claim requires reason_category" reasonCategory
  return {
    envelope := {
      commandId := invocation.commandId
      commandType := "ConfirmCustomerAccountCodeSharedClaim"
      targetType := "customer_organization"
      targetId := some customerOrgId
      semanticPayload := [("account_code", .str code.1),
        ("proposed_action", .str ProposedAction.confirmSharedClaim.text),
        ("review_snapshot_hash", .str reviewSnapshotHash),
        ("review_context_id", textOrNull reviewContextId), ("reason_category", .str reason)]
      baseRevisions := [("customer_org", baseRevision)]
      authorizingFingerprints := [("review_snapshot", reviewSnapshotHash)] }
    prepare := prepareConfirm python unicode invocation customerOrgId baseRevision code.1
      reviewSnapshotHash reviewContextId reason
    clock := invocation.clock
    faults := invocation.faults }

/-! ## `reassign_customer_account_code` -/

/-- The target's claim after the source's was superseded: the one it has, when
it is of the same key, or a new one. -/
def settleTarget (invocation : Invocation) (toCustomerOrgId : String)
    (targetClaim : Option CustomerOrgIdentifier) (sameCode : Bool) (code : String × String) :
    DomainAction ReferenceTables PUnit :=
  match sameCode with
  | true => return ⟨⟩
  | false => do
    closeClaim invocation targetClaim
    openClaim invocation toCustomerOrgId code

/-- Revises the target unless it kept its claim. -/
def reviseTarget (invocation : Invocation) (toCustomerOrgId : String) (sameCode : Bool) :
    DomainAction ReferenceTables PUnit :=
  match sameCode with
  | true => return ⟨⟩
  | false => reviseCustomer invocation toCustomerOrgId

/-- The identifiers a reassignment closes and opens. -/
def reassignedIds (invocation : Invocation) (sourceClaim : CustomerOrgIdentifier)
    (targetClaim : Option CustomerOrgIdentifier) (sameCode : Bool) : List String :=
  sourceClaim.customerOrgIdentifierId ::
    if sameCode then [] else changedIds invocation targetClaim

/-- The `apply` callback. -/
def applyReassign (invocation : Invocation) (fromCustomerOrgId toCustomerOrgId : String)
    (sourceClaim : CustomerOrgIdentifier) (targetClaim : Option CustomerOrgIdentifier)
    (sameCode : Bool) (code : String × String) (reviewSnapshotHash : String)
    (reviewContextId : Option String) (reasonCategory : String) :
    DomainAction ReferenceTables (Option AuditEmission) := do
  let identifierIds := reassignedIds invocation sourceClaim targetClaim sameCode
  let customerIds := fromCustomerOrgId :: if sameCode then [] else [toCustomerOrgId]
  closeClaim invocation (some sourceClaim)
  settleTarget invocation toCustomerOrgId targetClaim sameCode code
  reviseCustomer invocation fromCustomerOrgId
  reviseTarget invocation toCustomerOrgId sameCode
  return some (invocation.event "reference.customer_account_code.reassigned"
    "CustomerAccountCodeReviewAuditV1" toCustomerOrgId (some reasonCategory)
    (reviewPayload .reassignClaim reviewSnapshotHash reviewContextId (some fromCustomerOrgId)
      toCustomerOrgId identifierIds customerIds reasonCategory)
    (identifierIds.map identifierRef ++ customerIds.map customerRef))

/-- What `prepare` returns once it knows the two claims. -/
def prepareReassignClaims (invocation : Invocation) (fromCustomerOrgId toCustomerOrgId : String)
    (toBaseRevision : Int) (code : String × String) (reviewSnapshotHash : String)
    (reviewContextId : Option String) (reasonCategory : String)
    (targetClaim : Option CustomerOrgIdentifier) :
    Option CustomerOrgIdentifier → Except Raised (PreparedMutation ReferenceTables)
  | none => .error (referenceError "REVIEW_CONTEXT_STALE" "source Account Code claim changed")
  | some sourceClaim => do
    ensure (sourceClaim.matchKey = code.2)
      (referenceError "REVIEW_CONTEXT_STALE" "source Account Code claim changed")
    let sameCode : Bool := targetClaim.map (·.matchKey) = some code.2
    -- a target that keeps its claim has one, so the last `raise` of `prepare` is never reached
    let resultId := if sameCode then (targetClaim.map (·.customerOrgIdentifierId)).getD ""
      else invocation.identifierId.value
    return material "customer_org_identifier" resultId toCustomerOrgId
      (if sameCode then toBaseRevision else toBaseRevision + 1)
      (applyReassign invocation fromCustomerOrgId toCustomerOrgId sourceClaim targetClaim sameCode
        code reviewSnapshotHash reviewContextId reasonCategory)

def prepareReassign (python : PythonLibrary) (unicode : UnicodeMatch) (invocation : Invocation)
    (fromCustomerOrgId : String) (fromBaseRevision : Int) (toCustomerOrgId : String)
    (toBaseRevision : Int) (codeValue reviewSnapshotHash : String)
    (reviewContextId : Option String) (reasonCategory : String) :
    DomainAction ReferenceTables (PreparedMutation ReferenceTables) := do
  let tables ← get
  attempt (requirePersistedMatchingProfile tables.rows)
  let (codeKey, _) ← attempt (validateAccountCodeReview python unicode tables.rows codeValue
    .reassignClaim toCustomerOrgId reviewSnapshotHash (some fromCustomerOrgId))
  let _ ← attempt (activeCustomer tables.rows fromCustomerOrgId fromBaseRevision)
  let _ ← attempt (activeCustomer tables.rows toCustomerOrgId toBaseRevision)
  attempt (prepareReassignClaims invocation fromCustomerOrgId toCustomerOrgId toBaseRevision
    (codeValue, codeKey) reviewSnapshotHash reviewContextId reasonCategory
    (tables.rows.activeCodeClaim toCustomerOrgId)
    (tables.rows.activeCodeClaim fromCustomerOrgId))

def reassignCustomerAccountCode (python : PythonLibrary) (unicode : UnicodeMatch)
    (invocation : Invocation) (fromCustomerOrgId : String) (fromBaseRevision : Int)
    (toCustomerOrgId : String) (toBaseRevision : Int) (accountCode reviewSnapshotHash : String)
    (reasonCategory reviewContextId : Option String) : Except Raised (Call ReferenceTables) := do
  let code ← validateAccountCode unicode accountCode
  let reason ← requireReason "reviewed reassignment requires reason_category" reasonCategory
  return {
    envelope := {
      commandId := invocation.commandId
      commandType := "ReassignCustomerAccountCode"
      targetType := "customer_organization"
      targetId := some toCustomerOrgId
      semanticPayload := [("from_customer_org_id", .str fromCustomerOrgId),
        ("account_code", .str code.1),
        ("proposed_action", .str ProposedAction.reassignClaim.text),
        ("review_snapshot_hash", .str reviewSnapshotHash),
        ("review_context_id", textOrNull reviewContextId), ("reason_category", .str reason)]
      baseRevisions := [("from_customer_org", fromBaseRevision), ("to_customer_org", toBaseRevision)]
      authorizingFingerprints := [("review_snapshot", reviewSnapshotHash)] }
    prepare := prepareReassign python unicode invocation fromCustomerOrgId fromBaseRevision
      toCustomerOrgId toBaseRevision code.1 reviewSnapshotHash reviewContextId reason
    clock := invocation.clock
    faults := invocation.faults }

/-! ## `archive_reference` and `reactivate_reference` -/

/-- `DependencyGuard.state`. -/
inductive GuardState where
  | clear
  | blocked
  | indeterminate

structure DependencyGuard where
  state : GuardState
  reasonCode : Option String

/-- A registered validator: what its guard answers for this call. It reads
tables of other owners, so its answer is arbitrary here. -/
structure DependencyValidator where
  validatorId : String
  guard : Except Raised DependencyGuard

/-- What tells archiving from reactivating. -/
structure LifecycleOperation where
  operation : String
  commandType : String
  expected : LifecycleState
  unexpected : Raised
  result : LifecycleState
  blockedCode : String
  eventType : LifecycleEventType
  actionType : String
  priorState : String
  newState : String

/-- What the answer of one validator's guard means. -/
def guardOutcome (operation : LifecycleOperation) (validator : DependencyValidator) :
    Except Raised Unit :=
  match validator.guard with
  | .error (.soma error) => .error (.soma error)
  | .error .other => .error (referenceError "DEPENDENCY_VALIDATION_FAILED"
      ("dependency validator " ++ validator.validatorId ++ " failed closed"))
  | .ok ⟨.blocked, reasonCode⟩ => .error (referenceError operation.blockedCode
      ((reasonCode.filter (· ≠ "")).getD (operation.operation ++ " blocked")))
  | .ok ⟨.indeterminate, reasonCode⟩ => .error (referenceError "DEPENDENCY_VALIDATION_FAILED"
      ((reasonCode.filter (· ≠ "")).getD
        (operation.operation ++ " dependency state is indeterminate")))
  | .ok ⟨.clear, _⟩ => .ok ()

def guardLifecycle (operation : LifecycleOperation) : List DependencyValidator → Except Raised Unit
  | [] => .ok ()
  | validator :: rest => do
    guardOutcome operation validator
    guardLifecycle operation rest

/-- The `apply` callback. -/
def applyLifecycle (operation : LifecycleOperation) (invocation : Invocation)
    (customerOrgId : String) (baseRevision : Int) (reasonCategory : String) :
    DomainAction ReferenceTables (Option AuditEmission) := do
  writeReference (·.updateCustomer customerOrgId fun row =>
    { row with
      lifecycleState := operation.result
      revision := row.revision + 1, updatedAtUtc := invocation.now })
  recordLifecycle invocation customerOrgId operation.eventType (some reasonCategory)
  return some (invocation.event operation.actionType "ReferenceLifecycleAuditV1" customerOrgId
    (some reasonCategory)
    [("target_type", .str "customer_organization"), ("target_id", .str customerOrgId),
     ("prior_state", .str operation.priorState), ("new_state", .str operation.newState),
     ("prior_revision", .int baseRevision), ("new_revision", .int (baseRevision + 1)),
     ("lifecycle_event_id", .str invocation.lifecycleEventId.value),
     ("reason_category", .str reasonCategory)]
    [customerRef customerOrgId, lifecycleRef invocation])

/-- `_load` and the checks of `prepare` on what it finds. -/
def requireLifecycle (operation : LifecycleOperation) (rows : ReferenceRows)
    (customerOrgId : String) (baseRevision : Int) : Except Raised Unit :=
  match rows.customers.find? (·.customerOrgId = customerOrgId) with
  | none => .error (referenceError "NOT_FOUND" "reference target does not exist")
  | some customer => do
    ensure (customer.revision = baseRevision)
      (referenceError "STALE_REVISION" "reference revision changed")
    ensure (customer.lifecycleState = operation.expected) operation.unexpected

def prepareLifecycle (operation : LifecycleOperation) (invocation : Invocation)
    (customerOrgId : String) (baseRevision : Int) (reasonCategory : String)
    (validators : List DependencyValidator) :
    DomainAction ReferenceTables (PreparedMutation ReferenceTables) := do
  let tables ← get
  attempt (requireLifecycle operation tables.rows customerOrgId baseRevision)
  attempt (guardLifecycle operation validators)
  return material "customer_organization" customerOrgId customerOrgId (baseRevision + 1)
    (applyLifecycle operation invocation customerOrgId baseRevision reasonCategory)

def lifecycleReason (reasonCategory : Option String) : Except Raised String := do
  match ← validateReasonCategory reasonCategory with
  | none => .error (referenceError "VALIDATION_FAILED" "reason_category is required")
  | some reason => return reason

/-- The two lifecycle commands, which differ in their `LifecycleOperation` only. -/
def changeLifecycle (operation : LifecycleOperation) (invocation : Invocation)
    (customerOrgId : String) (baseRevision : Int) (reasonCategory : Option String)
    (validators : List DependencyValidator) : Except Raised (Call ReferenceTables) := do
  let reason ← lifecycleReason reasonCategory
  return {
    envelope := {
      commandId := invocation.commandId
      commandType := operation.commandType
      targetType := "customer_organization"
      targetId := some customerOrgId
      semanticPayload := [("reason_category", .str reason)]
      baseRevisions := [("customer_organization", baseRevision)] }
    prepare := prepareLifecycle operation invocation customerOrgId baseRevision reason validators
    clock := invocation.clock
    faults := invocation.faults }

def archiving : LifecycleOperation where
  operation := "archive"
  commandType := "ArchiveReference"
  expected := .active
  unexpected := referenceError "REFERENCE_ARCHIVED" "reference is already archived"
  result := .archived
  blockedCode := "ARCHIVE_BLOCKED"
  eventType := .archived
  actionType := "reference.archived"
  priorState := "active"
  newState := "archived"

def reactivating : LifecycleOperation where
  operation := "reactivate"
  commandType := "ReactivateReference"
  expected := .archived
  unexpected := referenceError "VALIDATION_FAILED" "reference must be archived before reactivation"
  result := .active
  blockedCode := "REACTIVATION_BLOCKED"
  eventType := .reactivated
  actionType := "reference.reactivated"
  priorState := "archived"
  newState := "active"

def archiveReference : Invocation → String → Int → Option String → List DependencyValidator →
    Except Raised (Call ReferenceTables) :=
  changeLifecycle archiving

def reactivateReference : Invocation → String → Int → Option String → List DependencyValidator →
    Except Raised (Call ReferenceTables) :=
  changeLifecycle reactivating

/-! ## The commands as one type -/

/-- A call of one of the service functions. -/
inductive CustomerCommand where
  | create (name : String) (accountCode : Option String)
  | updateDescriptive (customerOrgId : String) (baseRevision : Int) (name : String)
  | setAccountCode (customerOrgId : String) (baseRevision : Int) (accountCode : String)
      (reasonCategory : Option String)
  | confirmSharedClaim (customerOrgId : String) (baseRevision : Int)
      (accountCode reviewSnapshotHash : String) (reasonCategory reviewContextId : Option String)
  | reassign (fromCustomerOrgId : String) (fromBaseRevision : Int) (toCustomerOrgId : String)
      (toBaseRevision : Int) (accountCode reviewSnapshotHash : String)
      (reasonCategory reviewContextId : Option String)
  | archive (customerOrgId : String) (baseRevision : Int) (reasonCategory : Option String)
      (validators : List DependencyValidator)
  | reactivate (customerOrgId : String) (baseRevision : Int) (reasonCategory : Option String)
      (validators : List DependencyValidator)

/-- What the service hands the boundary, unless it refuses the arguments. -/
def CustomerCommand.call (python : PythonLibrary) (unicode : UnicodeMatch)
    (invocation : Invocation) : CustomerCommand → Except Raised (Call ReferenceTables)
  | .create name accountCode => createCustomerOrganization unicode invocation name accountCode
  | .updateDescriptive customerOrgId baseRevision name =>
    updateDescriptiveData unicode invocation customerOrgId baseRevision name
  | .setAccountCode customerOrgId baseRevision accountCode reasonCategory =>
    setCustomerAccountCode unicode invocation customerOrgId baseRevision accountCode reasonCategory
  | .confirmSharedClaim customerOrgId baseRevision accountCode hash reasonCategory contextId =>
    confirmCustomerAccountCodeSharedClaim python unicode invocation customerOrgId baseRevision
      accountCode hash reasonCategory contextId
  | .reassign fromId fromRevision toId toRevision accountCode hash reasonCategory contextId =>
    reassignCustomerAccountCode python unicode invocation fromId fromRevision toId toRevision
      accountCode hash reasonCategory contextId
  | .archive customerOrgId baseRevision reasonCategory validators =>
    archiveReference invocation customerOrgId baseRevision reasonCategory validators
  | .reactivate customerOrgId baseRevision reasonCategory validators =>
    reactivateReference invocation customerOrgId baseRevision reasonCategory validators

/-- The review a command presents: what was reviewed, and its hash. -/
def CustomerCommand.review : CustomerCommand → Option (ReviewRequest × String)
  | .confirmSharedClaim customerOrgId _ accountCode hash _ _ =>
    some ({ rawAccountCode := accountCode, proposedAction := .confirmSharedClaim,
            targetCustomerOrgId := customerOrgId }, hash)
  | .reassign fromId _ toId _ accountCode hash _ _ =>
    some ({ rawAccountCode := accountCode, proposedAction := .reassignClaim,
            targetCustomerOrgId := toId, fromCustomerOrgId := some fromId }, hash)
  | _ => none

/-- A registered action of these services; its contract is `_payload`. -/
def referenceAction (actionType payloadName : String) (required : List String) :
    AuditActionContract where
  actionType
  actionVersion := 1
  payloadSchema := payloadName
  payloadVersion := 1
  payloadContract := ⟨payloadName, 1, required, required, .reject, ⟨16384, 5, 64⟩⟩

def reviewFieldNames : List String :=
  ["proposed_action", "review_snapshot_hash", "review_context_id", "from_customer_org_id",
    "to_customer_org_id", "changed_identifier_ids", "changed_customer_org_ids", "reason_category"]

def lifecycleFieldNames : List String :=
  ["target_type", "target_id", "prior_state", "new_state", "prior_revision", "new_revision",
    "lifecycle_event_id", "reason_category"]

def buildReferenceAuditRegistry : AuditRegistry where
  actions :=
    [referenceAction "reference.customer_organization.created" "CustomerOrganizationAuditV1"
      ["customer_org_id", "new_revision", "account_code_claim_created", "reason_category"],
     referenceAction "reference.customer_organization.descriptive_updated"
      "ReferenceDescriptiveAuditV1"
      ["target_type", "target_id", "prior_revision", "new_revision", "changed_fields",
        "lifecycle_event_id"],
     referenceAction "reference.customer_account_code.set" "CustomerAccountCodeAuditV1"
      ["customer_org_id", "customer_org_identifier_id", "superseded_identifier_id",
        "prior_revision", "new_revision", "change_kind", "reason_category"],
     referenceAction "reference.customer_account_code.shared_claim_confirmed"
      "CustomerAccountCodeReviewAuditV1" reviewFieldNames,
     referenceAction "reference.customer_account_code.reassigned"
      "CustomerAccountCodeReviewAuditV1" reviewFieldNames,
     referenceAction "reference.archived" "ReferenceLifecycleAuditV1" lifecycleFieldNames,
     referenceAction "reference.reactivated" "ReferenceLifecycleAuditV1" lifecycleFieldNames]
  distinct := by decide
  named action member := by
    simp only [List.mem_cons, List.not_mem_nil, or_false] at member
    rcases member with rfl | rfl | rfl | rfl | rfl | rfl | rfl <;> exact ⟨rfl, rfl⟩

end Soma.Reference
