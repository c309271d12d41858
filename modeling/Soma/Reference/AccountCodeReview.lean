import Soma.Reference.Tables

/-!
`reference/domain/account_code_review.py`: the document an operator reviews
before a code is shared or reassigned, its hash, and the check that a command
still stands on the reviewed document.

The functions read the customer tables only. `proposed_action` is one of two
values here: the service refuses any other text before it opens a snapshot.
-/

namespace Soma.Reference

open Foundation

/-- `SomaError(code, message)` of the reference services. -/
def referenceError (code message : String) : Raised :=
  .soma ⟨.somaError, code, message, false⟩

inductive ProposedAction where
  | confirmSharedClaim
  | reassignClaim
  deriving DecidableEq

def ProposedAction.text : ProposedAction → String
  | .confirmSharedClaim => "CONFIRM_SHARED_CLAIM"
  | .reassignClaim => "REASSIGN_CLAIM"

/-- The claims standing on a match key. -/
def ReferenceRows.claimants (rows : ReferenceRows) (key : String) : List CustomerOrgIdentifier :=
  rows.activeIdentifiers.filter fun row => row.matchKey = key

def ReferenceRows.activeCodeClaim (rows : ReferenceRows) (customerOrgId : String) :
    Option CustomerOrgIdentifier :=
  rows.activeIdentifiers.find? fun row => row.customerOrgId = customerOrgId

def customerNotActive : Raised :=
  referenceError "REFERENCE_NOT_ACTIVE" "Customer Organization is missing or archived"

/-- `_customer_state`: the revision and the match key an active customer has. -/
def customerState (rows : ReferenceRows) (customerOrgId : String) :
    Except Raised (Int × Option String) :=
  match rows.customers.find? (·.customerOrgId = customerOrgId) with
  | none => .error customerNotActive
  | some customer =>
    match customer.lifecycleState with
    | .archived => .error customerNotActive
    | .active =>
      .ok (customer.revision, (rows.activeCodeClaim customerOrgId).map (·.matchKey))

/-- The `source` entry of the review document. -/
def reviewSource (rows : ReferenceRows) (normalizedCodeKey : String)
    (proposedAction : ProposedAction) (targetCustomerOrgId : String)
    (fromCustomerOrgId : Option String) : Except Raised Json :=
  match proposedAction, fromCustomerOrgId with
  | .confirmSharedClaim, _ => .ok .null
  | .reassignClaim, none => .error
      (referenceError "REVIEW_CONTEXT_INVALID" "reassignment requires a distinct source Customer")
  | .reassignClaim, some source => do
    ensure (source ≠ targetCustomerOrgId)
      (referenceError "REVIEW_CONTEXT_INVALID" "reassignment requires a distinct source Customer")
    let (sourceRevision, sourceCurrentKey) ← customerState rows source
    ensure (sourceCurrentKey = some normalizedCodeKey)
      (referenceError "REVIEW_CONTEXT_INVALID"
        "source Customer no longer owns the reviewed Account Code")
    return .obj [("customer_org_id", .str source), ("revision", .int sourceRevision)]

/-- The fields of the review document. -/
def reviewFields (generation : Nat) (normalizedCodeKey : String) (proposedAction : ProposedAction)
    (target source : Json) (claimantCount : Nat) : List (String × Json) :=
  [("schema", .str "REVIEW_ACCOUNT_CODE_V1"),
   ("matching_profile_id", .str profileId),
   ("customer_reference_generation", .int generation),
   ("normalized_code_key", .str normalizedCodeKey),
   ("proposed_action", .str proposedAction.text),
   ("target", target),
   ("source", source),
   ("claimant_count", .int claimantCount)]

/-- The `target` entry of the review document. -/
def reviewTarget (customerOrgId : String) (revision : Int) (currentKey : Option String) : Json :=
  .obj [("customer_org_id", .str customerOrgId), ("revision", .int revision),
    ("current_code_key", (currentKey.map Json.str).getD .null)]

/-- `_review_document`: the document, with the generation and the number of
claimants it states. -/
def reviewDocument (rows : ReferenceRows) (normalizedCodeKey : String)
    (proposedAction : ProposedAction) (targetCustomerOrgId : String)
    (fromCustomerOrgId : Option String) : Except Raised (Json × Nat × Nat) := do
  ensure (rows.matchingProfileId = profileId)
    (referenceError "MATCHING_PROFILE_MISMATCH" "stored matching profile is unsupported")
  let (targetRevision, targetCurrentKey) ← customerState rows targetCustomerOrgId
  let source ← reviewSource rows normalizedCodeKey proposedAction targetCustomerOrgId fromCustomerOrgId
  let claimantCount := (rows.claimants normalizedCodeKey).length
  let document := reviewFields rows.customerReferenceGeneration normalizedCodeKey proposedAction
    (reviewTarget targetCustomerOrgId targetRevision targetCurrentKey) source claimantCount
  return (.obj document, rows.customerReferenceGeneration, claimantCount)

structure AccountCodeReviewSnapshot where
  proposedAction : ProposedAction
  targetCustomerOrgId : String
  fromCustomerOrgId : Option String
  normalizedCodeKey : String
  claimantCount : Nat
  customerReferenceGeneration : Nat
  reviewSnapshotHash : String
  claimantCustomerOrgIds : List String
  claimantExactCount : Nat
  continuationAfterCustomerOrgId : Option String

/-- What an operator asks to review. -/
structure ReviewRequest where
  rawAccountCode : String
  proposedAction : ProposedAction
  targetCustomerOrgId : String
  fromCustomerOrgId : Option String := none
  pageSize : Nat := 50
  afterCustomerOrgId : Option String := none

/-- The claimants after the cursor, in the order the page lists them. -/
def claimantIds (rows : ReferenceRows) (key : String) (after : Option String) : List String :=
  (((rows.claimants key).map (·.customerOrgId)).filter fun customerOrgId =>
    match after with
    | none => true
    | some cursor => cursor < customerOrgId).insertionSort (· ≤ ·)

def previewAccountCodeReview (python : PythonLibrary) (unicode : UnicodeMatch) (rows : ReferenceRows)
    (request : ReviewRequest) : Except Raised AccountCodeReviewSnapshot := do
  ensure (1 ≤ request.pageSize ∧ request.pageSize ≤ 200)
    (referenceError "PAGE_SIZE_INVALID" "review claimant page size must be between 1 and 200")
  let (_, matchKey) ← validateAccountCode unicode request.rawAccountCode
  let (document, generation, claimantCount) ← reviewDocument rows matchKey request.proposedAction
    request.targetCustomerOrgId request.fromCustomerOrgId
  let reviewSnapshotHash ← sha256CanonicalJson python document
  let found := (claimantIds rows matchKey request.afterCustomerOrgId).take (request.pageSize + 1)
  let ids := found.take request.pageSize
  return {
    proposedAction := request.proposedAction
    targetCustomerOrgId := request.targetCustomerOrgId
    fromCustomerOrgId := request.fromCustomerOrgId
    normalizedCodeKey := matchKey
    claimantCount
    customerReferenceGeneration := generation
    reviewSnapshotHash
    claimantCustomerOrgIds := ids
    claimantExactCount := claimantCount
    continuationAfterCustomerOrgId :=
      if request.pageSize < found.length then ids.getLast? else none }

/-- The last check of `validate_account_code_review`. -/
def requireOtherClaimant (rows : ReferenceRows) (key : String) (proposedAction : ProposedAction)
    (targetCustomerOrgId : String) : Except Raised Unit :=
  ensure (proposedAction = .confirmSharedClaim →
      ∃ row ∈ rows.claimants key, row.customerOrgId ≠ targetCustomerOrgId)
    (referenceError "REVIEW_CONTEXT_INVALID" "shared-claim confirmation requires another claimant")

def validateAccountCodeReview (python : PythonLibrary) (unicode : UnicodeMatch)
    (rows : ReferenceRows) (rawAccountCode : String) (proposedAction : ProposedAction)
    (targetCustomerOrgId reviewSnapshotHash : String) (fromCustomerOrgId : Option String) :
    Except Raised (String × Nat) := do
  let (_, matchKey) ← validateAccountCode unicode rawAccountCode
  let (document, _, claimantCount) ← reviewDocument rows matchKey proposedAction
    targetCustomerOrgId fromCustomerOrgId
  let currentHash ← sha256CanonicalJson python document
  ensure (currentHash = reviewSnapshotHash)
    (referenceError "REVIEW_CONTEXT_STALE" "Customer Account Code review context changed")
  requireOtherClaimant rows matchKey proposedAction targetCustomerOrgId
  return (matchKey, claimantCount)

end Soma.Reference
