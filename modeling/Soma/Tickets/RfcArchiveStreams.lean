import Soma.Foundation.StreamedJson
import Soma.Tickets.RfcArchive

/-!
The fingerprints of `tickets/queries/rfc_archive.py`. A preview and the page of an
operation hash their members while they read them, in fragments of canonical text; a
command hashes the whole object. Both come to the same digest, for any members.
-/

namespace Soma.Tickets

open Foundation

/-! ## Scopes -/

/-- The digest of a scope in progress, with how many members would change. -/
structure ScopeStream where
  array : ArrayStream
  changedCount : Nat

/-- One round of the loop of `_stream_scope_fingerprint`. -/
def ScopeStream.update (stream : ScopeStream) (member : RfcArchiveScopeMember) :
    Except Raised ScopeStream := do
  let array ← stream.array.update member.fingerprintObject
  return ⟨array, stream.changedCount + if member.archiveState = .active then 1 else 0⟩

/-- `_stream_scope_fingerprint`: the digest, `exact_count` and `changed_count`. -/
def streamScopeFingerprint (python : PythonLibrary) (requestedRfcId : String)
    (scopeKind : ArchiveScopeKind) (members : List RfcArchiveScopeMember) :
    Except Raised (String × Nat × Nat) := do
  let start : ScopeStream := ⟨.opened "\x7b\"members\":[", 0⟩
  let stream ← members.foldlM ScopeStream.update start
  let requested ← canonicalJson (.str requestedRfcId)
  let kind ← canonicalJson (.str scopeKind.text)
  return (python.sha256Hex (stream.array.written ++ "],\"requested_rfc_id\":" ++ requested ++
    ",\"schema\":\"SOMA_RFC_ARCHIVE_SCOPE_V1\",\"scope_kind\":" ++ kind ++ "\x7d"),
    stream.array.exactCount, stream.changedCount)

/-- What `preview_from_connection` says of a scope: its fingerprint and counts. -/
structure ScopePreview where
  scopeFingerprint : String
  exactMemberCount : Nat
  wouldChangeCount : Nat

/-- `preview_from_connection`, without the page of members and its continuation. -/
def previewScope (python : PythonLibrary) (rows : ArchiveRows) (rfcId : String)
    (scopeKind : ArchiveScopeKind) : Except Raised ScopePreview := do
  ensure (isUuid4 rfcId) (validationError "rfc_id must be canonical UUIDv4")
  let members ← scopeMembers rows rfcId scopeKind
  let (fingerprint, exactCount, changedCount) ←
    streamScopeFingerprint python rfcId scopeKind members
  return ⟨fingerprint, exactCount, changedCount⟩

/-! ## Operations -/

def ArchiveEventType.text : ArchiveEventType → String
  | .archived => "archived"
  | .restored => "restored"

def RfcArchiveOperationMember.toResponse (member : RfcArchiveOperationMember) : Json :=
  .obj [("rfc_id", .str member.rfcId),
    ("pre_archive_revision", .int member.preArchiveRevision),
    ("archived_revision", .int member.archivedRevision),
    ("ordinal", .int member.ordinal),
    ("current_archive_state", .str member.currentArchiveState.text),
    ("latest_event_type", .str member.latestEventType.text),
    ("latest_event_origin_archive_operation_id", .str member.latestEventOriginArchiveOperationId),
    ("latest_event_resulting_rfc_revision", .int member.latestEventResultingRfcRevision),
    ("restore_eligible", .bool member.restoreEligible)]

def archiveOperationProjectionFingerprint (python : PythonLibrary) (operationId scopeKind
    scopeFingerprint : String) (members : List RfcArchiveOperationMember) :
    Except Raised String :=
  sha256CanonicalJson python (.obj [
    ("schema", .str "SOMA_RFC_ARCHIVE_OPERATION_PROJECTION_V1"),
    ("rfc_archive_operation_id", .str operationId),
    ("scope_kind", .str scopeKind),
    ("scope_fingerprint", .str scopeFingerprint),
    ("members", .arr (members.map (·.toResponse)))])

/-- One round of the loop of `_stream_operation_projection_fingerprint`. -/
def streamOperationRow (operationId : String) (stream : ArrayStream) (row : OperationMemberRow) :
    Except Raised ArrayStream := do
  let member ← operationMemberFromRow operationId row
  stream.update member.toResponse

/-- `_stream_operation_projection_fingerprint`: the digest and `exact_count`. -/
def streamOperationProjectionFingerprint (python : PythonLibrary) (rows : ArchiveRows)
    (operationId scopeKind scopeFingerprint : String) : Except Raised (String × Nat) := do
  let stream ← (operationMemberRows rows operationId).foldlM (streamOperationRow operationId)
    (.opened "\x7b\"members\":[")
  let operation ← canonicalJson (.str operationId)
  let fingerprint ← canonicalJson (.str scopeFingerprint)
  let kind ← canonicalJson (.str scopeKind)
  return (python.sha256Hex (stream.written ++ "],\"rfc_archive_operation_id\":" ++ operation ++
    ",\"schema\":\"SOMA_RFC_ARCHIVE_OPERATION_PROJECTION_V1\",\"scope_fingerprint\":" ++
    fingerprint ++ ",\"scope_kind\":" ++ kind ++ "\x7d"), stream.exactCount)

/-! ## The two ways agree -/

section Agreement

variable (python : PythonLibrary)

theorem fingerprintObject_encodes (member : RfcArchiveScopeMember) :
    member.fingerprintObject.Encodes := rfl

theorem toResponse_encodes (member : RfcArchiveOperationMember) : member.toResponse.Encodes := by
  cases eligible : member.restoreEligible <;>
    simp [RfcArchiveOperationMember.toResponse, Json.Encodes, dumps, dumpsFields, eligible]

theorem dumpsItems_encodes (each : ∀ element ∈ elements, element.Encodes) :
    ∃ parts, dumpsItems elements = some parts := by
  have whole := encodes_arr.mpr each
  rw [Json.Encodes, dumps, Option.isSome_map] at whole
  exact Option.isSome_iff_exists.mp whole

theorem foldlM_scope (members : List RfcArchiveScopeMember) (stream : ScopeStream) :
    members.foldlM ScopeStream.update stream =
      ((members.map (·.fingerprintObject)).foldlM ArrayStream.update stream.array).map fun array =>
        ⟨array, stream.changedCount + members.countP (·.archiveState = .active)⟩ := by
  induction members generalizing stream with
  | nil => rfl
  | cons member members ih =>
    rw [List.foldlM_cons, List.map_cons, List.foldlM_cons, ScopeStream.update]
    cases stream.array.update member.fingerprintObject with
    | error raised => rfl
    | ok array =>
      refine (ih _).trans (congrArg (fun count =>
        ((members.map (·.fingerprintObject)).foldlM ArrayStream.update array).map
          fun array => ScopeStream.mk array count) ?_)
      by_cases active : member.archiveState = .active
      · simp [active, Nat.add_assoc, Nat.add_comm 1]
      · simp [active]

/-- The canonical text of a scope, in the order of its keys. -/
theorem scope_text (requestedRfcId scopeKind : String) (texts : dumpsItems members = some parts) :
    canonicalJson (.obj [
      ("schema", .str "SOMA_RFC_ARCHIVE_SCOPE_V1"),
      ("requested_rfc_id", .str requestedRfcId),
      ("scope_kind", .str scopeKind),
      ("members", .arr members)]) =
    .ok ("\x7b\"members\":[" ++ ",".intercalate parts ++ "],\"requested_rfc_id\":" ++
      quote requestedRfcId ++ ",\"schema\":\"SOMA_RFC_ARCHIVE_SCOPE_V1\",\"scope_kind\":" ++
      quote scopeKind ++ "\x7d") := by
  refine (canonicalJson_sorted [("members", "[" ++ ",".intercalate parts ++ "]"),
    ("requested_rfc_id", quote requestedRfcId), ("schema", quote "SOMA_RFC_ARCHIVE_SCOPE_V1"),
    ("scope_kind", quote scopeKind)] (by simp only [dumpsFields, dumps, texts]; rfl) ?_
    (fun part => ?_) ?_).trans ?_
  · simp only [List.map_cons, List.map_nil]
    decide
  · simp only [List.mem_cons, List.not_mem_nil]
    tauto
  · simp only [List.map_cons, List.map_nil]
    decide
  have opening : ("\x7b\"members\":[" : String) = "\x7b" ++ quote "members" ++ ":" ++ "[" := by
    decide
  have requested : ("],\"requested_rfc_id\":" : String) =
      "]" ++ "," ++ quote "requested_rfc_id" ++ ":" := by decide
  have schema : (",\"schema\":\"SOMA_RFC_ARCHIVE_SCOPE_V1\",\"scope_kind\":" : String) =
      "," ++ quote "schema" ++ ":" ++ quote "SOMA_RFC_ARCHIVE_SCOPE_V1" ++ "," ++
        quote "scope_kind" ++ ":" := by decide
  rw [opening, requested, schema]
  simp only [List.map_cons, List.map_nil, fieldText, String.intercalate_cons_cons,
    String.intercalate_singleton, String.append_assoc]

theorem streamScopeFingerprint_eq (requestedRfcId : String) (scopeKind : ArchiveScopeKind)
    (members : List RfcArchiveScopeMember) :
    streamScopeFingerprint python requestedRfcId scopeKind members =
      (archiveScopeFingerprint python requestedRfcId scopeKind members).map fun fingerprint =>
        (fingerprint, members.length, members.countP (·.archiveState = .active)) := by
  obtain ⟨parts, texts⟩ : ∃ parts, dumpsItems (members.map (·.fingerprintObject)) = some parts := by
    refine dumpsItems_encodes fun element inside => ?_
    obtain ⟨member, _, rfl⟩ := List.mem_map.mp inside
    exact fingerprintObject_encodes member
  rw [streamScopeFingerprint, archiveScopeFingerprint, sha256CanonicalJson,
    scope_text requestedRfcId scopeKind.text texts]
  simp only [foldlM_scope, foldlM_update, texts, Option.elim_some]
  simp [Except.map, canonicalJson_eq, dumps, bind, Except.bind, pure, Except.pure]

/-- The canonical text of the members of an operation, in the order of its keys. -/
theorem operation_text (operationId scopeKind scopeFingerprint : String)
    (texts : dumpsItems members = some parts) :
    canonicalJson (.obj [
      ("schema", .str "SOMA_RFC_ARCHIVE_OPERATION_PROJECTION_V1"),
      ("rfc_archive_operation_id", .str operationId),
      ("scope_kind", .str scopeKind),
      ("scope_fingerprint", .str scopeFingerprint),
      ("members", .arr members)]) =
    .ok ("\x7b\"members\":[" ++ ",".intercalate parts ++ "],\"rfc_archive_operation_id\":" ++
      quote operationId ++
      ",\"schema\":\"SOMA_RFC_ARCHIVE_OPERATION_PROJECTION_V1\",\"scope_fingerprint\":" ++
      quote scopeFingerprint ++ ",\"scope_kind\":" ++ quote scopeKind ++ "\x7d") := by
  refine (canonicalJson_sorted [("members", "[" ++ ",".intercalate parts ++ "]"),
    ("rfc_archive_operation_id", quote operationId),
    ("schema", quote "SOMA_RFC_ARCHIVE_OPERATION_PROJECTION_V1"),
    ("scope_fingerprint", quote scopeFingerprint), ("scope_kind", quote scopeKind)]
    (by simp only [dumpsFields, dumps, texts]; rfl) ?_ (fun part => ?_) ?_).trans ?_
  · simp only [List.map_cons, List.map_nil]
    decide
  · simp only [List.mem_cons, List.not_mem_nil]
    tauto
  · simp only [List.map_cons, List.map_nil]
    decide
  have opening : ("\x7b\"members\":[" : String) = "\x7b" ++ quote "members" ++ ":" ++ "[" := by
    decide
  have operation : ("],\"rfc_archive_operation_id\":" : String) =
      "]" ++ "," ++ quote "rfc_archive_operation_id" ++ ":" := by decide
  have schema :
      (",\"schema\":\"SOMA_RFC_ARCHIVE_OPERATION_PROJECTION_V1\",\"scope_fingerprint\":" :
        String) = "," ++ quote "schema" ++ ":" ++
          quote "SOMA_RFC_ARCHIVE_OPERATION_PROJECTION_V1" ++ "," ++ quote "scope_fingerprint" ++
          ":" := by decide
  have kind : (",\"scope_kind\":" : String) = "," ++ quote "scope_kind" ++ ":" := by decide
  rw [opening, operation, schema, kind]
  simp only [List.map_cons, List.map_nil, fieldText, String.intercalate_cons_cons,
    String.intercalate_singleton, String.append_assoc]

theorem streamOperationProjectionFingerprint_eq (rows : ArchiveRows)
    (operationId scopeKind scopeFingerprint : String) :
    streamOperationProjectionFingerprint python rows operationId scopeKind scopeFingerprint =
      (operationMemberRows rows operationId).mapM (operationMemberFromRow operationId) >>=
        fun members => (archiveOperationProjectionFingerprint python operationId scopeKind
          scopeFingerprint members).map (·, members.length) := by
  have read : (operationMemberRows rows operationId).foldlM (streamOperationRow operationId)
      (.opened "\x7b\"members\":[") =
        (operationMemberRows rows operationId).mapM (operationMemberFromRow operationId) >>=
          fun members => (members.map (·.toResponse)).foldlM ArrayStream.update
            (.opened "\x7b\"members\":[") :=
    foldlM_read _ _ toResponse_encodes _ _
  rw [streamOperationProjectionFingerprint, read]
  cases (operationMemberRows rows operationId).mapM (operationMemberFromRow operationId) with
  | error raised => rfl
  | ok members =>
    obtain ⟨parts, texts⟩ : ∃ parts, dumpsItems (members.map (·.toResponse)) = some parts := by
      refine dumpsItems_encodes fun element inside => ?_
      obtain ⟨member, _, rfl⟩ := List.mem_map.mp inside
      exact toResponse_encodes member
    simp only [bind, Except.bind, archiveOperationProjectionFingerprint, sha256CanonicalJson,
      operation_text operationId scopeKind scopeFingerprint texts, foldlM_update, texts,
      Option.elim_some]
    simp [Except.map, canonicalJson_eq, dumps, pure, Except.pure]

theorem previewScope_eq (rows : ArchiveRows) (rfcId : String) (scopeKind : ArchiveScopeKind) :
    previewScope python rows rfcId scopeKind =
      ensure (isUuid4 rfcId) (validationError "rfc_id must be canonical UUIDv4") >>= fun _ =>
        (resolveArchiveScope python rows rfcId scopeKind).map fun scope =>
          ⟨scope.scopeFingerprint, scope.members.length, scope.wouldChangeCount⟩ := by
  refine congrArg (ensure _ _ >>= ·) (funext fun _ => ?_)
  rw [resolveArchiveScope]
  cases scopeMembers rows rfcId scopeKind with
  | error raised => rfl
  | ok members =>
    simp only [bind, Except.bind, streamScopeFingerprint_eq]
    cases archiveScopeFingerprint python rfcId scopeKind members <;> rfl

end Agreement

/-- **A fingerprint does not depend on how it was made.** For any members, the digest fed
member by member is the digest of the whole object, with the number of members and of
active ones beside it. So for the rows of a scope a preview gives the token that `archive`
compares it with, and for the rows of an operation the page gives the token of its complete
members, or both raise what reading the rows raises. -/
theorem streamed_fingerprints_canonical (python : PythonLibrary) :
    (∀ requestedRfcId scopeKind members,
      streamScopeFingerprint python requestedRfcId scopeKind members =
        (archiveScopeFingerprint python requestedRfcId scopeKind members).map fun fingerprint =>
          (fingerprint, members.length, members.countP (·.archiveState = .active))) ∧
    (∀ rows operationId scopeKind scopeFingerprint,
      streamOperationProjectionFingerprint python rows operationId scopeKind scopeFingerprint =
        (operationMemberRows rows operationId).mapM (operationMemberFromRow operationId) >>=
          fun members => (archiveOperationProjectionFingerprint python operationId scopeKind
            scopeFingerprint members).map (·, members.length)) ∧
    ∀ rows rfcId scopeKind,
      previewScope python rows rfcId scopeKind =
        ensure (isUuid4 rfcId) (validationError "rfc_id must be canonical UUIDv4") >>= fun _ =>
          (resolveArchiveScope python rows rfcId scopeKind).map fun scope =>
            ⟨scope.scopeFingerprint, scope.members.length, scope.wouldChangeCount⟩ :=
  ⟨streamScopeFingerprint_eq python, streamOperationProjectionFingerprint_eq python,
    previewScope_eq python⟩

end Soma.Tickets
