import Soma.Foundation.Commands

/-!
Idempotency and atomicity of the command boundary. The receipt and result
tables only grow, and a command that ran leaves a receipt under its id together
with the exact response (`runFresh_ok`); a later call under the id therefore
never runs a handler again and answers from those two rows
(`repeat_answer`). `command_replay` puts the pieces together over any sequence
of calls, and says exactly when the replayed result is the first one.
-/

namespace Soma.Foundation

open Transaction

variable {Domain Result : Type} {python : PythonLibrary} {registry : AuditRegistry}
variable {session next : Session (CommandTables Domain)}

/-- The receipt stored under a command id. -/
def CommandRows.receipt? (rows : CommandRows) (commandId : String) : Option CommandReceipt :=
  rows.receipts.find? (·.commandId = commandId)

/-- The exact result stored under a command id. -/
def CommandRows.result? (rows : CommandRows) (commandId : String) : Option CommittedCommandResult :=
  rows.results.find? (·.commandId = commandId)

/-! ## What the statements of a body do -/

theorem select_ok {view : CommandRows → Result} {value : Result}
    (ran : (select view).run session = .ok (value, next)) :
    view session.tables.rows = value ∧ next.tables = session.tables := by
  have read := statement_ok ran
  simp only [steps_ok] at read
  obtain ⟨viewed, same⟩ := read
  exact ⟨viewed, same.symm⟩

theorem writeRows_ok {change : CommandRows → CommandRows} {value : PUnit}
    (ran : (writeRows change).run session = .ok (value, next)) :
    next.tables.rows = change session.tables.rows ∧
      next.tables.domain = session.tables.domain := by
  have wrote := statement_ok ran
  simp only [steps_ok, setChecked_ok] at wrote
  obtain ⟨_, same⟩ := wrote
  rw [← same]
  exact ⟨rfl, rfl⟩

theorem participate_ok (ran : (participate action).run session = .ok (value, next)) :
    next.tables.rows = session.tables.rows ∧
    action.run session.tables.domain = .ok (value, next.tables.domain) := by
  change participate action session = _ at ran
  unfold participate at ran
  cases outcome : action.run session.tables.domain with
  | error raised => simp [outcome, Except.map] at ran
  | ok pair =>
    simp only [outcome, Except.map, Except.ok.injEq, Prod.mk.injEq] at ran
    obtain ⟨rfl, rfl⟩ := ran
    exact ⟨rfl, rfl⟩

/-- The receipts and exact results are the same before and after. -/
def SameReceipts (session next : Session (CommandTables Domain)) : Prop :=
  next.tables.rows.receipts = session.tables.rows.receipts ∧
  next.tables.rows.results = session.tables.rows.results

theorem SameReceipts.trans (first : SameReceipts session middle)
    (second : SameReceipts middle next) : SameReceipts session next :=
  ⟨second.1.trans first.1, second.2.trans first.2⟩

theorem SameReceipts.of_rows (same : next.tables.rows = session.tables.rows) :
    SameReceipts session next := by
  rw [SameReceipts, same]
  exact ⟨rfl, rfl⟩

theorem writeAuditRefs_keeps
    (ran : (writeAuditRefs auditEventId ordinal refs).run session = .ok (value, next)) :
    SameReceipts session next ∧ next.tables.domain = session.tables.domain := by
  induction refs generalizing session ordinal with
  | nil =>
    obtain ⟨_, rfl⟩ := pure_ok.mp ran
    exact ⟨⟨rfl, rfl⟩, rfl⟩
  | cons ref refs ih =>
    simp only [writeAuditRefs, steps_ok] at ran
    obtain ⟨_, first, rest⟩ := ran
    obtain ⟨wrote, same⟩ := writeRows_ok first
    obtain ⟨kept, fixed⟩ := ih rest
    exact ⟨SameReceipts.trans ⟨by rw [wrote], by rw [wrote]⟩ kept, fixed.trans same⟩

theorem writeAudits_keeps
    (ran : (writeAudits registry clock events).run session = .ok (value, next)) :
    SameReceipts session next ∧ next.tables.domain = session.tables.domain := by
  induction events generalizing session with
  | nil =>
    obtain ⟨_, rfl⟩ := pure_ok.mp ran
    exact ⟨⟨rfl, rfl⟩, rfl⟩
  | cons event events ih =>
    simp only [writeAudits, writeAudit, steps_ok, reraise_ok] at ran
    obtain ⟨_, ⟨_, _, _, inserted, refs⟩, rest⟩ := ran
    obtain ⟨wrote, same⟩ := writeRows_ok inserted
    obtain ⟨referred, settled⟩ := writeAuditRefs_keeps refs
    obtain ⟨kept, fixed⟩ := ih rest
    exact ⟨SameReceipts.trans ⟨by rw [wrote], by rw [wrote]⟩ (referred.trans kept),
      fixed.trans (settled.trans same)⟩

theorem applyMutation_keeps
    (ran : (applyMutation registry call prepared).run session = .ok (value, next)) :
    SameReceipts session next := by
  unfold applyMutation at ran
  split at ran
  · obtain ⟨_, rfl⟩ := pure_ok.mp ran
    exact ⟨rfl, rfl⟩
  · exact (throw_ok.mp ran).elim
  · simp only [steps_ok] at ran
    obtain ⟨_, _, applied, _, _, _, audited, after⟩ := ran
    have kept := (SameReceipts.of_rows (participate_ok applied).1).trans (writeAudits_keeps audited).1
    cases found : prepared.afterAudit with
    | none =>
      rw [found] at after
      obtain ⟨_, rfl⟩ := pure_ok.mp after
      exact kept
    | some afterAudit =>
      rw [found] at after
      exact kept.trans (.of_rows (participate_ok after).1)

theorem semanticResponse_keeps (ran : (semanticResponse prepared).run session = .ok (value, next)) :
    SameReceipts session next := by
  unfold semanticResponse at ran
  split at ran
  · exact .of_rows (participate_ok ran).1
  · obtain ⟨_, rfl⟩ := pure_ok.mp ran
    exact ⟨rfl, rfl⟩
  · exact (throw_ok.mp ran).elim

/-! ## What a fresh command leaves -/

/-- The receipt `runFresh` stores. -/
def freshReceipt (call : Call Domain) (requestHash : String) (prepared : PreparedMutation Domain) :
    CommandReceipt where
  commandId := call.envelope.commandId
  commandType := call.envelope.commandType
  requestHash
  targetType := call.envelope.targetType
  targetId := call.envelope.targetId
  committedAtUtc := call.clock
  resultType := prepared.storedResultType
  resultId := prepared.resultId

/-- The exact result `runFresh` stores. -/
def freshResult (call : Call Domain) (prepared : PreparedMutation Domain)
    (responseJson responseSha256 : String) : CommittedCommandResult where
  commandId := call.envelope.commandId
  responseSchema := prepared.responseSchema
  responseVersion := prepared.responseVersion
  responseJson
  responseSha256

/-- What `runFresh` returns. -/
def freshOutcome (prepared : PreparedMutation Domain) (response : Json) :
    CommandExecutionResult where
  resultType := prepared.storedResultType
  resultId := prepared.resultId
  replayed := false
  noChange := prepared.noChange
  responseSchema := prepared.responseSchema
  responseVersion := prepared.responseVersion
  response

/-- A fresh command that returned has stored its receipt and its exact
response, and returned what that response reads back as. -/
theorem runFresh_ok
    (ran : (runFresh python registry call requestHash).run session = .ok (result, next)) :
    ∃ prepared domain semantic text digest normalized,
      call.prepare.run session.tables.domain = .ok (prepared, domain) ∧
      prepared.validate = .ok () ∧
      encodeResponse python semantic prepared.responseSchema prepared.responseVersion =
        .ok (text, digest, normalized) ∧
      result = freshOutcome prepared normalized ∧
      next.tables.rows.receipts =
        session.tables.rows.receipts ++ [freshReceipt call requestHash prepared] ∧
      next.tables.rows.results =
        session.tables.rows.results ++ [freshResult call prepared text digest] := by
  simp only [runFresh, steps_ok] at ran
  obtain ⟨prepared, _, prepare, valid, _, receipted, _, applied, semantic, _, responded,
    ⟨text, digest, normalized⟩, encoded, _, stored, rfl, rfl⟩ := ran
  obtain ⟨same, prepare⟩ := participate_ok prepare
  obtain ⟨receiptRows, _⟩ := writeRows_ok receipted
  obtain ⟨resultRows, _⟩ := writeRows_ok stored
  obtain ⟨receipts, results⟩ := (applyMutation_keeps applied).trans (semanticResponse_keeps responded)
  refine ⟨prepared, _, semantic, text, digest, normalized, prepare, valid, encoded, rfl, ?_, ?_⟩
  · rw [resultRows]
    dsimp only
    rw [receipts, receiptRows, same]
    rfl
  · rw [resultRows]
    dsimp only
    rw [results, receiptRows, same]
    rfl

/-- What a replay returns for a stored receipt and response. -/
def replayedResult (receipt : CommandReceipt) (exact : CommittedCommandResult) (response : Json) :
    CommandExecutionResult where
  resultType := receipt.resultType
  resultId := receipt.resultId
  replayed := true
  noChange := receipt.resultType = some "NO_CHANGE"
  responseSchema := exact.responseSchema
  responseVersion := exact.responseVersion
  response

theorem replayReceipt_ok
    (ran : (replayReceipt python envelope requestHash existing).run session = .ok (result, next)) :
    next.tables = session.tables ∧ assertReplayMatch existing envelope requestHash = .ok () ∧
    ∃ exact response, session.tables.rows.result? envelope.commandId = some exact ∧
      decodeStoredResponse python exact = .ok response ∧
      result = replayedResult existing exact response := by
  simp only [replayReceipt, steps_ok] at ran
  obtain ⟨matched, found, _, looked, rest⟩ := ran
  obtain ⟨stored, same⟩ := select_ok looked
  cases found with
  | none => exact (throw_ok.mp rest).elim
  | some exact =>
    simp only [steps_ok] at rest
    obtain ⟨response, decoded, rfl, rfl⟩ := rest
    exact ⟨same, matched, exact, response, stored, decoded, rfl⟩

/-! ## What one call does -/

section Execute

variable {tables : CommandTables Domain} {call : Call Domain} {result : CommandExecutionResult}

theorem execute_error (failed : (execute python registry tables call).1 = .error raised) :
    (execute python registry tables call).2 = tables := by
  unfold execute at failed ⊢
  split
  · rfl
  · rename_i hashed
    simp only [hashed] at failed
    exact runUnitOfWork_error failed

/-- A call that returned either replayed a stored receipt and changed nothing,
or found no receipt under its id and ran fresh. -/
theorem execute_ok (returned : (execute python registry tables call).1 = .ok result) :
    ∃ requestHash, call.envelope.requestHash python = .ok requestHash ∧
    ((∃ receipt exact response, tables.rows.receipt? call.envelope.commandId = some receipt ∧
        tables.rows.result? call.envelope.commandId = some exact ∧
        assertReplayMatch receipt call.envelope requestHash = .ok () ∧
        decodeStoredResponse python exact = .ok response ∧
        result = replayedResult receipt exact response ∧
        (execute python registry tables call).2 = tables) ∨
      (tables.rows.receipt? call.envelope.commandId = none ∧
        ∃ prepared domain semantic text digest normalized,
          call.prepare.run tables.domain = .ok (prepared, domain) ∧
          prepared.validate = .ok () ∧
          encodeResponse python semantic prepared.responseSchema prepared.responseVersion =
            .ok (text, digest, normalized) ∧
          result = freshOutcome prepared normalized ∧
          (execute python registry tables call).2.rows.receipts =
            tables.rows.receipts ++ [freshReceipt call requestHash prepared] ∧
          (execute python registry tables call).2.rows.results =
            tables.rows.results ++ [freshResult call prepared text digest])) := by
  unfold execute at returned ⊢
  cases hashed : call.envelope.requestHash python with
  | error raised =>
    simp only [hashed] at returned
    cases returned
  | ok requestHash =>
    simp only [hashed] at returned ⊢
    refine ⟨requestHash, rfl, ?_⟩
    obtain ⟨_, ran, same⟩ := runUnitOfWork_ok returned
    simp only [executeInUow, steps_ok] at ran
    obtain ⟨found, _, looked, rest⟩ := ran
    obtain ⟨receipt, unchanged⟩ := select_ok looked
    rw [same]
    cases found with
    | some existing =>
      obtain ⟨kept, matched, exact, response, stored, decoded, answer⟩ := replayReceipt_ok rest
      rw [unchanged] at stored kept
      exact .inl ⟨existing, exact, response, receipt, stored, matched, decoded, answer, kept⟩
    | none =>
      refine .inr ⟨receipt, ?_⟩
      obtain ⟨prepared, domain, semantic, text, digest, normalized, prepare, valid, encoded,
        outcome, receipts, results⟩ := runFresh_ok rest
      rw [unchanged] at prepare receipts results
      exact ⟨prepared, domain, semantic, text, digest, normalized, prepare, valid, encoded,
        outcome, receipts, results⟩

variable (python registry) in
theorem execute_grows (tables : CommandTables Domain) (call : Call Domain) :
    tables.rows.receipts <+: (execute python registry tables call).2.rows.receipts ∧
    tables.rows.results <+: (execute python registry tables call).2.rows.results := by
  cases outcome : (execute python registry tables call).1 with
  | error raised =>
    rw [execute_error outcome]
    exact ⟨List.prefix_rfl, List.prefix_rfl⟩
  | ok result =>
    obtain ⟨_, _, ⟨_, _, _, _, _, _, _, _, same⟩ |
      ⟨_, _, _, _, _, _, _, _, _, _, _, receipts, results⟩⟩ := execute_ok outcome
    · rw [same]
      exact ⟨List.prefix_rfl, List.prefix_rfl⟩
    · exact ⟨⟨_, receipts.symm⟩, ⟨_, results.symm⟩⟩

variable (python registry tables) in
theorem afterCalls_grows (calls : List (Call Domain)) :
    tables.rows.receipts <+: (afterCalls python registry tables calls).rows.receipts ∧
    tables.rows.results <+: (afterCalls python registry tables calls).rows.results := by
  induction calls generalizing tables with
  | nil => exact ⟨List.prefix_rfl, List.prefix_rfl⟩
  | cons call calls ih =>
    obtain ⟨receipts, results⟩ := execute_grows python registry tables call
    obtain ⟨receipts', results'⟩ := ih (execute python registry tables call).2
    exact ⟨receipts.trans receipts', results.trans results'⟩

theorem unreceipted_unresulted (tables : CommandTables Domain)
    (absent : tables.rows.receipt? commandId = none) : tables.rows.result? commandId = none := by
  refine List.find?_eq_none.mpr fun result member => ?_
  obtain ⟨_, _, owned⟩ := tables.valid.resultChecks result member
  obtain ⟨receipt, stored, same⟩ := List.mem_map.mp owned
  have refuted := List.find?_eq_none.mp absent receipt stored
  rw [same] at refuted
  exact refuted

/-- A call under an id that has a receipt and a result is answered from them:
it conflicts, or it returns what the stored response reads back as. -/
theorem repeat_answer (hashed : call.envelope.requestHash python = .ok requestHash)
    (quiet : call.faults = .quiet)
    (received : tables.rows.receipt? call.envelope.commandId = some receipt)
    (stored : tables.rows.result? call.envelope.commandId = some exact) :
    execute python registry tables call =
      match assertReplayMatch receipt call.envelope requestHash with
      | .error raised => (.error raised, tables)
      | .ok _ =>
        match decodeStoredResponse python exact with
        | .error raised => (.error raised, tables)
        | .ok response => (.ok (replayedResult receipt exact response), tables) := by
  have looked : (getReceipt call.envelope.commandId).run ⟨tables, 0, fun _ => false⟩ =
      .ok (some receipt, ⟨tables, 1, fun _ => false⟩) := by
    rw [← received]
    rfl
  have fetched : (getExactResult call.envelope.commandId).run ⟨tables, 1, fun _ => false⟩ =
      .ok (some exact, ⟨tables, 2, fun _ => false⟩) := by
    rw [← stored]
    rfl
  simp only [execute, hashed, quiet, runUnitOfWork_quiet, executeInUow, run_bind_of_ok looked,
    replayReceipt]
  cases assertReplayMatch receipt call.envelope requestHash with
  | error raised => rw [run_attempt_bind_error rfl]
  | ok value =>
    rw [run_attempt_bind_ok rfl, run_bind_of_ok fetched]
    dsimp only
    cases decodeStoredResponse python exact with
    | error raised => rw [run_attempt_bind_error rfl]
    | ok response =>
      rw [run_attempt_bind_ok rfl]
      rfl

end Execute

/-! ## Replay against the first result -/

section Replay

variable {tables : CommandTables Domain} {first again : Call Domain}

/-- What the handler prepares here is material but typed `NO_CHANGE`: a stored
receipt cannot tell it from a no-change outcome. -/
def Call.Ambiguous (call : Call Domain) (domain : Domain) : Prop :=
  ∃ prepared after, call.prepare.run domain = .ok (prepared, after) ∧
    prepared.noChange = false ∧ prepared.resultType = some "NO_CHANGE"

/-- The two calls ask for the same: one request hash, and the command type and
target that go into it. -/
def Call.Repeats (python : PythonLibrary) (again first : Call Domain) : Prop :=
  again.envelope.requestHash python = first.envelope.requestHash python ∧
  again.envelope.commandType = first.envelope.commandType ∧
  again.envelope.targetType = first.envelope.targetType ∧
  again.envelope.targetId = first.envelope.targetId

variable {prepared : PreparedMutation Domain}

theorem validate_response (valid : prepared.validate = .ok ()) :
    prepared.responseSchema ≠ "" ∧ 0 < prepared.responseVersion := by
  simp only [PreparedMutation.validate, except_ok] at valid
  obtain ⟨_, schema, version, _⟩ := valid
  exact ⟨schema, version⟩

/-- A stored response reads back as what `execute` returned for it. -/
theorem decode_encoded (call : Call Domain)
    (hexdigest : ∀ text, isSha256 (python.sha256Hex text) = true)
    (valid : prepared.validate = .ok ())
    (encoded : encodeResponse python semantic prepared.responseSchema prepared.responseVersion =
      .ok (text, digest, normalized)) :
    decodeStoredResponse python (freshResult call prepared text digest) = .ok normalized := by
  obtain ⟨schema, version⟩ := validate_response valid
  simp only [encodeResponse, except_ok, Prod.mk.injEq] at encoded
  obtain ⟨bounds, bounded, _, _, _, read, rfl, rfl, rfl⟩ := encoded
  simp only [decodeStoredResponse, except_ok]
  refine ⟨⟨schema, version, hexdigest _⟩, bounds, ?_, _, ?_, rfl, rfl⟩
  · exact congrArg _ bounded
  · exact congrArg _ read

/-- The receipt says `NO_CHANGE` of exactly the no-change outcomes, unless the
outcome was ambiguous. -/
theorem stored_noChange (prepared : PreparedMutation Domain) :
    decide (prepared.storedResultType = some "NO_CHANGE") = prepared.noChange ↔
      ¬ (prepared.noChange = false ∧ prepared.resultType = some "NO_CHANGE") := by
  unfold PreparedMutation.storedResultType
  cases prepared.noChange with
  | true => simp
  | false => simp

section Match

variable {prepared : PreparedMutation Domain} {requestHash requestHash' : String}

theorem replay_matches (hashed : first.envelope.requestHash python = .ok requestHash)
    (hashed' : again.envelope.requestHash python = .ok requestHash')
    (repeats : again.Repeats python first) :
    assertReplayMatch (freshReceipt first requestHash prepared) again.envelope requestHash' =
      .ok () := by
  obtain ⟨same, type, target, targetId⟩ := repeats
  rw [hashed, hashed', Except.ok.injEq] at same
  exact ensure_ok.mpr ⟨type.symm, same.symm, target.symm, targetId.symm⟩

theorem replay_conflicts (hashed : first.envelope.requestHash python = .ok requestHash)
    (hashed' : again.envelope.requestHash python = .ok requestHash')
    (differs : ¬ again.Repeats python first) :
    assertReplayMatch (freshReceipt first requestHash prepared) again.envelope requestHash' =
      .error idempotencyConflict := by
  refine if_neg fun ⟨type, same, target, targetId⟩ => differs ⟨?_, type.symm, target.symm, targetId.symm⟩
  rw [hashed, hashed']
  exact congrArg _ same.symm

end Match

/-- A fresh first call leaves its receipt and its exact response findable
under its id after any further calls. -/
theorem committed_rows (absent : tables.rows.receipt? first.envelope.commandId = none)
    (receipts : (execute python registry tables first).2.rows.receipts =
      tables.rows.receipts ++ [freshReceipt first requestHash prepared])
    (results : (execute python registry tables first).2.rows.results =
      tables.rows.results ++ [freshResult first prepared text digest])
    (between : List (Call Domain)) : let after := afterCalls python registry tables (first :: between)
    after.rows.receipt? first.envelope.commandId =
      some (freshReceipt first requestHash prepared) ∧
    after.rows.result? first.envelope.commandId =
      some (freshResult first prepared text digest) := by
  have unresulted := unreceipted_unresulted tables absent
  obtain ⟨receipts', results'⟩ :=
    afterCalls_grows python registry (execute python registry tables first).2 between
  rw [CommandRows.receipt?] at absent
  rw [CommandRows.result?] at unresulted
  constructor
  · refine receipts'.find?_eq_some ?_
    rw [receipts, List.find?_append, absent]
    simp [freshReceipt]
  · refine results'.find?_eq_some ?_
    rw [results, List.find?_append, unresulted]
    simp [freshResult]

theorem replayed_eq :
    replayedResult (freshReceipt first requestHash prepared)
        (freshResult first prepared text digest) normalized =
      { freshOutcome prepared normalized with replayed := true } ↔
    ¬ (prepared.noChange = false ∧ prepared.resultType = some "NO_CHANGE") := by
  rw [← stored_noChange, CommandExecutionResult.mk.injEq]
  constructor
  · rintro ⟨_, _, _, flag, _⟩
    exact flag
  · exact fun flag => ⟨rfl, rfl, rfl, flag, rfl, rfl, rfl⟩

/-- **Idempotency and atomicity of commands**, after any calls. A call that
raises changes no table. Once a call has committed under an id, every later call
under it changes nothing, returns only if it asks for the same, and then returns
the first result marked as replayed, unless that was material but typed
`NO_CHANGE`; without connection faults it does return, or conflicts. -/
theorem command_replay (python : PythonLibrary) (registry : AuditRegistry)
    (hexdigest : ∀ text, isSha256 (python.sha256Hex text) = true)
    (tables : CommandTables Domain) (before : List (Call Domain)) :
    let now := afterCalls python registry tables before
    (∀ call raised, (execute python registry now call).1 = .error raised →
      (execute python registry now call).2 = now) ∧
    ∀ first result, (execute python registry now first).1 = .ok result →
      result.replayed = false → ∀ between again,
      again.envelope.commandId = first.envelope.commandId →
      let later := afterCalls python registry now (first :: between)
      (execute python registry later again).2 = later ∧
      (∀ answer, (execute python registry later again).1 = .ok answer →
        again.Repeats python first ∧
        (answer = { result with replayed := true } ↔ ¬ first.Ambiguous now.domain)) ∧
      (∀ requestHash, again.faults = .quiet →
        again.envelope.requestHash python = .ok requestHash →
        (again.Repeats python first → ∃ answer,
          (execute python registry later again).1 = .ok answer) ∧
        (¬ again.Repeats python first →
          (execute python registry later again).1 = .error idempotencyConflict)) := by
  intro now
  refine ⟨fun call raised failed => execute_error failed, ?_⟩
  intro first result returned fresh between again sameId later
  obtain ⟨firstHash, hashed, ⟨_, _, _, _, _, _, _, rfl, _⟩ | ⟨absent, prepared, domain, semantic,
    text, digest, normalized, prepare, valid, encoded, rfl, receipts, results⟩⟩ :=
    execute_ok returned
  · cases fresh
  obtain ⟨received, stored⟩ := committed_rows absent receipts results between
  rw [← sameId] at received stored
  have decoded := decode_encoded first hexdigest valid encoded
  have ambiguous : first.Ambiguous now.domain ↔
      prepared.noChange = false ∧ prepared.resultType = some "NO_CHANGE" := by
    constructor
    · rintro ⟨prepared', after, prepare', outcome⟩
      cases prepare.symm.trans prepare'
      exact outcome
    · exact fun outcome => ⟨prepared, domain, prepare, outcome⟩
  refine ⟨?_, ?_, ?_⟩
  · cases outcome : (execute python registry later again).1 with
    | error raised => exact execute_error outcome
    | ok answer =>
      obtain ⟨_, _, ⟨_, _, _, _, _, _, _, _, same⟩ | ⟨absent', _⟩⟩ := execute_ok outcome
      · exact same
      · cases received.symm.trans absent'
  · intro answer answered
    obtain ⟨requestHash, hashed', ⟨receipt, exact, response, received', stored', matched, decoded',
      rfl, _⟩ | ⟨absent', _⟩⟩ := execute_ok answered
    · cases received.symm.trans received'
      cases stored.symm.trans stored'
      cases decoded.symm.trans decoded'
      refine ⟨?_, ?_⟩
      · by_contra differs
        cases (replay_conflicts hashed hashed' differs).symm.trans matched
      · rw [ambiguous]
        exact replayed_eq
    · cases received.symm.trans absent'
  · intro requestHash quiet hashed'
    rw [repeat_answer hashed' quiet received stored]
    refine ⟨fun repeats => ?_, fun differs => ?_⟩
    · rw [replay_matches hashed hashed' repeats, decoded]
      exact ⟨_, rfl⟩
    · rw [replay_conflicts hashed hashed' differs]

end Replay

/-! ## A small command, to run the boundary on -/

def sampleLibrary : PythonLibrary where
  jsonLoads text := if text = "\x7b\x7d" then some (.obj []) else none
  sha256Hex text :=
    if text = "\x7b\x7d" then "44136fa355b3678a1146ad16f7e8649e94fb4fc21fe77e8310c060f61caaff8a"
    else "3216114ee7542b1a583b9a50f6a432e90907cfd8d916bb42e9532228e3205476"

def sampleAction : AuditActionContract where
  actionType := "sample.applied"
  actionVersion := 1
  payloadSchema := "SampleAuditV1"
  payloadVersion := 1
  payloadContract := ⟨"SampleAuditV1", 1, [], [], .reject, ⟨65536, 8, 512⟩⟩

def sampleAudit : AuditRegistry where
  actions := [sampleAction]
  distinct := by decide
  named action member := by
    rw [List.mem_singleton.mp member]
    exact ⟨rfl, rfl⟩

/-- A material command over a counter that reports `resultType`. -/
def sampleCommand (resultType : String) : Call Nat where
  envelope := ⟨"3f2b8c1e-9d4a-4c7f-8a6b-0123456789ab", "SAMPLE_COMMAND", "SAMPLE", none, [], [], [], none⟩
  prepare := return {
    noChange := false
    resultType := some resultType
    resultId := none
    apply := some do
      modify (· + 1)
      return some (.event {
        auditEventId := "11111111-1111-4111-8111-111111111111"
        actionType := "sample.applied"
        actionVersion := 1
        actorKind := "SYSTEM"
        targetType := "SAMPLE"
        commandId := "3f2b8c1e-9d4a-4c7f-8a6b-0123456789ab"
        payloadSchema := "SampleAuditV1"
        payloadVersion := 1
        payload := [] })
    responseSchema := "SampleResultV1"
    response := some (.obj []) }
  clock := 100

def sampleTables : CommandTables Nat := .initial 0

def returnedFlag (tables : CommandTables Nat) (call : Call Nat) : Option Bool :=
  (execute sampleLibrary sampleAudit tables call).1.toOption.map (·.noChange)

/-- Any other material command gets its first result back. -/
theorem applied_replay_same : ∃ result,
    (execute sampleLibrary sampleAudit sampleTables (sampleCommand "APPLIED")).1 = .ok result ∧
    (execute sampleLibrary sampleAudit
      (afterCalls sampleLibrary sampleAudit sampleTables [sampleCommand "APPLIED"])
      (sampleCommand "APPLIED")).1 = .ok { result with replayed := true } := by
  have hexdigest : ∀ text, isSha256 (sampleLibrary.sha256Hex text) = true := by
    intro text
    simp only [sampleLibrary]
    split
    · decide +kernel
    · decide +kernel
  have ran : (execute sampleLibrary sampleAudit sampleTables
      (sampleCommand "APPLIED")).1.toOption.map (·.replayed) = some false := by
    decide +kernel
  cases returned : (execute sampleLibrary sampleAudit sampleTables (sampleCommand "APPLIED")).1 with
  | error raised =>
    rw [returned] at ran
    cases ran
  | ok result =>
    rw [returned] at ran
    have fresh : result.replayed = false := Option.some.inj ran
    obtain ⟨_, answers, returns⟩ := (command_replay sampleLibrary sampleAudit hexdigest
      sampleTables []).2 _ result returned fresh [] (sampleCommand "APPLIED") rfl
    have repeats : (sampleCommand "APPLIED").Repeats sampleLibrary (sampleCommand "APPLIED") :=
      ⟨rfl, rfl, rfl, rfl⟩
    have unambiguous : ¬ (sampleCommand "APPLIED").Ambiguous 0 := by
      rintro ⟨prepared, after, prepare, _, typed⟩
      cases prepare
      exact absurd typed (by decide)
    obtain ⟨answer, answered⟩ := (returns _ rfl rfl).1 repeats
    refine ⟨result, rfl, ?_⟩
    rw [← (answers answer answered).2.mpr unambiguous]
    exact answered

/-- A material command that reports `NO_CHANGE` comes back as a no-change one. -/
theorem ambiguous_replay_differs :
    returnedFlag sampleTables (sampleCommand "NO_CHANGE") = some false ∧
    returnedFlag (afterCalls sampleLibrary sampleAudit sampleTables [sampleCommand "NO_CHANGE"])
      (sampleCommand "NO_CHANGE") = some true := by
  decide +kernel

end Soma.Foundation
