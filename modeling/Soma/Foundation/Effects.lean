import Soma.Foundation.Idempotency

/-!
What the command boundary does to the tables of the owning domain. The boundary
writes its own rows only, so a call that changed the domain ran its handler's
callbacks on it and nothing else (`execute_effect`): a domain proves a property
of its tables by looking at its own callbacks.
-/

namespace Soma.Foundation

open Transaction

variable {Domain Result : Type} {python : PythonLibrary} {registry : AuditRegistry}
variable {session next : Session (CommandTables Domain)}

/-- A callback that may be absent took the domain from one state to the other. -/
def Ran (action : Option (DomainAction Domain Result)) (before after : Domain) : Prop :=
  match action with
  | none => after = before
  | some action => ∃ value, action.run before = .ok (value, after)

/-- What a prepared mutation does to the domain: the callbacks it declares, in order. -/
def PreparedMutation.Changes (prepared : PreparedMutation Domain) (before after : Domain) : Prop :=
  ∃ applied settled,
    (if prepared.noChange then applied = before else Ran prepared.apply before applied) ∧
    (if prepared.noChange then settled = applied else Ran prepared.afterAudit applied settled) ∧
    Ran prepared.responseFactory settled after

theorem PreparedMutation.Changes.applied {prepared : PreparedMutation Domain}
    (changes : prepared.Changes before after) (unaudited : prepared.afterAudit = none)
    (fixed : prepared.responseFactory = none) :
    if prepared.noChange then after = before else Ran prepared.apply before after := by
  obtain ⟨applied, settled, ran, audited, responded⟩ := changes
  simp only [unaudited, fixed, Ran] at audited responded
  have same : settled = applied := by
    split at audited
    · exact audited
    · exact audited
  rw [responded, same]
  exact ran

/-! ## What the callbacks of a fresh command do -/

theorem applyMutation_domain
    (ran : (applyMutation registry call prepared).run session = .ok (value, next)) :
    ∃ applied,
      (if prepared.noChange then applied = session.tables.domain
        else Ran prepared.apply session.tables.domain applied) ∧
      (if prepared.noChange then next.tables.domain = applied
        else Ran prepared.afterAudit applied next.tables.domain) := by
  cases unchanged : prepared.noChange with
  | true =>
    simp only [applyMutation, unchanged] at ran
    obtain ⟨_, rfl⟩ := pure_ok.mp ran
    exact ⟨_, rfl, rfl⟩
  | false =>
    cases declared : prepared.apply with
    | none =>
      simp only [applyMutation, unchanged, declared] at ran
      exact (throw_ok.mp ran).elim
    | some apply =>
      simp only [applyMutation, unchanged, declared, steps_ok] at ran
      obtain ⟨emission, middle, applied, _, _, _, audited, after⟩ := ran
      refine ⟨middle.tables.domain, ⟨emission, (participate_ok applied).2⟩, ?_⟩
      rw [← (writeAudits_keeps audited).2]
      cases found : prepared.afterAudit with
      | none =>
        simp only [found] at after
        obtain ⟨_, rfl⟩ := pure_ok.mp after
        rfl
      | some afterAudit =>
        simp only [found] at after
        exact ⟨value, (participate_ok after).2⟩

theorem semanticResponse_domain
    (ran : (semanticResponse prepared).run session = .ok (value, next)) :
    Ran prepared.responseFactory session.tables.domain next.tables.domain := by
  unfold semanticResponse at ran
  cases declared : prepared.responseFactory with
  | some factory =>
    simp only [declared] at ran
    exact ⟨value, (participate_ok ran).2⟩
  | none =>
    cases fixed : prepared.response with
    | some response =>
      simp only [declared, fixed] at ran
      obtain ⟨_, rfl⟩ := pure_ok.mp ran
      rfl
    | none =>
      simp only [declared, fixed] at ran
      exact (throw_ok.mp ran).elim

theorem runFresh_domain
    (ran : (runFresh python registry call requestHash).run session = .ok (result, next)) :
    ∃ prepared domain, call.prepare.run session.tables.domain = .ok (prepared, domain) ∧
      prepared.Changes domain next.tables.domain ∧ result.replayed = false ∧
      result.noChange = prepared.noChange := by
  simp only [runFresh, steps_ok] at ran
  obtain ⟨prepared, first, prepare, _, _, receipted, third, applied, _, _, responded,
    ⟨_, _, _⟩, _, _, stored, rfl, rfl⟩ := ran
  obtain ⟨changed, settles, audits⟩ := applyMutation_domain applied
  rw [(writeRows_ok receipted).2] at settles
  refine ⟨prepared, first.tables.domain, (participate_ok prepare).2,
    ⟨changed, third.tables.domain, settles, audits, ?_⟩, rfl, rfl⟩
  rw [(writeRows_ok stored).2]
  exact semanticResponse_domain responded

/-! ## One call -/

/-- **A call either leaves every table as it was, or ran its handler.** When it
leaves them it raised or replayed a stored result; when it ran the handler it
returned a fresh result, and the domain changed by the handler's callbacks. -/
theorem execute_effect (python : PythonLibrary) (registry : AuditRegistry)
    (tables : CommandTables Domain) (call : Call Domain) :
    ((execute python registry tables call).2 = tables ∧
      ∀ result, (execute python registry tables call).1 = .ok result → result.replayed = true) ∨
    ∃ result prepared domain, (execute python registry tables call).1 = .ok result ∧
      result.replayed = false ∧ result.noChange = prepared.noChange ∧
      call.prepare.run tables.domain = .ok (prepared, domain) ∧
      prepared.Changes domain (execute python registry tables call).2.domain := by
  cases outcome : (execute python registry tables call).1 with
  | error raised => exact .inl ⟨execute_error outcome, fun _ returned => by cases returned⟩
  | ok result =>
    unfold execute at outcome ⊢
    cases hashed : call.envelope.requestHash python with
    | error raised =>
      simp only [hashed] at outcome
      cases outcome
    | ok requestHash =>
      simp only [hashed] at outcome ⊢
      obtain ⟨_, ran, same⟩ := runUnitOfWork_ok outcome
      rw [same]
      simp only [executeInUow, steps_ok] at ran
      obtain ⟨found, _, looked, rest⟩ := ran
      obtain ⟨_, unchanged⟩ := select_ok looked
      cases found with
      | some existing =>
        obtain ⟨kept, _, _, _, _, _, answer⟩ := replayReceipt_ok rest
        refine .inl ⟨kept.trans unchanged, fun returned same => ?_⟩
        cases same
        rw [answer]
        rfl
      | none =>
        obtain ⟨prepared, domain, prepare, changes, fresh, reported⟩ := runFresh_domain rest
        rw [unchanged] at prepare
        exact .inr ⟨result, prepared, domain, rfl, fresh, reported, prepare, changes⟩

/-! ## A sequence of calls -/

/-- The domain with no command boundary: the handlers run one after the other. -/
inductive Handled : List (Call Domain) → Domain → Domain → Prop
  | done (domain : Domain) : Handled [] domain domain
  | handled {call : Call Domain} {calls : List (Call Domain)} {before read middle after : Domain}
      {prepared : PreparedMutation Domain} :
      call.prepare.run before = .ok (prepared, read) → prepared.Changes read middle →
      Handled calls middle after → Handled (call :: calls) before after

/-- **The boundary runs a handler once for each command.** Whatever is called, the domain is
led on by the handlers of some of the calls and by nothing else. These calls are in order, and
each leaves one receipt: its command was not received before and is not handled again. -/
theorem handlers_run_once (python : PythonLibrary) (registry : AuditRegistry)
    (calls : List (Call Domain)) (tables : CommandTables Domain) :
    let after := afterCalls python registry tables calls
    ∃ handled : List (Call Domain), handled.Sublist calls ∧
      Handled handled tables.domain after.domain ∧
      after.rows.receipts.map (·.commandId) =
        tables.rows.receipts.map (·.commandId) ++ handled.map (·.envelope.commandId) ∧
      (after.rows.receipts.map (·.commandId)).Nodup := by
  dsimp only
  induction calls generalizing tables with
  | nil => exact ⟨[], .slnil, .done _, (List.append_nil _).symm, tables.valid.receiptIds⟩
  | cons call calls ih =>
    obtain ⟨handled, listed, led, ids, once⟩ := ih (execute python registry tables call).2
    rcases execute_effect python registry tables call with ⟨same, -⟩ |
      ⟨result, prepared, read, returned, fresh, -, prepare, changes⟩
    · have unchanged : afterCalls python registry tables (call :: calls) =
          afterCalls python registry tables calls := congrArg (afterCalls python registry · calls) same
      rw [same] at led ids once
      rw [unchanged]
      exact ⟨handled, listed.cons call, led, ids, once⟩
    · refine ⟨call :: handled, listed.cons_cons call, .handled prepare changes led, ids.trans ?_, once⟩
      obtain ⟨_, _, ⟨_, _, _, _, _, _, _, rfl, _⟩ | ⟨_, _, _, _, _, _, _, _, _, _, _, receipts, _⟩⟩ :=
        execute_ok returned
      · cases fresh
      · rw [receipts, List.map_append, List.append_assoc]
        rfl

end Soma.Foundation
