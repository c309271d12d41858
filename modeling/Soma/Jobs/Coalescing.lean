import Soma.Jobs.Ledger

/-!
Job coalescing. A job can only leave the states its contract coalesces in, and
only an enqueue that found no coalescible row of the same digest adds one, so
at most one row per type, version and digest is coalescible in any reachable
state (`Coalesced`). Every stored row still is what its enqueue admitted
(`Sound`), so the row that is found passes the rechecks and its id is what
`enqueue_or_coalesce` returns (`job_coalescing`).
-/

namespace Soma.Jobs

open Foundation Transaction Execution

variable {python : PythonLibrary} {registry : JobTypeRegistry} {store : JobStore}

/-- The job is of this contract, in a state the contract coalesces in. -/
def Job.Coalesces (job : Job) (contract : JobTypeContract) : Prop :=
  job.jobType = contract.jobType ∧ job.contractVersion = contract.contractVersion ∧
  job.state ∈ contract.coalesceStates

instance (job : Job) (contract : JobTypeContract) : Decidable (job.Coalesces contract) :=
  inferInstanceAs (Decidable (_ ∧ _ ∧ _))

/-- The dedupe key of a stored job: what its contract derives from its payload. -/
def storedKey (python : PythonLibrary) (contract : JobTypeContract) (payloadJson : String) :
    Except Raised String := do
  let payload ← parseCanonicalJson python payloadJson "payload"
  deriveDedupeKey contract payload true

/-- Contracts accept the payloads they accepted when read back from their
canonical text, as `json.loads(json.dumps(value)) == value` makes any function
of JSON values do. -/
def ReadsBack (python : PythonLibrary) (registry : JobTypeRegistry) : Prop :=
  ∀ contract ∈ registry.contracts, ∀ payload text exact,
    canonicalPayload contract payload false = .ok text →
    parseCanonicalJson python text "payload" = .ok exact →
    contract.validatePayload exact = .ok ()

/-! ## What an admitted request fixes -/

section Prepared

variable {jobType dedupeKey : String} {contractVersion : Nat} {payload : Json}
variable {prepared : PreparedEnqueue}

theorem parsed_encodes (parsed : parseCanonicalJson python text label = .ok value) :
    canonicalJsonBounded jobJsonBounds value = .ok text := by
  simp only [parseCanonicalJson, except_ok, rewrapAny_ok] at parsed
  obtain ⟨_, ⟨_, _, _, encodes, rfl⟩, same, returned⟩ := parsed
  dsimp only at same returned
  rw [← returned, ← same]
  exact encodes

theorem derive_persisted (derived : deriveDedupeKey contract value false = .ok key) :
    deriveDedupeKey contract value true = .ok key := by
  simp only [deriveDedupeKey, Bool.false_eq_true, if_false, rewrapOther_ok] at derived
  simp only [deriveDedupeKey, if_true, derived]

/-- What the checks of an admitted request establish about the row it enqueues. -/
structure Admitted (python : PythonLibrary) (registry : JobTypeRegistry)
    (prepared : PreparedEnqueue) : Prop where
  registered : registry.get prepared.contract.jobType prepared.contract.contractVersion =
    some prepared.contract
  encoded : ∃ payload, canonicalPayload prepared.contract payload false = .ok prepared.payloadJson
  keyed : storedKey python prepared.contract prepared.payloadJson = .ok prepared.dedupeKey
  hashed : dedupeSha256 python prepared.contract.jobType prepared.contract.contractVersion
    prepared.dedupeKey = .ok prepared.dedupeSha256

theorem prepared_admitted
    (ready : prepareEnqueue python registry jobType contractVersion payload dedupeKey =
      .ok prepared) :
    Admitted python registry prepared ∧ prepared.contract.jobType = jobType ∧
      prepared.contract.contractVersion = contractVersion ∧ prepared.dedupeKey = dedupeKey := by
  simp only [prepareEnqueue, except_ok, require_eq_ok] at ready
  obtain ⟨contract, found, _, encoded, exact, parsed, _, derived, _, _, same, _, hashed,
    rfl⟩ := ready
  obtain ⟨typed, versioned, _⟩ := get_registered found
  refine ⟨⟨?_, ⟨payload, encoded⟩, ?_, ?_⟩, typed, versioned, rfl⟩
  · rw [typed, versioned, found]
  · rw [storedKey, except_bind_ok]
    exact ⟨exact, parsed, derive_persisted (same ▸ derived)⟩
  · rw [typed, versioned, hashed]

end Prepared

/-! ## The invariants -/

/-- Every stored job is what an admitted request enqueued. -/
def Sound (python : PythonLibrary) (registry : JobTypeRegistry) (rows : Rows) : Prop :=
  ∀ job ∈ rows.jobs, isUuid4 job.jobId = true ∧ ∃ prepared, Admitted python registry prepared ∧
    job.jobType = prepared.contract.jobType ∧
    job.contractVersion = prepared.contract.contractVersion ∧
    job.payloadJson = prepared.payloadJson ∧ job.dedupeSha256 = some prepared.dedupeSha256

/-- At most one job per contract and digest is in a state the contract coalesces in. -/
def Coalesced (registry : JobTypeRegistry) (rows : Rows) : Prop :=
  ∀ job ∈ rows.jobs, ∀ row ∈ rows.jobs, ∀ contract ∈ registry.contracts,
    job.Coalesces contract → row.Coalesces contract → job.dedupeSha256 = row.dedupeSha256 →
    job = row

section Changes

variable {rows rows' : Rows}

/-- A change writes a job in place of one that did the same work and was open,
or adds a queued one. -/
theorem change_rows (change : Change python registry rows rows') :
    (∃ job job', job ∈ rows.jobs ∧ job.state.nonterminal = true ∧ job.SameWork job' ∧
      ∀ row ∈ rows'.jobs, row = job' ∨ (row ∈ rows.jobs ∧ row.jobId ≠ job.jobId)) ∨
    ∃ prepared newJobId now, Admitted python registry prepared ∧
      coalescingRows prepared.contract prepared.dedupeSha256 rows.jobs = [] ∧
      ∀ row ∈ rows'.jobs, row = queuedJob prepared newJobId now ∧ isUuid4 newJobId = true ∨
        row ∈ rows.jobs := by
  have replaced : ∀ {job job' : Job} {rows'' : Rows}, rows''.jobs = rows.jobs → job ∈ rows.jobs →
      job.state.nonterminal = true → job.SameWork job' →
      ∃ old new, old ∈ rows.jobs ∧ old.state.nonterminal = true ∧ old.SameWork new ∧
        ∀ row ∈ (rows''.put job').jobs, row = new ∨ (row ∈ rows.jobs ∧ row.jobId ≠ old.jobId) := by
    intro job job' rows'' same member active work
    refine ⟨job, job', member, active, work, fun row stored => ?_⟩
    rw [← same, ← work.jobId]
    exact mem_put stored
  cases change with
  | enqueue prepared newJobId now admitted alone fresh =>
    obtain ⟨_, _, _, _, ready⟩ := admitted
    refine .inr ⟨prepared, newJobId.value, now, (prepared_admitted ready).1, alone, ?_⟩
    intro row stored
    rcases List.mem_append.mp stored with old | new
    · exact .inr old
    · exact .inl ⟨List.mem_singleton.mp new, newJobId.canonical⟩
  | claim job job' member idle work running counted =>
    refine .inl (replaced rfl member ?_ work)
    rcases idle with same | same <;> rw [same] <;> rfl
  | checkpoint job job' member running work => exact .inl (replaced rfl member (running_nonterminal running) work)
  | settle job job' attempt member running work => exact .inl (replaced rfl member (running_nonterminal running) work)
  | release job job' member running work => exact .inl (replaced rfl member (running_nonterminal running) work)
  | withdraw job job' member idle active work => exact .inl (replaced rfl member active work)

theorem change_sound (sound : Sound python registry rows)
    (change : Change python registry rows rows') : Sound python registry rows' := by
  intro row stored
  rcases change_rows change with ⟨job, job', member, _, work, written⟩ |
    ⟨prepared, newJobId, now, admitted, _, written⟩
  · rcases written row stored with rfl | ⟨old, _⟩
    · obtain ⟨named, prepared, admitted, typed, versioned, carried, hashed⟩ := sound job member
      exact ⟨work.jobId ▸ named, prepared, admitted, work.jobType.trans typed,
        work.contractVersion.trans versioned, work.payloadJson.trans carried,
        work.dedupeSha256.trans hashed⟩
    · exact sound row old
  · rcases written row stored with ⟨rfl, named⟩ | old
    · exact ⟨named, prepared, admitted, rfl, rfl, rfl, rfl⟩
    · exact sound row old

theorem mem_coalescingRows :
    job ∈ coalescingRows contract digest rows.jobs ↔
      job ∈ rows.jobs ∧ job.Coalesces contract ∧ job.dedupeSha256 = some digest := by
  rw [coalescingRows, (List.perm_insertionSort _ _).mem_iff, List.mem_filter, decide_eq_true_eq,
    Job.Coalesces]
  tauto

theorem open_coalesces {job : Job} (member : contract ∈ registry.contracts)
    (active : job.state.nonterminal = true) (work : job.SameWork job')
    (coalesces : job'.Coalesces contract) : job.Coalesces contract := by
  obtain ⟨typed, versioned, _⟩ := coalesces
  have valid := registry.validated contract member
  simp only [validatedContract, except_ok] at valid
  obtain ⟨_, _, allowed, _⟩ := valid
  exact ⟨work.jobType.symm.trans typed, work.contractVersion.symm.trans versioned,
    allowed.1 job.state active⟩

theorem contract_unique (admitted : Admitted python registry prepared)
    (member : contract ∈ registry.contracts) (typed : prepared.contract.jobType = contract.jobType)
    (versioned : prepared.contract.contractVersion = contract.contractVersion) :
    prepared.contract = contract :=
  List.inj_on_of_nodup_map registry.distinct (List.mem_of_find?_eq_some admitted.registered) member
    (by rw [typed, versioned])

theorem change_coalesced (coalesced : Coalesced registry rows)
    (change : Change python registry rows rows') : Coalesced registry rows' := by
  intro first firstStored second secondStored contract member firstIn secondIn same
  rcases change_rows change with ⟨job, job', stored, active, work, written⟩ |
    ⟨prepared, newJobId, now, admitted, alone, written⟩
  · -- the replaced row and an untouched one would have been two rows already
    have clash : ∀ row ∈ rows.jobs, row.jobId ≠ job.jobId → job'.Coalesces contract →
        row.Coalesces contract → job'.dedupeSha256 = row.dedupeSha256 → False := by
      intro row old other coalesces rowIn same
      have before := coalesced job stored row old contract member
        (open_coalesces member active work coalesces) rowIn (work.dedupeSha256.symm.trans same)
      exact other (by rw [before])
    rcases written first firstStored with rfl | ⟨old, other⟩
    · rcases written second secondStored with rfl | ⟨old, other⟩
      · rfl
      · exact (clash second old other firstIn secondIn same).elim
    · rcases written second secondStored with rfl | ⟨old', _⟩
      · exact (clash first old other secondIn firstIn same.symm).elim
      · exact coalesced first old second old' contract member firstIn secondIn same
  · -- the lookup that preceded the insert found no row the new one could clash with
    have clash : ∀ row ∈ rows.jobs, (queuedJob prepared newJobId now).Coalesces contract →
        row.Coalesces contract → row.dedupeSha256 = some prepared.dedupeSha256 → False := by
      intro row old coalesces rowIn hashed
      have exactly := contract_unique admitted member coalesces.1 coalesces.2.1
      have found := mem_coalescingRows.mpr ⟨old, exactly ▸ rowIn, hashed⟩
      rw [alone] at found
      exact List.not_mem_nil found
    rcases written first firstStored with ⟨rfl, _⟩ | old
    · rcases written second secondStored with ⟨rfl, _⟩ | old
      · rfl
      · exact (clash second old firstIn secondIn same.symm).elim
    · rcases written second secondStored with ⟨rfl, _⟩ | old'
      · exact (clash first old secondIn firstIn same).elim
      · exact coalesced first old second old' contract member firstIn secondIn same

theorem later_coalesced (later : Later (Change python registry) rows rows')
    (held : Sound python registry rows ∧ Coalesced registry rows) :
    Sound python registry rows' ∧ Coalesced registry rows' :=
  Later.preserves (fun rows => Sound python registry rows ∧ Coalesced registry rows)
    (fun _ _ held change => ⟨change_sound held.1 change, change_coalesced held.2 change⟩) later held

end Changes

variable (python registry) in
theorem history_coalesced (operations : List Operation) :
    Sound python registry (history python registry operations).toRows ∧
    Coalesced registry (history python registry operations).toRows := by
  refine later_coalesced (resume_changes python registry operations) ⟨?_, ?_⟩
  · intro job member
    cases member
  · intro job member
    cases member

/-! ## What a request gets -/

section Request

variable {prepared : PreparedEnqueue} {job : Job} {clock : Int} {newJobId : Uuid4}

/-- Two stored jobs of one type and version with one dedupe key share its digest. -/
theorem same_key_digest (sound : Sound python registry store.toRows)
    (registered : contract ∈ registry.contracts) (member : job ∈ store.jobs)
    (member' : row ∈ store.jobs) (coalesces : job.Coalesces contract)
    (coalesces' : row.Coalesces contract)
    (keyed : storedKey python contract job.payloadJson = .ok key)
    (keyed' : storedKey python contract row.payloadJson = .ok key) :
    job.dedupeSha256 = row.dedupeSha256 := by
  obtain ⟨_, _, admitted, typed, versioned, carried, hashed⟩ := sound job member
  obtain ⟨_, _, admitted', typed', versioned', carried', hashed'⟩ := sound row member'
  have one := contract_unique admitted registered (typed.symm.trans coalesces.1)
    (versioned.symm.trans coalesces.2.1)
  have two := contract_unique admitted' registered (typed'.symm.trans coalesces'.1)
    (versioned'.symm.trans coalesces'.2.1)
  have firstKey := admitted.keyed
  have secondKey := admitted'.keyed
  rw [one, ← carried, keyed] at firstKey
  rw [two, ← carried', keyed'] at secondKey
  have firstHash := admitted.hashed
  have secondHash := admitted'.hashed
  rw [one, ← Except.ok.inj firstKey] at firstHash
  rw [two, ← Except.ok.inj secondKey] at secondHash
  rw [hashed, hashed', Except.ok.inj (firstHash.symm.trans secondHash)]

/-- The row a lookup by digest found passes every recheck when it has the
requested key, and fails the key comparison otherwise. -/
theorem recheck_found (sound : Sound python registry store.toRows)
    (readsBack : ReadsBack python registry) (admitted : Admitted python registry prepared)
    (member : job ∈ store.jobs) (coalesces : job.Coalesces prepared.contract)
    (hashed : job.dedupeSha256 = some prepared.dedupeSha256) :
    recheckCoalesced python prepared job =
      if storedKey python prepared.contract job.payloadJson = .ok prepared.dedupeKey then
        .ok job.jobId
      else .error (integrityFailure
        "durable job dedupe hash collision or payload/key disagreement") := by
  obtain ⟨named, stored, admitted', typed, versioned, carried, _⟩ := sound job member
  have registered := List.mem_of_find?_eq_some admitted.registered
  have same := contract_unique admitted' registered (typed.symm.trans coalesces.1)
    (versioned.symm.trans coalesces.2.1)
  -- the stored payload parses, encodes to itself and validates again
  obtain ⟨payload, encoded⟩ := admitted'.encoded
  have keyed := admitted'.keyed
  rw [same, ← carried] at keyed encoded
  rw [storedKey, except_bind_ok] at keyed
  obtain ⟨exact, parsed, derived⟩ := keyed
  have encodes := parsed_encodes parsed
  have validated := readsBack _ registered _ _ _ encoded parsed
  have loaded : loadRegisteredPayload python prepared.contract job.payloadJson = .ok exact := by
    simp [loadRegisteredPayload, canonicalPayload, parsed, validated, encodes, rewrapOther,
      rewrapUnlessIntegrity, ensure, bind, Except.bind, pure, Except.pure]
  have rederived : storedKey python prepared.contract job.payloadJson = .ok stored.dedupeKey := by
    rw [storedKey, except_bind_ok]
    exact ⟨exact, parsed, derived⟩
  rw [rederived]
  simp only [recheckCoalesced, hashed, loaded, derived, requireCallbackDidNotMutate, encodes,
    rewrapAny, requireUuid4, named, ensure, if_true, bind, Except.bind, pure, Except.pure,
    Except.ok.injEq]
  by_cases agrees : stored.dedupeKey = prepared.dedupeKey
  · rw [if_pos agrees, if_pos agrees]
  · rw [if_neg agrees, if_neg agrees]

theorem coalescing_at_most_one (coalesced : Coalesced registry store.toRows)
    (admitted : Admitted python registry prepared) (first second : Job) :
    first ∈ coalescingRows prepared.contract prepared.dedupeSha256 store.jobs →
    second ∈ coalescingRows prepared.contract prepared.dedupeSha256 store.jobs →
    first = second := by
  intro found found'
  obtain ⟨stored, coalesces, hashed⟩ := mem_coalescingRows.mp found
  obtain ⟨stored', coalesces', hashed'⟩ := mem_coalescingRows.mp found'
  exact coalesced first stored second stored' prepared.contract
    (List.mem_of_find?_eq_some admitted.registered) coalesces coalesces' (hashed.trans hashed'.symm)

theorem coalescing_nodup (store : JobStore) (contract : JobTypeContract) (digest : String) :
    (coalescingRows contract digest store.jobs).Nodup := by
  rw [coalescingRows, (List.perm_insertionSort _ _).nodup_iff]
  exact (List.Nodup.of_map _ store.constraints.jobIds).filter _

theorem coalescing_lookup (coalesced : Coalesced registry store.toRows)
    (admitted : Admitted python registry prepared) :
    coalescingRows prepared.contract prepared.dedupeSha256 store.jobs = [] ∨
    ∃ job, coalescingRows prepared.contract prepared.dedupeSha256 store.jobs = [job] := by
  have distinct := coalescing_nodup store prepared.contract prepared.dedupeSha256
  have single := coalescing_at_most_one coalesced admitted
  cases rows : coalescingRows prepared.contract prepared.dedupeSha256 store.jobs with
  | nil => exact .inl rfl
  | cons first others =>
    cases others with
    | nil => exact .inr ⟨first, rfl⟩
    | cons second others =>
      rw [rows] at distinct single
      have same := single first second List.mem_cons_self (List.mem_cons_of_mem _ List.mem_cons_self)
      rw [same, List.nodup_cons] at distinct
      exact absurd List.mem_cons_self distinct.1

theorem coalesce_found
    (rows : coalescingRows prepared.contract prepared.dedupeSha256 store.jobs = [job]) :
    (coalesceOrInsert python prepared clock newJobId).run store =
      (recheckCoalesced python prepared job).map fun jobId => (jobId, store) := by
  simp [coalesceOrInsert, rows, get, getThe, MonadStateOf.get, StateT.get, attempt, StateT.run,
    bind, StateT.bind, Except.bind, pure, Except.pure]

/-- Adding the row of a request that found none violates no constraint. -/
theorem queued_constraints
    (rows : coalescingRows prepared.contract prepared.dedupeSha256 store.jobs = [])
    (admitted : Admitted python registry prepared) (hashed : isSha256 prepared.dedupeSha256 = true)
    (timed : 0 ≤ clock) (fresh : newJobId.value ∉ store.jobs.map (·.jobId)) :
    (⟨store.jobs ++ [queuedJob prepared newJobId.value clock], store.attempts⟩ :
      Rows).Constraints := by
  obtain ⟨_, _, versioned, allowed⟩ := get_registered admitted.registered
  have held := store.constraints
  constructor
  · rw [List.map_append, List.nodup_append']
    exact ⟨held.jobIds, List.nodup_singleton _, List.disjoint_singleton.mpr fresh⟩
  · intro job member
    rcases List.mem_append.mp member with old | new
    · exact held.jobChecks job old
    · rw [List.mem_singleton.mp new]
      exact ⟨versioned, timed, le_refl _, .inr ⟨by simp [queuedJob], rfl, rfl⟩,
        by simpa [queuedJob] using hashed⟩
  · rw [List.filter_append, List.map_append, List.nodup_append']
    refine ⟨held.activeDedupe, ((List.nodup_singleton _).filter _).map_on ?_, ?_⟩
    · intro first firstIn second secondIn _
      rw [List.mem_singleton.mp (List.mem_filter.mp firstIn).1,
        List.mem_singleton.mp (List.mem_filter.mp secondIn).1]
    · intro identity old new
      obtain ⟨job, listed, named⟩ := List.mem_map.mp old
      obtain ⟨_, listed', rfl⟩ := List.mem_map.mp new
      rw [List.mem_singleton.mp (List.mem_filter.mp listed').1] at named
      obtain ⟨stored, active⟩ := List.mem_filter.mp listed
      simp only [Job.inActiveIndex, Bool.and_eq_true] at active
      simp only [Job.identity, queuedJob, Prod.mk.injEq] at named
      have found := mem_coalescingRows.mpr ⟨stored, ⟨named.1, named.2.1, allowed.1 _ active.2⟩,
        named.2.2⟩
      rw [rows] at found
      exact List.not_mem_nil found
  · exact held.attemptIds
  · exact held.attemptChecks
  · intro attempt member
    rw [List.map_append]
    exact List.mem_append_left _ (held.attemptJobs attempt member)
  · exact held.attemptOrdinals

variable (python) in
theorem coalesce_inserts
    (rows : coalescingRows prepared.contract prepared.dedupeSha256 store.jobs = [])
    (admitted : Admitted python registry prepared) (hashed : isSha256 prepared.dedupeSha256 = true)
    (timed : 0 ≤ clock) (fresh : newJobId.value ∉ store.jobs.map (·.jobId)) :
    ∃ next : JobStore, (coalesceOrInsert python prepared clock newJobId).run store =
        .ok (newJobId.value, next) ∧
      next.toRows = ⟨store.jobs ++ [queuedJob prepared newJobId.value clock], store.attempts⟩ := by
  refine ⟨⟨_, queued_constraints rows admitted hashed timed fresh⟩, ?_, rfl⟩
  simp only [coalesceOrInsert, steps_ok]
  refine  ?_
  simp only [rows, List.take_nil, steps_ok, reraise_ok, insertJob_ok]
  exact ⟨clock, by simp [now, validateTime, ensure, timed, bind, Except.bind, pure, Except.pure], _,
    rfl, trivial, rfl⟩

variable (python clock newJobId) in
theorem coalesce_unambiguous
    (rows : coalescingRows prepared.contract prepared.dedupeSha256 store.jobs = []) :
    (coalesceOrInsert python prepared clock newJobId).run store ≠ .error multipleCoalescible := by
  intro raised
  simp only [coalesceOrInsert, StateT.run, bind, StateT.bind, get, getThe, MonadStateOf.get,
    StateT.get, pure, Except.pure, Except.bind, rows, List.take_nil, attempt, now, validateTime,
    ensure] at raised
  by_cases timed : 0 ≤ clock
  · simp only [timed, if_true, Except.map, reraise] at raised
    cases inserted : (insertJob (queuedJob prepared newJobId.value clock)).run store with
    | ok pair =>
      rw [inserted] at raised
      cases raised
    | error error =>
      simp only [inserted, multipleCoalescible, integrityFailure, Except.error.injEq,
        Raised.soma.injEq, SomaError.mk.injEq] at raised
      exact absurd raised.2.2.1 (by decide)
  · simp only [timed, if_false, Except.map, multipleCoalescible, integrityFailure, validationError,
      Except.error.injEq, Raised.soma.injEq, SomaError.mk.injEq] at raised
    exact absurd raised.1 (by decide)

theorem execute_enqueue
    (ready : prepareEnqueue python registry jobType contractVersion payload dedupeKey =
      .ok prepared) :
    execute python registry store
        (.enqueueOrCoalesce jobType contractVersion payload dedupeKey clock newJobId) =
      match (coalesceOrInsert python prepared clock newJobId).run store with
      | .ok (jobId, next) => (.ok (.enqueued jobId), next)
      | .error error => (.error error, store) := by
  have ran : (perform python registry
      (.enqueueOrCoalesce jobType contractVersion payload dedupeKey clock newJobId)).run store =
      ((coalesceOrInsert python prepared clock newJobId).run store).map
        fun pair => (Reply.enqueued pair.1, pair.2) := by
    simp only [perform, StateT.run_map, enqueueOrCoalesce, StateT.run_bind]
    simp only [attempt, StateT.run, ready, Except.map, bind, Except.bind]
    rfl
  rw [execute, commit, ran]
  cases (coalesceOrInsert python prepared clock newJobId).run store <;> rfl

end Request

/-- **Job coalescing.** In every reachable state at most one job per contract
and dedupe key is in a state the contract coalesces in. An admitted request is
answered with exactly that job when it exists and leaves the store alone; when
it does not, and no coalescible job of another key has the requested digest,
one new queued job is added and nothing else changes. The failure for several
coalescible jobs is never raised. -/
theorem job_coalescing (python : PythonLibrary) (registry : JobTypeRegistry)
    (readsBack : ReadsBack python registry)
    (hexdigest : ∀ text, isSha256 (python.sha256Hex text) = true) (operations : List Operation) :
    let store := history python registry operations
    (∀ contract ∈ registry.contracts, ∀ key, ∀ job ∈ store.jobs, ∀ row ∈ store.jobs,
      job.Coalesces contract → row.Coalesces contract →
      storedKey python contract job.payloadJson = .ok key →
      storedKey python contract row.payloadJson = .ok key → job = row) ∧
    ∀ jobType contractVersion payload dedupeKey prepared clock newJobId,
      prepareEnqueue python registry jobType contractVersion payload dedupeKey = .ok prepared →
      let answer := execute python registry store
        (.enqueueOrCoalesce jobType contractVersion payload dedupeKey clock newJobId)
      (∀ job ∈ store.jobs, job.Coalesces prepared.contract →
        storedKey python prepared.contract job.payloadJson = .ok dedupeKey →
        answer = (.ok (.enqueued job.jobId), store)) ∧
      ((∀ job ∈ store.jobs, job.Coalesces prepared.contract →
          storedKey python prepared.contract job.payloadJson ≠ .ok dedupeKey ∧
          job.dedupeSha256 ≠ some prepared.dedupeSha256) →
        0 ≤ clock → newJobId.value ∉ store.jobs.map (·.jobId) →
        answer.1 = .ok (.enqueued newJobId.value) ∧
        answer.2.toRows =
          ⟨store.jobs ++ [queuedJob prepared newJobId.value clock], store.attempts⟩) ∧
      answer.1 ≠ .error multipleCoalescible := by
  intro store
  obtain ⟨sound, coalesced⟩ := history_coalesced python registry operations
  refine ⟨?_, ?_⟩
  · intro contract registered key job member row member' coalesces coalesces' keyed keyed'
    exact coalesced job member row member' contract registered coalesces coalesces'
      (same_key_digest sound registered member member' coalesces coalesces' keyed keyed')
  intro jobType contractVersion payload dedupeKey prepared clock newJobId ready answer
  obtain ⟨admitted, typed, versioned, sameKey⟩ := prepared_admitted ready
  have answered : answer = _ := execute_enqueue ready
  have hashed : isSha256 prepared.dedupeSha256 = true := by
    have computed := admitted.hashed
    simp only [dedupeSha256, except_ok] at computed
    obtain ⟨text, _, digest⟩ := computed
    rw [← digest]
    exact hexdigest text
  refine ⟨?_, ?_, ?_⟩
  · intro job member coalesces keyed
    obtain ⟨_, stored, admitted', typed', versioned', carried, hashed'⟩ := sound job member
    have same := contract_unique admitted' (List.mem_of_find?_eq_some admitted.registered)
      (typed'.symm.trans coalesces.1) (versioned'.symm.trans coalesces.2.1)
    have digest : job.dedupeSha256 = some prepared.dedupeSha256 := by
      have storedKeyed := admitted'.keyed
      rw [same, ← carried, keyed] at storedKeyed
      have storedHashed := admitted'.hashed
      rw [same, ← Except.ok.inj storedKeyed, ← sameKey, admitted.hashed] at storedHashed
      rw [hashed', Except.ok.inj storedHashed]
    have found := mem_coalescingRows.mpr ⟨member, coalesces, digest⟩
    rcases coalescing_lookup coalesced admitted with empty | ⟨only, rows⟩
    · rw [empty] at found
      exact absurd found List.not_mem_nil
    · rw [rows] at found
      rw [← List.mem_singleton.mp found] at rows
      rw [answered, coalesce_found rows, recheck_found sound readsBack admitted member coalesces
        digest, if_pos (sameKey ▸ keyed)]
      rfl
  · intro none timed fresh
    have rows : coalescingRows prepared.contract prepared.dedupeSha256 store.jobs = [] := by
      rw [List.eq_nil_iff_forall_not_mem]
      intro job found
      obtain ⟨stored, coalesces, digest⟩ := mem_coalescingRows.mp found
      exact (none job stored coalesces).2 digest
    obtain ⟨next, inserted, wrote⟩ := coalesce_inserts python rows admitted hashed timed fresh
    rw [answered, inserted]
    exact ⟨rfl, wrote⟩
  · rw [answered]
    rcases coalescing_lookup coalesced admitted with rows | ⟨job, rows⟩
    · have unambiguous := coalesce_unambiguous python clock newJobId rows
      cases ran : (coalesceOrInsert python prepared clock newJobId).run store with
      | ok pair => simp
      | error error => exact fun raised => unambiguous (ran.trans (congrArg _ (Except.error.inj raised)))
    · have found : job ∈ coalescingRows prepared.contract prepared.dedupeSha256 store.jobs := by
        rw [rows]; exact List.mem_singleton_self job
      obtain ⟨stored, coalesces, digest⟩ := mem_coalescingRows.mp found
      rw [coalesce_found rows, recheck_found sound readsBack admitted stored coalesces digest]
      by_cases agrees : storedKey python prepared.contract job.payloadJson = .ok prepared.dedupeKey
      · rw [if_pos agrees]
        exact fun raised => by cases raised
      · rw [if_neg agrees]
        exact fun raised => absurd (Except.error.inj raised) (by decide)

def queuedSample : Operation :=
  .enqueueOrCoalesce "SAMPLE_JOB_V1" 1 (.obj [("key", .str "k")]) "k" 100
    ⟨"3f2b8c1e-9d4a-4c7f-8a6b-0123456789ab", by decide⟩

set_option maxRecDepth 10000 in
/-- Enqueuing the sample payload again, while its job is queued, returns that job. -/
theorem second_sample_request_coalesces :
    execute samplePython sampleRegistry (history samplePython sampleRegistry [queuedSample])
        (.enqueueOrCoalesce "SAMPLE_JOB_V1" 1 (.obj [("key", .str "k")]) "k" 105
          ⟨"66666666-6666-4666-8666-666666666666", by decide⟩) =
      (.ok (.enqueued "3f2b8c1e-9d4a-4c7f-8a6b-0123456789ab"),
        history samplePython sampleRegistry [queuedSample]) := by
  let prepared : PreparedEnqueue :=
    ⟨sampleContract, "\x7b\"key\":\"k\"\x7d", "k", sampleDigest⟩
  let job := queuedJob prepared "3f2b8c1e-9d4a-4c7f-8a6b-0123456789ab" 100
  have readsBack : ReadsBack samplePython sampleRegistry := by
    intro contract registered _ _ _ _ _
    rw [List.mem_singleton.mp registered]
    rfl
  have hexdigest : ∀ text, isSha256 (samplePython.sha256Hex text) = true := by
    intro text
    simp only [samplePython]
    split
    · decide +kernel
    · decide +kernel
  have ready : prepareEnqueue samplePython sampleRegistry "SAMPLE_JOB_V1" 1
      (.obj [("key", .str "k")]) "k" = .ok prepared := by rfl
  have stored : job ∈ (history samplePython sampleRegistry [queuedSample]).jobs := by
    decide +kernel
  have coalesces : job.Coalesces sampleContract := by decide +kernel
  have keyed : storedKey samplePython sampleContract job.payloadJson = .ok "k" := by rfl
  exact ((job_coalescing samplePython sampleRegistry readsBack hexdigest [queuedSample]).2
    "SAMPLE_JOB_V1" 1 (.obj [("key", .str "k")]) "k" prepared 105
    ⟨"66666666-6666-4666-8666-666666666666", by decide⟩ ready).1 job stored coalesces keyed

end Soma.Jobs
