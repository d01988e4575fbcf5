import WikiDoc.Kind.Extension
import WikiDoc.Proofs.Registry.Effect
import WikiDoc.Proofs.Validation.Trace

/-!
Failures leave nothing behind but one record in the log.

An addition that is refused leaves the registry as it was, and a log tells of a failure once
(`TellsOnce`): it has one error record if there is an error and none otherwise. What goes on after a
success tells of a failure once if its second part does (`TellsOnce.append`), so this carries over from
the single places that can fail to the additions. Lookups log their failure and nothing else, and the log
of a validation has what the lookups of its checks logged on the way. Nothing is assumed of the registry
here; its categories may refer to others that are not defined.
-/

namespace WikiDoc

/-- Whether a record is that of an error. -/
def LogRecord.isError (record : LogRecord) : Bool := decide (record.level = .error)

/-- The log holds one error record if there is an error, with the wording of the error if that is about
an undefined category, and no error record if there is none. -/
def TellsOnce {α : Type} (result : Except RegistryError α) (log : List LogRecord) : Prop :=
  match result with
  | .ok _ => log.filter LogRecord.isError = []
  | .error error => ∃ record, log.filter LogRecord.isError = [record] ∧
      ∀ category referencedBy, error = .unknownCategory category referencedBy →
        record.message = error.message

/-- A refused addition leaves the registry as it was before, and the log tells of it once. -/
structure Outcome.Atomic {α : Type} (before : Registry) (outcome : Outcome α) : Prop where
  unchanged : ∀ error, outcome.result = .error error → outcome.registry = before
  logged : TellsOnce outcome.result outcome.log

section TellsOnce

variable {α β : Type} {log log' : List LogRecord}

theorem tellsOnce_ok {answer : α} (h : ∀ record ∈ log, record.isError = false) :
    TellsOnce (.ok answer) log := by
  simpa [TellsOnce] using h

/-- The log tells of an undefined category in the words of the error. -/
theorem RegistryError.message_record (category : Category) (referencedBy : String) :
    (unknownCategory category referencedBy).record.message =
      (unknownCategory category referencedBy).message := rfl

/-- A failure is logged by its own record. -/
theorem tellsOnce_error (error : RegistryError) :
    TellsOnce (.error error : Except RegistryError α) [error.record] := by
  refine ⟨error.record, ?_, ?_⟩
  · cases error <;> rfl
  · rintro category referencedBy rfl
    exact RegistryError.message_record category referencedBy

/-- Records without an error may come before what is logged of a result. -/
theorem TellsOnce.append {answer : α} {result : Except RegistryError β} (h : TellsOnce (.ok answer) log)
    (h' : TellsOnce result log') : TellsOnce result (log ++ log') := by
  have hnone : log.filter LogRecord.isError = [] := h
  cases result with
  | ok _ => simpa [TellsOnce, hnone] using h'
  | error error => simpa [TellsOnce, hnone] using h'

theorem Outcome.tellsOnce_andThen {first : Outcome α} {next : α → Registry → Outcome β}
    (h : TellsOnce first.result first.log)
    (hnext : ∀ answer r, TellsOnce (next answer r).result (next answer r).log) :
    TellsOnce (first.andThen next).result (first.andThen next).log := by
  unfold andThen
  cases hfirst : first.result with
  | ok answer => exact (hfirst ▸ h).append (hnext answer first.registry)
  | error error => rwa [hfirst] at h

theorem Lookup.LogsFailure.tellsOnce {lookup : Lookup α} (h : lookup.LogsFailure) :
    TellsOnce lookup.result lookup.log := by
  cases h with
  | answer value => exact tellsOnce_ok nofun
  | fault error => exact tellsOnce_error error

end TellsOnce

/-! ### Additions -/

namespace Registry

variable {r : Registry}

theorem tellsOnce_defineCategory (category : Category) (includes : List Category) :
    TellsOnce (r.defineCategory category includes).result (r.defineCategory category includes).log := by
  unfold defineCategory
  split
  · exact tellsOnce_error _
  · exact tellsOnce_ok (by simp [LogRecord.isError])

theorem tellsOnce_register (category : Category) (kind : String) :
    TellsOnce (r.register category kind).result (r.register category kind).log := by
  unfold register
  split
  · exact tellsOnce_error _
  · split
    · exact tellsOnce_ok nofun
    · exact tellsOnce_ok (by simp [LogRecord.isError])

theorem tellsOnce_registerInto (kind : String) (categories : List Category) :
    TellsOnce (r.registerInto kind categories).result (r.registerInto kind categories).log := by
  induction categories generalizing r with
  | nil => exact tellsOnce_ok nofun
  | cons category rest ih =>
    exact Outcome.tellsOnce_andThen (tellsOnce_register category kind) fun _ _ => ih

theorem tellsOnce_define (definition : KindDef) :
    TellsOnce (r.define definition).result (r.define definition).log := by
  unfold define
  split
  · exact tellsOnce_error _
  · split
    · split
      · exact tellsOnce_ok nofun
      · exact tellsOnce_error _
    · refine Outcome.tellsOnce_andThen (tellsOnce_registerInto _ _) fun _ r' => ?_
      exact tellsOnce_ok (by simp [store, LogRecord.isError])

end Registry

/-! ### Validations -/

/-- The log of a validation tells of its fault once, whatever the sink does. -/
theorem Validator.tellsOnce_run {σ : Type} (v : Validator) (sink : Sink σ) (state : σ) (tree : Node) :
    TellsOnce (v.validate tree) (v.run sink state tree).log := by
  have hevents : ∀ record ∈ (v.trace tree).events.map Event.record, record.isError = false := by
    intro record hrecord
    obtain ⟨event, -, rfl⟩ := List.mem_map.1 hrecord
    cases event <;> rfl
  have hopen : TellsOnce (.ok () : Except RegistryError Unit)
      (startRecord tree :: (v.trace tree).events.map Event.record) :=
    tellsOnce_ok (List.forall_mem_cons.2 ⟨rfl, hevents⟩)
  simp only [validate, run_eq_trace, Trace.log]
  cases (v.trace tree).fault with
  | none =>
    have hclose : TellsOnce (.ok (Report.ofFindings (v.trace tree).findings))
        [endRecord tree (Report.ofFindings (v.trace tree).findings)] :=
      tellsOnce_ok (by simp [endRecord, LogRecord.isError])
    simpa using hopen.append hclose
  | some error => simpa using hopen.append (tellsOnce_error error)

/-- In a registry of any contents, an addition that fails leaves the registry as it was. Additions, searches
for members, the check of the registry and validations log one error record if they fail, with the
wording of the error if a category is not defined, and none if they succeed. -/
theorem failures_atomic_logged_once (r : Registry) :
    (∀ category includes, (r.defineCategory category includes).Atomic r) ∧
    (∀ category kind, (r.register category kind).Atomic r) ∧
    (∀ definition, (r.define definition).Atomic r) ∧
    (∀ category, TellsOnce (r.membersOf category) (Lookup.membersOf r category).log) ∧
    (∀ category kind, TellsOnce (r.contains category kind) (Lookup.contains r category kind).log) ∧
    TellsOnce r.check (Lookup.check r).log ∧
    ∀ (σ : Type) (sink : Sink σ) (state : σ) options tree,
      ((Validator.mk r options).run sink state tree).result = (Validator.mk r options).validate tree ∧
      TellsOnce ((Validator.mk r options).validate tree)
        ((Validator.mk r options).run sink state tree).log := by
  refine ⟨?_, ?_, ?_, ?_, ?_, Lookup.logsFailure_check.tellsOnce, ?_⟩
  · intro category includes
    exact ⟨fun _ => Registry.defineCategory_error, Registry.tellsOnce_defineCategory category includes⟩
  · intro category kind
    exact ⟨fun _ => Registry.register_error, Registry.tellsOnce_register category kind⟩
  · intro definition
    exact ⟨fun _ => Registry.define_error, Registry.tellsOnce_define definition⟩
  · intro category
    exact (Lookup.logsFailure_collectMembers [] [category] []).tellsOnce
  · intro category kind
    exact (Lookup.logsFailure_findMember kind [] [category]).tellsOnce
  · intro σ sink state options tree
    have hresult : ((Validator.mk r options).run sink state tree).result =
        (Validator.mk r options).validate tree := by
      rw [Validator.validate, Validator.run_eq_trace, Validator.run_eq_trace]
    exact ⟨hresult, Validator.tellsOnce_run ⟨r, options⟩ sink state tree⟩

/-- Blocks and lists include each other and blocks an undefined category, which poems are to hold: all
that can fail does, and a definition after the kind could have joined the first of its categories. -/
theorem failures_atomic_logged_once_lyrics :
    let lyrics : Category := ⟨"lyrics"⟩
    let line : KindDef := { KindDef.leaf "line" with memberOf := [.block, lyrics] }
    let r : Registry :=
      { categories := .ofList [(.block, ⟨["poem"], [.list, lyrics]⟩), (.list, ⟨[], [.block]⟩)]
        kinds := .ofList [("poem", KindDef.parent "poem" lyrics)] }
    let v : Validator := ⟨r, {}⟩
    let poem := Extension.poem [.literal .text "a"]
    let error := RegistryError.unknownCategory lyrics "lookup"
    (r.define line).result = .error (.unknownCategory lyrics "line") ∧
      (r.define (KindDef.leaf "poem")).result = .error (.conflict "poem") ∧
      r.membersOf .list = .error error ∧ r.contains .list "text" = .error error ∧
      v.validate poem = .error error ∧
      (v.run Sink.null () poem).log = [⟨.debug, "validating tree rooted at `poem`"⟩,
        ⟨.error, "content category `lyrics` referenced by `lookup` is not defined"⟩] ∧
      (r.define line).registry = r ∧ (r.define (KindDef.leaf "poem")).registry = r ∧
      (∃ record, (r.define line).log.filter LogRecord.isError = [record] ∧
        record.message = (RegistryError.unknownCategory lyrics "line").message) ∧
      (∃ record, (Lookup.membersOf r .list).log.filter LogRecord.isError = [record] ∧
        record.message = error.message) ∧
      (∃ record, (Lookup.contains r .list "text").log.filter LogRecord.isError = [record] ∧
        record.message = error.message) ∧
      ∃ record, (v.run Sink.null () poem).log.filter LogRecord.isError = [record] ∧
        record.message = error.message := by
  intro lyrics line r v poem error
  have hline : (r.define line).result = .error (.unknownCategory lyrics "line") := by decide
  have hconflict : (r.define (KindDef.leaf "poem")).result = .error (.conflict "poem") := by decide
  have hmembers : r.membersOf .list = .error error := by decide +kernel
  have hcontains : r.contains .list "text" = .error error := by decide +kernel
  have hvalidate : v.validate poem = .error error := by decide +kernel
  obtain ⟨-, -, hdefine, hlisted, hfound, -, hruns⟩ := failures_atomic_logged_once r
  obtain ⟨hsame, htold⟩ := hdefine line
  rw [hline] at htold
  have hmemberslog := hlisted .list
  rw [hmembers] at hmemberslog
  have hcontainslog := hfound .list "text"
  rw [hcontains] at hcontainslog
  have hrunlog := (hruns Unit Sink.null () {} poem).2
  rw [hvalidate] at hrunlog
  have hworded : ∀ {log : List LogRecord} {category referencedBy},
      TellsOnce (.error (.unknownCategory category referencedBy) : Except RegistryError Unit) log →
      ∃ record, log.filter LogRecord.isError = [record] ∧
        record.message = (RegistryError.unknownCategory category referencedBy).message := by
    rintro log category referencedBy ⟨record, hrecord, hmessage⟩
    exact ⟨record, hrecord, hmessage category referencedBy rfl⟩
  exact ⟨hline, hconflict, hmembers, hcontains, hvalidate, by decide +kernel, hsame _ hline,
    (hdefine (KindDef.leaf "poem")).unchanged _ hconflict, hworded htold, hworded hmemberslog,
    hworded hcontainslog, hworded hrunlog⟩

end WikiDoc
