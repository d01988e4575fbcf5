import WikiDoc.Proofs.Validation.Exactness

/-!
Every channel of a validation tells the same.

A validation answers with a report, hands findings to a sink and keeps a log. All three are what the checks
noted on the way, which is one trace (`run_eq_trace`). The log opens and closes with a record of its own, and
between the two there is one record for each event: findings are traced (`filter_trace_record`), and kinds
without a definition are warned of (`filter_warn_record`). Warnings come from nowhere but the nodes
themselves, each where the walk comes upon it, so they follow the order of the document
(`warnings_traceTree`) whatever findings stand between them.
-/

namespace WikiDoc

/-- The record that warns of a kind without a definition. -/
def Event.warning? : Event → Option LogRecord
  | .undefinedKind kind path => some (undefinedKind kind path).record
  | .found _ => none

namespace Trace

/-- The warnings of a trace. -/
def warnings (trace : Trace) : List LogRecord := trace.events.filterMap Event.warning?

theorem warnings_append {a : Trace} (h : a.fault = none) (b : Trace) :
    (a ++ b).warnings = a.warnings ++ b.warnings := by
  rw [append_of_fault_none h, warnings, List.filterMap_append, ← warnings, ← warnings]

theorem warnings_ofFindings (findings : List Finding) : (ofFindings findings).warnings = [] := by
  simp [warnings, ofFindings, Event.warning?]

/-! ### The records of events -/

theorem filter_record (p : LogRecord → Bool) (events : List Event) :
    (events.map Event.record).filter p = events.filterMap fun event => Option.guard p event.record := by
  rw [← List.filterMap_eq_filter, List.filterMap_map]
  rfl

/-- What is traced is what is found. -/
theorem filter_trace_record (events : List Event) :
    (events.map Event.record).filter (fun record => decide (record.level = .trace)) =
      (events.filterMap Event.finding?).map fun f => ⟨.trace, "finding " ++ f.display⟩ := by
  rw [filter_record, List.map_filterMap]
  apply List.filterMap_congr
  intro event _
  cases event with
  | undefinedKind kind path => rfl
  | found finding => rfl

/-- What is warned of is what has no definition. -/
theorem filter_warn_record (events : List Event) :
    (events.map Event.record).filter (fun record => decide (record.level = .warn)) =
      events.filterMap Event.warning? := by
  rw [filter_record]
  apply List.filterMap_congr
  intro event _
  cases event with
  | undefinedKind kind path => rfl
  | found finding => rfl

theorem level_record (event : Event) : event.record.level = .trace ∨ event.record.level = .warn := by
  cases event with
  | undefinedKind kind path => exact Or.inr rfl
  | found finding => exact Or.inl rfl

end Trace

/-- Findings that are handed to the sink that keeps them come behind those it has. -/
theorem Sink.foldl_collect (findings before : List Finding) :
    findings.foldl Sink.collect.emit before = before ++ findings := by
  induction findings generalizing before with
  | nil => rw [List.foldl_nil, List.append_nil]
  | cons f findings ih =>
    rw [List.foldl_cons, ih, Sink.collect, List.append_assoc]
    rfl

namespace Validator

variable {v : Validator}

/-- The warning that a node at a path gives rise to: its kind has no definition. -/
def warning? (v : Validator) (node : Node) (path : Path) : Option LogRecord :=
  if (v.registry.kind? node.kind).isSome then none
  else some ⟨.warn, "no definition for node kind `" ++ node.kind ++ "` at " ++ path.display⟩

/-- The warning that a path of a tree gives rise to. -/
def warningAt? (v : Validator) (tree : Node) (path : Path) : Option LogRecord :=
  (tree.at? path).bind fun node => v.warning? node path

theorem warnings_atNode (node : Node) (path : Path) :
    (v.atNode node path).warnings = (v.warning? node path).toList := by
  rw [atNode, warning?]
  cases v.registry.kind? node.kind with
  | none => rfl
  | some d => exact Trace.warnings_ofFindings _

theorem warnings_atSlot (expected : Option Category) (kind : String) (path : Path) :
    (v.atSlot expected kind path).warnings = [] := by
  unfold atSlot
  split
  · rfl
  · split
    · rfl
    · rfl
    · exact Trace.warnings_ofFindings _

/-- The trace of a tree warns of its sites, one after the other. -/
theorem warnings_traceTree (hr : v.registry.WellFormed) (node : Node) (above : Option Node) (path : Path) :
    (v.traceTree node path).warnings =
      (node.sitesFrom above path).filterMap fun s => v.warning? s.node s.path := by
  induction node using Node.forest_induction (Q := fun children => ∀ (holder : Node) path index,
      (v.traceForest (v.content? holder.kind) children path index).warnings =
        (Node.sitesBelow children holder path index).filterMap fun s => v.warning? s.node s.path)
    generalizing above path with
  | nil => rw [traceForest, Node.sitesBelow]; rfl
  | cons child rest ihchild ihrest holder path index =>
    obtain ⟨below, hbelow, -⟩ := finds_traceTree hr child (some holder) (path.child index)
    rw [traceForest, Node.sitesBelow, List.filterMap_append,
      Trace.warnings_append (finds_atSlot hr holder child _).1, warnings_atSlot, List.nil_append,
      Trace.warnings_append hbelow.1, ihchild (some holder), ihrest holder path (index + 1)]
  | step node ihchildren =>
    rw [traceTree_eq, Trace.warnings_append (finds_atNode node path).1, warnings_atNode,
      Node.sitesFrom_eq, List.filterMap_cons, ihchildren node path 0]
    cases v.warning? node path <;> rfl

theorem warnings_sites (tree : Node) : (tree.sites.filterMap fun s => v.warning? s.node s.path) =
    tree.paths.filterMap (v.warningAt? tree) := by
  rw [Node.paths, List.filterMap_map]
  apply List.filterMap_congr
  intro s hs
  rw [Function.comp_apply, warningAt?, ((Node.mem_sites tree s).1 hs).1, Option.bind_some]

/-- A whole validation warns of the paths of the tree, in their order. -/
theorem warnings_trace (hr : v.registry.WellFormed) (tree : Node) :
    (v.trace tree).warnings = tree.paths.filterMap (v.warningAt? tree) := by
  obtain ⟨below, ⟨hfault, -⟩, -⟩ := finds_traceTree hr tree none Path.root
  rw [trace, Trace.warnings_append hfault, warnings_traceTree hr tree none, ← Node.sites,
    warnings_sites]
  split
  · rw [Trace.warnings_ofFindings, List.append_nil]
  · exact List.append_nil _

/-- A validation that gives a report came upon no fault, and reports what it found. -/
theorem trace_of_validate {tree : Node} {report : Report} (h : v.validate tree = .ok report) :
    (v.trace tree).fault = none ∧ report = Report.ofFindings (v.trace tree).findings := by
  rw [validate, run_eq_trace] at h
  cases hfault : (v.trace tree).fault with
  | some error => simp [hfault] at h
  | none =>
    simp only [hfault, Except.ok.injEq] at h
    exact ⟨rfl, h.symm⟩

/-- What a run without a fault leaves behind, read off its trace. -/
theorem run_eq {σ : Type} {tree : Node} (h : (v.trace tree).fault = none) (sink : Sink σ) (state : σ) :
    v.run sink state tree =
      let report := Report.ofFindings (v.trace tree).findings
      { result := .ok report
        log := startRecord tree :: ((v.trace tree).events.map Event.record ++ [endRecord tree report])
        sink := report.findings.foldl sink.emit state } := by
  simp [run_eq_trace, h, Trace.log, Report.ofFindings]

/-- Of the records of a level other than that of the first and the last, all stand between these. -/
theorem filter_between {level : LogLevel} (h : level ≠ .debug) (tree : Node) (report : Report)
    (records : List LogRecord) : (startRecord tree :: (records ++ [endRecord tree report])).filter
      (fun record => decide (record.level = level)) =
    records.filter fun record => decide (record.level = level) := by
  simp [startRecord, endRecord, h.symm]

end Validator

/-- A validation with the sink that keeps findings succeeds, with the report of a validation without a
sink, and the findings come behind those that the sink had before. The log opens with the record for the
top node and closes with the number of findings; in between are traces, which are the findings of the
report in their order, and warnings, which are those of the paths in increasing order whose nodes have
no definition for their kind, and nothing else. -/
theorem channels_agree (r : Registry) (hr : r.Reachable) (options : ValidatorOptions) (tree : Node)
    (before : List Finding) :
    let v : Validator := ⟨r, options⟩
    let run := v.run Sink.collect before tree
    ∃ (report : Report) (events : List LogRecord),
      run.result = .ok report ∧ v.validate tree = .ok report ∧
      run.sink = before ++ report.findings ∧
      run.log = ⟨.debug, "validating tree rooted at `" ++ tree.kind ++ "`"⟩ :: (events ++
        [⟨.debug, "validated tree rooted at `" ++ tree.kind ++ "`: " ++ report.findings.length.repr ++
          " finding(s)"⟩]) ∧
      (∀ record ∈ events, record.level = .trace ∨ record.level = .warn) ∧
      run.log.filter (fun record => decide (record.level = .trace)) =
        report.findings.map (fun f => ⟨.trace, "finding " ++ f.display⟩) ∧
      run.log.filter (fun record => decide (record.level = .warn)) =
        tree.paths.filterMap (v.warningAt? tree) ∧
      tree.paths.Pairwise (fun p q => compare p q = .lt) ∧
      ∀ path, path ∈ tree.paths ↔ (tree.at? path).isSome := by
  intro v run
  have hvalidate := v.validate_eq hr.wellFormed tree
  obtain ⟨hfault, hreport⟩ := Validator.trace_of_validate hvalidate
  have hrun : run = _ := Validator.run_eq hfault Sink.collect before
  rw [hreport] at hvalidate
  refine ⟨_, (v.trace tree).events.map Event.record, congrArg Run.result hrun, hvalidate, ?_,
    congrArg Run.log hrun, ?_, ?_, ?_, tree.paths_increasing, tree.mem_paths⟩
  · rw [hrun]
    exact Sink.foldl_collect _ before
  · intro record hrecord
    obtain ⟨event, -, rfl⟩ := List.mem_map.1 hrecord
    exact Trace.level_record event
  · rw [hrun, Validator.filter_between (by decide), Trace.filter_trace_record]
    rfl
  · rw [hrun, Validator.filter_between (by decide), Trace.filter_warn_record]
    exact Validator.warnings_trace hr.wellFormed tree

/-- Two kinds without a definition, one below the other, with findings before, between and after. -/
theorem channels_agree_poem :
    let v : Validator := ⟨.baseline, {}⟩
    let verse : Node := .custom { origin := "wrapper", kind := "verse", shape := .parent }
      [.leaf (.footnoteReference ⟨⟨"a", none⟩, .full⟩)]
    let poem : Node := .custom { origin := "wrapper", kind := "poem", shape := .parent }
      [.parent (.heading 99) [], verse]
    let tree : Node := .parent .root [poem]
    let before : List Finding := [⟨⟨[3]⟩, .unresolved "earlier"⟩]
    let run := v.run Sink.collect before tree
    Registry.baseline.Reachable ∧
      tree.paths.filterMap (v.warningAt? tree) =
        [⟨.warn, "no definition for node kind `poem` at /0"⟩,
          ⟨.warn, "no definition for node kind `verse` at /0/1"⟩] ∧
      run.log = [⟨.debug, "validating tree rooted at `root`"⟩,
        ⟨.trace, "finding /0: `poem` is not allowed in flow content"⟩,
        ⟨.warn, "no definition for node kind `poem` at /0"⟩,
        ⟨.trace, "finding /0/0: attribute `depth`: 99 is greater than the maximum 6"⟩,
        ⟨.warn, "no definition for node kind `verse` at /0/1"⟩,
        ⟨.trace, "finding /0/1/0: reference `a` has no definition"⟩,
        ⟨.debug, "validated tree rooted at `root`: 3 finding(s)"⟩] ∧
      ∃ (report : Report) (events : List LogRecord),
        run.result = .ok report ∧ v.validate tree = .ok report ∧
        run.sink = before ++ report.findings ∧
        run.log = ⟨.debug, "validating tree rooted at `" ++ tree.kind ++ "`"⟩ :: (events ++
          [⟨.debug, "validated tree rooted at `" ++ tree.kind ++ "`: " ++ report.findings.length.repr ++
            " finding(s)"⟩]) ∧
        (∀ record ∈ events, record.level = .trace ∨ record.level = .warn) ∧
        run.log.filter (fun record => decide (record.level = .trace)) =
          report.findings.map (fun f => ⟨.trace, "finding " ++ f.display⟩) ∧
        run.log.filter (fun record => decide (record.level = .warn)) =
          tree.paths.filterMap (v.warningAt? tree) ∧
        tree.paths.Pairwise (fun p q => compare p q = .lt) ∧
        ∀ path, path ∈ tree.paths ↔ (tree.at? path).isSome := by
  intro v verse poem tree before run
  have hwarned : tree.paths.filterMap (v.warningAt? tree) =
      [⟨.warn, "no definition for node kind `poem` at /0"⟩,
        ⟨.warn, "no definition for node kind `verse` at /0/1"⟩] := by decide +kernel
  have hr := Registry.reachable_baseline
  exact ⟨hr, hwarned, by decide +kernel, channels_agree .baseline hr {} tree before⟩

end WikiDoc
