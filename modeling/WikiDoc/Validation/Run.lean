import WikiDoc.Validation.CrossReference
import WikiDoc.Validation.Tree

/-!
Runs of the validator.

A run checks the tree and then, if asked to, its cross-references, and reports what was noted on the way.
It fails only when the registry is at fault; nothing is checked after that.
-/

namespace WikiDoc

/-- The outcome of a validation. -/
structure Report where
  /-- Whether there is no finding. -/
  valid : Bool
  /-- The findings about single nodes first, in document order, then those about references. -/
  findings : List Finding
  deriving DecidableEq

/-- The report on some findings. -/
def Report.ofFindings (findings : List Finding) : Report := ⟨findings.isEmpty, findings⟩

/-- What a validation leaves behind: its result, what it logged and the state of the sink. -/
structure Run (σ : Type) where
  result : Except RegistryError Report
  log : List LogRecord
  sink : σ

namespace Validator

/-- The record that opens a run. -/
def startRecord (tree : Node) : LogRecord :=
  ⟨.debug, "validating tree rooted at `" ++ tree.kind ++ "`"⟩

/-- The record that closes a run without a fault. -/
def endRecord (tree : Node) (report : Report) : LogRecord :=
  ⟨.debug, "validated tree rooted at `" ++ tree.kind ++ "`: " ++ report.findings.length.repr ++
    " finding(s)"⟩

/-- Validates a tree, handing every finding to a sink. -/
def run {σ : Type} (v : Validator) (sink : Sink σ) (state : σ) (tree : Node) : Run σ :=
  match v.checkTree tree (Path.root, { sink, state, log := [startRecord tree] }) with
  | ((_, p), some error) => { result := .error error, log := p.log, sink := p.state }
  | ((_, p), none) =>
    let p' :=
      if v.options.checkReferences then p.checkReferences v.options.identifierMatching tree else p
    let report := Report.ofFindings p'.findings
    { result := .ok report, log := p'.log ++ [endRecord tree report], sink := p'.state }

/-- Validates a tree. -/
def validate (v : Validator) (tree : Node) : Except RegistryError Report :=
  (v.run Sink.null () tree).result

end Validator

end WikiDoc
