import WikiDoc.Log
import WikiDoc.Validation.Finding

/-!
A validation under way.

A violation that is noted goes three ways: it is logged, it is handed to the sink of the caller, and it is
kept for the report.
-/

namespace WikiDoc

/-- A receiver of findings. -/
structure Sink (σ : Type) where
  emit : σ → Finding → σ

/-- The sink that ignores all findings. -/
def Sink.null : Sink Unit := ⟨fun state _ => state⟩

/-- The sink that keeps all findings, in the order in which they come. -/
def Sink.collect : Sink (List Finding) := ⟨fun findings finding => findings ++ [finding]⟩

/-- How far a validation has come. -/
structure Progress (σ : Type) where
  /-- The sink of the caller. -/
  sink : Sink σ
  /-- The state that the sink is in. -/
  state : σ
  findings : List Finding := []
  log : List LogRecord := []

namespace Progress

variable {σ : Type}

/-- Adds records to the log. -/
def logged (p : Progress σ) (records : List LogRecord) : Progress σ :=
  { p with log := p.log ++ records }

/-- Notes a violation of the node at a path. -/
def push (p : Progress σ) (path : Path) (violation : Violation) : Progress σ :=
  let finding : Finding := ⟨path, violation⟩
  { p with
    log := p.log ++ [⟨.trace, "finding " ++ finding.display⟩]
    state := p.sink.emit p.state finding
    findings := p.findings ++ [finding] }

end Progress

end WikiDoc
