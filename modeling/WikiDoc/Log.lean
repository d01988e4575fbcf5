/-!
Log records: what the registry and the validator report about their own work, beside their answers.
-/

namespace WikiDoc

/-- How grave a record is. -/
inductive LogLevel where
  | error
  | warn
  | debug
  | trace
  deriving DecidableEq

/-- One line of the log. -/
structure LogRecord where
  level : LogLevel
  message : String
  deriving DecidableEq

end WikiDoc
