import CloudProvision.Text.Blank

/-!
# Log levels

The level of the log, read from its name. Case and blanks around the name do not matter, and no
name stands for the finest level.
-/

namespace CloudProvision

/-- How much is logged. -/
inductive LogLevel where
  | trace
  | debug
  | info
  | warn
  | error
  deriving DecidableEq

/-- The text that names no level. -/
structure InvalidLogLevel where
  name : String
  deriving DecidableEq

/-- The text of the error. -/
def InvalidLogLevel.message (e : InvalidLogLevel) : String :=
  "Invalid log level `" ++ e.name ++ "`"

/-- The level with the given name. -/
def LogLevel.ofName (name : String) : Except InvalidLogLevel LogLevel :=
  match (Text.trimmed name).toLower with
  | "" | "trace" => .ok .trace
  | "debug" => .ok .debug
  | "info" => .ok .info
  | "warn" => .ok .warn
  | "error" => .ok .error
  | other => .error ⟨other⟩

end CloudProvision
