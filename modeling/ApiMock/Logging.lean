import ApiMock.Options.Environment
import ApiMock.Text.LetterCase

/-!
# Log settings

How much is logged and in which form, read from names in any letter case. An unknown name gives
the default.
-/
namespace ApiMock

/-- The forms of log lines. -/
inductive LogFormat where
  | json
  | pretty
  deriving DecidableEq, Repr

/-- The form that a name stands for. -/
def LogFormat.parse (name : String) : LogFormat :=
  if Text.lower name = "pretty" then .pretty else .json

/-- How much is logged, from everything to errors only. -/
inductive LogLevel where
  | trace
  | debug
  | info
  | warn
  | error
  deriving DecidableEq, Repr

/-- The level that a name stands for. -/
def LogLevel.parse (name : String) : LogLevel :=
  match Text.lower name with
  | "trace" => .trace
  | "debug" => .debug
  | "warn" => .warn
  | "error" => .error
  | _ => .info

/-- The log settings. -/
structure LogConfig where
  /-- The name of the level as it was given. -/
  levelName : String := "info"
  /-- The form of log lines. -/
  format : LogFormat := .json
  /-- Further filter directives. -/
  targets : Option String := none
  deriving DecidableEq, Repr

namespace LogConfig

/-- The settings of an environment. -/
def ofEnvironment (environment : Environment) : LogConfig where
  levelName := (environment "MOCKGEN_LOG_LEVEL").getD "info"
  format := LogFormat.parse ((environment "MOCKGEN_LOG_FORMAT").getD "json")
  targets := environment "MOCKGEN_LOG_TARGETS"

/-- The level that the settings name. -/
def level (config : LogConfig) : LogLevel := LogLevel.parse config.levelName

end LogConfig

end ApiMock
