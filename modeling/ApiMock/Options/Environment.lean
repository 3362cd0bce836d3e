import ApiMock.Options.Basic
import ApiMock.Text.Decimal

/-!
# Options from the environment

Environment variables that override options. A value that makes no sense for its option leaves
the option as it is.
-/
namespace ApiMock

/-- The environment: what each variable is set to, if it is set. -/
abbrev Environment := String → Option String

namespace Options

/-- Whether the text of a switch turns it on. -/
def parseFlag (text : String) : Bool :=
  ["1", "true", "yes", "on"].contains (Text.lowerAscii (Text.trim text))

/-- A positive array length below `2 ^ 64`. -/
def parseArrayLength? (text : String) : Option Nat :=
  (Text.natBelow? (2 ^ 64) (Text.trim text)).filter (0 < ·)

/-- The options with the overrides of an environment. -/
def withEnvironment (options : Options) (environment : Environment) : Options :=
  { options with
    maxArrayLength :=
      ((environment "MOCKGEN_MAX_ARRAY_LENGTH").bind parseArrayLength?).getD options.maxArrayLength
    baseUrl := (environment "MOCKGEN_BASE_URL").or options.baseUrl
    node := ((environment "MOCKGEN_NODE").map parseFlag).getD options.node }

end Options

end ApiMock
