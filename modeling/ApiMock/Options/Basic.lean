import ApiMock.Text.Basic

/-!
# Generation options

What a user can choose about the mock module: where it is written, how it starts, which paths
and responses it covers, and whether bodies of components come from a schema registry.
-/
namespace ApiMock

/-- The options of one generation. -/
structure Options where
  /-- The path of the module file. -/
  output : String := "mock.js"
  /-- The module that exports the schema registry. -/
  registryModule : Option String := none
  /-- Whether the module starts a server process instead of a browser worker. -/
  node : Bool := false
  /-- The greatest length of arrays whose schema names none. -/
  maxArrayLength : Nat := 20
  /-- Overrides the server address of the document. -/
  baseUrl : Option String := none
  /-- Comma-separated parts of paths, of which a covered path has one. -/
  includes : Option String := none
  /-- Comma-separated parts of paths, of which a covered path has none. -/
  excludes : Option String := none
  /-- Comma-separated status codes of covered responses. -/
  codes : Option String := none
  deriving DecidableEq, Repr, Inhabited

namespace Options

/-- The file name of a path, after its last slash of either kind. -/
def fileName (path : List Char) : List Char :=
  (path.reverse.takeWhile fun c => c != '/' && c != '\\').reverse

/-- The stem and the extension of a file name, apart at its last dot. -/
def splitExtension? (name : List Char) : Option (List Char × List Char) :=
  match name.reverse.dropWhile (· != '.') with
  | [] => none
  | _ :: stem => some (stem.reverse, (name.reverse.takeWhile (· != '.')).reverse)

/-- The extension of the output file; a name that only starts with a dot has none. -/
def extension (options : Options) : String :=
  match splitExtension? (fileName options.output.toList) with
  | some (stem, extension) => if stem.isEmpty then "" else String.ofList extension
  | none => ""

/-- Whether the module carries type annotations. -/
def isTypeScript (options : Options) : Bool := options.extension == "ts"

/-- Whether bodies of components come from a schema registry. -/
def registryEnabled (options : Options) : Bool :=
  match options.registryModule with
  | some path => !Text.isBlank path
  | none => false

end Options

end ApiMock
