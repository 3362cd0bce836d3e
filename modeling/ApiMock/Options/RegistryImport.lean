import ApiMock.Options.Basic

/-!
# Import path of the schema registry

The registry module is named relative to the working directory, and imported relative to the
directory of the output file: one step up for every directory on the way to that file.
-/
namespace ApiMock.Options

/-- A path with slashes in place of backslashes. -/
def withSlashes (path : String) : String := Text.replaceChar '\\' '/' path

/-- How many directories lead to a file: segments before the last, empty ones and dots aside. -/
def directoryDepth (path : String) : Nat :=
  ((Text.split '/' (withSlashes path)).dropLast.filter fun segment =>
    !segment.isEmpty && segment != ".").length

/-- A module path as imports name it: without a leading dot segment and without its extension. -/
def importName (path : String) : String :=
  let path := withSlashes path
  let path := (Text.after? "./" path).getD path
  (Text.before? ".ts" path).getD path

/-- The way from a directory at a depth back to where paths start. -/
def wayUp (depth : Nat) : String :=
  if depth = 0 then "./" else String.join (List.replicate depth "../")

/-- The path under which the output file imports the schema registry, if one is used. -/
def registryImport? (options : Options) : Option String :=
  if options.registryEnabled then
    options.registryModule.map fun path => wayUp (directoryDepth options.output) ++ importName path
  else none

end ApiMock.Options
