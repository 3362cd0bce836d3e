import ApiMock.Options.Basic

/-!
# Filters

Which paths and response codes the options cover. A filter without entries covers everything.
-/
namespace ApiMock.Options

/-- Whether a path passes the filters: it has an included part, if any is named, and no excluded
part. -/
def acceptsPath (options : Options) (path : String) : Bool :=
  let included := Text.listEntries (options.includes.getD "")
  let excluded := Text.listEntries (options.excludes.getD "")
  (included.isEmpty || included.any (Text.contains path)) &&
    !excluded.any (Text.contains path)

/-- Whether a response code passes the filter: it is listed, if any code is. -/
def acceptsCode (options : Options) (code : String) : Bool :=
  let wanted := Text.listEntries (options.codes.getD "")
  wanted.isEmpty || wanted.contains (Text.trim code)

end ApiMock.Options
