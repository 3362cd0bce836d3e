import ApiMock.Text.Basic

/-!
# Paths of files

The segments of a path and the directory that it puts its file in. Empty segments and dots say
nothing, except that a path may start with a dot.
-/
namespace ApiMock.Output

/-- The segments of a path. -/
def segments (path : String) : List String := Text.split '/' path

/-- Whether a segment leads nowhere. -/
def isIdle (segment : String) : Bool := segment == "" || segment == "."

/-- Segments without the idle ones at their end; a leading dot stays. -/
def trimIdle (path : List String) : List String :=
  let trimmed := (path.reverse.dropWhile isIdle).reverse
  if trimmed.isEmpty && path.head? == some "." then ["."] else trimmed

/-- The path of the directory of a file; empty for a file of the working directory. -/
def parentPath (path : String) : String :=
  "/".intercalate (trimIdle (trimIdle (segments path)).dropLast)

end ApiMock.Output
