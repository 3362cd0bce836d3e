import ApiMock.Output.Path

/-!
# Files and directories

A tree of files and directories beneath a working directory, and the way a module file is written
into it: directories on the way are made, and an existing file is kept unless it is to be
replaced. Whatever was made before a failure stays.
-/
namespace ApiMock.Output

/-- What stands at a place of a tree. -/
inductive Node where
  /-- A file with its text. -/
  | file (contents : String)
  /-- A directory. -/
  | directory
  deriving DecidableEq, Repr

/-- What stands at the places below the working directory, by the names that lead there. -/
structure FileTree where
  /-- The places and what stands there. -/
  nodes : List (List String × Node)
  deriving DecidableEq, Repr

namespace FileTree

/-- An empty working directory. -/
def empty : FileTree := ⟨[]⟩

/-- What stands at a place; the working directory is a directory. -/
def node? (tree : FileTree) (place : List String) : Option Node :=
  if place.isEmpty then some .directory else tree.nodes.lookup place

/-- Put a node at a place. -/
def put (tree : FileTree) (place : List String) (node : Node) : FileTree :=
  ⟨(place, node) :: tree.nodes.filter fun entry => entry.1 != place⟩

/-- Whether a directory can hold a name: it has at most 255 bytes. -/
def isName (name : String) : Bool := name.utf8ByteSize ≤ 255

/-- Whether a path can be looked up at all: it has no null character and less than 4096 bytes. -/
def isPath (path : String) : Bool :=
  !path.toList.any (·.toNat == 0) && path.utf8ByteSize < 4096

/-- The directory that segments lead to from another one, if all on the way are directories. -/
def enter (tree : FileTree) (place : List String) : List String → Option (List String)
  | [] => some place
  | segment :: rest =>
    if isIdle segment then enter tree place rest
    else if segment = ".." then enter tree place.dropLast rest
    else if tree.node? (place ++ [segment]) = some .directory then
      enter tree (place ++ [segment]) rest
    else none

/-- Make the directories that segments name from a directory on, and tell whether all of them are
there now. -/
def makeDirectories (tree : FileTree) (place : List String) : List String → Bool × FileTree
  | [] => (true, tree)
  | segment :: rest =>
    if isIdle segment then makeDirectories tree place rest
    else if segment = ".." then makeDirectories tree place.dropLast rest
    else
      let place := place ++ [segment]
      match tree.node? place with
      | some .directory => makeDirectories tree place rest
      | some (.file _) => (false, tree)
      | none =>
        if isName segment then makeDirectories (tree.put place .directory) place rest
        else (false, tree)

/-- The place that a path gives a file: its last segment names the file, and the segments before
it lead to a directory. -/
def filePlace? (tree : FileTree) (path : String) : Option (List String) :=
  match (segments path).reverse with
  | [] => none
  | name :: before =>
    if !isPath path || isIdle name || name == ".." then none
    else (tree.enter [] before.reverse).map (· ++ [name])

/-- Whether something stands at a path. -/
def isTaken (tree : FileTree) (path : String) : Bool :=
  !path.isEmpty && isPath path && ((tree.enter [] (segments path)).isSome ||
    ((tree.filePlace? path).bind tree.node?).isSome)

/-- The text of the file at a path. -/
def read? (tree : FileTree) (path : String) : Option String :=
  match (tree.filePlace? path).bind tree.node? with
  | some (.file contents) => some contents
  | _ => none

/-- Write a file, if its directory is there and no directory has its name. -/
def write? (tree : FileTree) (path contents : String) : Option FileTree :=
  match tree.filePlace? path with
  | none => none
  | some place =>
    if tree.node? place = some .directory || !(place.getLast?.any isName) then none
    else some (tree.put place (.file contents))

/-- Why a module file is not written. -/
inductive WriteError where
  /-- A directory on the way cannot be made. -/
  | creating (directory : String)
  /-- The file itself cannot be written. -/
  | writing (path : String)
  deriving DecidableEq, Repr

/-- The wording of a failure. -/
def WriteError.message : WriteError → String
  | creating directory => "creating directory " ++ directory
  | writing path => "writing " ++ path

/-- Write a module file. Tells whether it was written; an existing file is kept unless `force` is
set. -/
def writeModule (tree : FileTree) (path contents : String) (force : Bool) :
    Except WriteError Bool × FileTree :=
  if tree.isTaken path && !force then (.ok false, tree)
  else
    let parent := parentPath path
    let (made, tree) :=
      if isPath parent then tree.makeDirectories [] (segments parent) else (false, tree)
    if !made then (.error (.creating parent), tree)
    else
      match tree.write? path contents with
      | some tree => (.ok true, tree)
      | none => (.error (.writing path), tree)

end FileTree

end ApiMock.Output
