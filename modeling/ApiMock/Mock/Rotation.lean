import ApiMock.Entries

/-!
# Rotation

How often each request path has been served. The counters are 64-bit words: they wrap around, and
a path that was never served counts zero.
-/
namespace ApiMock

/-- The counters of the paths that were served, in the order of their first request. -/
structure Rotation where
  /-- The counter of each path. -/
  counters : Entries UInt64
  deriving DecidableEq, Repr

namespace Rotation

/-- No path was served. -/
def empty : Rotation := ⟨[]⟩

/-- The counter of a path. -/
def peek (rotation : Rotation) (path : String) : UInt64 :=
  (rotation.counters.get? path).getD 0

/-- Count a request for a path. -/
def advance (rotation : Rotation) (path : String) : Rotation :=
  ⟨rotation.counters.insert path (rotation.peek path + 1)⟩

/-- Forget all requests. -/
def reset (_ : Rotation) : Rotation := empty

/-- The number of paths that were served. -/
def size (rotation : Rotation) : Nat := rotation.counters.length

/-- A counted request moves the counter of its path by one. -/
@[simp] theorem peek_advance_self (rotation : Rotation) (path : String) :
    (rotation.advance path).peek path = rotation.peek path + 1 := by
  rw [advance, peek, Entries.get?_insert_self, Option.getD_some]

/-- A counted request leaves the counters of other paths alone. -/
theorem peek_advance_of_ne (rotation : Rotation) {path other : String}
    (different : path ≠ other) : (rotation.advance path).peek other = rotation.peek other := by
  rw [advance, peek, Entries.get?_insert_of_ne _ _ different, peek]

end Rotation

end ApiMock
