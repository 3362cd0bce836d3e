import Mathlib.Data.List.Count
/-!
# Places that paths lead to

A relative path leads up some directories from the one in which it starts and down again through
directories by name (`Place`). Empty segments and dots lead nowhere, and two dots undo the name before
them. So the normal form of a path is read off the place. Whatever a path leads up before it goes on is
up for all of it (`walk_raised`), and its names and climbs add up (`length_names_walk`): this tells how
many steps up undo a path.
-/
namespace ApiMock.Text

/-- Whether a segment leads somewhere. -/
def moves (segment : String) : Bool := !segment.isEmpty && segment != "."

/-- All segments but empty ones and dots lead somewhere. -/
theorem moves_iff {segment : String} : moves segment = true ↔ ¬ (segment = "" ∨ segment = ".") := by
  rw [moves, Bool.and_eq_true, Bool.not_eq_true', Bool.eq_false_iff, Ne, String.isEmpty_iff,
    bne_iff_ne, not_or]

/-- Where a relative path leads. -/
structure Place where
  /-- How many directories it is up from the one in which the path starts. -/
  ups : Nat
  /-- The names of the directories down from there, the last one first. -/
  names : List String

namespace Place

/-- The directory in which a path starts. -/
def start : Place := ⟨0, []⟩

/-- The place after one more segment. -/
def step (place : Place) (segment : String) : Place :=
  if segment = "" ∨ segment = "." then place
  else if segment = ".." then
    match place.names with
    | [] => { place with ups := place.ups + 1 }
    | _ :: outer => { place with names := outer }
  else { place with names := segment :: place.names }

/-- The place after all segments of a path. -/
def walk (place : Place) (path : List String) : Place := path.foldl step place

/-- The shortest path that leads to a place. -/
def path (place : Place) : List String := List.replicate place.ups ".." ++ place.names.reverse

/-- The same place as seen from further down: that many directories further up. -/
def raised (place : Place) (count : Nat) : Place := { place with ups := count + place.ups }

/-- A path in two parts leads on from where its first part leads. -/
theorem walk_append (place : Place) (first rest : List String) :
    place.walk (first ++ rest) = (place.walk first).walk rest :=
  List.foldl_append

/-- Empty segments and dots lead nowhere. -/
theorem step_of_still {segment : String} (still : segment = "" ∨ segment = ".") (place : Place) :
    place.step segment = place := by
  rw [step, if_pos still]

/-- Above all names, two dots lead further up. -/
theorem step_up (ups : Nat) : (⟨ups, []⟩ : Place).step ".." = ⟨ups + 1, []⟩ := rfl

/-- Two dots undo a name. -/
theorem step_back (ups : Nat) (name : String) (outer : List String) :
    (⟨ups, name :: outer⟩ : Place).step ".." = ⟨ups, outer⟩ := rfl

/-- Any other segment is a name. -/
theorem step_of_name {segment : String} (moving : ¬ (segment = "" ∨ segment = "."))
    (name : segment ≠ "..") (place : Place) :
    place.step segment = ⟨place.ups, segment :: place.names⟩ := by
  rw [step, if_neg moving, if_neg name]

/-- A place that is further up stays so with every segment. -/
theorem step_raised (place : Place) (count : Nat) (segment : String) :
    (place.raised count).step segment = (place.step segment).raised count := by
  by_cases still : segment = "" ∨ segment = "."
  · rw [step_of_still still, step_of_still still]
  · by_cases up : segment = ".."
    · subst up
      obtain ⟨ups, names⟩ := place
      cases names with
      | nil => rfl
      | cons name outer => rfl
    · rw [step_of_name still up, step_of_name still up]
      rfl

/-- A place that is further up stays so along every path. -/
theorem walk_raised (place : Place) (count : Nat) (path : List String) :
    (place.raised count).walk path = (place.walk path).raised count := by
  induction path generalizing place with
  | nil => rfl
  | cons segment path ih =>
    change ((place.raised count).step segment).walk path = _
    rw [step_raised, ih]
    rfl

/-- The path to a place that is further up first leads up. -/
theorem path_raised (place : Place) (count : Nat) :
    (place.raised count).path = List.replicate count ".." ++ place.path := by
  rw [path, path, ← List.append_assoc, List.replicate_append_replicate]
  rfl

/-- Steps up undo names as long as there are any, and lead further up then. -/
theorem walk_replicate_up (names : List String) (more : Nat) :
    (⟨0, names⟩ : Place).walk (List.replicate (names.length + more) "..") = ⟨more, []⟩ := by
  induction names with
  | nil =>
    rw [List.length_nil, Nat.zero_add]
    induction more with
    | zero => rfl
    | succ more ih =>
      rw [List.replicate_succ', walk_append, ih]
      rfl
  | cons name outer ih =>
    have first : (name :: outer).length + more = outer.length + more + 1 := by
      rw [List.length_cons]
      omega
    rw [first, List.replicate_succ]
    exact ih

/-- A segment that leads somewhere adds a name, or two dots take one away or lead up. -/
theorem length_names_step (place : Place) (segment : String) :
    (place.step segment).names.length + 2 * [segment].count ".." + place.ups =
      place.names.length + ([segment].filter moves).length + (place.step segment).ups := by
  by_cases still : segment = "" ∨ segment = "."
  · have uncounted : [segment].count ".." = 0 := by
      rcases still with rfl | rfl <;> decide
    have leftOut : ¬ moves segment = true := fun moving => moves_iff.mp moving still
    rw [step_of_still still, uncounted, List.filter_cons_of_neg leftOut]
    rfl
  · have kept : ([segment].filter moves).length = 1 := by
      rw [List.filter_cons_of_pos (moves_iff.mpr still)]
      rfl
    rw [kept]
    by_cases up : segment = ".."
    · subst up
      have counted : [".."].count ".." = 1 := List.count_singleton_self
      rw [counted]
      obtain ⟨ups, names⟩ := place
      cases names with
      | nil =>
        rw [step_up]
        simp only [List.length_nil]
        omega
      | cons name outer =>
        rw [step_back]
        simp only [List.length_cons]
    · have uncounted : [segment].count ".." = 0 :=
        List.count_eq_zero_of_not_mem (by simpa using Ne.symm up)
      rw [step_of_name still up, uncounted]
      simp only [List.length_cons]

/-- The names and the steps up of a path account for all its segments that lead somewhere. -/
theorem length_names_walk (place : Place) (path : List String) :
    (place.walk path).names.length + 2 * path.count ".." + place.ups =
      place.names.length + (path.filter moves).length + (place.walk path).ups := by
  induction path generalizing place with
  | nil => exact Nat.add_right_comm _ _ _
  | cons segment path ih =>
    have first := place.length_names_step segment
    have later := ih (place.step segment)
    have cut : segment :: path = [segment] ++ path := rfl
    have onward : place.walk ([segment] ++ path) = (place.step segment).walk path := rfl
    rw [cut, onward, List.count_append, List.filter_append, List.length_append]
    omega

end Place

/-- The normal form of a path: empty segments and dots are left out, and two dots undo the name before
them. -/
def normalForm (path : List String) : List String := (Place.start.walk path).path

/-- A dot in front of a path does not count. -/
theorem normalForm_dot (path : List String) : normalForm ("." :: path) = normalForm path := by
  have still : Place.start.step "." = Place.start := Place.step_of_still (.inr rfl) Place.start
  rw [normalForm, Place.walk, List.foldl_cons, still, normalForm, Place.walk]

/-- A path whose normal form has no two dots leads to no place above its start. -/
theorem ups_eq_zero {path : List String} (inside : ".." ∉ normalForm path) :
    (Place.start.walk path).ups = 0 := by
  by_contra above
  exact inside (List.mem_append_left _ (List.mem_replicate.mpr ⟨above, rfl⟩))

/-- From a directory that is not above the start, as many steps up as its path has segments that lead
somewhere are too many by two for each of them that leads up. -/
theorem normalForm_undone {directory : List String} (inside : ".." ∉ normalForm directory)
    (path : List String) :
    normalForm (directory ++ (List.replicate (directory.filter moves).length ".." ++ path)) =
      List.replicate (2 * directory.count "..") ".." ++ normalForm path := by
  have ground := ups_eq_zero inside
  have counted := Place.start.length_names_walk directory
  rw [ground] at counted
  generalize reached : Place.start.walk directory = place at ground counted
  obtain ⟨ups, names⟩ := place
  obtain rfl : ups = 0 := ground
  have depth : (directory.filter moves).length = names.length + 2 * directory.count ".." := by
    simpa [Place.start] using counted.symm
  have raised : (⟨2 * directory.count "..", []⟩ : Place) =
      Place.start.raised (2 * directory.count "..") := rfl
  rw [normalForm, Place.walk_append, Place.walk_append, reached, depth, Place.walk_replicate_up,
    raised, Place.walk_raised, Place.path_raised, normalForm]

end ApiMock.Text
