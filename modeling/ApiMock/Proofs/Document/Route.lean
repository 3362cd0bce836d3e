import ApiMock.Document.Route
import ApiMock.Proofs.Text.Segments
/-!
# Routes, segment by segment

A path is rewritten from left to right, and a parameter never reaches past a slash. So the segments
of a route are those of its path, each rewritten alone (`pieces_routeFrom`). Where every segment is
a whole parameter or a literal that cannot be taken for one, the path can be read back off its
route, and different paths have different routes (`eq_of_routeOfPath_eq`). In general they have not:
`/v{a}b` and `/v{ab}` have the same one, and so have `/{a}` and `/:a`.
-/
namespace ApiMock

/-! ### One rewriting after the other -/

/-- The name of a parameter: not empty, and neither a slash nor a closing brace within. -/
structure NamesParameter (name : List Char) : Prop where
  /-- There is a name. -/
  nonempty : name ≠ []
  /-- Nothing in it ends the parameter or the segment. -/
  within : ∀ c ∈ name, c ≠ '}' ∧ c ≠ '/'

/-- A text completes a parameter exactly when it starts with a name and a closing brace. -/
theorem closesParameter_iff {text : List Char} :
    closesParameter text = true ↔
      ∃ name rest, text = name ++ '}' :: rest ∧ NamesParameter name := by
  let inside (c : Char) : Bool := c != '}' && c != '/'
  have plain : ∀ c, inside c = true ↔ c ≠ '}' ∧ c ≠ '/' := by simp [inside]
  constructor
  · intro closes
    obtain ⟨filled, closing⟩ := Bool.and_eq_true_iff.mp closes
    have found : (text.dropWhile inside).head? = some '}' := beq_iff_eq.mp closing
    obtain ⟨rest, after⟩ := List.head?_eq_some_iff.mp found
    refine ⟨text.takeWhile inside, rest, ?_, ?_, fun c listed => ?_⟩
    · rw [← after, List.takeWhile_append_dropWhile]
    · exact List.isEmpty_eq_false_iff.mp (by simpa only [Bool.not_eq_true'] using filled)
    · exact (plain c).mp (List.all_eq_true.mp List.all_takeWhile c listed)
  · rintro ⟨name, rest, rfl, nonempty, within⟩
    have each : ∀ c ∈ name, inside c = true := fun c listed => (plain c).mpr (within c listed)
    have taken : (name ++ '}' :: rest).takeWhile inside = name := by
      rw [List.takeWhile_append_of_pos each, List.takeWhile_cons_of_neg (by decide),
        List.append_nil]
    have dropped : (name ++ '}' :: rest).dropWhile inside = '}' :: rest := by
      rw [List.dropWhile_append_of_pos each, List.dropWhile_cons_of_neg (by decide)]
    change (!((name ++ '}' :: rest).takeWhile inside).isEmpty &&
      ((name ++ '}' :: rest).dropWhile inside).head? == some '}') = true
    rw [taken, dropped]
    simpa using nonempty

/-- What follows a slash completes no parameter that is open before it. -/
theorem closesParameter_append_slash (before rest : List Char) :
    closesParameter (before ++ '/' :: rest) = closesParameter before := by
  rw [Bool.eq_iff_iff, closesParameter_iff, closesParameter_iff]
  constructor
  · rintro ⟨name, after, same, names⟩
    -- The slash is not within the name, so the closing brace comes before it.
    rcases List.append_eq_append_iff.mp same with ⟨gap, named, slash⟩ | ⟨gap, split, closed⟩
    · cases gap with
      | nil => simp at slash
      | cons c gap =>
        obtain ⟨rfl, -⟩ := List.cons.inj slash
        have inName : '/' ∈ name := named ▸ List.mem_append_right before List.mem_cons_self
        exact absurd rfl (names.within '/' inName).2
    · cases gap with
      | nil => simp at closed
      | cons c gap =>
        obtain ⟨rfl, -⟩ := List.cons.inj closed
        exact ⟨name, gap, split, names⟩
  · rintro ⟨name, after, rfl, names⟩
    exact ⟨name, after ++ '/' :: rest, by simp, names⟩

/-- A text and its route, from left to right: a parameter in braces becomes one after a colon, and
any other character stays. -/
inductive Routed : List Char → List Char → Prop
  /-- Nothing is left. -/
  | nil : Routed [] []
  /-- A parameter comes first. -/
  | parameter {name rest route : List Char} (names : NamesParameter name)
      (next : Routed rest route) : Routed ('{' :: (name ++ '}' :: rest)) (':' :: (name ++ route))
  /-- A character that opens no parameter comes first. -/
  | other {c : Char} {rest route : List Char} (plain : c = '{' → closesParameter rest = false)
      (next : Routed rest route) : Routed (c :: rest) (c :: route)

/-- A parameter that is open ends at its closing brace. -/
theorem routeFrom_true {name : List Char} (within : ∀ c ∈ name, c ≠ '}') (rest : List Char) :
    routeFrom true (name ++ '}' :: rest) = name ++ routeFrom false rest := by
  induction name with
  | nil => simp [routeFrom]
  | cons c name ih =>
    obtain ⟨here, later⟩ := List.forall_mem_cons.mp within
    simp [routeFrom, here, ih later]

/-- The route of a parameter and what follows it. -/
theorem routeFrom_parameter {name : List Char} (names : NamesParameter name) (rest : List Char) :
    routeFrom false ('{' :: (name ++ '}' :: rest)) = ':' :: (name ++ routeFrom false rest) := by
  have closes : closesParameter (name ++ '}' :: rest) = true :=
    closesParameter_iff.mpr ⟨name, rest, rfl, names⟩
  rw [← routeFrom_true (fun c listed => (names.within c listed).1)]
  simp [routeFrom, closes]

/-- The route of a character that opens no parameter and what follows it. -/
theorem routeFrom_other {c : Char} {rest : List Char}
    (plain : c = '{' → closesParameter rest = false) :
    routeFrom false (c :: rest) = c :: routeFrom false rest := by
  by_cases brace : c = '{'
  · simp [routeFrom, brace, plain brace]
  · simp [routeFrom, brace]

/-- What is computed is the route. -/
theorem routed_routeFrom (text : List Char) : Routed text (routeFrom false text) := by
  induction size : text.length using Nat.strongRecOn generalizing text with
  | _ size ih =>
    subst size
    cases text with
    | nil => exact .nil
    | cons c rest =>
      by_cases opens : c = '{' ∧ closesParameter rest = true
      · obtain ⟨rfl, closes⟩ := opens
        obtain ⟨name, after, rfl, names⟩ := closesParameter_iff.mp closes
        rw [routeFrom_parameter names]
        refine .parameter names (ih _ ?_ after rfl)
        simp only [List.length_cons, List.length_append]
        omega
      · have plain : c = '{' → closesParameter rest = false :=
          fun brace => Bool.eq_false_iff.mpr fun closes => opens ⟨brace, closes⟩
        rw [routeFrom_other plain]
        exact .other plain (ih _ (Nat.lt_succ_self _) rest rfl)

/-- A path that is not empty has a route that is not. -/
theorem Routed.ne_nil {text route : List Char} (routed : Routed text route) (filled : text ≠ []) :
    route ≠ [] := by
  cases routed with
  | nil => exact filled
  | parameter _ _ => exact List.cons_ne_nil _ _
  | other _ _ => exact List.cons_ne_nil _ _

/-- A route has no slashes but those of its path. -/
theorem Routed.not_mem_slash {text route : List Char} (routed : Routed text route)
    (none : '/' ∉ text) : '/' ∉ route := by
  induction routed with
  | nil => exact none
  | parameter names _ ih =>
    simp only [List.mem_cons, List.mem_append, not_or] at none ⊢
    exact ⟨by decide, none.2.1, ih none.2.2.2⟩
  | other _ _ ih =>
    simp only [List.mem_cons, not_or] at none ⊢
    exact ⟨none.1, ih none.2⟩

/-- What stands before a slash and what stands after it are rewritten alone. -/
theorem Routed.append_slash {before route : List Char} (routed : Routed before route)
    (rest : List Char) :
    routeFrom false (before ++ '/' :: rest) = route ++ '/' :: routeFrom false rest := by
  induction routed with
  | nil => exact routeFrom_other fun brace => absurd brace (by decide)
  | @parameter name after route names _ ih =>
    simp only [List.cons_append, List.append_assoc]
    rw [routeFrom_parameter names, ih]
  | @other c after route plain _ ih =>
    have plain : c = '{' → closesParameter (after ++ '/' :: rest) = false := by
      rw [closesParameter_append_slash]
      exact plain
    rw [List.cons_append, routeFrom_other plain, ih]
    rfl

/-! ### Segments -/

/-- A path is rewritten from segment to segment. -/
theorem segmentwise_routeFrom : Text.Segmentwise (routeFrom false) where
  empty := rfl
  filled text filled := (routed_routeFrom text).ne_nil filled
  apart text none := (routed_routeFrom text).not_mem_slash none
  cut before rest := (routed_routeFrom before).append_slash rest

/-- The segments of a route are those of the path, each rewritten alone. -/
theorem pieces_routeFrom (path : List Char) :
    Text.pieces (· == '/') (routeFrom false path) =
      (Text.pieces (· == '/') path).map (routeFrom false) :=
  segmentwise_routeFrom.pieces_eq path

/-! ### Plain templates -/

/-- A segment that is a whole parameter, or a literal that cannot be taken for one: it has no
opening brace and no colon in front. -/
inductive PlainSegment : List Char → Prop
  /-- A whole parameter. -/
  | parameter {name : List Char} (names : NamesParameter name) :
      PlainSegment ('{' :: (name ++ ['}']))
  /-- A literal. -/
  | literal {text : List Char} (brace : '{' ∉ text) (colon : text.head? ≠ some ':') :
      PlainSegment text

/-- All segments of a path are plain. -/
def PlainTemplate (path : String) : Prop :=
  ∀ segment ∈ Text.pieces (· == '/') path.toList, PlainSegment segment

/-- The plain segment that a segment of a route comes from. -/
def segmentOfRoute : List Char → List Char
  | ':' :: name => '{' :: (name ++ ['}'])
  | text => text

/-- A text without an opening brace is its own route. -/
theorem routeFrom_of_not_mem {text : List Char} (none : '{' ∉ text) :
    routeFrom false text = text := by
  induction text with
  | nil => rfl
  | cons c rest ih =>
    rw [List.mem_cons, not_or] at none
    rw [routeFrom_other fun brace => absurd brace.symm none.1, ih none.2]

/-- A plain segment is read back off its route. -/
theorem segmentOfRoute_routeFrom {segment : List Char} (plain : PlainSegment segment) :
    segmentOfRoute (routeFrom false segment) = segment := by
  cases plain with
  | parameter names =>
    rw [routeFrom_parameter names, routeFrom, List.append_nil]
    rfl
  | literal brace colon =>
    rw [routeFrom_of_not_mem brace]
    unfold segmentOfRoute
    split
    · exact absurd rfl colon
    · rfl

/-- The segments of a plain template are read back off its route. -/
theorem PlainTemplate.pieces_eq {path : String} (plain : PlainTemplate path) :
    (Text.pieces (· == '/') (routeOfPath path).toList).map segmentOfRoute =
      Text.pieces (· == '/') path.toList := by
  have route : (routeOfPath path).toList = routeFrom false path.toList := String.toList_ofList
  rw [route, pieces_routeFrom, List.map_map]
  exact (List.map_congr_left fun segment listed =>
    segmentOfRoute_routeFrom (plain segment listed)).trans (List.map_id _)

/-- Plain templates with the same route are the same. -/
theorem PlainTemplate.eq_of_routeOfPath_eq {first second : String} (plain : PlainTemplate first)
    (plain' : PlainTemplate second) (same : routeOfPath first = routeOfPath second) :
    first = second := by
  have segments : Text.pieces (· == '/') first.toList = Text.pieces (· == '/') second.toList := by
    rw [← plain.pieces_eq, ← plain'.pieces_eq, same]
  rw [Text.pieces_eq_splitOn, Text.pieces_eq_splitOn] at segments
  refine String.toList_injective ?_
  calc first.toList = ['/'].intercalate (first.toList.splitOn '/') :=
        (List.intercalate_splitOn '/').symm
    _ = ['/'].intercalate (second.toList.splitOn '/') := by rw [segments]
    _ = second.toList := List.intercalate_splitOn '/'

/-- A parameter beside other text in its segment cannot be told from a longer one. -/
example : routeOfPath "/v\x7ba\x7db" = routeOfPath "/v\x7bab\x7d" := by decide

end ApiMock
