import ApiMock.Mock.Handler
import ApiMock.Proofs.Document.Template
import Mathlib.Data.List.Forall2
/-!
# Which paths a route matches

A handler compares its route with the path of a request segment by segment. The segments of the route
are those of the template that it comes from, each rewritten alone. Where each of these is a whole
parameter or a literal, exactly the instances of the template are matched
(`plain_templates_match`). Where a parameter stands beside other text, its segment matches
everything if it begins with the parameter, and otherwise nothing but its own route, so that
instances are missed (`instances_accepted_iff`).
-/
namespace ApiMock.Handler

/-! ### Segments -/

/-- The segments of a rewritten path are those of the path, each rewritten alone. -/
theorem segments_onChars {change : List Char → List Char}
    (segmentwise : Text.Segmentwise change) (path : String) :
    segments (Text.onChars change path) = (segments path).map (Text.onChars change) := by
  rw [segments, segmentwise.trimSlashes_onChars, segmentwise.split_onChars]
  rfl

/-- A segment of a path is one of its pieces between slashes. -/
theorem mem_pieces_of_mem_segments {segment path : String} (listed : segment ∈ segments path) :
    segment.toList ∈ Text.pieces (· == '/') path.toList := by
  obtain ⟨piece, within, rfl⟩ := List.mem_map.mp listed
  rw [Text.trimSlashes, Text.onChars, String.toList_ofList] at within
  rw [String.toList_ofList]
  exact Text.mem_pieces_of_trimEndChars within

/-- The route of a segment begins with a colon exactly when the segment begins with a parameter or
with a colon. -/
theorem head?_routeOfPath_iff {segment : String} :
    (routeOfPath segment).toList.head? = some ':' ↔ StartsOpen segment.toList := by
  rw [routeOfPath, Text.onChars, String.toList_ofList, head?_routeFrom_iff]

/-- The route of a segment that begins with a parameter or a colon matches any text that is not
empty. -/
theorem matchesSegment_of_startsOpen {segment actual : String}
    (starts : StartsOpen segment.toList) :
    matchesSegment (routeOfPath segment) actual = true ↔ actual ≠ "" := by
  have colon : (routeOfPath segment).toList.head? = some ':' := head?_routeOfPath_iff.mpr starts
  simp [matchesSegment, colon]

/-- The route of any other segment matches itself. -/
theorem matchesSegment_of_not_startsOpen {segment actual : String}
    (closed : ¬ StartsOpen segment.toList) :
    matchesSegment (routeOfPath segment) actual = true ↔ routeOfPath segment = actual := by
  have plain : (routeOfPath segment).toList.head? ≠ some ':' := fun colon =>
    closed (head?_routeOfPath_iff.mp colon)
  simp [matchesSegment, plain]

/-- Segments match one by one. -/
theorem matchesSegments_iff {expected actual : List String} :
    matchesSegments expected actual = true ↔
      List.Forall₂ (fun segment other => matchesSegment segment other = true) expected actual := by
  induction expected generalizing actual with
  | nil => cases actual <;> simp [matchesSegments]
  | cons segment expected ih =>
    cases actual with
    | nil => simp [matchesSegments]
    | cons other actual => simp [matchesSegments, ih]

variable {template path : String} {handler : Handler}

/-- A handler matches the segments of a path with those of the template of its route. -/
theorem accepts_iff (routed : handler.route = routeOfPath template) {method : Method} :
    handler.accepts method path = true ↔
      method = handler.method ∧
        List.Forall₂ (fun segment actual => matchesSegment (routeOfPath segment) actual = true)
          (segments template) (segments path) := by
  have route : segments (routeOfPath template) = (segments template).map routeOfPath :=
    segments_onChars segmentwise_routeFrom template
  rw [accepts, Bool.and_eq_true, beq_iff_eq, matchesSegments_iff, routed, route,
    List.forall₂_map_left_iff]

/-! ### Plain templates -/

/-- A path fits a template, slashes at their ends aside: it has as many segments, something in the
place of each parameter, and the same in the place of everything else. -/
structure Fits (template path : String) : Prop where
  /-- There are as many segments. -/
  length : (segments template).length = (segments path).length
  /-- A parameter is filled. -/
  parameter : ∀ pair ∈ (segments template).zip (segments path),
    IsParameter pair.1.toList → pair.2 ≠ ""
  /-- A literal is repeated. -/
  literal : ∀ pair ∈ (segments template).zip (segments path),
    ¬ IsParameter pair.1.toList → pair.2 = pair.1

/-- The route of a plain segment matches what is not empty if the segment is a parameter, and
otherwise the segment itself. -/
theorem matchesSegment_plain {segment actual : String} (plain : PlainSegment segment.toList) :
    matchesSegment (routeOfPath segment) actual = true ↔
      (IsParameter segment.toList → actual ≠ "") ∧
        (¬ IsParameter segment.toList → actual = segment) := by
  by_cases whole : IsParameter segment.toList
  · have starts : StartsOpen segment.toList := by
      obtain ⟨name, same, names⟩ := whole
      rw [same]
      exact .parameter names
    rw [matchesSegment_of_startsOpen starts]
    exact ⟨fun filled => ⟨fun _ => filled, fun literal => absurd whole literal⟩,
      fun both => both.1 whole⟩
  · obtain ⟨brace, colon⟩ := plain.literal_of_not_isParameter whole
    have closed : ¬ StartsOpen segment.toList := not_startsOpen_of_literal brace colon
    have own : routeOfPath segment = segment := by
      rw [routeOfPath, Text.onChars, routeFrom_of_not_mem brace, String.ofList_toList]
    rw [matchesSegment_of_not_startsOpen closed, own]
    exact ⟨fun same => ⟨fun parameter => absurd parameter whole, fun _ => same.symm⟩,
      fun both => (both.2 whole).symm⟩

/-- Routes are made segment by segment. Where each segment of a template is a whole parameter or a
literal that cannot be taken for one, a handler with the route of the template reaches exactly the
requests with its method and a path that fits the template. -/
theorem plain_templates_match :
    (∀ path, Text.split '/' (routeOfPath path) = (Text.split '/' path).map routeOfPath) ∧
    ∀ template, PlainTemplate template →
      ∀ handler : Handler, handler.route = routeOfPath template → ∀ method path,
        (handler.accepts method path = true ↔ method = handler.method ∧ Fits template path) := by
  refine ⟨segmentwise_routeFrom.split_onChars, fun template plain handler routed method path => ?_⟩
  rw [accepts_iff routed, List.forall₂_iff_zip]
  have each : ∀ {segment actual}, (segment, actual) ∈ (segments template).zip (segments path) →
      (matchesSegment (routeOfPath segment) actual = true ↔
        (IsParameter segment.toList → actual ≠ "") ∧
          (¬ IsParameter segment.toList → actual = segment)) := fun listed =>
    matchesSegment_plain
      (plain _ (mem_pieces_of_mem_segments (List.of_mem_zip listed).1))
  refine and_congr_right fun _ => ⟨?_, ?_⟩
  · rintro ⟨length, matching⟩
    exact ⟨length, fun pair listed => ((each listed).mp (matching listed)).1,
      fun pair listed => ((each listed).mp (matching listed)).2⟩
  · rintro ⟨length, parameter, literal⟩
    exact ⟨length, fun listed => (each listed).mpr ⟨parameter _ listed, literal _ listed⟩⟩

/-- The path of one pet, with a slash at its end. -/
def petTemplate : String := "/pets/\x7bpetId\x7d/"

/-- The handler of one pet. -/
def petHandler : Handler := ⟨⟨"GET"⟩, routeOfPath petTemplate, []⟩

/-- The path of a pet fits the template, whatever slashes come last. Without a name, or with one
more segment, it does not. -/
theorem plain_templates_match_pet :
    PlainTemplate petTemplate ∧ petHandler.route = routeOfPath petTemplate ∧
      Fits petTemplate "/pets/42//" ∧ ¬ Fits petTemplate "/pets//" ∧
      ¬ Fits petTemplate "/pets/42/toys" := by
  have plain : PlainTemplate petTemplate := by
    have cut : Text.pieces (· == '/') petTemplate.toList =
        [[], "pets".toList, "\x7bpetId\x7d".toList, []] := by decide
    intro segment listed
    simp only [cut, List.mem_cons, List.not_mem_nil, or_false] at listed
    rcases listed with rfl | rfl | rfl | rfl
    · exact .literal (by decide) (by decide)
    · exact .literal (by decide) (by decide)
    · exact @PlainSegment.parameter "petId".toList (by decide)
    · exact .literal (by decide) (by decide)
  have matching := plain_templates_match.2 petTemplate plain petHandler rfl ⟨"GET"⟩
  refine ⟨plain, rfl, ((matching _).mp (by decide +kernel)).2, fun fits => ?_, fun fits => ?_⟩
  · exact absurd ((matching "/pets//").mpr ⟨rfl, fits⟩) (by decide +kernel)
  · exact absurd ((matching "/pets/42/toys").mpr ⟨rfl, fits⟩) (by decide +kernel)

/-! ### Parameters beside other text -/

/-- The route of a segment matches an instance of the segment exactly when the segment has no
parameter, begins with one or with a colon, or when the instance is the route. -/
theorem matchesSegment_instanceOf_iff (values : Substitution) (segment : String) :
    matchesSegment (routeOfPath segment) (instanceOf values segment) = true ↔
      (HasParameter segment.toList → StartsOpen segment.toList ∨
        routeOfPath segment = instanceOf values segment) := by
  by_cases starts : StartsOpen segment.toList
  · have something : segment.toList ≠ [] := by
      intro nothing
      rw [nothing] at starts
      cases starts
    have filled : instanceOf values segment ≠ "" := fun empty =>
      (segmentwise_fillFrom values).filled _ something (String.ofList_eq_empty_iff.mp empty)
    rw [matchesSegment_of_startsOpen starts]
    exact ⟨fun _ _ => .inl starts, fun _ => filled⟩
  · rw [matchesSegment_of_not_startsOpen starts]
    refine ⟨fun same _ => .inr same, fun either => ?_⟩
    by_cases has : HasParameter segment.toList
    · exact (either has).resolve_left starts
    · rw [routeOfPath, instanceOf, Text.onChars, Text.onChars, routeFrom_eq_fillFrom,
        fillFrom_of_not_hasParameter has, fillFrom_of_not_hasParameter has]

/-- A handler reaches an instance of the template of its route exactly when each segment that has a
parameter begins with one or with a colon, or has its route for its instance. -/
theorem accepts_instanceOf_iff (routed : handler.route = routeOfPath template)
    (values : Substitution) :
    handler.accepts handler.method (instanceOf values template) = true ↔
      ∀ segment ∈ segments template, HasParameter segment.toList →
        StartsOpen segment.toList ∨ routeOfPath segment = instanceOf values segment := by
  have filled : segments (instanceOf values template) =
      (segments template).map (instanceOf values) :=
    segments_onChars (segmentwise_fillFrom values) template
  rw [accepts_iff routed, filled, List.forall₂_map_right_iff, List.forall₂_same]
  simp only [matchesSegment_instanceOf_iff, true_and]

/-- A handler reaches all instances of the template of its route, parameters beside other text
included, exactly when each segment that has a parameter begins with one, or with a colon. -/
theorem instances_accepted_iff (template : String) (handler : Handler)
    (routed : handler.route = routeOfPath template) :
    (∀ values, handler.accepts handler.method (instanceOf values template) = true) ↔
      ∀ segment ∈ segments template, HasParameter segment.toList → StartsOpen segment.toList := by
  constructor
  · intro all segment listed has
    -- An instance with a letter for each parameter is too short to be the route.
    rcases (accepts_instanceOf_iff routed oneLetter).mp (all oneLetter) segment listed has with
      starts | same
    · exact starts
    · have shorter := (length_fillFrom_oneLetter segment.toList).2 has
      have equal : routeFrom false segment.toList =
          fillFrom oneLetter.value none segment.toList := String.ofList_injective same
      rw [equal] at shorter
      exact absurd shorter (Nat.lt_irrefl _)
  · intro starts values
    exact (accepts_instanceOf_iff routed values).mpr
      fun segment listed has => .inl (starts segment listed has)

/-- The path of a file whose name is followed by an ending. -/
def namedFile : String := "/files/\x7bname\x7d.json"

/-- The path of a file whose version stands within its name. -/
def versionedFile : String := "/files/v\x7bversion\x7d.json"

/-- All files are reached if the name comes first in its segment. -/
theorem instances_accepted_namedFile :
    let handler : Handler := ⟨⟨"GET"⟩, routeOfPath namedFile, []⟩
    let report := Substitution.always "report".toList (by decide) (by decide)
    handler.route = routeOfPath namedFile ∧
      (∀ segment ∈ segments namedFile, HasParameter segment.toList → StartsOpen segment.toList) ∧
      instanceOf report namedFile = "/files/report.json" ∧
      handler.accepts ⟨"GET"⟩ "/files/report.json" = true := by
  intro handler report
  have starts : ∀ segment ∈ segments namedFile,
      HasParameter segment.toList → StartsOpen segment.toList := by
    have cut : segments namedFile = ["", "files", "\x7bname\x7d.json"] := by decide
    have literal : ∀ segment : List Char, '{' ∉ segment → ¬ HasParameter segment := by
      rintro segment without ⟨before, name, after, rfl, -⟩
      exact without (by simp)
    intro segment listed has
    simp only [cut, List.mem_cons, List.not_mem_nil, or_false] at listed
    rcases listed with rfl | rfl | rfl
    · exact absurd has (literal _ (by decide))
    · exact absurd has (literal _ (by decide))
    · exact @StartsOpen.parameter "name".toList ".json".toList (by decide)
  have filled : instanceOf report namedFile = "/files/report.json" := by decide +kernel
  have reached := (instances_accepted_iff namedFile handler rfl).mpr starts report
  rw [filled] at reached
  exact ⟨rfl, starts, filled, reached⟩

/-- The first version of a file is an instance of the path of its versions, and is not reached. -/
theorem misses_versionedFile :
    let handler : Handler := ⟨⟨"GET"⟩, routeOfPath versionedFile, []⟩
    let first := Substitution.always "1".toList (by decide) (by decide)
    instanceOf first versionedFile = "/files/v1.json" ∧
      handler.accepts ⟨"GET"⟩ "/files/v1.json" = false := by
  decide +kernel

end ApiMock.Handler
