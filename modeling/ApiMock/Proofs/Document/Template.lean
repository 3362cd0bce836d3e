import ApiMock.Proofs.Document.Route
/-!
# Templates of paths

A path of a document is a template: with a value for each parameter in braces it is the path of a
request (`instanceOf`). The route is an instance as well, with the name of each parameter after a
colon for its value (`routeFrom_eq_fillFrom`). Parameters may stand beside other text in a segment.
Only where a segment begins with a parameter does its route begin with a colon
(`head?_routeFrom_iff`), unless a colon stands there anyhow.
-/
namespace ApiMock

/-! ### Instances -/

instance (name : List Char) : Decidable (NamesParameter name) :=
  decidable_of_iff (name ≠ [] ∧ name.all (fun c => c != '}' && c != '/') = true)
    ⟨fun ⟨nonempty, within⟩ => ⟨nonempty, by simpa using within⟩,
      fun ⟨nonempty, within⟩ => ⟨nonempty, by simpa using within⟩⟩

/-- What stands for the parameters of a template: under each name a text that is not empty and
keeps within a segment. -/
structure Substitution where
  /-- The text for a name. -/
  value : List Char → List Char
  /-- The text is not empty. -/
  filled : ∀ name, NamesParameter name → value name ≠ []
  /-- The text has no slash. -/
  slashFree : ∀ name, NamesParameter name → '/' ∉ value name

/-- One text stands for all parameters. -/
def Substitution.always (text : List Char) (filled : text ≠ []) (slashFree : '/' ∉ text) :
    Substitution where
  value _ := text
  filled _ _ := filled
  slashFree _ _ := slashFree

/-- The instance of the rest of a template, where `opened?` is what has been read of the name of a
parameter that is open. -/
def fillFrom (value : List Char → List Char) :
    (opened? : Option (List Char)) → List Char → List Char
  | _, [] => []
  | some name, c :: rest =>
    if c = '}' then value name ++ fillFrom value none rest
    else fillFrom value (some (name ++ [c])) rest
  | none, c :: rest =>
    if c = '{' && closesParameter rest then fillFrom value (some []) rest
    else c :: fillFrom value none rest

/-- A template with texts in place of its parameters. -/
def instanceOf (values : Substitution) (template : String) : String :=
  Text.onChars (fillFrom values.value none) template

/-- What holds of the empty text, of a parameter before a text of which it holds, and of a character
that opens no parameter before one, holds of every template. -/
@[elab_as_elim]
theorem template_induction {motive : List Char → Prop} (nil : motive [])
    (parameter : ∀ name rest, NamesParameter name → motive rest →
      motive ('{' :: (name ++ '}' :: rest)))
    (other : ∀ c rest, (c = '{' → closesParameter rest = false) → motive rest →
      motive (c :: rest))
    (template : List Char) : motive template := by
  obtain ⟨route, routed⟩ : ∃ route, Routed template route := ⟨_, routed_routeFrom template⟩
  induction routed with
  | nil => exact nil
  | parameter names _ ih => exact parameter _ _ names ih
  | other plain _ ih => exact other _ _ plain ih

variable {value : List Char → List Char}

/-- A parameter that is open is read up to its closing brace. -/
theorem fillFrom_some {name : List Char} (within : ∀ c ∈ name, c ≠ '}')
    (opened rest : List Char) :
    fillFrom value (some opened) (name ++ '}' :: rest) =
      value (opened ++ name) ++ fillFrom value none rest := by
  induction name generalizing opened with
  | nil => simp [fillFrom]
  | cons c name ih =>
    obtain ⟨here, later⟩ := List.forall_mem_cons.mp within
    simp [fillFrom, here, ih later]

/-- The instance of a parameter and what follows it. -/
theorem fillFrom_parameter {name : List Char} (names : NamesParameter name) (rest : List Char) :
    fillFrom value none ('{' :: (name ++ '}' :: rest)) = value name ++ fillFrom value none rest := by
  have closes : closesParameter (name ++ '}' :: rest) = true :=
    closesParameter_iff.mpr ⟨name, rest, rfl, names⟩
  have read : fillFrom value (some []) (name ++ '}' :: rest) =
      value name ++ fillFrom value none rest :=
    fillFrom_some (fun c listed => (names.within c listed).1) [] rest
  rw [← read]
  simp [fillFrom, closes]

/-- The instance of a character that opens no parameter and what follows it. -/
theorem fillFrom_other {c : Char} {rest : List Char}
    (plain : c = '{' → closesParameter rest = false) :
    fillFrom value none (c :: rest) = c :: fillFrom value none rest := by
  by_cases brace : c = '{'
  · simp [fillFrom, brace, plain brace]
  · simp [fillFrom, brace]

/-- The route of a template is its instance with names after colons. -/
theorem routeFrom_eq_fillFrom (template : List Char) :
    routeFrom false template = fillFrom (':' :: ·) none template := by
  induction template using template_induction with
  | nil => rfl
  | parameter name rest names ih =>
    rw [routeFrom_parameter names, fillFrom_parameter names, ih, List.cons_append]
  | other c rest plain ih => rw [routeFrom_other plain, fillFrom_other plain, ih]

/-- Templates are filled from segment to segment. -/
theorem segmentwise_fillFrom (values : Substitution) :
    Text.Segmentwise (fillFrom values.value none) where
  empty := rfl
  filled template filled := by
    induction template using template_induction with
    | nil => exact filled
    | parameter name rest names _ =>
      rw [fillFrom_parameter names]
      exact List.append_ne_nil_of_left_ne_nil (values.filled name names) _
    | other c rest plain _ =>
      rw [fillFrom_other plain]
      exact List.cons_ne_nil _ _
  apart template none := by
    induction template using template_induction with
    | nil => exact none
    | parameter name rest names ih =>
      rw [fillFrom_parameter names]
      simp only [List.mem_cons, List.mem_append, not_or] at none ⊢
      exact ⟨values.slashFree name names, ih none.2.2.2⟩
    | other c rest plain ih =>
      rw [fillFrom_other plain]
      simp only [List.mem_cons, not_or] at none ⊢
      exact ⟨none.1, ih none.2⟩
  cut before rest := by
    induction before using template_induction with
    | nil => exact fillFrom_other fun brace => absurd brace (by decide)
    | parameter name after names ih =>
      simp only [List.cons_append, List.append_assoc]
      rw [fillFrom_parameter names, fillFrom_parameter names, ih, List.append_assoc]
    | other c after plain ih =>
      -- A slash closes no parameter, so the character opens none here either.
      have still : c = '{' → closesParameter (after ++ '/' :: rest) = false := by
        rw [closesParameter_append_slash]
        exact plain
      rw [List.cons_append, fillFrom_other still, fillFrom_other plain, ih, List.cons_append]

/-! ### Segments with parameters -/

/-- There is a parameter in a segment. -/
def HasParameter (segment : List Char) : Prop :=
  ∃ before name after, segment = before ++ '{' :: (name ++ '}' :: after) ∧ NamesParameter name

/-- A segment is a whole parameter. -/
def IsParameter (segment : List Char) : Prop :=
  ∃ name, segment = '{' :: (name ++ ['}']) ∧ NamesParameter name

/-- A segment begins with a parameter, or else with a colon. -/
inductive StartsOpen : List Char → Prop
  /-- A parameter comes first. -/
  | parameter {name rest : List Char} (names : NamesParameter name) :
      StartsOpen ('{' :: (name ++ '}' :: rest))
  /-- A colon comes first. -/
  | colon (rest : List Char) : StartsOpen (':' :: rest)

/-- A plain segment that is no parameter is a literal. -/
theorem PlainSegment.literal_of_not_isParameter {segment : List Char}
    (plain : PlainSegment segment) (literal : ¬ IsParameter segment) :
    '{' ∉ segment ∧ segment.head? ≠ some ':' := by
  cases plain with
  | parameter names => exact absurd ⟨_, rfl, names⟩ literal
  | literal brace colon => exact ⟨brace, colon⟩

/-- A segment without braces and without a colon in front begins with no parameter. -/
theorem not_startsOpen_of_literal {segment : List Char} (brace : '{' ∉ segment)
    (colon : segment.head? ≠ some ':') : ¬ StartsOpen segment := by
  rintro (⟨names⟩ | rest)
  · exact brace List.mem_cons_self
  · exact colon rfl

/-- What opens a parameter is an opening brace before a name and a closing one. -/
theorem closesParameter_of_not_hasParameter {c : Char} {rest : List Char}
    (without : ¬ HasParameter (c :: rest)) : c = '{' → closesParameter rest = false := by
  rintro rfl
  refine Bool.eq_false_iff.mpr fun closes => without ?_
  obtain ⟨name, after, rfl, names⟩ := closesParameter_iff.mp closes
  exact ⟨[], name, after, rfl, names⟩

/-- A parameter in a text that starts with another character is one in the rest. -/
theorem HasParameter.of_cons {c : Char} {rest : List Char} (has : HasParameter (c :: rest))
    (plain : c = '{' → closesParameter rest = false) : HasParameter rest := by
  obtain ⟨before, name, after, same, names⟩ := has
  cases before with
  | nil =>
    obtain ⟨rfl, rfl⟩ := List.cons.inj same
    have closes := closesParameter_iff.mpr ⟨name, after, rfl, names⟩
    rw [plain rfl] at closes
    cases closes
  | cons d before =>
    obtain ⟨rfl, rfl⟩ := List.cons.inj same
    exact ⟨before, name, after, rfl, names⟩

/-- A text without parameters is its own instance. -/
theorem fillFrom_of_not_hasParameter {segment : List Char} (without : ¬ HasParameter segment) :
    fillFrom value none segment = segment := by
  induction segment with
  | nil => rfl
  | cons c rest ih =>
    have later : ¬ HasParameter rest := by
      rintro ⟨before, name, after, rfl, names⟩
      exact without ⟨c :: before, name, after, rfl, names⟩
    rw [fillFrom_other (closesParameter_of_not_hasParameter without), ih later]

/-- The route of a segment begins with a colon exactly when the segment begins with a parameter or
with a colon. -/
theorem head?_routeFrom_iff {segment : List Char} :
    (routeFrom false segment).head? = some ':' ↔ StartsOpen segment := by
  constructor
  · intro first
    induction segment using template_induction with
    | nil => cases first
    | parameter name rest names _ => exact .parameter names
    | other c rest plain _ =>
      rw [routeFrom_other plain] at first
      obtain rfl := Option.some.inj first
      exact .colon rest
  · rintro (⟨names⟩ | rest)
    · rw [routeFrom_parameter names]
      rfl
    · rw [routeFrom_other fun brace => absurd brace (by decide)]
      rfl

/-- A letter stands for each parameter. -/
def oneLetter : Substitution := .always ['x'] (by decide) (by decide)

/-- With a letter for each parameter, a template is no longer than its route, and it is shorter if
it has a parameter. -/
theorem length_fillFrom_oneLetter (segment : List Char) :
    (fillFrom oneLetter.value none segment).length ≤ (routeFrom false segment).length ∧
      (HasParameter segment →
        (fillFrom oneLetter.value none segment).length < (routeFrom false segment).length) := by
  induction segment using template_induction with
  | nil =>
    refine ⟨Nat.le_refl _, ?_⟩
    rintro ⟨before, name, after, same, -⟩
    cases before <;> cases same
  | parameter name rest names ih =>
    have longer : 0 < name.length := List.length_pos_iff.mpr names.nonempty
    have letter : (oneLetter.value name).length = 1 := rfl
    rw [fillFrom_parameter names, routeFrom_parameter names]
    simp only [List.length_append, List.length_cons, letter]
    omega
  | other c rest plain ih =>
    rw [fillFrom_other plain, routeFrom_other plain]
    simp only [List.length_cons, Nat.add_le_add_iff_right, Nat.add_lt_add_iff_right]
    exact ⟨ih.1, fun has => ih.2 (has.of_cons plain)⟩

end ApiMock
