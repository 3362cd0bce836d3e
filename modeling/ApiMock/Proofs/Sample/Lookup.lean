import ApiMock.Proofs.Generator.Parts
import ApiMock.Proofs.Recursion
import ApiMock.Proofs.Sample.Component
import ApiMock.Random.ChaCha
import Mathlib.Logic.Relation
/-!
# Looking up components

Sampling goes on from a generator to its parts, and from the name of a component to the generator
that the registry stores for it, which is no part of anything that was sampled before. The parts
alone would end it, and so do the look-ups: what the registry stores holds no names, so that below
a component nothing but parts is left. What ends here is the recursion that really looks components
up; that `Registry.sample` has nothing to look up within one is the same thing seen from the other
side.
-/
namespace ApiMock

/-- Carrying out the same for every element in turn is the same as a whole. -/
theorem mapM_congr {m : Type → Type} [Monad m] [LawfulMonad m] {α β : Type}
    {first second : α → m β} {elements : List α}
    (agree : ∀ element ∈ elements, first element = second element) :
    elements.mapM first = elements.mapM second := by
  induction elements with
  | nil => rw [List.mapM_nil, List.mapM_nil]
  | cons element rest ih =>
    have later : ∀ element ∈ rest, first element = second element :=
      fun element listed => agree element (List.mem_cons_of_mem _ listed)
    rw [List.mapM_cons, List.mapM_cons, agree element List.mem_cons_self, ih later]

namespace Generator

/-- A part of a generator without references is without them, too. -/
theorem Inline.of_part {part generator : Generator} (direct : Part part generator)
    (inline : generator.Inline) : part.Inline := by
  cases direct with
  | alternative listed =>
    cases inline with
    | oneOf each => exact each part listed
  | values =>
    cases inline with
    | record inner => exact inner
  | property listed =>
    cases inline with
    | object each => exact each _ listed
  | items =>
    cases inline with
    | array _ _ inner => exact inner

/-- In a generator without references there is no component at any depth. -/
theorem Inline.not_holds_registry {generator : Generator} (inline : generator.Inline)
    (name : String) : ¬ generator.Holds (.registry name) := by
  generalize place : Generator.registry name = reference
  intro holds
  induction holds with
  | root =>
    subst place
    cases inline
  | part direct _ ih => exact ih (inline.of_part direct) place

variable {σ : Type} [WordSource σ]

/-- One level of sampling: `sample` supplies the values of the generators that it goes on to. -/
def sampleStep (registry : Registry) (now : Instant) (sample : Generator → StateM σ Json) :
    Generator → StateM σ Json
  | null => return .null
  | literal value => return value
  | oneOf alternatives =>
    if alternatives.isEmpty then return .null
    else do
      let place ← Random.below alternatives.length
      match alternatives[place]? with
      | some generator => sample generator
      | none => return .null
  | .registry name =>
    match Entries.get? registry name with
    | some generator => sample generator
    | none => return .null
  | enum values => do return (← Random.choose? values).getD .null
  | text kind => do return .str (← Sample.text now kind)
  | integer minimum maximum => do
    return .num (.integer (← Sample.integer minimum maximum))
  | boolean => do return .bool (← Random.truth)
  | record values => do
    let keys ← Sample.recordKeys
    return .obj (← Sample.underKeys (sample values) keys)
  | object properties => do
    let members ← properties.mapM fun property => do return (property.1, ← sample property.2)
    return .obj (Entries.ofWrites members)
  | array minimum maximum items => do
    let length ← Sample.arrayLength minimum maximum
    return .arr (← Random.repeated (sample items) length)

/-- Sampling at a place of a list is sampling what stands there. -/
theorem sampleAt_eq (component : String → StateM σ Json) (now : Instant)
    (alternatives : List Generator) (place : Nat) :
    sampleAt component now alternatives place =
      match alternatives[place]? with
      | some generator => generator.sampleWith component now
      | none => return .null := by
  induction alternatives generalizing place with
  | nil => rw [sampleAt, List.getElem?_nil]
  | cons generator rest ih =>
    cases place with
    | zero => rw [sampleAt, List.getElem?_cons_zero]
    | succ place => rw [sampleAt, ih, List.getElem?_cons_succ]

/-- Sampling properties is sampling one after another. -/
theorem sampleProperties_eq (component : String → StateM σ Json) (now : Instant)
    (properties : List (String × Generator)) :
    sampleProperties component now properties =
      properties.mapM fun property => do
        return (property.1, ← property.2.sampleWith component now) := by
  induction properties with
  | nil => rw [sampleProperties, List.mapM_nil]
  | cons property rest ih =>
    rw [sampleProperties, ih, List.mapM_cons]
    simp only [bind_assoc, pure_bind]

end Generator

namespace Registry

/-- The generators that sampling goes on to. -/
inductive Calls (registry : Registry) : Generator → Generator → Prop
  /-- From a generator to its parts. -/
  | part {part generator : Generator} (direct : part.Part generator) :
      Calls registry part generator
  /-- From the name of a component to its generator. -/
  | lookup {name : String} {component : Generator}
      (found : Entries.get? registry name = some component) :
      Calls registry component (.registry name)

/-- The registries of samplers: one without components, or one that is filled from the schemas of
components. -/
inductive Built : Registry → Prop
  /-- No components. -/
  | bare : Built []
  /-- The components of a document, whether or not the options name a registry. -/
  | stocked (options : Options) (components : Entries Schema) :
      Built (ofComponents options components)

variable {registry : Registry}

/-- What a sampler has stored holds no references. -/
theorem Built.inline_of_mem (built : registry.Built) {entry : String × Generator}
    (stored : entry ∈ registry) : entry.2.Inline := by
  cases built with
  | bare => cases stored
  | stocked options components => exact inline_of_mem_ofComponents options components stored

/-- What a sampler finds holds no references. -/
theorem Built.inline_of_get? (built : registry.Built) {name : String} {component : Generator}
    (found : Entries.get? registry name = some component) : component.Inline :=
  built.inline_of_mem (Entries.mem_of_get? found)

/-- From a generator without references, sampling goes on to such generators only. -/
theorem Calls.inline {inner outer : Generator} (call : Calls registry inner outer)
    (inline : outer.Inline) : inner.Inline := by
  cases call with
  | part direct => exact inline.of_part direct
  | lookup found => cases inline

/-- Whatever sampling reaches from a generator without references is without them. -/
theorem inline_of_reached {inner outer : Generator}
    (reached : Relation.ReflTransGen (Calls registry) inner outer) (inline : outer.Inline) :
    inner.Inline := by
  induction reached using Relation.ReflTransGen.head_induction_on with
  | refl => exact inline
  | head call _ ih => exact call.inline ih

/-- Below a generator without references, sampling ends with its parts. -/
theorem acc_of_inline {generator : Generator} (inline : generator.Inline) :
    Acc (Calls registry) generator := by
  induction generator using (measure Generator.depth).wf.induction with
  | _ generator ih =>
    refine Acc.intro generator fun inner call => ?_
    cases call with
    | part direct => exact ih inner direct.depth_lt (inline.of_part direct)
    | lookup found => cases inline

/-- Sampling ends when what is stored holds no references. -/
theorem Built.wellFounded_calls (built : registry.Built) : WellFounded (Calls registry) := by
  refine WellFounded.intro fun generator => ?_
  induction generator using (measure Generator.depth).wf.induction with
  | _ generator ih =>
    refine Acc.intro generator fun inner call => ?_
    cases call with
    | part direct => exact ih inner direct.depth_lt
    | lookup found => exact acc_of_inline (built.inline_of_get? found)

variable {σ : Type} [WordSource σ]

/-- One level of sampling looks at what it goes on to, and at nothing else. -/
theorem sampleStep_congr (now : Instant) (first second : Generator → StateM σ Json)
    (generator : Generator)
    (agree : ∀ inner, Calls registry inner generator → first inner = second inner) :
    generator.sampleStep registry now first = generator.sampleStep registry now second := by
  cases generator with
  | oneOf alternatives =>
    have chosen (place : Nat) :
        (match alternatives[place]? with
          | some generator => first generator
          | none => return .null) =
        (match alternatives[place]? with
          | some generator => second generator
          | none => return .null) := by
      cases listed : alternatives[place]? with
      | none => rfl
      | some generator =>
        exact agree generator (.part (.alternative (List.mem_of_getElem? listed)))
    simp only [Generator.sampleStep, chosen]
  | registry name =>
    simp only [Generator.sampleStep]
    cases found : Entries.get? registry name with
    | none => rfl
    | some component => exact agree component (.lookup found)
  | record values =>
    simp only [Generator.sampleStep, agree values (.part (.values values))]
  | object properties =>
    have members : (properties.mapM fun property => do return (property.1, ← first property.2)) =
        properties.mapM fun property => do return (property.1, ← second property.2) := by
      refine mapM_congr fun property listed => ?_
      rw [agree property.2 (.part (.property listed))]
    simp only [Generator.sampleStep, members]
  | array minimum maximum items =>
    simp only [Generator.sampleStep, agree items (.part (.items minimum maximum items))]
  | _ => rfl

/-- A sampler looks a component up in the registry that it uses for everything else. -/
theorem Built.sample_eq (built : registry.Built) (now : Instant) (name : String) :
    (registry.sample now name : StateM σ Json) =
      match Entries.get? registry name with
      | some generator => generator.sample registry now
      | none => return .null := by
  cases built with
  | bare => rfl
  | stocked options components => exact sample_ofComponents options components now name

/-- Sampling is one level of itself. -/
theorem Built.sample_eq_sampleStep (built : registry.Built) (now : Instant)
    (generator : Generator) :
    (generator.sample registry now : StateM σ Json) =
      generator.sampleStep registry now fun generator => generator.sample registry now := by
  rw [Generator.sample]
  cases generator with
  | oneOf alternatives =>
    simp only [Generator.sampleWith, Generator.sampleStep, Generator.sampleAt_eq]
    rfl
  | registry name =>
    rw [Generator.sampleWith, built.sample_eq]
    rfl
  | object properties =>
    simp only [Generator.sampleWith, Generator.sampleStep, Generator.sampleProperties_eq]
    rfl
  | _ =>
    rw [Generator.sampleWith]
    rfl

/-- Sampling comes to an end for every sampler and every generator, though it goes on from the name
of a component to a generator that is no part of what it started from: the generators that a sampler
has stored hold no references at any depth, so that once a component is looked up nothing more is,
however the schemas of the components refer to each other. -/
theorem lookups_end (built : registry.Built) (now : Instant) :
    Recursion (Calls registry) (Generator.sampleStep registry now)
        (fun generator => (generator.sample registry now : StateM σ Json)) ∧
      (∀ stored ∈ registry, ∀ name, ¬ stored.2.Holds (.registry name)) ∧
      ∀ name component, Entries.get? registry name = some component →
        ∀ other, ¬ Relation.ReflTransGen (Calls registry) (.registry other) component := by
  refine ⟨⟨built.wellFounded_calls, sampleStep_congr now, built.sample_eq_sampleStep now⟩,
    fun stored member => (built.inline_of_mem member).not_holds_registry, ?_⟩
  intro name component found other reached
  cases inline_of_reached reached (built.inline_of_get? found)

/-- A reference to a component. -/
def referenceTo (pointer : String) : Schema := { reference := some pointer }

/-- Authors with their books, and books with their authors. -/
def libraryComponents : Entries Schema :=
  let books : Schema :=
    { Schema.ofType "array" with items := some (referenceTo "#/components/schemas/Book") }
  [("Author", { Schema.ofType "object" with properties := some [("books", books)] }),
    ("Book", { Schema.ofType "object" with
      properties := some [("author", referenceTo "#/components/schemas/Author")] })]

/-- Options with a schema registry. -/
def libraryOptions : Options := { registryModule := some "./src/registry.ts" }

/-- With a schema registry books are looked up; within the author that is found first, they are
not. -/
theorem lookups_end_library :
    let registry := ofComponents libraryOptions libraryComponents
    (referenceTo "#/components/schemas/Book").generator libraryOptions none = .registry "Book" ∧
      (∃ author, Entries.get? registry "Author" = some author ∧
        ∀ other, ¬ Relation.ReflTransGen (Calls registry) (.registry other) author) ∧
      Recursion (Calls registry) (Generator.sampleStep registry 0)
        (fun generator => (generator.sample registry 0 : StateM ChaCha Json)) := by
  have ⟨recursion, _, nothing⟩ :=
    lookups_end (.stocked libraryOptions libraryComponents) 0 (σ := ChaCha)
  have lookup : (referenceTo "#/components/schemas/Book").rule libraryOptions =
      .registry "Book" := rfl
  refine ⟨?_, ⟨_, rfl, nothing "Author" _ rfl⟩, recursion⟩
  rw [Schema.generator_eq, lookup]

end Registry

end ApiMock
