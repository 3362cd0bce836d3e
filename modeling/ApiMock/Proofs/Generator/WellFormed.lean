import ApiMock.Proofs.Generator.Parts
import ApiMock.Proofs.Sample.Component
import ApiMock.Proofs.Schema.Names
/-!
# Well-formed generators

A choice from an empty list would fail only where the mock runs, a repeated name would hide a
property, and a reference to a component means nothing without a registry. None of these is ever
compiled, at any depth: the rules that make choices have a guard of their own, merging and reading
keep names distinct, and the rule for components asks for the registry. One step of the compiler
makes a well-formed generator (`wellFormed_compileStep`), and so all of its calls do.
-/
namespace ApiMock

/-- The generator can be carried out as it stands, whatever its parts are: there is something to
choose from, no property comes twice, and a component is named only where there is a registry. -/
def Generator.WellFormed (options : Options) : Generator → Prop
  | .oneOf alternatives => alternatives ≠ []
  | .enum values => values ≠ []
  | .object properties => (Entries.keys properties).Nodup
  | .registry _ => options.registryEnabled = true
  | _ => True

namespace Schema

variable {options : Options}

/-- What is made only where there is something to choose from. -/
theorem wellFormed_unless_empty {choice : Type} {choices : List choice} {generator : Generator}
    (chosen : choices ≠ [] → generator.WellFormed options) :
    (if choices.isEmpty then .null else generator).WellFormed options := by
  by_cases none : choices.isEmpty
  · rw [if_pos none]
    trivial
  · rw [if_neg none]
    exact chosen fun empty => none (List.isEmpty_iff.mpr empty)

/-- One step of the compiler makes a well-formed generator, unless it goes on to a merge. -/
theorem wellFormed_compileStep {compile : Option String × Schema → Generator}
    {call : Option String × Schema} (distinct : call.2.DistinctNames)
    (simple : ∀ members, call.2.rule options ≠ .composition members) :
    (compileStep options compile call).WellFormed options := by
  obtain ⟨key, schema⟩ := call
  simp only [compileStep]
  cases applies : schema.rule options with
  | typeList names => exact wellFormed_unless_empty (mt List.map_eq_nil_iff.mp)
  | registry name =>
    by_contra disabled
    exact registry_ne_rule (Bool.eq_false_iff.mpr disabled) schema name applies
  | enum values => exact wellFormed_unless_empty fun some => some
  | composition members => exact absurd applies (simple members)
  | alternatives schemas => exact wellFormed_unless_empty (mt List.map_eq_nil_iff.mp)
  | object properties =>
    obtain ⟨own, -⟩ := distinct
    have names : (properties.map fun property =>
        (property.1, compile (some property.1, property.2))).map Prod.fst =
        Entries.keys properties := by
      rw [List.map_map]
      rfl
    change (List.map Prod.fst _).Nodup
    rw [names, properties_of_rule applies]
    exact own
  | _ => trivial

/-- Compiled generators are well formed at every depth: every choice has something to choose from,
no object has a property twice, and components are named only where there is a registry. The schema
must not name a property twice, as no schema does that is read off a document. -/
theorem wellFormed_generator {schema : Schema} (distinct : schema.DistinctNames)
    (options : Options) (key : Option String) {place : Generator}
    (held : (schema.generator options key).Holds place) : place.WellFormed options := by
  have recursion := recursion_generator options
  suffices each : ∀ call : Option String × Schema, call.2.DistinctNames →
      ∀ place, (call.2.generator options call.1).Holds place → place.WellFormed options from
    each (key, schema) distinct place held
  intro call
  induction call using recursion.ends.induction with
  | _ call ih =>
    intro distinct place held
    by_cases composed : ∃ members, call.2.rule options = .composition members
    · obtain ⟨members, applies⟩ := composed
      have merges : Calls options (call.1, mergeAll members) call := .merge applies
      have merged : call.2.generator options call.1 =
          (mergeAll members).generator options call.1 := by rw [generator_eq, applies]
      rw [merged] at held
      exact ih _ merges (merges.distinctNames distinct) place held
    · have simple : ∀ members, call.2.rule options ≠ .composition members :=
        fun members applies => composed ⟨members, applies⟩
      rw [recursion.unfolds call] at held
      cases held with
      | root => exact wellFormed_compileStep distinct simple
      | part direct inner =>
        rcases call_of_part direct simple with rfl | ⟨called, calls, rfl⟩
        · cases inner with
          | root => trivial
          | part direct _ => cases direct
        · exact ih called calls (calls.distinctNames distinct) place inner

/-- What a document says of labelled things: two schemas hold together and both name the
identifier, and a label is chosen from a list or is a truth value. -/
def labelled : Json :=
  .obj [("allOf", .arr [
    .obj [("type", .str "object"), ("properties", .obj [
      ("id", .obj [("type", .str "integer")]),
      ("label", .obj [("oneOf", .arr [.obj [("enum", .arr [.str "new"])],
        .obj [("type", .str "boolean")]])])])],
    .obj [("properties", .obj [("id", .obj [("type", .str "string")])])]])]

/-- The labels of a composition are a choice that is not empty. -/
theorem wellFormed_generator_labelled :
    let label : Schema := { oneOf := some [{ enum := some [.str "new"] },
      { type := some (.single "boolean") }] }
    let schema : Schema := { allOf := some [
      { type := some (.single "object"),
        properties := some [("id", { type := some (.single "integer") }), ("label", label)] },
      { properties := some [("id", { type := some (.single "string") })] }] }
    let labels : Generator := .oneOf [.enum [.str "new"], .boolean]
    labelled.DistinctKeys ∧ ofJson labelled = .ok schema ∧ schema.DistinctNames ∧
      (schema.generator {} none).Holds labels ∧ labels.WellFormed {} := by
  intro label schema labels
  have keys : labelled.DistinctKeys := by
    simp [labelled, Json.distinctKeys_obj_iff, Json.distinctKeys_arr_iff, Json.distinctKeys_str,
      Entries.keys]
  have read : ofJson labelled = .ok schema := rfl
  have distinct : schema.DistinctNames := distinctNames_of_ofJson keys read
  have listed : generator {} (some "label") { enum := some [.str "new"] } = .enum [.str "new"] :=
    generator_eq ..
  have truth : generator {} (some "label") { type := some (.single "boolean") } = .boolean :=
    generator_eq ..
  have chosen : label.generator {} (some "label") = labels := by
    rw [generator_eq]
    change Generator.oneOf [generator .., generator ..] = labels
    rw [listed, truth]
  have merged : ∃ id, schema.generator {} none = .object [("id", id), ("label", labels)] := by
    rw [generator_eq]
    change ∃ id, (mergeAll _).generator {} none = _
    rw [generator_eq]
    exact ⟨_, congrArg (fun label => Generator.object [_, ("label", label)]) chosen⟩
  obtain ⟨id, merged⟩ := merged
  have held : (schema.generator {} none).Holds labels := by
    rw [merged]
    exact .part (.property (List.mem_cons_of_mem _ List.mem_cons_self)) (.root labels)
  exact ⟨keys, read, distinct, held, wellFormed_generator distinct {} none held⟩

end Schema

end ApiMock
