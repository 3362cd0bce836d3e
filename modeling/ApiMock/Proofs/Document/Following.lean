import ApiMock.Proofs.Document.Substitution
import Mathlib.Data.List.Perm.Subperm
/-!
# Following a path through references

A path can be followed through a value that is not expanded: before each step, and at the end, a
reference to a defined component gives way to the definition. `at?_expand` says that this leads to
what the path plainly leads to in the expanded value, as long as no component is opened twice. The
proof follows the path with the components opened so far as those that the expansion has open, so
each opening on the way is one that the expansion makes too. `exists_follows_or_repeats` says that a
path is always followed to an end, unless it opens a component twice.
-/
namespace ApiMock.Document

open Json (Step)

/-- Following a path from a value opens some components, one after the other, and leads to a result,
or nowhere. -/
inductive Follows (document : Json) :
    Json → List Step → List String → Option Json → Prop
  /-- A reference to a defined component gives way to its definition. -/
  | opened {value definition : Json} {pointer name : String} {path : List Step}
      {names : List String} {result : Option Json} (reference : value.reference? = some pointer)
      (named : schemaName? pointer = some name)
      (defined : component? document name = some definition)
      (onward : Follows document definition path names result) :
      Follows document value path (name :: names) result
  /-- Beneath a reference that does not resolve, nothing gives way. -/
  | unresolved {value : Json} {pointer : String} {path : List Step}
      (reference : value.reference? = some pointer)
      (dangling : resolveSchema? document pointer = none) :
      Follows document value path [] (value.at? path)
  /-- A path without steps ends at what is no reference. -/
  | arrived {value : Json} (plain : value.reference? = none) :
      Follows document value [] [] (some value)
  /-- There is nothing at the next step. -/
  | lost {value : Json} {step : Step} {path : List Step} (plain : value.reference? = none)
      (missing : value.step? step = none) : Follows document value (step :: path) [] none
  /-- The next step leads on. -/
  | stepped {value inner : Json} {step : Step} {path : List Step} {names : List String}
      {result : Option Json} (plain : value.reference? = none)
      (found : value.step? step = some inner)
      (onward : Follows document inner path names result) :
      Follows document value (step :: path) names result

/-- Following a path from a value opens these components first. -/
inductive Opens (document : Json) : Json → List Step → List String → Prop
  /-- No component has been opened yet. -/
  | begun (value : Json) (path : List Step) : Opens document value path []
  /-- A reference to a defined component gives way to its definition. -/
  | opened {value definition : Json} {pointer name : String} {path : List Step}
      {names : List String} (reference : value.reference? = some pointer)
      (named : schemaName? pointer = some name)
      (defined : component? document name = some definition)
      (onward : Opens document definition path names) : Opens document value path (name :: names)
  /-- The next step leads on. -/
  | stepped {value inner : Json} {step : Step} {path : List Step} {names : List String}
      (plain : value.reference? = none) (found : value.step? step = some inner)
      (onward : Opens document inner path names) : Opens document value (step :: path) names

variable {document : Json}

/-- From a reference to a defined component, a path is followed from the definition. -/
theorem Follows.of_opened {value definition : Json} {pointer name : String} {path : List Step}
    {names : List String} {result : Option Json}
    (follows : Follows document value path names result)
    (reference : value.reference? = some pointer) (named : schemaName? pointer = some name)
    (defined : component? document name = some definition) :
    ∃ later, names = name :: later ∧ Follows document definition path later result := by
  cases follows with
  | opened reference' named' defined' onward =>
    cases reference.symm.trans reference'
    cases named.symm.trans named'
    cases defined.symm.trans defined'
    exact ⟨_, rfl, onward⟩
  | unresolved reference' dangling =>
    cases reference.symm.trans reference'
    cases dangling.symm.trans (resolveSchema?_of_component? named defined)
  | arrived plain | lost plain | stepped plain => cases plain.symm.trans reference

/-- From what is no reference, a path is followed from where its first step leads. -/
theorem Follows.of_stepped {value inner : Json} {step : Step} {path : List Step}
    {names : List String} {result : Option Json}
    (follows : Follows document value (step :: path) names result)
    (plain : value.reference? = none) (found : value.step? step = some inner) :
    Follows document inner path names result := by
  cases follows with
  | opened reference | unresolved reference => cases plain.symm.trans reference
  | lost _ missing => cases missing.symm.trans found
  | stepped _ found' onward =>
    cases found.symm.trans found'
    exact onward

/-- A path is followed in one way only. -/
theorem Follows.unique {value : Json} {path : List Step} {names others : List String}
    {result other : Option Json} (follows : Follows document value path names result)
    (again : Follows document value path others other) : names = others ∧ result = other := by
  induction follows generalizing others other with
  | opened reference named defined _ ih =>
    obtain ⟨later, rfl, onward⟩ := again.of_opened reference named defined
    exact (ih onward).imp (congrArg _) id
  | unresolved reference dangling =>
    cases again with
    | opened reference' named defined =>
      cases reference.symm.trans reference'
      cases dangling.symm.trans (resolveSchema?_of_component? named defined)
    | unresolved => exact ⟨rfl, rfl⟩
    | arrived plain | lost plain | stepped plain => cases plain.symm.trans reference
  | arrived plain =>
    cases again with
    | opened reference | unresolved reference => cases plain.symm.trans reference
    | arrived => exact ⟨rfl, rfl⟩
  | lost plain missing =>
    cases again with
    | opened reference | unresolved reference => cases plain.symm.trans reference
    | lost => exact ⟨rfl, rfl⟩
    | stepped _ found => cases missing.symm.trans found
  | stepped plain found _ ih => exact ih (again.of_stepped plain found)

/-- What is opened on the way to the end is opened first. -/
theorem Follows.opens {value : Json} {path : List Step} {names : List String}
    {result : Option Json} (follows : Follows document value path names result) :
    Opens document value path names := by
  induction follows with
  | opened reference named defined _ ih => exact .opened reference named defined ih
  | stepped plain found _ ih => exact .stepped plain found ih
  | _ => exact .begun _ _

/-- What is opened first begins what is opened on the way to the end. -/
theorem Opens.begins {value : Json} {path : List Step} {names others : List String}
    {result : Option Json} (opens : Opens document value path names)
    (follows : Follows document value path others result) : names <+: others := by
  induction opens generalizing others with
  | begun => exact List.nil_prefix
  | opened reference named defined _ ih =>
    obtain ⟨later, rfl, onward⟩ := follows.of_opened reference named defined
    exact List.cons_prefix_cons.mpr ⟨rfl, ih onward⟩
  | stepped plain found _ ih => exact ih (follows.of_stepped plain found)

/-- Opened components are defined. -/
theorem Opens.defined {value : Json} {path : List Step} {names : List String}
    (opens : Opens document value path names) {name : String} (opened : name ∈ names) :
    name ∈ componentNames document := by
  induction opens with
  | begun => cases opened
  | opened _ _ defined _ ih =>
    rcases List.mem_cons.mp opened with rfl | later
    · exact mem_componentNames_of_component? defined
    · exact ih later
  | stepped _ _ _ ih => exact ih opened

/-- A path is followed to an end, or opens as many components as one likes. -/
theorem exists_follows_or_opens (count : Nat) (value : Json) (path : List Step) :
    (∃ names result, Follows document value path names result) ∨
      ∃ names, Opens document value path names ∧ names.length = count := by
  -- An opening lowers the count and keeps the path; a step shortens the path and keeps the count.
  induction count generalizing value path with
  | zero => exact .inr ⟨[], .begun value path, rfl⟩
  | succ count openings =>
    have atReference : ∀ value path pointer, value.reference? = some pointer →
        (∃ names result, Follows document value path names result) ∨
          ∃ names, Opens document value path names ∧ names.length = count + 1 := by
      intro value path pointer reference
      cases resolved : resolveSchema? document pointer with
      | none => exact .inl ⟨_, _, .unresolved reference resolved⟩
      | some definition =>
        obtain ⟨name, named, defined⟩ := Option.bind_eq_some_iff.mp resolved
        rcases openings definition path with ⟨names, result, follows⟩ | ⟨names, opens, length⟩
        · exact .inl ⟨_, _, .opened reference named defined follows⟩
        · exact .inr ⟨_, .opened reference named defined opens, congrArg (· + 1) length⟩
    induction path generalizing value with
    | nil =>
      cases plain : value.reference? with
      | some pointer => exact atReference value [] pointer plain
      | none => exact .inl ⟨_, _, .arrived plain⟩
    | cons step path steps =>
      cases plain : value.reference? with
      | some pointer => exact atReference value (step :: path) pointer plain
      | none =>
        cases found : value.step? step with
        | none => exact .inl ⟨_, _, .lost plain found⟩
        | some inner =>
          rcases steps inner with ⟨names, result, follows⟩ | ⟨names, opens, length⟩
          · exact .inl ⟨_, _, .stepped plain found follows⟩
          · exact .inr ⟨_, .stepped plain found opens, length⟩

/-- A path is followed to an end, unless it opens a component twice. -/
theorem exists_follows_or_repeats (value : Json) (path : List Step) :
    (∃ names result, Follows document value path names result) ∨
      ∃ names, Opens document value path names ∧ ¬ names.Nodup := by
  rcases exists_follows_or_opens ((componentNames document).length + 1) value path with
    ended | ⟨names, opens, length⟩
  · exact .inl ended
  · refine .inr ⟨names, opens, fun distinct => ?_⟩
    have fits : names.length ≤ (componentNames document).length :=
      (List.subperm_of_subset distinct fun name opened => opens.defined opened).length_le
    omega

/-- What a path leads to through the references of a value stands, but for the contents of
containers, at the path in its expansion, if the components opened on the way are distinct and none
of them is open already. -/
theorem at?_expandWithin {chain : List String} {value : Json} {path : List Step}
    {names : List String} {result : Option Json}
    (follows : Follows document value path names result) (distinct : names.Nodup)
    (closed : ∀ name ∈ names, name ∉ chain) (unmarked : .key markerKey ∉ path) :
    ((expandWithin document chain value).at? path).map Json.outline =
      result.map Json.outline := by
  induction follows generalizing chain with
  | @opened value definition pointer name path names result reference named defined onward ih =>
    obtain ⟨fresh, distinct⟩ := List.nodup_cons.mp distinct
    have opening := opening_of_closed named (closed name List.mem_cons_self) defined
    rw [expandWithin_eq, Json.substitute_of_reference reference, opening, Option.getD_some]
    rw [mark, Json.at?_setMember unmarked]
    refine ih distinct (fun other later inChain => ?_) unmarked
    rcases List.mem_cons.mp inChain with rfl | before
    · exact fresh later
    · exact closed other (List.mem_cons_of_mem _ later) before
  | unresolved reference dangling =>
    rw [expandWithin_eq, Json.substitute_of_reference reference, opening_of_unresolved dangling]
    rfl
  | arrived plain =>
    rw [expandWithin_eq]
    simp only [Json.at?, Option.map_some, Json.outline_substitute plain]
  | lost plain missing =>
    rw [expandWithin_eq, Json.at?, Json.step?_substitute plain, missing]
    rfl
  | stepped plain found onward ih =>
    rw [expandWithin_eq, Json.at?, Json.step?_substitute plain, found, Option.map_some,
      Option.bind_some, ← expandWithin_eq]
    exact ih distinct closed fun later => unmarked (List.mem_cons_of_mem _ later)

/-- Expansion preserves what references mean: a path that avoids the marks and opens no component
twice leads through the references of a value to what stands at it in the expanded value, to the
same scalar, to a container of the same kind or nowhere. -/
theorem at?_expand {value : Json} {path : List Step}
    (distinct : ∀ names, Opens document value path names → names.Nodup)
    (unmarked : .key markerKey ∉ path) :
    ∃ names result, Follows document value path names result ∧
      ((expand document value).at? path).map Json.outline = result.map Json.outline := by
  rcases exists_follows_or_repeats value path with
    ⟨names, result, follows⟩ | ⟨names, opens, repeated⟩
  · exact ⟨names, result, follows, at?_expandWithin follows (distinct names follows.opens)
      (fun _ _ => List.not_mem_nil) unmarked⟩
  · exact absurd (distinct names opens) repeated

/-- A document with nodes of a linked list, and another name for them. -/
def linkedDocument : Json :=
  .obj [("components", .obj [("schemas", .obj [
    ("Node", .obj [
      ("type", .str "object"),
      ("next", .obj [("$ref", .str "#/components/schemas/Node")])]),
    ("List", .obj [("$ref", .str "#/components/schemas/Node")])])])]

/-- The expansion of a list has the type of nodes, though nodes are within nodes. -/
theorem at?_expand_linkedDocument :
    let value : Json := .arr [.obj [("$ref", .str "#/components/schemas/List")]]
    let path : List Step := [.index 0, .key "type"]
    (∀ names, Opens linkedDocument value path names → names.Nodup) ∧ .key markerKey ∉ path ∧
      ((expand linkedDocument value).at? path).map Json.outline = some (.str "object") := by
  intro value path
  have follows : Follows linkedDocument value path ["List", "Node"] (some (.str "object")) :=
    .stepped rfl rfl (.opened rfl rfl rfl (.opened rfl rfl rfl (.stepped rfl rfl (.arrived rfl))))
  have distinct : ∀ names, Opens linkedDocument value path names → names.Nodup :=
    fun names opens => (opens.begins follows).sublist.nodup (by decide)
  have unmarked : .key markerKey ∉ path := by decide
  obtain ⟨names, result, again, equal⟩ := at?_expand distinct unmarked
  obtain ⟨rfl, rfl⟩ := again.unique follows
  exact ⟨distinct, unmarked, equal⟩

end ApiMock.Document
