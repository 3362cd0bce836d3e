import ApiMock.Proofs.Document.Components
import ApiMock.Proofs.Schema.Composition
/-!
# Compositions of components

What a composition of components and of properties beside them becomes where a registry is used. The
merge of the members carries the mark of the last one that has any, and a marked schema is left to
the registry before its type and properties are looked at. So a composition with a component among
its members stands for that component alone: `keeps_declared_iff` says that nothing is lost exactly
when its definition declares all that the members declare.
-/
namespace ApiMock

namespace Schema

/-- The schema uses no keyword but the type of objects, properties and the mark of a component. -/
inductive Fragment : Schema → Prop
  /-- Any properties, any mark, and no other type. -/
  | intro {type : Option TypeKeyword} {properties : Option (List (String × Schema))}
      {refName : Option String} (typed : type = none ∨ type = some (.single "object")) :
      Fragment { type := type, properties := properties, refName := refName }

/-- The mark of the last schema of a list that has one. -/
def lastMark (schemas : List Schema) : Option String := schemas.reverse.findSome? refName

/-- A merge has the mark of the top schema, and that of the base where the top has none. -/
theorem refName_merged (base top : Schema) :
    (merged base top).refName = top.refName.or base.refName := by
  cases top
  rfl

/-- The merge of a list has the last mark in it. -/
theorem refName_mergeAll (schemas : List Schema) :
    (mergeAll schemas).refName = lastMark schemas := by
  have onto : ∀ base, (schemas.foldl merged base).refName =
      (lastMark schemas).or base.refName := by
    induction schemas with
    | nil => exact fun base => rfl
    | cons first rest ih =>
      intro base
      have single : [first].findSome? refName = first.refName := by simp
      rw [List.foldl_cons, ih, refName_merged, lastMark, lastMark, List.reverse_cons,
        List.findSome?_append, Option.or_assoc, single]
  rw [mergeAll, onto]
  exact Option.or_none

/-- A composition and nothing else is compiled as the merge of its members, whatever the options. -/
theorem generator_of_members (options : Options) (key : Option String) (members : List Schema) :
    ({ allOf := some members } : Schema).generator options key =
      (mergeAll members).generator options key := by
  have unnamed : ({ allOf := some members } : Schema).registryName options = none := by
    simp [registryName, referenceName]
  rw [generator_eq]
  simp only [rule, unnamed, keywordRule]

namespace Fragment

/-- The merge of fragments is one. -/
theorem merged {base top : Schema} (left : Fragment base) (right : Fragment top) :
    Fragment (Schema.merged base top) := by
  cases left with
  | intro typed =>
    cases right with
    | intro typed' =>
      refine .intro ?_
      rcases typed with rfl | rfl <;> rcases typed' with rfl | rfl <;> simp [mergeType]

/-- The component that a fragment names is that of its mark. -/
theorem referenceName_eq {schema : Schema} (fragment : Fragment schema) :
    schema.referenceName = schema.refName := by
  cases fragment
  rfl

/-- A fragment without a mark is an extension without a composition. -/
theorem extension {schema : Schema} (fragment : Fragment schema)
    (unmarked : schema.refName = none) : Extension schema ∧ schema.allOf = none := by
  cases fragment with
  | intro typed =>
    cases unmarked
    exact ⟨.intro typed nofun, rfl⟩

/-- Where a registry is used, a marked fragment is left to the component of the mark. -/
theorem generator_of_marked {options : Options} (enabled : options.registryEnabled = true)
    {schema : Schema} (fragment : Fragment schema) {component : String}
    (marked : schema.refName = some component) (key : Option String) :
    schema.generator options key = .registry component := by
  have named : schema.registryName options = some component := by
    rw [registryName, if_pos enabled, fragment.referenceName_eq, marked]
  cases fragment with
  | intro typed =>
    rw [generator_eq]
    rcases typed with rfl | rfl <;> simp only [rule, named]

end Fragment

/-- One of the schemas declares a property. -/
def SomeDeclares (schemas : List Schema) (name : String) : Prop :=
  ∃ schema ∈ schemas, Declares name schema

section Composition

variable {options : Options} {members : List Schema}

/-- A composition of fragments with a mark among them is left to the component of the last one. -/
theorem generator_of_lastMark (enabled : options.registryEnabled = true)
    (fragments : ∀ member ∈ members, Fragment member) {component : String}
    (marked : lastMark members = some component) (key : Option String) :
    ({ allOf := some members } : Schema).generator options key = .registry component := by
  have merge : Fragment (mergeAll members) :=
    mergeAll_induction (.intro (.inl rfl)) Fragment.merged fragments
  rw [generator_of_members]
  exact merge.generator_of_marked enabled ((refName_mergeAll members).trans marked) key

/-- A composition of fragments without marks is an object with the properties of all of them where
one says that it is of the type of objects, and nothing where none does. -/
theorem generator_of_unmarked (fragments : ∀ member ∈ members, Fragment member)
    (unmarked : lastMark members = none) (key : Option String) :
    (∃ properties, ({ allOf := some members } : Schema).generator options key =
        .object properties ∧ (∃ member ∈ members, member.type.isSome) ∧
        ∀ name, name ∈ Entries.keys properties ↔ SomeDeclares members name) ∨
      (({ allOf := some members } : Schema).generator options key = .null ∧
        ¬ ∃ member ∈ members, member.type.isSome) := by
  have merge : Fragment (mergeAll members) :=
    mergeAll_induction (.intro (.inl rfl)) Fragment.merged fragments
  have bare : (mergeAll members).refName = none := (refName_mergeAll members).trans unmarked
  obtain ⟨extension, flat⟩ := merge.extension bare
  have unnamed : (mergeAll members).registryName options = none := by
    simp [registryName, merge.referenceName_eq, bare]
  have typed : (mergeAll members).type.isSome ↔ ∃ member ∈ members, member.type.isSome :=
    additive_type.mergeAll (by simp) members
  rw [generator_of_members, extension.generator_of_unnamed unnamed flat]
  by_cases said : (mergeAll members).type.isSome
  · refine .inl ⟨_, if_pos said, typed.mp said, fun name => ?_⟩
    rw [SomeDeclares, ← (additive_declares name).mergeAll (by simp [Declares, Entries.keys])]
    simp [Declares, Entries.keys]
  · exact .inr ⟨if_neg said, fun some => said (typed.mpr some)⟩

end Composition

end Schema

/-- A generator keeps a property: it makes objects with it, or it leaves the value to a component
that declares it. -/
inductive Generator.Keeps (declares : String → String → Prop) (name : String) : Generator → Prop
  /-- Objects with the property. -/
  | object {properties : List (String × Generator)} (listed : name ∈ Entries.keys properties) :
      Keeps declares name (.object properties)
  /-- A component that declares the property. -/
  | registry {component : String} (declared : declares component name) :
      Keeps declares name (.registry component)

namespace Document

/-- The definition of a component declares a property. -/
def ComponentDeclares (document : Json) (component name : String) : Prop :=
  ∃ schema, Entries.get? (components document).value component = some schema ∧
    Schema.Declares name schema

/-- Of what the members of a composition declare, exactly what the component of the last mark among
them declares is kept. Without a mark, all is kept if a member says the type of objects, and nothing
otherwise. -/
theorem keeps_declared_iff {options : Options} (enabled : options.registryEnabled = true)
    (document : Json) {members : List Schema}
    (fragments : ∀ member ∈ members, Schema.Fragment member) {name : String}
    (declared : Schema.SomeDeclares members name) (key : Option String) :
    let composition : Schema := { allOf := some members }
    (composition.generator options key).Keeps (ComponentDeclares document) name ↔
      match Schema.lastMark members with
      | some component => ComponentDeclares document component name
      | none => ∃ member ∈ members, member.type = some (.single "object") := by
  intro composition
  cases mark : Schema.lastMark members with
  | some component =>
    have delegated : composition.generator options key = .registry component :=
      Schema.generator_of_lastMark enabled fragments mark key
    rw [delegated]
    constructor
    · intro kept
      cases kept with
      | registry known => exact known
    · intro known
      exact .registry known
  | none =>
    have typed : (∃ member ∈ members, member.type.isSome) ↔
        ∃ member ∈ members, member.type = some (.single "object") := by
      refine exists_congr fun member => and_congr_right fun listed => ?_
      cases fragments member listed with
      | intro typed => rcases typed with rfl | rfl <;> simp
    rw [← typed]
    rcases Schema.generator_of_unmarked fragments mark key with
      ⟨properties, made, said, names⟩ | ⟨vacant, unsaid⟩
    · rw [made]
      exact ⟨fun _ => said, fun _ => .object ((names name).mpr declared)⟩
    · rw [vacant]
      exact ⟨nofun, fun said => absurd said unsaid⟩

/-- The definition of an account. -/
def accountDefinition : Json :=
  .obj [("type", .str "object"),
    ("properties", .obj [("id", .obj [("type", .str "integer")])])]

/-- A document with accounts. -/
def accountDocument : Json :=
  .obj [("components", .obj [("schemas", .obj [("Account", accountDefinition)])])]

/-- A composition of accounts and of one more property. -/
def adminDefinition : Json :=
  .obj [("allOf", .arr [reference "Account",
    .obj [("properties", .obj [("admin", .obj [("type", .str "boolean")])])]])]

/-- What the members of the composition of accounts are read as. -/
def adminMembers : List Schema :=
  [{ type := some (.single "object"), properties := some [("id", .ofType "integer")],
     refName := some "Account" },
    { properties := some [("admin", .ofType "boolean")] }]

/-- The members of the composition of accounts are fragments. -/
theorem fragment_of_mem_adminMembers {member : Schema} (listed : member ∈ adminMembers) :
    Schema.Fragment member := by
  rcases List.mem_pair.mp listed with rfl | rfl
  · exact .intro (.inr rfl)
  · exact .intro (.inl rfl)

/-- The definition of an account has no references to expand. -/
theorem expandWithin_account :
    expandWithin accountDocument ["Account"] accountDefinition = accountDefinition := by
  rw [expandWithin_eq]
  rfl

/-- The component of accounts is read off its definition. -/
theorem get?_components_account :
    Entries.get? (components accountDocument).value "Account" =
      some { type := some (.single "object"), properties := some [("id", .ofType "integer")] } := by
  rw [get?_components (by decide)]
  change (readSchema _ (expandWithin accountDocument ["Account"] accountDefinition)).value = _
  rw [expandWithin_account]
  rfl

/-- The property of accounts is kept by the composition. -/
theorem keeps_declared_account :
    let options : Options := { registryModule := some "./registry.ts" }
    let composition : Schema := { allOf := some adminMembers }
    options.registryEnabled = true ∧ Schema.SomeDeclares adminMembers "id" ∧
      (composition.generator options none).Keeps (ComponentDeclares accountDocument) "id" := by
  intro options composition
  have enabled : options.registryEnabled = true := by decide
  have declared : Schema.SomeDeclares adminMembers "id" :=
    ⟨_, List.mem_cons_self, List.mem_singleton.mpr rfl⟩
  have known : ComponentDeclares accountDocument "Account" "id" :=
    ⟨_, get?_components_account, List.mem_singleton.mpr rfl⟩
  refine ⟨enabled, declared, ?_⟩
  exact (keeps_declared_iff enabled accountDocument (fun _ => fragment_of_mem_adminMembers)
    declared none).mpr known

/-- The property beside accounts is lost: the composition is left to the component of accounts,
which does not declare it. -/
theorem loses_declared_admin :
    let options : Options := { registryModule := some "./registry.ts" }
    let composition : Schema := { allOf := some adminMembers }
    options.registryEnabled = true ∧
      Schema.ofJson (expand accountDocument adminDefinition).normalize = .ok composition ∧
      (∀ member ∈ adminMembers, Schema.Fragment member) ∧
      Schema.SomeDeclares adminMembers "admin" ∧
      ¬ (composition.generator options none).Keeps (ComponentDeclares accountDocument) "admin" := by
  intro options composition
  have enabled : options.registryEnabled = true := by decide
  have read : Schema.ofJson (expand accountDocument adminDefinition).normalize =
      .ok composition := by
    have part : (reference "Account").substitute (opening accountDocument []) =
        mark "Account" accountDefinition := by
      rw [← expandWithin_eq]
      exact (expand_reference rfl).trans (congrArg (mark "Account") expandWithin_account)
    rw [expand, expandWithin_eq]
    change Schema.ofJson (Json.obj [("allOf", .arr
      [(reference "Account").substitute (opening accountDocument []),
        .obj [("properties", .obj [("admin", .obj [("type", .str "boolean")])])]])]).normalize = _
    rw [part]
    rfl
  have declared : Schema.SomeDeclares adminMembers "admin" :=
    ⟨_, List.mem_cons_of_mem _ List.mem_cons_self, List.mem_singleton.mpr rfl⟩
  have delegated : composition.generator options none = .registry "Account" :=
    Schema.generator_of_lastMark enabled (fun _ => fragment_of_mem_adminMembers) rfl none
  refine ⟨enabled, read, fun _ => fragment_of_mem_adminMembers, declared, ?_⟩
  rw [delegated]
  intro kept
  cases kept with
  | registry known =>
    obtain ⟨schema, found, within⟩ := known
    obtain rfl := Option.some.inj (get?_components_account.symm.trans found)
    exact absurd (List.mem_singleton.mp within) (by decide)

end Document

end ApiMock
