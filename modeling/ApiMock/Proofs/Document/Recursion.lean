import ApiMock.Proofs.Document.Substitution
import Mathlib.Logic.Relation
/-!
# References that survive expansion

A component uses another if its definition refers to it at an open position, and is recursive if it
uses itself over any number of steps. Expansion leaves a reference alone only where its component is
open already. The components that are open use everything that is still to be expanded
(`UsedWithin`), and this carries over to each definition that is opened. So what is left refers to
recursive components only, and where there are none, nothing that could be expanded is left.
-/
namespace ApiMock.Document

/-- A reference to a defined component stands at an open position of a value. -/
def RefersTo (document value : Json) (name : String) : Prop :=
  (component? document name).isSome ∧
    ∃ place, Json.Open value place ∧ place.reference? = some (schemaLead ++ name)

/-- The definition of a component refers to another component. -/
def Uses (document : Json) (user used : String) : Prop :=
  ∃ definition, component? document user = some definition ∧ RefersTo document definition used

/-- A component uses itself over one or more steps. -/
def Recursive (document : Json) (name : String) : Prop :=
  Relation.TransGen (Uses document) name name

/-- No definition of a schema component is a string. -/
def NoTextComponents (document : Json) : Prop :=
  ∀ name definition, component? document name = some definition → definition.NoText

/-- The open components use all that a value refers to, over one or more steps. -/
def UsedWithin (document : Json) (chain : List String) (value : Json) : Prop :=
  ∀ user ∈ chain, ∀ name, RefersTo document value name →
    Relation.TransGen (Uses document) user name

variable {document : Json} {chain : List String} {value : Json}

/-- A pointer names a component exactly when it is the name after what starts such pointers. -/
theorem schemaName?_eq_some_iff {pointer name : String} :
    schemaName? pointer = some name ↔ pointer = schemaLead ++ name :=
  Text.after?_eq_some_iff

/-- What refers to a component mentions a pointer that names it. -/
theorem refersTo_iff {name : String} :
    RefersTo document value name ↔
      (component? document name).isSome ∧
        ∃ pointer, value.Mentions pointer ∧ schemaName? pointer = some name := by
  simp only [RefersTo, schemaName?_eq_some_iff, exists_eq_right, Json.Mentions]

/-- What is within a component that opens is used by it and by what was open before. -/
theorem UsedWithin.opened {name : String} {definition : Json}
    (used : UsedWithin document chain value) (refers : RefersTo document value name)
    (defined : component? document name = some definition) :
    UsedWithin document (name :: chain) definition := by
  intro user inChain other within
  have step : Uses document name other := ⟨definition, defined, within⟩
  rcases List.mem_cons.mp inChain with rfl | before
  · exact .single step
  · exact (used user before name refers).tail step

/-- Expansion makes no strings. -/
theorem noText_expandWithin (noTexts : NoTextComponents document) (noText : value.NoText) :
    (expandWithin document chain value).NoText := by
  induction chain, value using expandWithin.induct document with
  | case1 chain value ih =>
    rw [expandWithin_eq]
    refine Json.noText_substitute (fun pointer opened opening => ?_) noText
    obtain ⟨name, definition, _, closed, defined, rfl⟩ := closed_of_opening opening
    exact noText_mark (ih name closed definition defined (noTexts name definition defined))

/-- What is opened is no string. -/
theorem noText_opening (noTexts : NoTextComponents document) (pointer : String) (opened : Json)
    (opening : opening document chain pointer = some opened) : opened.NoText := by
  obtain ⟨name, definition, _, _, defined, rfl⟩ := closed_of_opening opening
  exact noText_mark (noText_expandWithin noTexts (noTexts name definition defined))

/-- What is left of a reference refers to a recursive component, if the open components use all that
the value refers to. -/
theorem recursive_of_refersTo_expandWithin (noTexts : NoTextComponents document)
    (used : UsedWithin document chain value) {name : String}
    (left : RefersTo document (expandWithin document chain value) name) :
    Recursive document name := by
  induction chain, value using expandWithin.induct document with
  | case1 chain value ih =>
    obtain ⟨known, pointer, mentioned, named⟩ := refersTo_iff.mp left
    obtain ⟨target, found⟩ := Option.isSome_iff_exists.mp known
    rw [expandWithin_eq] at mentioned
    rcases Json.mentions_of_substitute (noText_opening noTexts) mentioned with
      ⟨before, kept⟩ | ⟨former, opened, before, opening, inner⟩
    · -- The reference was left alone, so its component is open, and uses itself through the value.
      by_cases inChain : name ∈ chain
      · exact used name inChain name (refersTo_iff.mpr ⟨known, pointer, before, named⟩)
      · cases kept.symm.trans (opening_of_closed named inChain found)
    · obtain ⟨user, definition, usedNamed, closed, defined, rfl⟩ := closed_of_opening opening
      have refers : RefersTo document value user :=
        refersTo_iff.mpr ⟨Option.isSome_of_eq_some defined, former, before, usedNamed⟩
      exact ih user closed definition defined (used.opened refers defined)
        (refersTo_iff.mpr ⟨known, pointer, Json.mentions_of_setMember (by decide) inner, named⟩)

/-- Expansion changes nothing where no reference to a component is at an open position. -/
theorem expand_eq_self (none : ∀ name, ¬ RefersTo document value name) :
    expand document value = value := by
  rw [expand, expandWithin_eq]
  refine Json.substitute_eq_self fun pointer mentioned => ?_
  cases opening : opening document [] pointer with
  | none => rfl
  | some opened =>
    obtain ⟨name, definition, named, _, defined, _⟩ := closed_of_opening opening
    have refers : RefersTo document value name :=
      refersTo_iff.mpr ⟨Option.isSome_of_eq_some defined, pointer, mentioned, named⟩
    exact absurd refers (none name)

/-- Only references to recursive components are left by expansion. So if no component is recursive,
no reference to a component is left, and to expand once more changes nothing. -/
theorem recursive_of_refersTo_expand (noTexts : NoTextComponents document) (value : Json) :
    (∀ name, RefersTo document (expand document value) name → Recursive document name) ∧
      ((∀ name, ¬ Recursive document name) →
        (∀ name, ¬ RefersTo document (expand document value) name) ∧
          expand document (expand document value) = expand document value) := by
  have survivors : ∀ name, RefersTo document (expand document value) name →
      Recursive document name := by
    intro name left
    have used : UsedWithin document [] value := fun _ inChain => absurd inChain List.not_mem_nil
    exact recursive_of_refersTo_expandWithin noTexts used left
  refine ⟨survivors, fun acyclic => ?_⟩
  have gone : ∀ name, ¬ RefersTo document (expand document value) name :=
    fun name left => acyclic name (survivors name left)
  exact ⟨gone, expand_eq_self gone⟩

/-- The definition of the nodes of a linked list. -/
def nodeDefinition : Json :=
  .obj [("next", .obj [("$ref", .str "#/components/schemas/Node")])]

/-- A document with the nodes of a linked list. -/
def nodeDocument : Json :=
  .obj [("components", .obj [("schemas", .obj [("Node", nodeDefinition)])])]

/-- The expansion of a node refers to nodes, which are recursive. -/
theorem recursive_of_refersTo_expand_nodeDocument :
    let value : Json := .obj [("$ref", .str "#/components/schemas/Node")]
    NoTextComponents nodeDocument ∧ RefersTo nodeDocument (expand nodeDocument value) "Node" ∧
      Recursive nodeDocument "Node" := by
  intro value
  have noTexts : NoTextComponents nodeDocument := by
    intro name definition defined
    have listed : (name, definition) ∈ [("Node", nodeDefinition)] := Entries.mem_of_get? defined
    cases List.mem_singleton.mp listed
    rfl
  have reference : value.reference? = some "#/components/schemas/Node" := rfl
  have named : schemaName? "#/components/schemas/Node" = some "Node" := rfl
  have opened : opening nodeDocument [] "#/components/schemas/Node" =
      some (mark "Node" (expandWithin nodeDocument ["Node"] nodeDefinition)) :=
    opening_of_closed named List.not_mem_nil rfl
  have kept : opening nodeDocument ["Node"] "#/components/schemas/Node" = none := by
    rw [opening, named]
    rfl
  have inner : expandWithin nodeDocument ["Node"] nodeDefinition = nodeDefinition := by
    rw [expandWithin_eq]
    change Json.obj [("next", value.substitute (opening nodeDocument ["Node"]))] = nodeDefinition
    rw [Json.substitute_of_reference reference, kept]
    rfl
  have expanded : expand nodeDocument value = mark "Node" nodeDefinition := by
    rw [expand, expandWithin_eq, Json.substitute_of_reference reference, opened, inner]
    rfl
  have left : RefersTo nodeDocument (expand nodeDocument value) "Node" := by
    rw [expanded]
    exact ⟨rfl, value, .member rfl List.mem_cons_self (.root _), rfl⟩
  exact ⟨noTexts, left, (recursive_of_refersTo_expand noTexts value).1 "Node" left⟩

end ApiMock.Document
