import ApiMock.Document.Reference

/-!
# Expansion of references

Every reference to a schema component is replaced by its definition, in which references are
expanded in turn, and the definition is marked with the name of the component. A component is not
opened again within itself: there its reference stays. So the components open at a time are
distinct, and their number bounds the depth of the recursion.
-/
namespace ApiMock.Document

/-- The key under which an expanded definition carries the name of its component. -/
def markerKey : String := "x-ref-name"

/-- Mark a definition with the name of its component. Only objects can carry a mark. -/
def mark (name : String) (definition : Json) : Json :=
  definition.setMember markerKey (.str name)

/-- The number of schema components that are not open. -/
def closedCount (document : Json) (chain : List String) : Nat :=
  ((componentNames document).filter fun name => !chain.contains name).length

/-- Opening a closed component leaves one closed component less. -/
theorem closedCount_cons_lt {document : Json} {chain : List String} {name : String}
    (named : name ∈ componentNames document) (closed : name ∉ chain) :
    closedCount document (name :: chain) < closedCount document chain := by
  have split : ((componentNames document).filter fun other => !(name :: chain).contains other) =
      ((componentNames document).filter fun other => !chain.contains other).filter
        fun other => !(other == name) := by
    rw [List.filter_filter]
    congr 1
    funext other
    simp only [List.contains_cons, Bool.not_or]
  rw [closedCount, closedCount, split]
  refine List.length_filter_lt_length_iff_exists.mpr ⟨name, ?_, by simp⟩
  simp [List.mem_filter, named, closed]

/-- Expand the references of a value; `chain` holds the components that are open. -/
def expandWithin (document : Json) (chain : List String) (value : Json) : Json :=
  value.substitute fun pointer =>
    match schemaName? pointer with
    | none => none
    | some name =>
      if _ : name ∈ chain then none
      else
        match _ : component? document name with
        | none => none
        | some definition => some (mark name (expandWithin document (name :: chain) definition))
termination_by closedCount document chain
decreasing_by
  rename_i opened defined
  exact closedCount_cons_lt (mem_componentNames_of_component? defined) opened

/-- Expand the references of a value. -/
def expand (document value : Json) : Json := expandWithin document [] value

end ApiMock.Document
