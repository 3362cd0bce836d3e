import ApiMock.Json.Basic
import ApiMock.Text.Basic

/-!
# References

An object with a string under `$ref` stands for what the string points at. References of a
document point at its components: a pointer names a section and, after it, one component.
-/
namespace ApiMock

namespace Json

/-- The pointer of a reference. -/
def reference? (value : Json) : Option String := value.getText? "$ref"

mutual

/-- Put values in place of references. A reference without a replacement stays, with all that is
beneath it; replacements are not looked into. -/
def substitute (replacement : String → Option Json) : Json → Json
  | obj members =>
    match (obj members).reference? with
    | some pointer => (replacement pointer).getD (obj members)
    | none => obj (substituteMembers replacement members)
  | arr items => arr (substituteItems replacement items)
  | value => value

/-- Put values in place of the references within items. -/
def substituteItems (replacement : String → Option Json) : List Json → List Json
  | [] => []
  | item :: rest => substitute replacement item :: substituteItems replacement rest

/-- Put values in place of the references within members. -/
def substituteMembers (replacement : String → Option Json) :
    List (String × Json) → List (String × Json)
  | [] => []
  | (key, value) :: rest =>
    (key, substitute replacement value) :: substituteMembers replacement rest

end

mutual

/-- The pointers of all references in a value, those beneath other references too, in document
order. -/
def references : Json → List String
  | obj members => (obj members).reference?.toList ++ referencesOfMembers members
  | arr items => referencesOfItems items
  | _ => []

/-- The pointers of all references within items. -/
def referencesOfItems : List Json → List String
  | [] => []
  | item :: rest => references item ++ referencesOfItems rest

/-- The pointers of all references within members. -/
def referencesOfMembers : List (String × Json) → List String
  | [] => []
  | (_, value) :: rest => references value ++ referencesOfMembers rest

end

end Json

namespace Document

/-- The components of a section of a document. -/
def section? (document : Json) (name : String) : Option (Entries Json) :=
  ((document.get? "components").bind fun components => components.get? name).bind Json.members?

/-- The names of the schema components, in order. -/
def componentNames (document : Json) : List String :=
  Entries.keys ((section? document "schemas").getD [])

/-- The definition of a schema component. -/
def component? (document : Json) (name : String) : Option Json :=
  (section? document "schemas").bind fun schemas => Entries.get? schemas name

/-- A defined component is named. -/
theorem mem_componentNames_of_component? {document definition : Json} {name : String}
    (defined : component? document name = some definition) : name ∈ componentNames document := by
  unfold component? at defined
  unfold componentNames
  cases found : section? document "schemas" with
  | none => simp [found] at defined
  | some schemas =>
    simp only [found, Option.bind_some] at defined
    exact (Entries.get?_isSome_iff schemas name).mp (by simp [defined])

/-- What pointers at schema components start with. -/
def schemaLead : String := "#/components/schemas/"

/-- What pointers at response components start with. -/
def responseLead : String := "#/components/responses/"

/-- The schema component that a pointer names, whether it is defined or not. -/
def schemaName? (pointer : String) : Option String := Text.after? schemaLead pointer

/-- The definition that a pointer at a schema component leads to. -/
def resolveSchema? (document : Json) (pointer : String) : Option Json :=
  (schemaName? pointer).bind (component? document)

/-- The definition that a pointer at a response component leads to. -/
def resolveResponse? (document : Json) (pointer : String) : Option Json :=
  (Text.after? responseLead pointer).bind fun name =>
    (section? document "responses").bind fun responses => Entries.get? responses name

end Document

end ApiMock
