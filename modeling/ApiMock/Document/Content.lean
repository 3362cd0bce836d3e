import ApiMock.Document.Expand
import ApiMock.Issue
import ApiMock.Schema.BooleanForm
import ApiMock.Schema.Decode

/-!
# Content of responses

The schemas of a response body, one for each media type. References are expanded first, and those
that lead nowhere are reported. A documented example of the media type serves where its schema has
none.
-/
namespace ApiMock.Document

/-- Read a schema whose references are expanded. One that cannot be read is reported. -/
def readSchema (location : Location) (value : Json) : Reported (Option Schema) :=
  match Schema.ofJson value.normalize with
  | .ok schema => .clean (some schema)
  | .error cause => ⟨none, [⟨location, .invalidSchema cause⟩]⟩

/-- The documented example of a media type: its own, or the first of its named ones. Null counts
as no example. -/
def mediaExample? (media : Json) : Option Json :=
  ((media.get? "example").bind Json.nonNull?).or
    (((media.get? "examples").bind Json.members?).bind fun examples =>
      examples.findSome? fun entry => (entry.2.get? "value").bind Json.nonNull?)

/-- The issues of the references in a value that lead to no schema component. -/
def danglingIssues (document : Json) (location : Location) (value : Json) : List Issue :=
  (value.references.filter fun pointer => (resolveSchema? document pointer).isNone).map
    fun pointer => ⟨location, .unresolvedSchema pointer⟩

/-- The schema of a media type, if it has one that can be read. -/
def mediaSchema (document : Json) (location : Location) (media : Json) :
    Reported (Option Schema) :=
  match media.get? "schema" with
  | none => .clean none
  | some value =>
    let expanded := expand document value
    (readSchema location expanded).after (danglingIssues document location expanded)

/-- Let an example serve where a schema has none, or where there is no schema. -/
def supplyExample (example? : Option Json) (schema? : Option Schema) : Option Schema :=
  match example?, schema? with
  | none, schema? => schema?
  | some value, none => some { exampleValue := some value }
  | some value, some schema =>
    some { schema with exampleValue := schema.exampleValue.or (some value) }

/-- The schema that describes the bodies of one media type. -/
def mediaContent (document : Json) (location : Location) (name : String) (media : Json) :
    Reported (Option (String × Schema)) :=
  (mediaSchema document (location.below name) media).map fun schema? =>
    (supplyExample (mediaExample? media) schema?).map fun schema => (name, schema)

/-- The schemas of a response, by media type. -/
def content (document : Json) (location : Location) (response : Json) :
    Reported (Entries Schema) :=
  let media := ((response.get? "content").bind Json.members?).getD []
  .gather (media.map fun entry => mediaContent document location entry.1 entry.2)

/-- The schema components, with their references expanded. A component is open within itself. -/
def components (document : Json) : Reported (Entries Schema) :=
  let schemas := (section? document "schemas").getD []
  .gather (schemas.map fun entry =>
    (readSchema ⟨[schemaLead ++ entry.1]⟩ (expandWithin document [entry.1] entry.2)).map
      fun schema? => schema?.map fun schema => (entry.1, schema))

end ApiMock.Document
