import ApiMock.Json.Decode
import ApiMock.Options.Basic

/-!
# Reading options

Options are read off an object, where absent fields keep their defaults and unknown keys are
ignored, or off a list that gives the first fields in order.
-/
namespace ApiMock

/-- The fields of the options. -/
inductive OptionField where
  | output
  | registryModule
  | node
  | maxArrayLength
  | baseUrl
  | includes
  | excludes
  | codes
  deriving DecidableEq, Repr

namespace OptionField

/-- The fields in the order of the list form. -/
def all : List OptionField :=
  [output, registryModule, node, maxArrayLength, baseUrl, includes, excludes, codes]

/-- The key of a field. -/
def key : OptionField → String
  | output => "output"
  | registryModule => "schemaRegistryModule"
  | node => "node"
  | maxArrayLength => "maxArrayLength"
  | baseUrl => "baseUrl"
  | includes => "includes"
  | excludes => "excludes"
  | codes => "codes"

/-- The field that a key stands for; the registry module has a second key. -/
def ofKey? (key : String) : Option OptionField :=
  if key = "zodios" then some registryModule else all.find? fun field => field.key == key

end OptionField

namespace Options

/-- Read one field. -/
def setField (options : Options) (field : OptionField) (value : Json) :
    Except DecodeError Options :=
  match field with
  | .output => value.decodeText.map fun output => { options with output }
  | .registryModule =>
    (value.decodeOptional Json.decodeText).map fun registryModule => { options with registryModule }
  | .node => value.decodeBool.map fun node => { options with node }
  | .maxArrayLength =>
    value.decodeNat.map fun maxArrayLength => { options with maxArrayLength }
  | .baseUrl => (value.decodeOptional Json.decodeText).map fun baseUrl => { options with baseUrl }
  | .includes =>
    (value.decodeOptional Json.decodeText).map fun includes => { options with includes }
  | .excludes =>
    (value.decodeOptional Json.decodeText).map fun excludes => { options with excludes }
  | .codes => (value.decodeOptional Json.decodeText).map fun codes => { options with codes }

/-- Read members in order; `read` holds the fields read so far, none of which may come again. -/
def ofMembers (options : Options) (read : List OptionField) :
    List (String × Json) → Except DecodeError Options
  | [] => .ok options
  | (key, value) :: rest =>
    match OptionField.ofKey? key with
    | none => ofMembers options read rest
    | some field =>
      if read.contains field then .error (.duplicateField field.key)
      else
        match options.setField field value with
        | .ok options => ofMembers options (field :: read) rest
        | .error cause => .error cause

/-- Read a list of `length` items into the fields that are left. -/
def ofItems (options : Options) (length : Nat) :
    List OptionField → List Json → Except DecodeError Options
  | _, [] => .ok options
  | [], _ :: _ => .error (.tooLong length)
  | field :: fields, value :: rest =>
    match options.setField field value with
    | .ok options => ofItems options length fields rest
    | .error cause => .error cause

/-- The options that a value describes. -/
def ofJson : Json → Except DecodeError Options
  | .obj members => ofMembers {} [] members
  | .arr items => ofItems {} items.length OptionField.all items
  | value => .error (.invalidType value .options)

end Options

end ApiMock
