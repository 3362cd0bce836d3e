import ApiMock.Json.Basic

/-!
# Deep merge of values

Laying one value over another: objects merge member by member and arrays item by item, and
anywhere else the top value stands.
-/
namespace ApiMock.Json

mutual

/-- Lay a value over `base`. -/
def merge (base : Json) : Json → Json
  | obj top =>
    match base with
    | obj members => obj (mergeMembers members top)
    | _ => obj top
  | arr top =>
    match base with
    | arr items => arr (mergeItems items top)
    | _ => arr top
  | top => top
termination_by structural top => top

/-- Lay members over members: known keys keep their place, new ones follow in order. -/
def mergeMembers (base : List (String × Json)) : List (String × Json) → List (String × Json)
  | [] => base
  | (key, value) :: rest =>
    let merged := match Entries.get? base key with
      | some old => merge old value
      | none => value
    mergeMembers (Entries.insert base key merged) rest
termination_by structural top => top

/-- Lay items over items, place by place; the longer list decides the length. -/
def mergeItems : List Json → List Json → List Json
  | base, [] => base
  | [], top => top
  | old :: base, value :: top => merge old value :: mergeItems base top
termination_by structural _ top => top

end

end ApiMock.Json
