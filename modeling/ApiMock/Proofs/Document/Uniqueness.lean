import ApiMock.Proofs.Document.Paths
import ApiMock.Proofs.Document.Route
import ApiMock.Proofs.Json.Position
import Mathlib.Data.Prod.Basic
/-!
# When operations answer the same requests

An operation answers requests by its verb and its route. Both are normal forms: the verb is the key
in lower case, and the route is the rewritten path. That no object has a key twice says nothing of
normal forms, and so two operations can have both in common: by two keys that differ in letter case
only, or by two paths with the same route. The first handler then hides the second. It happens in no
other way (`unshadowed_operations_iff`), and not at all where paths are plain templates and no path
has a verb twice.
-/
namespace ApiMock

/-- No two operations have both the verb and the route in common. -/
def Unshadowed (operations : List Operation) : Prop :=
  (operations.map fun operation => (operation.verb, operation.route)).Nodup

/-- The key of a verb names it. -/
theorem Verb.ofKey?_key (verb : Verb) : Verb.ofKey? verb.key = some verb := by
  cases verb <;> decide

/-- Verbs with the same key are the same. -/
theorem Verb.key_injective : Function.Injective Verb.key := by
  intro first second same
  have named := first.ofKey?_key
  rw [same, second.ofKey?_key] at named
  exact (Option.some.inj named).symm

/-- Verbs can be compared by their keys. -/
theorem unshadowed_iff (operations : List Operation) :
    Unshadowed operations ↔
      (operations.map fun operation => (operation.verb.key, operation.route)).Nodup := by
  have injective : Function.Injective (Prod.map Verb.key (id : String → String)) :=
    Verb.key_injective.prodMap Function.injective_id
  rw [Unshadowed, ← List.nodup_map_iff injective, List.map_map]
  rfl

namespace Document

variable {document : Json} {options : Options}

/-! ### Keys are not repeated -/

/-- The paths of a document have distinct keys, and so have their items. -/
theorem distinctKeys_paths (distinct : document.DistinctKeys) :
    (Json.obj (paths document)).DistinctKeys := by
  rw [paths]
  cases found : document.get? "paths" with
  | none => exact Json.distinctKeys_obj_iff.mpr ⟨List.nodup_nil, nofun⟩
  | some items => exact (distinct.within (Json.within_of_get? found)).members

/-- The verbs under a path have distinct keys. -/
theorem nodup_keys_pathVerbKeys {item : Json} (distinct : item.DistinctKeys) (path : String) :
    ((pathVerbKeys options path item).map fun entry => (entry.path, entry.key)).Nodup := by
  cases covered : options.acceptsPath path with
  | false =>
    rw [pathVerbKeys_of_uncovered covered]
    exact List.nodup_nil
  | true =>
    obtain ⟨keys, -⟩ := Json.distinctKeys_obj_iff.mp distinct.members
    have known : (Entries.keys ((item.members?.getD []).filter describesVerb)).Nodup :=
      keys.sublist (List.filter_sublist.map Prod.fst)
    have places := known.map (Prod.mk_right_injective path)
    rw [Entries.keys, List.map_map] at places
    rw [pathVerbKeys_of_covered covered, List.map_map]
    exact places

/-- No verb of a document has both its path and its key in common with another one. -/
theorem nodup_keys_verbKeys (distinct : document.DistinctKeys) (options : Options) :
    ((verbKeys document options).map fun entry => (entry.path, entry.key)).Nodup := by
  obtain ⟨keys, items⟩ := Json.distinctKeys_obj_iff.mp (distinctKeys_paths distinct)
  rw [verbKeys, List.map_flatMap, List.nodup_flatMap]
  constructor
  · exact fun entry listed => nodup_keys_pathVerbKeys (items entry listed) entry.1
  · refine (List.pairwise_map.mp keys).imp fun {first second} apart => ?_
    intro place inFirst inSecond
    obtain ⟨entry, listed, rfl⟩ := List.mem_map.mp inFirst
    obtain ⟨entry', listed', same⟩ := List.mem_map.mp inSecond
    refine apart ?_
    rw [← path_of_mem_pathVerbKeys listed, ← path_of_mem_pathVerbKeys listed']
    exact (Prod.ext_iff.mp same).1.symm

/-! ### Keys that give operations -/

/-- Whether a key gives an operation: the verb can be mocked, and some of its responses are left. -/
def isAnswered (document : Json) (options : Options) (entry : VerbKey) : Bool :=
  entry.verb ≠ "trace" &&
    !(responses document options entry.location entry.described).value.isEmpty

/-- The keys of a document that give operations, in document order. -/
def answeredKeys (document : Json) (options : Options) : List VerbKey :=
  (verbKeys document options).filter (isAnswered document options)

/-- A key gives an operation with its verb and the route of its path, or none. -/
theorem map_operation {entry : VerbKey} (listed : entry ∈ verbKeys document options) :
    ((operation document options entry.path entry.key entry.described).value.map fun operation =>
      (operation.verb.key, operation.route)) =
      if isAnswered document options entry then some (entry.verb, routeOfPath entry.path)
      else none := by
  obtain ⟨verb, named⟩ := exists_verb_of_mem_verbKeys listed
  have key : verb.key = entry.verb := key_of_ofKey? named
  cases mockable : verb.isMockable with
  | false =>
    have trace : entry.verb = "trace" := by
      rw [← key]
      exact Decidable.not_not.mp fun other => by simp [(isMockable_iff verb).mpr other] at mockable
    rw [operation_of_trace named mockable]
    simp [isAnswered, trace]
  | true =>
    have other : entry.verb ≠ "trace" := key ▸ (isMockable_iff verb).mp mockable
    by_cases vacant : (responses document options entry.location entry.described).value = []
    · rw [operation_of_vacant named mockable vacant]
      simp [isAnswered, vacant]
    · rw [operation_of_filled named mockable vacant]
      simp [isAnswered, vacant, other, key]

/-- The operations have the verbs of the keys that give operations and the routes of their paths,
in order. -/
theorem map_operations (document : Json) (options : Options) :
    ((operations document options).value.map fun operation =>
      (operation.verb.key, operation.route)) =
      (answeredKeys document options).map fun entry => (entry.verb, routeOfPath entry.path) := by
  rw [operations_eq_gather, Reported.gather, List.filterMap_map, List.map_filterMap, answeredKeys,
    ← List.filterMap_eq_map, List.filterMap_filter]
  exact List.filterMap_congr fun entry listed => map_operation listed

/-! ### Operations with the same verb and route -/

/-- Two operations have the verb and the route in common exactly when two keys that give operations
have the same verb, letter case aside, under paths with the same route. There are no two such
operations where all paths are plain templates and no path has a verb under two keys. -/
theorem unshadowed_operations_iff (distinct : document.DistinctKeys) (options : Options) :
    let found := operations document options
    let answered := answeredKeys document options
    (Unshadowed found.value ↔
      ∀ first ∈ answered, ∀ second ∈ answered, first.verb = second.verb →
        routeOfPath first.path = routeOfPath second.path → first = second) ∧
    ((∀ entry ∈ answered, PlainTemplate entry.path) →
      (∀ first ∈ answered, ∀ second ∈ answered, first.path = second.path →
        first.verb = second.verb → first.key = second.key) → Unshadowed found.value) := by
  intro found answered
  have places : (answered.map fun entry => (entry.path, entry.key)).Nodup :=
    (nodup_keys_verbKeys distinct options).sublist (List.filter_sublist.map _)
  have exactly : Unshadowed found.value ↔
      ∀ first ∈ answered, ∀ second ∈ answered, first.verb = second.verb →
        routeOfPath first.path = routeOfPath second.path → first = second := by
    rw [unshadowed_iff, map_operations, List.nodup_map_iff_inj_on (places.of_map _)]
    simp only [Prod.mk.injEq, and_imp]
  refine ⟨exactly, fun plain single => exactly.mpr ?_⟩
  intro first listed second listed' verb route
  have path : first.path = second.path :=
    (plain first listed).eq_of_routeOfPath_eq (plain second listed') route
  have key : first.key = second.key := single first listed second listed' path verb
  exact List.inj_on_of_nodup_map places listed listed' (Prod.ext path key)

/-- What a document says of requests without bodies. -/
def bodiless : Json := .obj [("responses", .obj [("200", .obj [])])]

/-- A document with plain paths, each with its verbs once. -/
def petPaths : Json :=
  .obj [("paths", .obj [
    ("/pets", .obj [("get", bodiless), ("POST", bodiless)]),
    ("/pets/\x7bpetId\x7d", .obj [("get", bodiless)])])]

/-- All operations of a document with plain paths can be told apart. -/
theorem unshadowed_operations_petPaths :
    petPaths.DistinctKeys ∧ (operations petPaths {}).value.length = 3 ∧
      Unshadowed (operations petPaths {}).value := by
  have distinct : petPaths.DistinctKeys := by
    simp [petPaths, bodiless, Json.distinctKeys_obj_iff, Entries.keys]
  have count : (operations petPaths {}).value.length = 3 := by decide
  let places := [("/pets", "get"), ("/pets", "POST"), ("/pets/\x7bpetId\x7d", "get")]
  have answered : ((answeredKeys petPaths {}).map fun entry => (entry.path, entry.key)) =
      places := by decide
  have place : ∀ entry ∈ answeredKeys petPaths {}, (entry.path, entry.key) ∈ places :=
    fun entry listed => answered ▸ List.mem_map_of_mem listed
  have plain : ∀ entry ∈ answeredKeys petPaths {}, PlainTemplate entry.path := by
    have cut : ∀ place ∈ places, ∀ segment ∈ Text.pieces (· == '/') place.1.toList,
        segment ∈ ["".toList, "pets".toList, "\x7bpetId\x7d".toList] := by decide
    intro entry listed segment inPath
    have known := cut _ (place entry listed) segment inPath
    simp only [List.mem_cons, List.not_mem_nil, or_false] at known
    rcases known with rfl | rfl | rfl
    · exact .literal (by decide) (by decide)
    · exact .literal (by decide) (by decide)
    · exact @PlainSegment.parameter "petId".toList ⟨by decide, by simp⟩
  have single : ∀ first ∈ answeredKeys petPaths {}, ∀ second ∈ answeredKeys petPaths {},
      first.path = second.path → first.verb = second.verb → first.key = second.key := by
    have apart : ∀ one ∈ places, ∀ other ∈ places, one.1 = other.1 →
        Text.lowerAscii one.2 = Text.lowerAscii other.2 → one.2 = other.2 := by decide
    exact fun first listed second listed' =>
      apart _ (place first listed) _ (place second listed')
  exact ⟨distinct, count, (unshadowed_operations_iff distinct {}).2 plain single⟩

/-- A document that names a verb in two letter cases. -/
def verbTwice : Json :=
  .obj [("paths", .obj [("/pets", .obj [("get", bodiless), ("GET", bodiless)])])]

/-- A document of two paths with the same route. -/
def routeTwice : Json :=
  .obj [("paths", .obj [("/files/\x7bname\x7ds", .obj [("get", bodiless)]),
    ("/files/\x7bnames\x7d", .obj [("get", bodiless)])])]

/-- One operation hides another one, be it for the letter case of a verb or for the route of a
path. -/
theorem shadowed_operations_twice :
    (verbTwice.DistinctKeys ∧ ¬ Unshadowed (operations verbTwice {}).value) ∧
      routeTwice.DistinctKeys ∧ ¬ Unshadowed (operations routeTwice {}).value := by
  refine ⟨⟨?_, ?_⟩, ?_, ?_⟩
  · simp [verbTwice, bodiless, Json.distinctKeys_obj_iff, Entries.keys]
  · have both : ((operations verbTwice {}).value.map fun operation =>
        (operation.verb, operation.route)) = [(.get, "/pets"), (.get, "/pets")] := by decide
    rw [Unshadowed, both]
    decide
  · simp [routeTwice, bodiless, Json.distinctKeys_obj_iff, Entries.keys]
  · have both : ((operations routeTwice {}).value.map fun operation =>
        (operation.verb, operation.route)) =
          [(.get, "/files/:names"), (.get, "/files/:names")] := by decide
    rw [Unshadowed, both]
    decide

end Document

end ApiMock
