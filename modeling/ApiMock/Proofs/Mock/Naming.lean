import ApiMock.Mock.Compile
import Mathlib.Data.List.Induction
import Mathlib.Data.List.Nodup
/-!
# Handlers and the functions they name

The functions of a mock are the first ones of each name among those of all identified responses.
What a list keeps of a later part depends only on which names came before (`firstOfEach_of_union`);
from this law of one list follow the order of the names, the function that a name stands for, and
that more operations only add to a mock. `accessors_fit_handlers` puts them together with the names
that the handlers mention.
-/
namespace ApiMock.Mock

/-! ### The first function of each name -/

variable {taken : List String} {accessors : List Accessor} {accessor : Accessor}

/-- A kept function has a name that was not taken. -/
theorem name_notMem_of_mem_firstOfEach (kept : accessor ∈ firstOfEach taken accessors) :
    accessor.name ∉ taken := by
  induction accessors generalizing taken with
  | nil => cases kept
  | cons first rest ih =>
    rw [firstOfEach] at kept
    split at kept
    · exact ih kept
    · rename_i fresh
      rcases List.mem_cons.mp kept with rfl | later
      · exact fun known => fresh (List.contains_iff_mem.mpr known)
      · exact fun known => ih later (List.mem_cons_of_mem _ known)

/-- No two kept functions have the same name. -/
theorem nodup_names_firstOfEach (taken : List String) (accessors : List Accessor) :
    ((firstOfEach taken accessors).map Accessor.name).Nodup := by
  induction accessors generalizing taken with
  | nil => exact List.nodup_nil
  | cons first rest ih =>
    rw [firstOfEach]
    split
    · exact ih taken
    · refine List.nodup_cons.mpr ⟨fun again => ?_, ih _⟩
      obtain ⟨other, kept, same⟩ := List.mem_map.mp again
      exact name_notMem_of_mem_firstOfEach kept (same ▸ List.mem_cons_self)

/-- A kept function is the first one of its name. -/
theorem find?_of_mem_firstOfEach (kept : accessor ∈ firstOfEach taken accessors) :
    accessors.find? (fun other => other.name == accessor.name) = some accessor := by
  induction accessors generalizing taken with
  | nil => cases kept
  | cons first rest ih =>
    have skipped (later : accessor.name ≠ first.name) :
        (first :: rest).find? (fun other => other.name == accessor.name) =
          rest.find? fun other => other.name == accessor.name :=
      List.find?_cons_of_neg (by simpa using later.symm)
    have fresh := name_notMem_of_mem_firstOfEach kept
    rw [firstOfEach] at kept
    split at kept
    · rename_i known
      have later : accessor.name ≠ first.name :=
        fun same => fresh (same ▸ List.contains_iff_mem.mp known)
      rw [skipped later, ih kept]
    · rcases List.mem_cons.mp kept with rfl | kept
      · exact List.find?_cons_of_pos (beq_self_eq_true _)
      · have later : accessor.name ≠ first.name :=
          fun same => name_notMem_of_mem_firstOfEach kept (same ▸ List.mem_cons_self)
        rw [skipped later, ih kept]

/-- Taking more names leaves out the functions that have them, and nothing else changes. -/
theorem firstOfEach_of_union {whole base : List String}
    (union : ∀ name, name ∈ whole ↔ name ∈ taken ∨ name ∈ base) (accessors : List Accessor) :
    firstOfEach whole accessors =
      (firstOfEach base accessors).filter fun accessor => accessor.name ∉ taken := by
  induction accessors generalizing whole base with
  | nil => rfl
  | cons first rest ih =>
    rw [firstOfEach, firstOfEach]
    simp only [List.contains_iff_mem, union first.name]
    by_cases known : first.name ∈ base
    · rw [if_pos (.inr known), if_pos known, ih union]
    · rw [if_neg known]
      -- What is taken by the first function is taken on both sides from here on.
      by_cases left : first.name ∈ taken
      · have sameUnion : ∀ name, name ∈ whole ↔ name ∈ taken ∨ name ∈ first.name :: base := by
          intro name
          rw [union, List.mem_cons]
          constructor
          · exact Or.imp_right .inr
          · rintro (before | rfl | before)
            exacts [.inl before, .inl left, .inr before]
        rw [if_pos (.inl left), ih sameUnion]
        simp [left]
      · have moreUnion : ∀ name,
            name ∈ first.name :: whole ↔ name ∈ taken ∨ name ∈ first.name :: base := by
          intro name
          rw [List.mem_cons, List.mem_cons, union, or_left_comm]
        rw [if_neg (not_or.mpr ⟨left, known⟩), ih moreUnion]
        simp [left]

/-- Only which names are taken matters, not their order. -/
theorem firstOfEach_congr {whole base : List String} (same : ∀ name, name ∈ whole ↔ name ∈ base)
    (accessors : List Accessor) : firstOfEach whole accessors = firstOfEach base accessors := by
  have union : ∀ name, name ∈ whole ↔ name ∈ [] ∨ name ∈ base := by
    intro name
    rw [same name]
    simp
  rw [firstOfEach_of_union union]
  simp

/-- A list in two parts: for the second, the names of the first are taken. -/
theorem firstOfEach_append (taken : List String) (accessors later : List Accessor) :
    firstOfEach taken (accessors ++ later) =
      firstOfEach taken accessors ++ firstOfEach (accessors.map Accessor.name ++ taken) later := by
  induction accessors generalizing taken with
  | nil => rfl
  | cons first rest ih =>
    rw [List.cons_append, firstOfEach, firstOfEach, List.map_cons]
    split
    · rename_i known
      have member : first.name ∈ taken := List.contains_iff_mem.mp known
      have same : ∀ name, name ∈ rest.map Accessor.name ++ taken ↔
          name ∈ first.name :: rest.map Accessor.name ++ taken := by
        intro name
        rw [List.cons_append, List.mem_cons]
        constructor
        · exact .inr
        · rintro (rfl | before)
          exacts [List.mem_append_right _ member, before]
      rw [ih, firstOfEach_congr same]
    · have same : ∀ name, name ∈ rest.map Accessor.name ++ first.name :: taken ↔
          name ∈ first.name :: rest.map Accessor.name ++ taken := by
        intro name
        simp only [List.cons_append, List.mem_cons, List.mem_append]
        exact or_left_comm
      rw [ih, firstOfEach_congr same]
      rfl

/-- The kept names are the distinct names in the order of their first occurrence. -/
theorem names_firstOfEach (accessors : List Accessor) :
    (firstOfEach [] accessors).map Accessor.name = (accessors.map Accessor.name).eraseDups := by
  induction accessors using List.reverseRecOn with
  | nil => rfl
  | append_singleton accessors last ih =>
    rw [firstOfEach_append, List.map_append, ih, List.append_nil, List.map_append,
      List.eraseDups_append]
    congr 1
    generalize accessors.map Accessor.name = names
    by_cases known : last.name ∈ names <;>
      simp [firstOfEach, List.removeAll, List.eraseDups_cons, known]

/-! ### The mock of operations -/

/-- The responses that functions are made for: those with a status code and an identifier of their
operation, in order. -/
def identified (operations : List Operation) : List Response :=
  (operations.flatMap Operation.responses).filter fun response =>
    response.status?.isSome && response.id.isSome

/-- The function for a response with a name. -/
def function? (options : Options) (response : Response) : Option Accessor :=
  response.accessorName?.map fun name => ⟨name, .ofSchema options none response.jsonSchema?⟩

/-- The functions of all responses are those of the identified ones. -/
theorem accessors_eq_filterMap (options : Options) (operations : List Operation) :
    (operations.flatMap fun operation => operation.responses.filterMap (accessor? options)) =
      (identified operations).filterMap (function? options) := by
  have same : ∀ response, accessor? options response =
      if response.status?.isSome && response.id.isSome then function? options response
      else none := by
    intro response
    unfold accessor? function?
    cases response.status? with
    | none => rfl
    | some status =>
      cases absent : response.id with
      | none => simp [Response.accessorName?, absent]
      | some id => simp
  rw [identified, List.filterMap_filter, List.filterMap_flatMap]
  simp only [← same]

/-- The name of a function is that of its response. -/
theorem names_filterMap_function? (options : Options) (responses : List Response) :
    (responses.filterMap (function? options)).map Accessor.name =
      responses.filterMap Response.accessorName? := by
  rw [List.map_filterMap]
  congr 1
  funext response
  simp [function?, Function.comp_def]

/-- The functions of a mock are the first ones of each name of the identified responses. -/
theorem accessors_ofOperations (options : Options) (operations : List Operation) :
    (ofOperations options operations).accessors =
      firstOfEach [] ((identified operations).filterMap (function? options)) := by
  rw [ofOperations, accessors_eq_filterMap]

/-- The names of the functions of a mock are those of the identified responses, each once. -/
theorem names_ofOperations (options : Options) (operations : List Operation) :
    (ofOperations options operations).accessors.map Accessor.name =
      ((identified operations).filterMap Response.accessorName?).eraseDups := by
  rw [accessors_ofOperations, names_firstOfEach, names_filterMap_function?]

/-- The function of a name makes up the body of the first identified response with that name. -/
theorem exists_response_of_mem_accessors {options : Options} {operations : List Operation}
    (kept : accessor ∈ (ofOperations options operations).accessors) :
    ∃ response,
      (identified operations).find?
          (fun response => response.accessorName? == some accessor.name) = some response ∧
        accessor.body = .ofSchema options none response.jsonSchema? := by
  rw [accessors_ofOperations] at kept
  have first := find?_of_mem_firstOfEach kept
  have sameTest : (fun response => (function? options response).any
      fun other => other.name == accessor.name) =
      fun response : Response => response.accessorName? == some accessor.name := by
    funext response
    cases named : response.accessorName? <;> simp [function?, named]
  rw [List.find?_filterMap, sameTest] at first
  obtain ⟨response, found, made⟩ := Option.bind_eq_some_iff.mp first
  obtain ⟨name, -, rfl⟩ := Option.map_eq_some_iff.mp made
  exact ⟨response, found, rfl⟩

/-- What a handler names is a function of the mock. -/
theorem mem_names_of_handler {options : Options} {operations : List Operation} {handler : Handler}
    {response : MockResponse} {name : String}
    (listed : handler ∈ (ofOperations options operations).handlers)
    (turn : response ∈ handler.responses) (named : response.accessor = some name) :
    name ∈ (ofOperations options operations).accessors.map Accessor.name := by
  obtain ⟨operation, described, rfl⟩ := List.mem_map.mp listed
  obtain ⟨documented, within, made⟩ := List.mem_filterMap.mp turn
  obtain ⟨status, numeric, rfl⟩ := Option.map_eq_some_iff.mp made
  obtain ⟨id, identifier, -⟩ := Option.bind_eq_some_iff.mp named
  have counted : documented ∈ identified operations := by
    refine List.mem_filter.mpr ⟨List.mem_flatMap.mpr ⟨operation, described, within⟩, ?_⟩
    rw [numeric, identifier]
    rfl
  rw [names_ofOperations, List.mem_eraseDups]
  exact List.mem_filterMap.mpr ⟨documented, counted, named⟩

/-- More operations only add to a mock: their handlers, and the functions whose names are new. -/
theorem ofOperations_append (options : Options) (operations later : List Operation) :
    ofOperations options (operations ++ later) =
      ⟨(ofOperations options operations).handlers ++ (ofOperations options later).handlers,
        (ofOperations options operations).accessors ++
          (ofOperations options later).accessors.filter fun accessor =>
            accessor.name ∉ (ofOperations options operations).accessors.map Accessor.name⟩ := by
  have handlers : (ofOperations options (operations ++ later)).handlers =
      (ofOperations options operations).handlers ++ (ofOperations options later).handlers :=
    List.map_append
  have accessors : (ofOperations options (operations ++ later)).accessors =
      (ofOperations options operations).accessors ++
        (ofOperations options later).accessors.filter fun accessor =>
          accessor.name ∉ (ofOperations options operations).accessors.map Accessor.name := by
    have parts : identified (operations ++ later) = identified operations ++ identified later := by
      rw [identified, List.flatMap_append, List.filter_append]
      rfl
    have union : ∀ name,
        name ∈ ((identified operations).filterMap (function? options)).map Accessor.name ++ [] ↔
          name ∈ (ofOperations options operations).accessors.map Accessor.name ∨ name ∈ [] := by
      intro name
      rw [accessors_ofOperations, names_firstOfEach, List.mem_eraseDups, List.append_nil]
      simp
    rw [accessors_ofOperations, parts, List.filterMap_append, firstOfEach_append,
      firstOfEach_of_union union, ← accessors_ofOperations, ← accessors_ofOperations]
  rw [← handlers, ← accessors]

/-- The functions of a mock and its handlers fit together. There is one function for each name of
the identified responses, in the order in which the names first occur, and it makes up the body of
the first response with its name. Every name that a handler mentions has its function. What more
operations bring comes after what there was. -/
theorem accessors_fit_handlers (options : Options) (operations : List Operation) :
    let mock := ofOperations options operations
    mock.accessors.map Accessor.name =
        ((identified operations).filterMap Response.accessorName?).eraseDups ∧
      (mock.accessors.map Accessor.name).Nodup ∧
      (∀ accessor ∈ mock.accessors, ∃ response,
        (identified operations).find?
            (fun response => response.accessorName? == some accessor.name) = some response ∧
          accessor.body = .ofSchema options none response.jsonSchema?) ∧
      (∀ handler ∈ mock.handlers, ∀ response ∈ handler.responses, ∀ name,
        response.accessor = some name → name ∈ mock.accessors.map Accessor.name) ∧
      ∀ later, ofOperations options (operations ++ later) =
        ⟨mock.handlers ++ (ofOperations options later).handlers,
          mock.accessors ++ (ofOperations options later).accessors.filter fun accessor =>
            accessor.name ∉ mock.accessors.map Accessor.name⟩ := by
  intro mock
  have distinct : (mock.accessors.map Accessor.name).Nodup := by
    rw [accessors_ofOperations]
    exact nodup_names_firstOfEach _ _
  exact ⟨names_ofOperations options operations, distinct,
    fun _ kept => exists_response_of_mem_accessors kept,
    fun _ listed _ turn _ named => mem_names_of_handler listed turn named,
    ofOperations_append options operations⟩

/-- Two operations with one identifier. Of their four responses one has no status code and one has
no identifier, and the other two share a name. -/
def sharedOperations : List Operation :=
  [⟨.get, "/a", [⟨"default", some "list", []⟩,
      ⟨"200", some "list", [("application/json", .ofType "boolean")]⟩]⟩,
    ⟨.post, "/b", [⟨"500", none, []⟩, ⟨"200", some "list", []⟩]⟩]

/-- The second handler names the function that is made for the first. -/
theorem accessors_fit_handlers_sharedOperations :
    let mock := ofOperations {} sharedOperations
    let accessor : Accessor :=
      ⟨"getList200Response", .ofSchema {} none (some (.ofType "boolean"))⟩
    let response : MockResponse := ⟨200, some "getList200Response"⟩
    let handler : Handler := ⟨.ofVerb .post, "/b", [⟨500, none⟩, response]⟩
    accessor ∈ mock.accessors ∧ handler ∈ mock.handlers ∧ response ∈ handler.responses ∧
      accessor.name ∈ mock.accessors.map Accessor.name ∧
      ∃ response, (identified sharedOperations).find?
          (fun response => response.accessorName? == some accessor.name) = some response ∧
        accessor.body = .ofSchema {} none response.jsonSchema? := by
  intro mock accessor response handler
  have kept : accessor ∈ mock.accessors := by
    have same : mock.accessors = [accessor] := by rfl
    exact same ▸ List.mem_cons_self
  have listed : handler ∈ mock.handlers := by decide
  have turn : response ∈ handler.responses := by decide
  obtain ⟨_, _, bodies, names, _⟩ := accessors_fit_handlers {} sharedOperations
  exact ⟨kept, listed, turn, names handler listed response turn _ rfl, bodies accessor kept⟩

end ApiMock.Mock
