import ApiMock.Proofs.Overlay
/-!
# Any number of layers

Of any number of values, each can be laid over those before it. What is read off a whole that was
put together in this way (under a keyword, at a place of a list, under a key) is put together in
the same way from what is read off its layers, as far as they have anything there
(`read_foldl`). So a law about two layers is enough to know a reading of all of them. Keys come in
the order in which the layers first have them (`Entries.keys_stacked_keywise`).
-/
namespace ApiMock

variable {α β σ : Type} {lay : α → α → α}

/-- What values leave that are each laid over those before them, if there are any. -/
def stacked (lay : α → α → α) : List α → Option α
  | [] => none
  | first :: rest => some (rest.foldl lay first)

/-- Something is left unless there are no values. -/
theorem stacked_eq_none_iff {values : List α} : stacked lay values = none ↔ values = [] := by
  cases values with
  | nil => exact iff_of_true rfl rfl
  | cons first rest => exact iff_of_false nofun nofun

/-- One more value is laid over what the others leave. -/
theorem stacked_append_singleton (values : List α) (top : α) :
    stacked lay (values ++ [top]) = some (laidOn lay (stacked lay values) top) := by
  cases values with
  | nil => rfl
  | cons first rest =>
    change some ((rest ++ [top]).foldl lay first) = some (lay (rest.foldl lay first) top)
    rw [List.foldl_append]
    rfl

/-- What is read off layers upon a base is stacked from what is read off the base and the layers,
if it is so for each layer alone. -/
theorem read_foldl {merge : σ → σ → σ} {read : σ → Option α} {layers : List σ}
    (reads : ∀ layer ∈ layers, ∀ base,
      read (merge base layer) = optionwise lay (read base) (read layer)) (base : σ) :
    read (layers.foldl merge base) =
      stacked lay ((read base).toList ++ layers.filterMap read) := by
  induction layers generalizing base with
  | nil =>
    change read base = stacked lay ((read base).toList ++ [])
    cases read base <;> rfl
  | cons layer rest ih =>
    obtain ⟨here, later⟩ := List.forall_mem_cons.mp reads
    rw [List.foldl_cons, ih later, here base]
    cases bottom : read base with
    | none =>
      cases top : read layer with
      | none => rw [List.filterMap_cons_none top, optionwise_none_left]
      | some value =>
        rw [List.filterMap_cons_some top, optionwise_none_left]
        rfl
    | some old =>
      cases top : read layer with
      | none =>
        rw [List.filterMap_cons_none top]
        rfl
      | some value =>
        rw [List.filterMap_cons_some top]
        rfl

/-- A measure of optional values is laid like them, if it is so where there are two. -/
theorem map_optionwise {layWhole : β → β → β} {measure : β → α}
    (measures : ∀ base top, measure (layWhole base top) = lay (measure base) (measure top))
    (base top : Option β) :
    (optionwise layWhole base top).map measure =
      optionwise lay (base.map measure) (top.map measure) := by
  cases top with
  | none => rfl
  | some value =>
    cases base with
    | none => rfl
    | some old => exact congrArg some (measures old value)

/-- What is read off optional values is laid like them, if it is so where there are two. -/
theorem bind_optionwise {layWhole : β → β → β} {read : β → Option α} {top : Option β}
    (reads : ∀ value, top = some value → ∀ base,
      read (layWhole base value) = optionwise lay (read base) (read value)) (base : Option β) :
    (optionwise layWhole base top).bind read = optionwise lay (base.bind read) (top.bind read) := by
  cases top with
  | none => rfl
  | some value =>
    cases base with
    | none => exact (optionwise_none_left _).symm
    | some old => exact reads value rfl old

namespace Entries

/-- Laid over entries or over nothing, new keys follow the known ones. -/
theorem keys_laidOn_keywise {top : Entries α} (distinct : top.keys.Nodup)
    (base : Option (Entries α)) :
    (laidOn (keywise lay) base top).keys =
      (base.getD []).keys ++ top.keys.filter (· ∉ (base.getD []).keys) := by
  cases base with
  | none =>
    have all : top.keys.filter (· ∉ ([] : List String)) = top.keys :=
      List.filter_eq_self.mpr fun key _ => by simp
    exact all.symm
  | some old => exact keys_keywise distinct old

/-- Where nothing is repeated, nothing is dropped as a repetition. -/
theorem eraseDups_of_nodup {names : List String} (distinct : names.Nodup) :
    names.eraseDups = names := by
  induction names with
  | nil => rfl
  | cons name rest ih =>
    obtain ⟨fresh, distinct⟩ := List.nodup_cons.mp distinct
    have apart : rest.filter (fun other => !other == name) = rest := by
      refine List.filter_eq_self.mpr fun other listed => ?_
      have different : other ≠ name := fun same => fresh (same ▸ listed)
      simpa using different
    rw [List.eraseDups_cons, apart, ih distinct]

/-- The keys that layers of entries leave are those of the layers, in the order in which they come
up first. -/
theorem keys_stacked_keywise {layers : List (Entries α)}
    (distinct : ∀ layer ∈ layers, layer.keys.Nodup) :
    ((stacked (keywise lay) layers).getD []).keys = (layers.flatMap keys).eraseDups := by
  induction layers using List.reverseRecOn with
  | nil => rfl
  | append_singleton layers top ih =>
    have own : top.keys.Nodup := distinct top (List.mem_append_right _ List.mem_cons_self)
    have before := ih fun layer listed => distinct layer (List.mem_append_left _ listed)
    have fresh : top.keys.filter (· ∉ (layers.flatMap keys).eraseDups) =
        (top.keys.removeAll (layers.flatMap keys)).eraseDups := by
      have kept : top.keys.removeAll (layers.flatMap keys) =
          top.keys.filter (· ∉ (layers.flatMap keys).eraseDups) := by
        refine List.filter_congr fun key _ => ?_
        simp only [List.elem_eq_mem, List.mem_eraseDups, decide_not]
      rw [kept]
      exact (eraseDups_of_nodup (own.filter _)).symm
    rw [stacked_append_singleton, Option.getD_some, keys_laidOn_keywise own, before, fresh,
      List.flatMap_append, List.eraseDups_append, List.flatMap_singleton]

end Entries

end ApiMock
