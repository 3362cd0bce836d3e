import ApiMock.Entries
import Mathlib.Data.List.Induction
import Mathlib.Data.List.Nodup
/-!
# Laws of ordered entries

What reading, listing and writing entries have to do with each other. The entries that a sequence
of writes leaves have the written keys in the order of their first writes, each with the value of
its last write.
-/
namespace ApiMock.Entries

variable {α β : Type}

/-- What is read under a key is among the entries. -/
theorem mem_of_get? {entries : Entries α} {key : String} {value : α}
    (found : entries.get? key = some value) : (key, value) ∈ entries := by
  induction entries with
  | nil => simp [get?] at found
  | cons entry rest ih =>
    obtain ⟨k, first⟩ := entry
    simp only [get?] at found
    split at found
    · rename_i same
      cases found
      exact same ▸ List.mem_cons_self
    · exact List.mem_cons_of_mem _ (ih found)

/-- The key of an entry is among the keys. -/
theorem mem_keys_of_mem {entries : Entries α} {key : String} {value : α}
    (member : (key, value) ∈ entries) : key ∈ entries.keys :=
  List.mem_map.mpr ⟨(key, value), member, rfl⟩

/-- Nothing is read under what is no key. -/
theorem get?_eq_none {entries : Entries α} {key : String} (absent : key ∉ entries.keys) :
    entries.get? key = none := by
  rw [← Option.not_isSome_iff_eq_none, get?_isSome_iff]
  exact absent

/-- Where no key is repeated, every entry is read under its key. -/
theorem get?_of_mem {entries : Entries α} (distinct : entries.keys.Nodup) {key : String}
    {value : α} (member : (key, value) ∈ entries) : entries.get? key = some value := by
  induction entries with
  | nil => simp at member
  | cons entry rest ih =>
    obtain ⟨k, first⟩ := entry
    obtain ⟨fresh, distinct⟩ := List.nodup_cons.mp distinct
    simp only [get?]
    rcases List.mem_cons.mp member with equal | later
    · cases equal
      simp
    · have other : k ≠ key := fun same => fresh (same ▸ mem_keys_of_mem later)
      rw [if_neg other]
      exact ih distinct later

/-- Changing values under their keys changes what is read under a key. -/
theorem get?_map (entries : Entries α) (change : String → α → β) (key : String) :
    get? (entries.map fun entry => (entry.1, change entry.1 entry.2)) key =
      (entries.get? key).map (change key) := by
  induction entries with
  | nil => rfl
  | cons entry rest ih =>
    obtain ⟨k, value⟩ := entry
    rw [List.map_cons, get?, get?]
    by_cases same : k = key
    · rw [if_pos same, if_pos same, same, Option.map_some]
    · rw [if_neg same, if_neg same, ih]

/-- Changing values under their keys keeps the keys. -/
theorem keys_map (entries : Entries α) (change : String → α → β) :
    keys (entries.map fun entry => (entry.1, change entry.1 entry.2)) = entries.keys := by
  rw [keys, List.map_map]
  rfl

/-- Where no key is repeated, the order of the entries does not matter for reading. -/
theorem get?_reverse {entries : Entries α} (distinct : entries.keys.Nodup) (key : String) :
    Entries.get? entries.reverse key = entries.get? key := by
  have reversed : (Entries.keys entries.reverse).Nodup := by
    rw [keys, List.map_reverse]
    exact List.nodup_reverse.mpr distinct
  cases found : entries.get? key with
  | some value => exact get?_of_mem reversed (List.mem_reverse.mpr (mem_of_get? found))
  | none =>
    cases backwards : Entries.get? entries.reverse key with
    | none => rfl
    | some value =>
      have member := List.mem_reverse.mp (mem_of_get? backwards)
      rw [get?_of_mem distinct member] at found
      cases found

/-- The keys after writing are the keys before and the one written. -/
theorem mem_keys_insert {entries : Entries α} {key other : String} {value : α} :
    other ∈ (entries.insert key value).keys ↔ other = key ∨ other ∈ entries.keys := by
  rw [keys_insert]
  split <;> simp_all [or_comm]

/-- An entry after writing is the written one or was there before. -/
theorem mem_insert {entries : Entries α} {key : String} {value : α} {entry : String × α}
    (member : entry ∈ entries.insert key value) : entry = (key, value) ∨ entry ∈ entries := by
  induction entries with
  | nil => exact .inl (List.mem_singleton.mp member)
  | cons first rest ih =>
    obtain ⟨k, old⟩ := first
    simp only [insert] at member
    split at member
    · rename_i same
      rcases List.mem_cons.mp member with rfl | later
      · exact .inl (same ▸ rfl)
      · exact .inr (List.mem_cons_of_mem _ later)
    · rcases List.mem_cons.mp member with rfl | later
      · exact .inr List.mem_cons_self
      · exact (ih later).imp id (List.mem_cons_of_mem _)

/-- An entry that was there is there after writing, unless it is the one that is overwritten. -/
theorem mem_insert_of_mem {entries : Entries α} {k : String} {old : α} (key : String) (value : α)
    (member : (k, old) ∈ entries) :
    (k, old) ∈ entries.insert key value ∨ (k = key ∧ entries.get? key = some old) := by
  induction entries with
  | nil => cases member
  | cons first rest ih =>
    obtain ⟨k', other⟩ := first
    simp only [insert, get?]
    by_cases same : k' = key
    · rw [if_pos same, if_pos same]
      rcases List.mem_cons.mp member with equal | later
      · cases equal
        exact .inr ⟨same, rfl⟩
      · exact .inl (List.mem_cons_of_mem _ later)
    · rw [if_neg same, if_neg same]
      rcases List.mem_cons.mp member with equal | later
      · exact .inl (equal ▸ List.mem_cons_self)
      · exact (ih later).imp (List.mem_cons_of_mem _) id

/-- One more write comes after all others. -/
theorem ofWrites_append (writes : List (String × α)) (key : String) (value : α) :
    ofWrites (writes ++ [(key, value)]) = (ofWrites writes).insert key value := by
  simp [ofWrites, List.foldl_append]

/-- The keys that writes leave are the written ones, in the order of their first writes. -/
theorem keys_ofWrites (writes : List (String × α)) :
    (ofWrites writes).keys = (writes.map Prod.fst).eraseDups := by
  induction writes using List.reverseRecOn with
  | nil => rfl
  | append_singleton writes write ih =>
    obtain ⟨key, value⟩ := write
    rw [ofWrites_append, keys_insert, ih, List.map_append, List.eraseDups_append]
    by_cases known : key ∈ writes.map Prod.fst
    · rw [if_pos (List.mem_eraseDups.mpr known)]
      simp [List.removeAll, known]
    · rw [if_neg fun member => known (List.mem_eraseDups.mp member)]
      simp [List.removeAll, known, List.eraseDups_cons]

/-- A write to distinct keys leaves no key twice. -/
theorem nodup_keys_insert {entries : Entries α} (distinct : entries.keys.Nodup) (key : String)
    (value : α) : (entries.insert key value).keys.Nodup := by
  rw [keys_insert]
  split
  · exact distinct
  · rename_i fresh
    exact List.concat_eq_append ▸ distinct.concat fresh

/-- Writes leave no key twice. -/
theorem nodup_keys_ofWrites (writes : List (String × α)) : (ofWrites writes).keys.Nodup := by
  induction writes using List.reverseRecOn with
  | nil => exact List.nodup_nil
  | append_singleton writes write ih =>
    rw [ofWrites_append]
    exact nodup_keys_insert ih write.1 write.2

/-- What is read after writes is the last value written under the key. -/
theorem get?_ofWrites (writes : List (String × α)) (key : String) :
    (ofWrites writes).get? key = Entries.get? writes.reverse key := by
  induction writes using List.reverseRecOn with
  | nil => rfl
  | append_singleton writes write ih =>
    obtain ⟨k, value⟩ := write
    rw [ofWrites_append, List.reverse_append]
    by_cases same : k = key
    · subst same
      simp [get?]
    · rw [get?_insert_of_ne _ _ same, ih]
      simp [get?, same]

/-- The entries that a reading keeps have their keys, in order. -/
theorem keys_filterMap_sublist (entries : Entries α) (read : String → α → Option β) :
    (keys (entries.filterMap fun entry => (read entry.1 entry.2).map (entry.1, ·))).Sublist
      entries.keys := by
  induction entries with
  | nil => exact List.Sublist.refl _
  | cons entry rest ih =>
    obtain ⟨k, value⟩ := entry
    rw [List.filterMap_cons]
    cases read k value with
    | none => exact ih.cons k
    | some _ => exact ih.cons_cons k

/-- Where no key is repeated, what is found after a reading is the reading of what was there. -/
theorem get?_filterMap {entries : Entries α} (distinct : entries.keys.Nodup)
    (read : String → α → Option β) (key : String) :
    get? (entries.filterMap fun entry => (read entry.1 entry.2).map (entry.1, ·)) key =
      (entries.get? key).bind (read key) := by
  induction entries with
  | nil => rfl
  | cons entry rest ih =>
    obtain ⟨k, value⟩ := entry
    obtain ⟨fresh, distinct⟩ := List.nodup_cons.mp distinct
    rw [List.filterMap_cons, get?]
    by_cases same : k = key
    · subst same
      rw [if_pos rfl, Option.bind_some]
      cases found : read k value with
      | some _ => simp [get?]
      | none =>
        exact (ih distinct).trans (by rw [get?_eq_none fresh, Option.bind_none])
    · rw [if_neg same]
      cases read k value with
      | none => exact ih distinct
      | some _ =>
        change get? (_ :: _) key = _
        rw [get?, if_neg same]
        exact ih distinct

/-- What is read of the value under a key is found after a reading. -/
theorem get?_filterMap_of_some {entries : Entries α} (read : String → α → Option β) {key : String}
    {value : α} {result : β} (found : entries.get? key = some value)
    (kept : read key value = some result) :
    get? (entries.filterMap fun entry => (read entry.1 entry.2).map (entry.1, ·)) key =
      some result := by
  induction entries with
  | nil => cases found
  | cons entry rest ih =>
    obtain ⟨k, first⟩ := entry
    rw [get?] at found
    rw [List.filterMap_cons]
    by_cases same : k = key
    · subst same
      rw [if_pos rfl] at found
      cases found
      simp [kept, get?]
    · rw [if_neg same] at found
      cases read k first with
      | none => exact ih found
      | some other =>
        change get? (_ :: _) key = _
        rw [get?, if_neg same]
        exact ih found

/-- Where no key is repeated and only the value under one key counts, it is counted once. -/
theorem countP_flatMap {γ : Type} {entries : Entries α} (distinct : entries.keys.Nodup)
    (listed : String → α → List γ) {key : String} {property : γ → Bool}
    (elsewhere : ∀ other value, other ≠ key → (listed other value).countP property = 0) :
    (entries.flatMap fun entry => listed entry.1 entry.2).countP property =
      ((entries.get? key).map fun value => (listed key value).countP property).getD 0 := by
  induction entries with
  | nil => rfl
  | cons entry rest ih =>
    obtain ⟨k, value⟩ := entry
    obtain ⟨fresh, distinct⟩ := List.nodup_cons.mp distinct
    rw [List.flatMap_cons, List.countP_append, ih distinct, get?]
    by_cases same : k = key
    · subst same
      rw [get?_eq_none fresh, if_pos rfl]
      rfl
    · rw [if_neg same, elsewhere k value same, Nat.zero_add]

end ApiMock.Entries
