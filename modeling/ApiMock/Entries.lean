/-!
# Ordered entries

A finite map that keeps the order in which its keys came in, as the list of its entries.
Writing to a key that is present changes its value in place; writing to a new key appends it.
-/
namespace ApiMock

/-- The entries of an ordered map. -/
abbrev Entries (α : Type) := List (String × α)

namespace Entries

variable {α β : Type}

/-- The keys in order. -/
def keys (entries : Entries α) : List String := entries.map Prod.fst

/-- The value of the first entry with a key. -/
def get? : Entries α → String → Option α
  | [], _ => none
  | (k, value) :: rest, key => if k = key then some value else get? rest key

/-- Write a value under a key. -/
def insert : Entries α → String → α → Entries α
  | [], key, value => [(key, value)]
  | (k, old) :: rest, key, value =>
    if k = key then (k, value) :: rest else (k, old) :: insert rest key value

/-- The map that a sequence of writes leaves, the first key first. -/
def ofWrites (writes : List (String × α)) : Entries α :=
  writes.foldl (fun entries write => entries.insert write.1 write.2) []

/-- A written value is read back. -/
@[simp] theorem get?_insert_self (entries : Entries α) (key : String) (value : α) :
    (entries.insert key value).get? key = some value := by
  induction entries with
  | nil => simp [insert, get?]
  | cons entry rest ih =>
    obtain ⟨k, old⟩ := entry
    by_cases same : k = key <;> simp [insert, get?, same, ih]

/-- A write leaves the other keys alone. -/
theorem get?_insert_of_ne (entries : Entries α) {key other : String} (value : α)
    (different : key ≠ other) : (entries.insert key value).get? other = entries.get? other := by
  induction entries with
  | nil => simp [insert, get?, different]
  | cons entry rest ih =>
    obtain ⟨k, old⟩ := entry
    by_cases same : k = key
    · simp [insert, get?, same, different]
    · simp [insert, get?, same, ih]

/-- A write keeps the keys and their order, and appends a new one. -/
theorem keys_insert (entries : Entries α) (key : String) (value : α) :
    (entries.insert key value).keys =
      if key ∈ entries.keys then entries.keys else entries.keys ++ [key] := by
  induction entries with
  | nil => simp [insert, keys]
  | cons entry rest ih =>
    obtain ⟨k, old⟩ := entry
    by_cases same : k = key
    · simp [insert, keys, same]
    · have other : key ≠ k := fun equal => same equal.symm
      simp only [keys] at ih
      simp only [insert, same, if_false, keys, List.map_cons, ih, List.mem_cons, other,
        false_or]
      split <;> simp_all

/-- A key is read exactly when it is among the keys. -/
theorem get?_isSome_iff (entries : Entries α) (key : String) :
    (entries.get? key).isSome ↔ key ∈ entries.keys := by
  induction entries with
  | nil => simp [get?, keys]
  | cons entry rest ih =>
    obtain ⟨k, old⟩ := entry
    by_cases same : k = key
    · simp [get?, keys, same]
    · have other : key ≠ k := fun equal => same equal.symm
      simp only [keys] at ih
      simp [get?, keys, same, other, ih]

end Entries

end ApiMock
