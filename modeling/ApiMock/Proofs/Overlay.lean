import ApiMock.Proofs.Entries
/-!
# Laying one thing over another

A merge lays a value over another one. This extends to optional values, to lists place by place and
to ordered entries key by key: where only one side has a value it stands, and where both have one
they merge. So a place of two lists or a key of two maps is read as one optional value over another
(`getElem?_itemwise`, `Entries.get?_keywise`). A value that changes nothing where it has been laid
already is `Repeatable`, and so are lists and entries of such values.
-/
namespace ApiMock

variable {α : Type}

/-- A value laid over what was there, if anything was. -/
def laidOn (lay : α → α → α) : Option α → α → α
  | some old, value => lay old value
  | none, value => value

/-- An optional value laid over another one. -/
def optionwise (lay : α → α → α) (base : Option α) : Option α → Option α
  | some value => some (laidOn lay base value)
  | none => base

/-- A list laid over another one, place by place. -/
def itemwise (lay : α → α → α) : List α → List α → List α
  | base, [] => base
  | [], top => top
  | old :: base, value :: top => lay old value :: itemwise lay base top

/-- Entries laid over others, key by key. -/
def Entries.keywise (lay : α → α → α) (base top : Entries α) : Entries α :=
  top.foldl (fun entries entry =>
    entries.insert entry.1 (laidOn lay (entries.get? entry.1) entry.2)) base

/-- Laying a value where it has been laid already changes nothing. -/
def Repeatable (lay : α → α → α) (value : α) : Prop :=
  ∀ old?, lay (laidOn lay old? value) value = laidOn lay old? value

variable {lay : α → α → α}

/-- A value that stands as it is over some other one can be laid again if it changes nothing where
it is laid twice in a row. -/
theorem repeatable_of_again {top empty : α} (neutral : lay empty top = top)
    (again : ∀ base, lay (lay base top) top = lay base top) : Repeatable lay top := by
  intro old?
  cases old? with
  | none =>
    have own := again empty
    rwa [neutral] at own
  | some base => exact again base

/-! ### Optional values -/

/-- Over nothing an optional value stands as it is. -/
@[simp]
theorem optionwise_none_left (top : Option α) : optionwise lay none top = top := by
  cases top <;> rfl

/-- An optional value that can be laid again changes nothing then. -/
theorem optionwise_again {top : Option α} (each : ∀ value, top = some value → Repeatable lay value)
    (base : Option α) :
    optionwise lay (optionwise lay base top) top = optionwise lay base top := by
  cases top with
  | none => rfl
  | some value => exact congrArg some (each value rfl base)

/-! ### Lists -/

/-- Over an empty list a list stands as it is. -/
theorem itemwise_nil_left (top : List α) : itemwise lay [] top = top := by
  cases top <;> rfl

/-- At each place there is what one list has there over what the other one has. -/
theorem getElem?_itemwise (base top : List α) (place : Nat) :
    (itemwise lay base top)[place]? = optionwise lay base[place]? top[place]? := by
  induction top generalizing base place with
  | nil =>
    have nothing : ([] : List α)[place]? = none := List.getElem?_nil
    rw [nothing]
    cases base <;> rfl
  | cons value top ih =>
    cases base with
    | nil =>
      have nothing : ([] : List α)[place]? = none := List.getElem?_nil
      rw [itemwise_nil_left, nothing, optionwise_none_left]
    | cons old base =>
      cases place with
      | zero => rfl
      | succ place => exact ih base place

/-- The longer list decides the length. -/
theorem length_itemwise (base top : List α) :
    (itemwise lay base top).length = max base.length top.length := by
  induction top generalizing base with
  | nil =>
    cases base with
    | nil => rfl
    | cons old base => exact (Nat.max_zero _).symm
  | cons value top ih =>
    cases base with
    | nil => exact (Nat.zero_max _).symm
    | cons old base =>
      have rest := ih base
      simp only [itemwise, List.length_cons]
      omega

/-- A list of values that can be laid again can be laid again. -/
theorem repeatable_itemwise {top : List α} (each : ∀ value ∈ top, Repeatable lay value) :
    Repeatable (itemwise lay) top := by
  apply repeatable_of_again (itemwise_nil_left top)
  intro base
  apply List.ext_getElem?
  intro place
  have here : ∀ value, top[place]? = some value → Repeatable lay value :=
    fun value found => each value (List.mem_of_getElem? found)
  rw [getElem?_itemwise, getElem?_itemwise, optionwise_again here]

/-- An optional list of values that can be laid again changes nothing then. -/
theorem optionwise_itemwise_again {top : Option (List α)}
    (each : ∀ value ∈ top.getD [], Repeatable lay value) (base : Option (List α)) :
    optionwise (itemwise lay) (optionwise (itemwise lay) base top) top =
      optionwise (itemwise lay) base top := by
  apply optionwise_again
  rintro values rfl
  exact repeatable_itemwise each

/-! ### Entries -/

namespace Entries

/-- Writing what is there changes nothing. -/
theorem insert_of_get? {entries : Entries α} {key : String} {value : α}
    (found : entries.get? key = some value) : entries.insert key value = entries := by
  induction entries with
  | nil => cases found
  | cons entry rest ih =>
    obtain ⟨k, old⟩ := entry
    rw [get?] at found
    rw [insert]
    by_cases same : k = key
    · rw [if_pos same] at found ⊢
      cases found
      rfl
    · rw [if_neg same] at found ⊢
      rw [ih found]

variable {base top : Entries α}

/-- The first entry is laid before the others. -/
theorem keywise_cons (base : Entries α) (entry : String × α) (rest : Entries α) :
    keywise lay base (entry :: rest) =
      keywise lay (base.insert entry.1 (laidOn lay (base.get? entry.1) entry.2)) rest := rfl

/-- Under each key there is what the one side has there over what the other one has. -/
theorem get?_keywise (distinct : top.keys.Nodup) (base : Entries α) (key : String) :
    (keywise lay base top).get? key = optionwise lay (base.get? key) (top.get? key) := by
  induction top generalizing base with
  | nil => rfl
  | cons entry rest ih =>
    obtain ⟨k, value⟩ := entry
    obtain ⟨fresh, distinct⟩ := List.nodup_cons.mp distinct
    rw [keywise_cons, ih distinct, get?]
    by_cases same : k = key
    · subst same
      rw [get?_eq_none fresh, get?_insert_self, if_pos rfl]
      rfl
    · rw [get?_insert_of_ne _ _ same, if_neg same]

/-- The keys of the base keep their order, and the new ones follow in theirs. -/
theorem keys_keywise (distinct : top.keys.Nodup) (base : Entries α) :
    (keywise lay base top).keys = base.keys ++ top.keys.filter (· ∉ base.keys) := by
  induction top generalizing base with
  | nil => exact (List.append_nil _).symm
  | cons entry rest ih =>
    obtain ⟨k, value⟩ := entry
    obtain ⟨fresh, distinct⟩ := List.nodup_cons.mp distinct
    rw [keywise_cons, ih distinct, keys_insert]
    change _ = base.keys ++ (k :: keys rest).filter (· ∉ base.keys)
    by_cases known : k ∈ base.keys
    · rw [if_pos known, List.filter_cons_of_neg (by simpa using known)]
    · have others : (keys rest).filter (· ∉ base.keys ++ [k]) =
          (keys rest).filter (· ∉ base.keys) := by
        apply List.filter_congr
        intro key listed
        have apart : key ≠ k := fun same => fresh (same ▸ listed)
        simp [apart]
      rw [if_neg known, others, List.filter_cons_of_pos (by simpa using known), List.append_assoc]
      rfl

/-- Entries that are laid where each of them changes nothing change nothing. -/
theorem keywise_eq_self
    (settled : ∀ entry ∈ top, ∃ old, base.get? entry.1 = some old ∧ lay old entry.2 = old) :
    keywise lay base top = base := by
  induction top with
  | nil => rfl
  | cons entry rest ih =>
    obtain ⟨old, found, same⟩ := settled entry List.mem_cons_self
    have unchanged : laidOn lay (base.get? entry.1) entry.2 = old := by
      rw [found]
      exact same
    rw [keywise_cons, unchanged, insert_of_get? found]
    exact ih fun later listed => settled later (List.mem_cons_of_mem _ listed)

/-- Entries with values that can be laid again can be laid again. -/
theorem repeatable_keywise (distinct : top.keys.Nodup)
    (each : ∀ entry ∈ top, Repeatable lay entry.2) : Repeatable (keywise lay) top := by
  intro old?
  apply keywise_eq_self
  intro entry listed
  have own : top.get? entry.1 = some entry.2 := get?_of_mem distinct listed
  cases old? with
  | none => exact ⟨entry.2, own, each entry listed none⟩
  | some base =>
    refine ⟨laidOn lay (base.get? entry.1) entry.2, ?_, each entry listed _⟩
    change (keywise lay base top).get? entry.1 = _
    rw [get?_keywise distinct, own]
    rfl

/-- Optional entries with values that can be laid again change nothing then. -/
theorem optionwise_keywise_again {top : Option (Entries α)} (distinct : (top.getD []).keys.Nodup)
    (each : ∀ entry ∈ top.getD [], Repeatable lay entry.2) (base : Option (Entries α)) :
    optionwise (keywise lay) (optionwise (keywise lay) base top) top =
      optionwise (keywise lay) base top := by
  apply optionwise_again
  rintro entries rfl
  exact repeatable_keywise distinct each

end Entries

end ApiMock
