import ApiMock.Document.Reference
import ApiMock.Proofs.Entries
/-!
# Positions in a value

A position of a value is reached by a path of keys and indices. What stands there is compared up to
its outline, which forgets the contents of containers. A position is open if no reference is passed
on the way to it: these are the positions that a substitution for references looks at. The
references of a value are collected from all its positions, open or not.
-/
namespace ApiMock.Json

/-- One step into a container. -/
inductive Step where
  /-- The member under a key of an object. -/
  | key (name : String)
  /-- The item at an index of an array. -/
  | index (position : Nat)
  deriving DecidableEq, Repr

/-- What a step leads to. -/
def step? (value : Json) : Step → Option Json
  | .key name => value.get? name
  | .index position => value.items?.bind fun items => items[position]?

/-- What a path of steps leads to. -/
def at? (value : Json) : List Step → Option Json
  | [] => some value
  | step :: path => (value.step? step).bind fun inner => inner.at? path

/-- A step in front of a path that leads on. -/
theorem at?_cons_of_step? {value inner : Json} {step : Step} (found : value.step? step = some inner)
    (path : List Step) : value.at? (step :: path) = inner.at? path := by
  rw [at?, found, Option.bind_some]

/-- Only an object has something under a key. -/
theorem exists_obj_of_at? {value place : Json} {name : String} {rest : List Step}
    (found : value.at? (.key name :: rest) = some place) : ∃ members, value = obj members := by
  cases value with
  | obj members => exact ⟨members, rfl⟩
  | _ => cases found

/-- Only an array has something at a position. -/
theorem exists_arr_of_at? {value place : Json} {position : Nat} {rest : List Step}
    (found : value.at? (.index position :: rest) = some place) : ∃ items, value = arr items := by
  cases value with
  | arr items => exact ⟨items, rfl⟩
  | _ => cases found

/-- A path in two parts leads on from where its first part leads. -/
theorem at?_append (value : Json) (path rest : List Step) :
    value.at? (path ++ rest) = (value.at? path).bind fun inner => inner.at? rest := by
  induction path generalizing value with
  | nil => rfl
  | cons step path ih =>
    rw [List.cons_append, at?, at?]
    cases value.step? step with
    | none => rfl
    | some inner => exact ih inner

/-- A value without the contents of its container, if it is one. -/
def outline : Json → Json
  | arr _ => arr []
  | obj _ => obj []
  | scalar => scalar

/-- What stands at the open positions of a value: the value itself, and what is reached through
arrays and through objects that are no references. -/
inductive Open : Json → Json → Prop
  /-- The root is open. -/
  | root (value : Json) : Open value value
  /-- What is open in an item is open in its array. -/
  | item {items : List Json} {item place : Json} (listed : item ∈ items) (inner : Open item place) :
      Open (arr items) place
  /-- What is open in a member is open in its object, unless the object is a reference. -/
  | member {members : List (String × Json)} {key : String} {value place : Json}
      (plain : (obj members).reference? = none) (listed : (key, value) ∈ members)
      (inner : Open value place) : Open (obj members) place

/-- A reference with a pointer stands at an open position of a value. -/
def Mentions (value : Json) (pointer : String) : Prop :=
  ∃ place, Open value place ∧ place.reference? = some pointer

/-- What an item mentions, its array does. -/
theorem Mentions.item {items : List Json} {item : Json} {pointer : String}
    (mentioned : item.Mentions pointer) (listed : item ∈ items) : (arr items).Mentions pointer :=
  mentioned.imp fun _ found => ⟨.item listed found.1, found.2⟩

/-- What a member mentions, its object does, unless the object is a reference. -/
theorem Mentions.member {members : List (String × Json)} {key : String} {value : Json}
    {pointer : String} (mentioned : value.Mentions pointer)
    (plain : (obj members).reference? = none) (listed : (key, value) ∈ members) :
    (obj members).Mentions pointer :=
  mentioned.imp fun _ found => ⟨.member plain listed found.1, found.2⟩

/-- The value is no string. -/
def NoText (value : Json) : Prop := value.text? = none

/-- Induction over what a container holds. -/
@[elab_as_elim]
theorem induction {motive : Json → Prop} (null : motive null)
    (bool : ∀ value, motive (bool value)) (num : ∀ value, motive (num value))
    (str : ∀ value, motive (str value))
    (arr : ∀ items, (∀ item ∈ items, motive item) → motive (arr items))
    (obj : ∀ members, (∀ member ∈ members, motive member.2) → motive (obj members)) :
    (value : Json) → motive value
  | .null => null
  | .bool value => bool value
  | .num value => num value
  | .str value => str value
  | .arr items => arr items fun item _ => induction null bool num str arr obj item
  | .obj members => obj members fun member _ => induction null bool num str arr obj member.2
decreasing_by
  all_goals rename_i listed; have smaller := List.sizeOf_lt_of_mem listed
  · simp only [Json.arr.sizeOf_spec]
    omega
  · obtain ⟨key, value⟩ := member
    simp only [Json.obj.sizeOf_spec, Prod.mk.sizeOf_spec] at *
    omega

/-- Nothing within a reference is open but the reference itself. -/
theorem Open.eq_of_reference {value place : Json} {pointer : String} (position : Open value place)
    (reference : value.reference? = some pointer) : place = value := by
  cases position with
  | root => rfl
  | item listed inner => cases reference
  | member plain listed inner =>
    rw [plain] at reference
    cases reference

/-! ### Places beneath references -/

/-- What stands anywhere in a value, beneath references too: the value itself, and what is in the
contents of its container. -/
inductive Within : Json → Json → Prop
  /-- The root is in the value. -/
  | root (value : Json) : Within value value
  /-- What is in an item is in its array. -/
  | item {items : List Json} {item place : Json} (listed : item ∈ items)
      (inner : Within item place) : Within (arr items) place
  /-- What is in a member is in its object. -/
  | member {members : List (String × Json)} {key : String} {value place : Json}
      (listed : (key, value) ∈ members) (inner : Within value place) : Within (obj members) place

/-- What is in a part of a value is in the value. -/
theorem Within.trans {value part place : Json} (outer : Within value part)
    (inner : Within part place) : Within value place := by
  induction outer with
  | root => exact inner
  | item listed _ ih => exact .item listed (ih inner)
  | member listed _ ih => exact .member listed (ih inner)

/-- The value under a key of an object is in it. -/
theorem within_of_get? {value inner : Json} {key : String} (found : value.get? key = some inner) :
    Within value inner := by
  cases value with
  | obj members => exact .member (Entries.mem_of_get? found) (.root inner)
  | _ => cases found

/-- What a step leads to is in the value. -/
theorem within_of_step? {value inner : Json} {step : Step}
    (found : value.step? step = some inner) : Within value inner := by
  cases step with
  | key name => exact within_of_get? found
  | index position =>
    cases value with
    | arr items => exact .item (List.mem_of_getElem? found) (.root inner)
    | _ => cases found

/-- What a path leads to is in the value. -/
theorem within_of_at? {value inner : Json} {path : List Step} (found : value.at? path = some inner) :
    Within value inner := by
  induction path generalizing value with
  | nil =>
    cases found
    exact .root inner
  | cons step path ih =>
    obtain ⟨middle, stepped, onward⟩ := Option.bind_eq_some_iff.mp found
    exact (within_of_step? stepped).trans (ih onward)

/-- What stands beneath the root of a value, at any depth. -/
inductive Beneath : Json → Json → Prop
  /-- What is in an item is beneath its array. -/
  | item {items : List Json} {item place : Json} (listed : item ∈ items)
      (inner : Within item place) : Beneath (arr items) place
  /-- What is in a member is beneath its object. -/
  | member {members : List (String × Json)} {key : String} {value place : Json}
      (listed : (key, value) ∈ members) (inner : Within value place) : Beneath (obj members) place

/-- What is in a value is the value itself or beneath it. -/
theorem within_iff {value place : Json} :
    Within value place ↔ place = value ∨ Beneath value place := by
  constructor
  · intro within
    cases within with
    | root => exact .inl rfl
    | item listed inner => exact .inr (.item listed inner)
    | member listed inner => exact .inr (.member listed inner)
  · rintro (rfl | beneath)
    · exact .root _
    · cases beneath with
      | item listed inner => exact .item listed inner
      | member listed inner => exact .member listed inner

/-- The references of items are those of each of them. -/
theorem referencesOfItems_eq_flatMap (items : List Json) :
    referencesOfItems items = items.flatMap references := by
  induction items with
  | nil => rfl
  | cons item rest ih => simp [referencesOfItems, ih]

/-- The references of members are those of the value of each of them. -/
theorem referencesOfMembers_eq_flatMap (members : List (String × Json)) :
    referencesOfMembers members = members.flatMap fun member => member.2.references := by
  induction members with
  | nil => rfl
  | cons member rest ih => simp [referencesOfMembers, ih]

/-- The references of a value are the pointers of all references anywhere in it. -/
theorem mem_references_iff {value : Json} {pointer : String} :
    pointer ∈ value.references ↔ ∃ place, Within value place ∧ place.reference? = some pointer := by
  constructor
  · intro collected
    induction value using Json.induction with
    | arr items ih =>
      rw [references, referencesOfItems_eq_flatMap] at collected
      obtain ⟨item, listed, inner⟩ := List.mem_flatMap.mp collected
      exact (ih item listed inner).imp fun _ found => ⟨.item listed found.1, found.2⟩
    | obj members ih =>
      rw [references, referencesOfMembers_eq_flatMap] at collected
      rcases List.mem_append.mp collected with itself | deeper
      · exact ⟨_, .root _, Option.mem_toList.mp itself⟩
      · obtain ⟨⟨key, member⟩, listed, inner⟩ := List.mem_flatMap.mp deeper
        exact (ih _ listed inner).imp fun _ found => ⟨.member listed found.1, found.2⟩
    | _ => cases collected
  · rintro ⟨place, within, reference⟩
    induction within with
    | root value =>
      cases value with
      | obj members =>
        rw [references]
        exact List.mem_append_left _ (Option.mem_toList.mpr reference)
      | _ => cases reference
    | item listed _ ih =>
      rw [references, referencesOfItems_eq_flatMap]
      exact List.mem_flatMap.mpr ⟨_, listed, ih reference⟩
    | member listed _ ih =>
      rw [references, referencesOfMembers_eq_flatMap]
      exact List.mem_append_right _ (List.mem_flatMap.mpr ⟨_, listed, ih reference⟩)

/-- The references of a part of a value are among those of the value. -/
theorem references_subset_of_within {value part : Json} (outer : Within value part) :
    part.references ⊆ value.references := by
  intro pointer collected
  obtain ⟨place, inner, reference⟩ := mem_references_iff.mp collected
  exact mem_references_iff.mpr ⟨place, outer.trans inner, reference⟩

/-- No object in a value has a key. -/
def LacksKey (key : String) (value : Json) : Prop :=
  ∀ place, Within value place → place.get? key = none

/-- What is in a value lacks the keys that the value lacks. -/
theorem LacksKey.within {key : String} {value place : Json} (lacking : value.LacksKey key)
    (within : Within value place) : place.LacksKey key :=
  fun _ inner => lacking _ (within.trans inner)

/-- An object lacks a key exactly when it does not have it and its values lack it. -/
theorem lacksKey_obj_iff {key : String} {members : List (String × Json)} :
    (obj members).LacksKey key ↔
      key ∉ Entries.keys members ∧ ∀ member ∈ members, member.2.LacksKey key := by
  have unread : Entries.get? members key = none ↔ key ∉ Entries.keys members := by
    rw [← Entries.get?_isSome_iff, Option.not_isSome_iff_eq_none]
  constructor
  · intro lacking
    have here : (obj members).get? key = none := lacking _ (.root _)
    exact ⟨unread.mp here, fun member listed => lacking.within (.member listed (.root _))⟩
  · rintro ⟨absent, inner⟩ place within
    cases within with
    | root => exact unread.mpr absent
    | member listed within => exact inner _ listed place within

/-- A string lacks all keys. -/
theorem lacksKey_str (key text : String) : (str text).LacksKey key := by
  intro place within
  cases within
  rfl

/-- No object in a value has a key twice. -/
def DistinctKeys (value : Json) : Prop :=
  ∀ members, Within value (obj members) → (Entries.keys members).Nodup

/-- What is in a value has distinct keys if the value has. -/
theorem DistinctKeys.within {value place : Json} (distinct : value.DistinctKeys)
    (within : Within value place) : place.DistinctKeys :=
  fun _ inner => distinct _ (within.trans inner)

/-- An object has distinct keys exactly when its own keys are distinct and its values have distinct
keys. -/
theorem distinctKeys_obj_iff {members : List (String × Json)} :
    (obj members).DistinctKeys ↔
      (Entries.keys members).Nodup ∧ ∀ member ∈ members, member.2.DistinctKeys := by
  constructor
  · intro distinct
    exact ⟨distinct _ (.root _), fun member listed => distinct.within (.member listed (.root _))⟩
  · rintro ⟨own, inner⟩ place within
    cases within with
    | root => exact own
    | member listed within => exact inner _ listed place within

/-- An array has distinct keys exactly when its items have. -/
theorem distinctKeys_arr_iff {items : List Json} :
    (arr items).DistinctKeys ↔ ∀ item ∈ items, item.DistinctKeys := by
  constructor
  · exact fun distinct item listed => distinct.within (.item listed (.root _))
  · intro inner place within
    cases within with
    | item listed within => exact inner _ listed place within

/-- A string has no keys. -/
theorem distinctKeys_str (text : String) : (str text).DistinctKeys := by
  rintro members ⟨⟩

/-- The members of a value with distinct keys have distinct keys, and so have their values. -/
theorem DistinctKeys.members {value : Json} (distinct : value.DistinctKeys) :
    (obj (value.members?.getD [])).DistinctKeys := by
  cases value with
  | obj members => exact distinct
  | _ => exact distinctKeys_obj_iff.mpr ⟨List.nodup_nil, nofun⟩

/-! ### Writing a member -/

/-- A written member does not show in the outline. -/
@[simp] theorem outline_setMember (value : Json) (key : String) (member : Json) :
    (value.setMember key member).outline = value.outline := by
  cases value <;> rfl

/-- Steps to other keys do not notice a written member. -/
theorem step?_setMember {value member : Json} {key : String} {step : Step}
    (other : .key key ≠ step) : (value.setMember key member).step? step = value.step? step := by
  cases value with
  | obj members =>
    cases step with
    | key name =>
      exact Entries.get?_insert_of_ne members member fun same => other (same ▸ rfl)
    | index position => rfl
  | _ => rfl

/-- Paths that avoid the key of a written member lead to the same as before. -/
theorem at?_setMember {value member : Json} {key : String} {path : List Step}
    (avoided : .key key ∉ path) :
    ((value.setMember key member).at? path).map outline = (value.at? path).map outline := by
  cases path with
  | nil => simp [at?]
  | cons step path =>
    rw [at?, at?, step?_setMember fun same => avoided (same ▸ List.mem_cons_self)]

/-- What is beneath a value after a string was written was there before, or it is the string. -/
theorem beneath_setMember {value place : Json} {key text : String}
    (beneath : Beneath (value.setMember key (.str text)) place) :
    Beneath value place ∨ place = .str text := by
  cases value with
  | obj members =>
    cases beneath with
    | member listed inner =>
      rcases Entries.mem_insert listed with equal | old
      · cases equal
        cases inner
        exact .inr rfl
      · exact .inl (.member old inner)
  | _ => exact .inl beneath

/-- A written string repeats no key. -/
theorem DistinctKeys.setMember {value : Json} (distinct : value.DistinctKeys) (key text : String) :
    (value.setMember key (.str text)).DistinctKeys := by
  cases value with
  | obj members =>
    obtain ⟨own, inner⟩ := distinctKeys_obj_iff.mp distinct
    refine distinctKeys_obj_iff.mpr ⟨Entries.nodup_keys_insert own key _, fun member listed => ?_⟩
    rcases Entries.mem_insert listed with rfl | old
    · exact distinctKeys_str text
    · exact inner member old
  | _ => exact distinct

/-- A member under another key does not make a reference of a value, nor of a reference another. -/
theorem reference?_setMember {value member : Json} {key : String} (other : key ≠ "$ref") :
    (value.setMember key member).reference? = value.reference? := by
  have same : (value.setMember key member).get? "$ref" = value.get? "$ref" :=
    step?_setMember fun equal => other (Step.key.inj equal)
  simp only [reference?, getText?, same]

/-- Where nothing but a string is overwritten, a written string loses no references. -/
theorem mem_references_setMember {value : Json} {key text pointer : String} (other : key ≠ "$ref")
    (overwritten : ∀ member, value.get? key = some member → ∃ old, member = .str old)
    (held : pointer ∈ value.references) :
    pointer ∈ (value.setMember key (.str text)).references := by
  obtain ⟨place, within, reference⟩ := mem_references_iff.mp held
  refine mem_references_iff.mpr ?_
  cases within with
  | root => exact ⟨_, .root _, (reference?_setMember other).trans reference⟩
  | item listed inner => exact ⟨place, .item listed inner, reference⟩
  | member listed inner =>
    rcases Entries.mem_insert_of_mem key (.str text) listed with kept | ⟨rfl, read⟩
    · exact ⟨place, .member kept inner, reference⟩
    · obtain ⟨old, rfl⟩ := overwritten _ read
      cases inner
      cases reference

/-- A written string adds no references. -/
theorem mentions_of_setMember {value : Json} {key text pointer : String} (other : key ≠ "$ref")
    (mentioned : (value.setMember key (.str text)).Mentions pointer) : value.Mentions pointer := by
  obtain ⟨place, position, reference⟩ := mentioned
  have kept : (value.setMember key (.str text)).reference? = value.reference? :=
    reference?_setMember other
  cases value with
  | obj members =>
    simp only [setMember] at position kept
    cases position with
    | root => exact ⟨_, .root _, kept ▸ reference⟩
    | member plain listed inner =>
      rcases Entries.mem_insert listed with equal | old
      · cases equal
        cases inner
        cases reference
      · exact ⟨place, .member (kept ▸ plain) old inner, reference⟩
  | _ => exact ⟨place, position, reference⟩

end ApiMock.Json
