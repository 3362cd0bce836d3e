import ApiMock.Document.Expand
import ApiMock.Proofs.Json.Position
/-!
# Laws of substitution and expansion

What a substitution for references does at a reference, to what is beside references, and to the
references that stand at open positions. The expansion of references is such a substitution: it puts
the marked expansion of its definition in place of a reference to a component that is defined and
not open.
-/
namespace ApiMock

namespace Json

variable {replacement : String → Option Json}

/-- Only objects are references. -/
theorem exists_obj_of_reference {value : Json} {pointer : String}
    (reference : value.reference? = some pointer) : ∃ members, value = obj members := by
  cases value with
  | obj members => exact ⟨members, rfl⟩
  | _ => cases reference

/-- A reference is replaced if there is a replacement. -/
theorem substitute_of_reference {value : Json} {pointer : String}
    (reference : value.reference? = some pointer) :
    value.substitute replacement = (replacement pointer).getD value := by
  obtain ⟨members, rfl⟩ := exists_obj_of_reference reference
  simp only [substitute, reference]

/-- Substitution in items is substitution in each of them. -/
theorem substituteItems_eq_map (items : List Json) :
    substituteItems replacement items = items.map (substitute replacement) := by
  induction items with
  | nil => rfl
  | cons item rest ih => simp [substituteItems, ih]

/-- Substitution in members is substitution in the value of each of them. -/
theorem substituteMembers_eq_map (members : List (String × Json)) :
    substituteMembers replacement members =
      members.map fun member => (member.1, member.2.substitute replacement) := by
  induction members with
  | nil => rfl
  | cons member rest ih => simp [substituteMembers, ih]

/-- What is read after a substitution is the substituted value of what was read before. -/
theorem get?_substituteMembers (members : List (String × Json)) (key : String) :
    Entries.get? (substituteMembers replacement members) key =
      (Entries.get? members key).map (substitute replacement) := by
  rw [substituteMembers_eq_map]
  exact Entries.get?_map members (fun _ => substitute replacement) key

/-- What is no reference keeps its outline. -/
theorem outline_substitute {value : Json} (plain : value.reference? = none) :
    (value.substitute replacement).outline = value.outline := by
  cases value with
  | obj members => simp only [substitute, plain, outline]
  | _ => simp only [substitute, outline]

/-- A step into what is no reference leads to the substituted value of what it led to. -/
theorem step?_substitute {value : Json} (plain : value.reference? = none) (step : Step) :
    (value.substitute replacement).step? step =
      (value.step? step).map (substitute replacement) := by
  cases value with
  | obj members =>
    simp only [substitute, plain]
    cases step with
    | key name => exact get?_substituteMembers members name
    | index position => rfl
  | arr items =>
    cases step with
    | key name => rfl
    | index position => simp [substitute, substituteItems_eq_map, step?, items?]
  | _ => cases step <;> simp [substitute, step?, get?, members?, items?]

/-- A substitution that puts in no strings makes none. -/
theorem noText_substitute
    (noTexts : ∀ pointer value, replacement pointer = some value → NoText value)
    {value : Json} (noText : NoText value) : NoText (value.substitute replacement) := by
  cases reference : value.reference? with
  | none =>
    cases value with
    | obj members => simp only [substitute, reference, NoText, text?]
    | arr items => simp only [substitute, NoText, text?]
    | _ => simpa only [substitute] using noText
  | some pointer =>
    rw [substitute_of_reference reference]
    cases replaced : replacement pointer with
    | none => exact noText
    | some other => exact noTexts pointer other replaced

/-- A substitution that puts in no strings makes no reference of what is none. -/
theorem reference?_substitute
    (noTexts : ∀ pointer value, replacement pointer = some value → NoText value)
    {members : List (String × Json)} (plain : (obj members).reference? = none) :
    (obj (substituteMembers replacement members)).reference? = none := by
  simp only [reference?, getText?, get?, members?, Option.bind_some] at plain ⊢
  rw [get?_substituteMembers]
  cases found : Entries.get? members "$ref" with
  | none => rfl
  | some value =>
    rw [found] at plain
    exact noText_substitute noTexts plain

/-- A reference at an open position of what a reference became is the reference itself, without a
replacement, or in its replacement. -/
theorem mentions_of_substitute_reference {value : Json} {former pointer : String}
    (reference : value.reference? = some former)
    (mentioned : (value.substitute replacement).Mentions pointer) :
    (pointer = former ∧ replacement former = none) ∨
      ∃ other, replacement former = some other ∧ other.Mentions pointer := by
  rw [substitute_of_reference reference] at mentioned
  cases replaced : replacement former with
  | some other =>
    rw [replaced] at mentioned
    exact .inr ⟨other, rfl, mentioned⟩
  | none =>
    rw [replaced] at mentioned
    obtain ⟨place, position, again⟩ := mentioned
    obtain rfl := position.eq_of_reference reference
    exact .inl ⟨Option.some.inj (again.symm.trans reference), rfl⟩

/-- A reference at an open position of a substituted value was there before and has no replacement,
or it is in the replacement of one that was there before. -/
theorem mentions_of_substitute
    (noTexts : ∀ pointer value, replacement pointer = some value → NoText value)
    {value : Json} {pointer : String}
    (mentioned : (value.substitute replacement).Mentions pointer) :
    (value.Mentions pointer ∧ replacement pointer = none) ∨
      ∃ former other, value.Mentions former ∧ replacement former = some other ∧
        other.Mentions pointer := by
  induction value using Json.induction with
  | arr items ih =>
    obtain ⟨place, position, reference⟩ := mentioned
    simp only [substitute, substituteItems_eq_map] at position
    cases position with
    | root => cases reference
    | item listed inner =>
      obtain ⟨item, within, rfl⟩ := List.mem_map.mp listed
      exact (ih item within ⟨place, inner, reference⟩).imp
        (And.imp_left fun before => before.item within)
        fun ⟨former, other, before, rest⟩ => ⟨former, other, before.item within, rest⟩
  | obj members ih =>
    cases plain : (obj members).reference? with
    | some former =>
      have itself : (obj members).Mentions former := ⟨_, .root _, plain⟩
      rcases mentions_of_substitute_reference plain mentioned with
        ⟨rfl, kept⟩ | ⟨other, replaced, inner⟩
      · exact .inl ⟨itself, kept⟩
      · exact .inr ⟨former, other, itself, replaced, inner⟩
    | none =>
      obtain ⟨place, position, reference⟩ := mentioned
      simp only [substitute, plain] at position
      cases position with
      | root => cases (reference?_substitute noTexts plain).symm.trans reference
      | member _ listed inner =>
        rw [substituteMembers_eq_map] at listed
        obtain ⟨⟨key, value⟩, within, equal⟩ := List.mem_map.mp listed
        cases equal
        exact (ih _ within ⟨place, inner, reference⟩).imp
          (And.imp_left fun before => before.member plain within)
          fun ⟨former, other, before, rest⟩ => ⟨former, other, before.member plain within, rest⟩
  | _ =>
    obtain ⟨place, position, reference⟩ := mentioned
    cases position
    cases reference

/-- What stands at an open position is substituted and stays in the value. -/
theorem within_substitute_of_open {value place : Json} (position : Open value place) :
    Within (value.substitute replacement) (place.substitute replacement) := by
  induction position with
  | root value => exact .root _
  | item listed _ ih =>
    rw [substitute, substituteItems_eq_map]
    exact .item (List.mem_map_of_mem listed) ih
  | member plain listed _ ih =>
    simp only [substitute, plain]
    rw [substituteMembers_eq_map]
    exact .member (List.mem_map.mpr ⟨_, listed, rfl⟩) ih

/-- A value stays as it is if nothing is put in place of the references at its open positions. -/
theorem substitute_eq_self {value : Json}
    (kept : ∀ pointer, value.Mentions pointer → replacement pointer = none) :
    value.substitute replacement = value := by
  induction value using Json.induction with
  | arr items ih =>
    have same : ∀ item ∈ items, item.substitute replacement = item := fun item within =>
      ih item within fun pointer mentioned => kept pointer (mentioned.item within)
    rw [substitute, substituteItems_eq_map, List.map_congr_left same, List.map_id']
  | obj members ih =>
    cases plain : (obj members).reference? with
    | some pointer => rw [substitute_of_reference plain, kept pointer ⟨_, .root _, plain⟩]; rfl
    | none =>
      have same : ∀ member ∈ members,
          (member.1, member.2.substitute replacement) = member := fun member within => by
        rw [ih member within fun pointer mentioned => kept pointer (mentioned.member plain within)]
      simp only [substitute, plain]
      rw [substituteMembers_eq_map, List.map_congr_left same, List.map_id']
  | _ => rfl

/-- A substitution repeats no key, if what it puts in repeats none. -/
theorem distinctKeys_substitute
    (putIn : ∀ pointer other, replacement pointer = some other → other.DistinctKeys) {value : Json}
    (distinct : value.DistinctKeys) : (value.substitute replacement).DistinctKeys := by
  induction value using Json.induction with
  | arr items ih =>
    rw [substitute, substituteItems_eq_map, distinctKeys_arr_iff]
    intro item listed
    obtain ⟨before, within, rfl⟩ := List.mem_map.mp listed
    exact ih before within (distinctKeys_arr_iff.mp distinct before within)
  | obj members ih =>
    cases plain : (obj members).reference? with
    | some pointer =>
      rw [substitute_of_reference plain]
      cases replaced : replacement pointer with
      | none => exact distinct
      | some other => exact putIn pointer other replaced
    | none =>
      obtain ⟨own, inner⟩ := distinctKeys_obj_iff.mp distinct
      simp only [substitute, plain]
      rw [substituteMembers_eq_map, distinctKeys_obj_iff]
      refine ⟨?_, fun member listed => ?_⟩
      · rw [Entries.keys_map members fun _ => substitute replacement]
        exact own
      · obtain ⟨before, within, rfl⟩ := List.mem_map.mp listed
        exact ih before within (inner before within)
  | _ => exact distinct

end Json

namespace Document

variable {document : Json} {chain : List String}

/-- A pointer at a defined component resolves to the definition. -/
theorem resolveSchema?_of_component? {definition : Json} {pointer name : String}
    (named : schemaName? pointer = some name)
    (defined : component? document name = some definition) :
    resolveSchema? document pointer = some definition := by
  rw [resolveSchema?, named, Option.bind_some, defined]

/-- A marked definition is a string only where the definition is. -/
theorem noText_mark {name : String} {definition : Json} (noText : definition.NoText) :
    (mark name definition).NoText := by
  cases definition <;> exact noText

/-- What the expansion puts in place of a reference: the marked expansion of the definition, unless
the component is open already. -/
def opening (document : Json) (chain : List String) (pointer : String) : Option Json :=
  (schemaName? pointer).bind fun name =>
    if name ∈ chain then none
    else (component? document name).map fun definition =>
      mark name (expandWithin document (name :: chain) definition)

/-- Expansion is the substitution of openings. -/
theorem expandWithin_eq (value : Json) :
    expandWithin document chain value = value.substitute (opening document chain) := by
  rw [expandWithin]
  congr 1
  funext pointer
  unfold opening
  cases schemaName? pointer with
  | none => rfl
  | some name =>
    simp only [Option.bind_some, dite_eq_ite]
    split
    · rfl
    · split <;> simp_all

/-- A component that is defined and not open is opened. -/
theorem opening_of_closed {definition : Json} {pointer name : String}
    (named : schemaName? pointer = some name) (closed : name ∉ chain)
    (defined : component? document name = some definition) :
    opening document chain pointer =
      some (mark name (expandWithin document (name :: chain) definition)) := by
  simp only [opening, named, Option.bind_some, if_neg closed, defined, Option.map_some]

/-- What is opened is the definition of a component that was not open. -/
theorem closed_of_opening {pointer : String} {opened : Json}
    (opening : opening document chain pointer = some opened) :
    ∃ name definition, schemaName? pointer = some name ∧ name ∉ chain ∧
      component? document name = some definition ∧
      opened = mark name (expandWithin document (name :: chain) definition) := by
  obtain ⟨name, named, rest⟩ := Option.bind_eq_some_iff.mp opening
  by_cases closed : name ∈ chain
  · rw [if_pos closed] at rest
    cases rest
  · rw [if_neg closed] at rest
    obtain ⟨definition, defined, equal⟩ := Option.map_eq_some_iff.mp rest
    exact ⟨name, definition, named, closed, defined, equal.symm⟩

/-- Nothing is opened for a pointer that does not resolve. -/
theorem opening_of_unresolved {pointer : String}
    (unresolved : resolveSchema? document pointer = none) :
    opening document chain pointer = none := by
  cases opened : opening document chain pointer with
  | none => rfl
  | some value =>
    obtain ⟨name, definition, named, _, defined, _⟩ := closed_of_opening opened
    cases unresolved.symm.trans (resolveSchema?_of_component? named defined)

end Document

end ApiMock
