import ApiMock.Proofs.Document.Components
import ApiMock.Proofs.Recursion
import Mathlib.Data.List.Perm.Subperm
/-!
# The chain of open components

Expansion goes on to the definition of a component, which can be larger than the value that refers
to it and can refer to anything. It ends because a component that is opened was closed: the number
of closed components falls, and as long as it does not the value gets smaller. All components on the
chain are distinct and defined wherever the recursion gets to, so that there are never more of them
than the document defines. What is opened within a component is none of those that are open, and
only what is opened is marked. So no mark comes again beneath itself.
-/
namespace ApiMock.Document

/-! ### Calls -/

/-- The calls of the expansion: a value is expanded for the sake of another, each with the
components that are open. -/
inductive Calls (document : Json) : List String × Json → List String × Json → Prop
  /-- The items of an array are expanded. -/
  | item {chain : List String} {items : List Json} {item : Json} (listed : item ∈ items) :
      Calls document (chain, item) (chain, .arr items)
  /-- The members of an object are expanded, unless it is a reference. -/
  | member {chain : List String} {members : List (String × Json)} {key : String} {value : Json}
      (plain : (Json.obj members).reference? = none) (listed : (key, value) ∈ members) :
      Calls document (chain, value) (chain, .obj members)
  /-- The definition of a component that is not open is expanded with the component open. -/
  | opened {chain : List String} {value definition : Json} {pointer name : String}
      (reference : value.reference? = some pointer) (named : schemaName? pointer = some name)
      (closed : name ∉ chain) (defined : component? document name = some definition) :
      Calls document (name :: chain, definition) (chain, value)

/-- One step of the expansion, where `expanded` gives the expansions it calls for. -/
def expandStep (document : Json) (expanded : List String × Json → Json) :
    List String × Json → Json
  | (chain, .arr items) => .arr (items.map fun item => expanded (chain, item))
  | (chain, .obj members) =>
    match (Json.obj members).reference? with
    | none => .obj (members.map fun member => (member.1, expanded (chain, member.2)))
    | some pointer =>
      match schemaName? pointer with
      | none => .obj members
      | some name =>
        if name ∈ chain then .obj members
        else
          match component? document name with
          | none => .obj members
          | some definition => mark name (expanded (name :: chain, definition))
  | (_, value) => value

variable {document : Json}

/-- A step of the expansion looks at the expansions of its calls only. -/
theorem expandStep_congr {first second : List String × Json → Json} {call : List String × Json}
    (same : ∀ inner, Calls document inner call → first inner = second inner) :
    expandStep document first call = expandStep document second call := by
  obtain ⟨chain, value⟩ := call
  cases value with
  | arr items =>
    have each : ∀ item ∈ items, first (chain, item) = second (chain, item) :=
      fun item listed => same _ (.item listed)
    simp only [expandStep, List.map_congr_left each]
  | obj members =>
    simp only [expandStep]
    split
    · rename_i plain
      have each : ∀ member ∈ members,
          (member.1, first (chain, member.2)) = (member.1, second (chain, member.2)) :=
        fun member listed => congrArg _ (same _ (.member plain listed))
      rw [List.map_congr_left each]
    · rename_i pointer reference
      split
      · rfl
      · rename_i name named
        split
        · rfl
        · rename_i closed
          split
          · rfl
          · rename_i definition defined
            rw [same _ (.opened reference named closed defined)]
  | _ => rfl

/-- Expansion carries the step out. -/
theorem expandWithin_eq_expandStep (chain : List String) (value : Json) :
    expandWithin document chain value =
      expandStep document (fun call => expandWithin document call.1 call.2) (chain, value) := by
  rw [expandWithin_eq]
  cases value with
  | arr items =>
    simp only [Json.substitute, Json.substituteItems_eq_map, expandStep, expandWithin_eq]
  | obj members =>
    cases reference : (Json.obj members).reference? with
    | none =>
      simp only [Json.substitute, expandStep, reference, Json.substituteMembers_eq_map,
        expandWithin_eq]
    | some pointer =>
      rw [Json.substitute_of_reference reference]
      simp only [expandStep, reference, opening]
      cases schemaName? pointer with
      | none => rfl
      | some name =>
        simp only [Option.bind_some]
        by_cases closed : name ∈ chain
        · rw [if_pos closed, if_pos closed]
          rfl
        · rw [if_neg closed, if_neg closed]
          cases component? document name <;> rfl
  | _ => rfl

/-! ### Calls come to an end -/

/-- A call opens a closed component, or it leaves the chain as it is and goes on to a part. -/
theorem Calls.decreases {inner outer : List String × Json} (call : Calls document inner outer) :
    Prod.Lex (· < ·) (· < ·) (closedCount document inner.1, sizeOf inner.2)
      (closedCount document outer.1, sizeOf outer.2) := by
  cases call with
  | item listed =>
    refine .right _ ?_
    have smaller := List.sizeOf_lt_of_mem listed
    simp only [Json.arr.sizeOf_spec]
    omega
  | member plain listed =>
    refine .right _ ?_
    have smaller := List.sizeOf_lt_of_mem listed
    simp only [Json.obj.sizeOf_spec, Prod.mk.sizeOf_spec] at *
    omega
  | opened reference named closed defined =>
    exact .left _ _ (closedCount_cons_lt (mem_componentNames_of_component? defined) closed)

/-- Expansion is a recursion whose calls come to an end. -/
theorem recursion_expandWithin (document : Json) :
    Recursion (Calls document) (expandStep document)
      fun call => expandWithin document call.1 call.2 where
  ends := Subrelation.wf Calls.decreases
    (InvImage.wf (fun call : List String × Json => (closedCount document call.1, sizeOf call.2))
      (Prod.lex Nat.lt_wfRel Nat.lt_wfRel).wf)
  reads _ _ _ same := expandStep_congr same
  unfolds call := expandWithin_eq_expandStep call.1 call.2

/-! ### The chain -/

/-- Where expansion starts: at any value with no component open, and at the definition of a
component with the component itself open. -/
inductive Starts (document : Json) : List String × Json → Prop
  /-- A value. -/
  | value (value : Json) : Starts document ([], value)
  /-- A component. -/
  | component {name : String} {definition : Json}
      (listed : (name, definition) ∈ (section? document "schemas").getD []) :
      Starts document ([name], definition)

/-- The components on a chain are distinct and defined. -/
structure Proper (document : Json) (chain : List String) : Prop where
  /-- No component is open twice. -/
  distinct : chain.Nodup
  /-- Every open component is defined. -/
  defined : ∀ name ∈ chain, (component? document name).isSome

/-- The chain of a start is proper. -/
theorem Starts.proper {start : List String × Json} (starts : Starts document start) :
    Proper document start.1 := by
  cases starts with
  | value => exact ⟨List.nodup_nil, nofun⟩
  | @component name definition listed =>
    refine ⟨List.nodup_singleton name, fun other inChain => ?_⟩
    obtain rfl := List.mem_singleton.mp inChain
    unfold component?
    cases found : section? document "schemas" with
    | none => simp [found] at listed
    | some schemas =>
      rw [found, Option.getD_some] at listed
      exact (Entries.get?_isSome_iff schemas other).mpr (Entries.mem_keys_of_mem listed)

/-- A call keeps the chain proper. -/
theorem Calls.proper {inner outer : List String × Json} (call : Calls document inner outer)
    (proper : Proper document outer.1) : Proper document inner.1 := by
  cases call with
  | item => exact proper
  | member => exact proper
  | opened reference named closed defined =>
    refine ⟨List.nodup_cons.mpr ⟨closed, proper.distinct⟩, fun other inChain => ?_⟩
    rcases List.mem_cons.mp inChain with rfl | before
    · exact Option.isSome_of_eq_some defined
    · exact proper.defined other before

/-- Wherever the calls of a start lead, the chain is proper. -/
theorem Starts.proper_of_reached {start state : List String × Json}
    (starts : Starts document start)
    (reached : Relation.ReflTransGen (Calls document) state start) : Proper document state.1 := by
  induction reached using Relation.ReflTransGen.head_induction_on with
  | refl => exact starts.proper
  | head call _ ih => exact call.proper ih

/-- A proper chain is no longer than the list of all schema components. -/
theorem Proper.length_le {chain : List String} (proper : Proper document chain) :
    chain.length ≤ (componentNames document).length := by
  refine (List.subperm_of_subset proper.distinct fun name inChain => ?_).length_le
  obtain ⟨definition, defined⟩ := Option.isSome_iff_exists.mp (proper.defined name inChain)
  exact mem_componentNames_of_component? defined

/-! ### Marks -/

/-- The marks of a value name closed components, and none of them comes again beneath itself. -/
structure MarkedApart (chain : List String) (value : Json) : Prop where
  /-- What is marked is marked with the name of a closed component. -/
  closed : ∀ place marker, Json.Within value place → place.get? markerKey = some marker →
    ∃ name, name ∉ chain ∧ marker = .str name
  /-- A mark does not come again beneath itself. -/
  apart : ∀ outer inner marker, Json.Within value outer → outer.get? markerKey = some marker →
    Json.Beneath outer inner → inner.get? markerKey ≠ some marker

variable {chain : List String} {value : Json}

/-- The mark of a marked value, if there is one, is the written one. -/
theorem eq_of_get?_mark {name : String} {marker : Json}
    (marked : (mark name value).get? markerKey = some marker) : marker = .str name := by
  cases value with
  | obj members =>
    have written : (mark name (.obj members)).get? markerKey = some (.str name) :=
      Entries.get?_insert_self members markerKey (.str name)
    exact Option.some.inj (marked.symm.trans written)
  | _ => cases marked

/-- What is in a value that was marked is the value itself, the mark, or was beneath it before. -/
theorem within_mark_cases {name : String} {place : Json}
    (within : Json.Within (mark name value) place) :
    place = mark name value ∨ place = .str name ∨ Json.Beneath value place := by
  rcases Json.within_iff.mp within with itself | beneath
  · exact .inl itself
  · exact .inr (Json.beneath_setMember beneath).symm

/-- A component is marked after it was open: the marks of the value are still apart then, and of
components that were closed before. -/
theorem MarkedApart.mark {name : String} (closed : name ∉ chain)
    (apart : MarkedApart (name :: chain) value) : MarkedApart chain (mark name value) := by
  have inside : ∀ {place : Json}, Json.Beneath value place → Json.Within value place :=
    fun beneath => Json.within_iff.mpr (.inr beneath)
  constructor
  · intro place marker within marked
    rcases within_mark_cases within with rfl | rfl | beneath
    · exact ⟨name, closed, eq_of_get?_mark marked⟩
    · cases marked
    · obtain ⟨other, outside, rfl⟩ := apart.closed place marker (inside beneath) marked
      exact ⟨other, fun inChain => outside (List.mem_cons_of_mem _ inChain), rfl⟩
  · intro outer inner marker within marked beneath again
    rcases within_mark_cases within with rfl | rfl | outerBeneath
    · obtain rfl := eq_of_get?_mark marked
      rcases Json.beneath_setMember beneath with innerBeneath | rfl
      · obtain ⟨other, outside, same⟩ := apart.closed inner _ (inside innerBeneath) again
        cases same
        exact outside List.mem_cons_self
      · cases again
    · cases marked
    · exact apart.apart outer inner marker (inside outerBeneath) marked beneath again

/-- What is marked after a substitution is in a replacement, if nothing was marked before. -/
theorem exists_replacement_of_marked {replacement : String → Option Json} {place marker : Json}
    (unmarked : value.LacksKey markerKey)
    (within : Json.Within (value.substitute replacement) place)
    (marked : place.get? markerKey = some marker) :
    ∃ pointer other, replacement pointer = some other ∧ Json.Within other place := by
  induction value using Json.induction with
  | arr items ih =>
    rw [Json.substitute, Json.substituteItems_eq_map] at within
    cases within with
    | root => cases marked
    | item listed inner =>
      obtain ⟨item, before, rfl⟩ := List.mem_map.mp listed
      exact ih item before (unmarked.within (.item before (.root _))) inner
  | obj members ih =>
    cases plain : (Json.obj members).reference? with
    | some pointer =>
      rw [Json.substitute_of_reference plain] at within
      cases replaced : replacement pointer with
      | some other =>
        rw [replaced] at within
        exact ⟨pointer, other, replaced, within⟩
      | none =>
        rw [replaced] at within
        cases (unmarked place within).symm.trans marked
    | none =>
      simp only [Json.substitute, plain] at within
      cases within with
      | root =>
        have kept : (Json.obj (Json.substituteMembers replacement members)).get? markerKey =
            ((Json.obj members).get? markerKey).map (Json.substitute replacement) :=
          Json.get?_substituteMembers members markerKey
        rw [unmarked _ (.root _)] at kept
        cases kept.symm.trans marked
      | member listed inner =>
        rw [Json.substituteMembers_eq_map] at listed
        obtain ⟨⟨key, member⟩, before, equal⟩ := List.mem_map.mp listed
        cases equal
        exact ih _ before (unmarked.within (.member before (.root _))) inner
  | _ =>
    cases within
    cases marked

/-- The marks of an expansion are apart, if neither the document nor the value is marked. -/
theorem markedApart_expandWithin (unmarked : document.LacksKey markerKey)
    (bare : value.LacksKey markerKey) :
    MarkedApart chain (expandWithin document chain value) := by
  induction chain, value using expandWithin.induct document with
  | case1 chain value ih =>
    have opened : ∀ {place marker : Json},
        Json.Within (expandWithin document chain value) place →
          place.get? markerKey = some marker →
            ∃ opened, MarkedApart chain opened ∧ Json.Within opened place := by
      intro place marker within marked
      rw [expandWithin_eq] at within
      obtain ⟨pointer, other, opening, inside⟩ :=
        exists_replacement_of_marked bare within marked
      obtain ⟨name, definition, named, closed, defined, rfl⟩ := closed_of_opening opening
      have lacking : definition.LacksKey markerKey :=
        unmarked.within (within_of_component? defined)
      exact ⟨_, (ih name closed definition defined lacking).mark closed, inside⟩
    constructor
    · intro place marker within marked
      obtain ⟨whole, apart, inside⟩ := opened within marked
      exact apart.closed place marker inside marked
    · intro outer inner marker within marked
      obtain ⟨whole, apart, inside⟩ := opened within marked
      exact apart.apart outer inner marker inside marked

/-- Expansion comes to an end on every document and every value, however its components refer to
each other: the open components are distinct and defined wherever it gets to, so that there are
never more of them than components. If nothing carries a mark before, no node of the result lies
beneath another one with the same mark. -/
theorem expansion_ends (document : Json) :
    Recursion (Calls document) (expandStep document)
        (fun call => expandWithin document call.1 call.2) ∧
      (∀ start state, Starts document start →
        Relation.ReflTransGen (Calls document) state start →
          state.1.Nodup ∧ (∀ name ∈ state.1, (component? document name).isSome) ∧
            state.1.length ≤ (componentNames document).length) ∧
      ∀ start, Starts document start → document.LacksKey markerKey →
        start.2.LacksKey markerKey → ∀ outer inner marker,
          Json.Within (expandWithin document start.1 start.2) outer → Json.Beneath outer inner →
            outer.get? markerKey = some marker → inner.get? markerKey ≠ some marker := by
  refine ⟨recursion_expandWithin document, ?_, ?_⟩
  · intro start state starts reached
    have proper : Proper document state.1 := starts.proper_of_reached reached
    exact ⟨proper.distinct, proper.defined, proper.length_le⟩
  · intro start _ unmarked bare outer inner marker within beneath marked
    have apart : MarkedApart start.1 (expandWithin document start.1 start.2) :=
      markedApart_expandWithin unmarked bare
    exact apart.apart outer inner marker within marked beneath

/-- The definition of one of two components that refer to each other: under a key it refers to the
other. -/
def twinDefinition (key other : String) : Json := .obj [(key, reference other)]

/-- A document with two components that refer to each other, and one that is an alias of itself. -/
def twinDocument : Json :=
  .obj [("components", .obj [("schemas", .obj [("Left", twinDefinition "right" "Right"),
    ("Right", twinDefinition "left" "Left"), ("Self", reference "Self")])])]

/-- A reference to one of two components that refer to each other has both of them open when it
comes to the second, and the mark of the first is not on what is within. -/
theorem expansion_ends_twinDocument :
    let start : List String × Json := ([], reference "Left")
    let state : List String × Json := (["Right", "Left"], twinDefinition "left" "Left")
    let inner := mark "Right" (expandWithin twinDocument state.1 state.2)
    let outer := expandWithin twinDocument start.1 start.2
    Starts twinDocument start ∧ Relation.ReflTransGen (Calls twinDocument) state start ∧
      state.1.length ≤ (componentNames twinDocument).length ∧
      twinDocument.LacksKey markerKey ∧ start.2.LacksKey markerKey ∧ Json.Beneath outer inner ∧
      outer.get? markerKey = some (.str "Left") ∧ inner.get? markerKey ≠ some (.str "Left") := by
  intro start state inner outer
  have left : component? twinDocument "Left" = some (twinDefinition "right" "Right") := rfl
  have right : component? twinDocument "Right" = some (twinDefinition "left" "Left") := rfl
  have starts : Starts twinDocument start := .value _
  have reached : Relation.ReflTransGen (Calls twinDocument) state start := by
    have first : Calls twinDocument (["Left"], twinDefinition "right" "Right") start :=
      .opened rfl (schemaName?_eq_some_iff.mpr rfl) List.not_mem_nil left
    have second : Calls twinDocument (["Left"], reference "Right")
        (["Left"], twinDefinition "right" "Right") := .member rfl List.mem_cons_self
    have third : Calls twinDocument state (["Left"], reference "Right") :=
      .opened rfl (schemaName?_eq_some_iff.mpr rfl) (by decide) right
    exact ((Relation.ReflTransGen.single third).tail second).tail first
  have unmarked : twinDocument.LacksKey markerKey := by
    simp [twinDocument, twinDefinition, reference, Json.lacksKey_obj_iff, Json.lacksKey_str,
      Entries.keys, markerKey]
  have bare : start.2.LacksKey markerKey := by
    simp [start, reference, Json.lacksKey_obj_iff, Json.lacksKey_str, Entries.keys, markerKey]
  have whole : outer = .obj [("right", inner), (markerKey, .str "Left")] := by
    have other : expandWithin twinDocument ["Left"] (reference "Right") = inner :=
      expandWithin_reference (by decide) right
    have body : expandWithin twinDocument ["Left"] (twinDefinition "right" "Right") =
        .obj [("right", expandWithin twinDocument ["Left"] (reference "Right"))] :=
      expandWithin_eq_expandStep _ _
    change expandWithin twinDocument [] (reference "Left") = _
    rw [expandWithin_reference List.not_mem_nil left, body, other]
    rfl
  have beneath : Json.Beneath outer inner := whole ▸ .member List.mem_cons_self (.root _)
  have marked : outer.get? markerKey = some (.str "Left") := by
    rw [whole]
    rfl
  obtain ⟨-, chains, apart⟩ := expansion_ends twinDocument
  exact ⟨starts, reached, (chains start state starts reached).2.2, unmarked, bare, beneath, marked,
    apart start starts unmarked bare outer inner _ (.root _) beneath marked⟩

end ApiMock.Document
