import ApiMock.Json.Merge
import ApiMock.Proofs.Json.Position
import ApiMock.Proofs.Overlay
/-!
# Reading merged values

Two values merge where both are objects or both are arrays (`Alike`), and anywhere else the top one
replaces the base. So a step into a merge reads one optional value over another (`step?_merge`), and
a path takes such steps until one side has nothing left or the top one replaces the base. This says
what stands at each path of a merge: what the top has there, or else what the base has, unless the
top ends the way to it (`merging_loses_nothing`).
-/
namespace ApiMock.Json

/-- Both values are objects, or both are arrays. -/
inductive Alike : Json → Json → Prop
  /-- Two objects. -/
  | objects (base top : List (String × Json)) : Alike (obj base) (obj top)
  /-- Two arrays. -/
  | arrays (base top : List Json) : Alike (arr base) (arr top)

/-- Whether a value is null, a truth value, a number or a string. -/
def isScalar : Json → Bool
  | arr _ | obj _ => false
  | _ => true

/-! ### One step -/

/-- Members merge key by key. -/
theorem mergeMembers_eq_keywise (base top : List (String × Json)) :
    mergeMembers base top = Entries.keywise merge base top := by
  induction top generalizing base with
  | nil => rfl
  | cons entry rest ih =>
    obtain ⟨key, value⟩ := entry
    rw [mergeMembers, ih, Entries.keywise_cons]
    cases Entries.get? base key <;> rfl

/-- Items merge place by place. -/
theorem mergeItems_eq_itemwise (base top : List Json) :
    mergeItems base top = itemwise merge base top := by
  induction top generalizing base with
  | nil => cases base <;> rfl
  | cons value rest ih =>
    cases base with
    | nil => rfl
    | cons old base =>
      rw [mergeItems, itemwise, ih]

/-- Laying an object lays its members over those of what was there. -/
theorem laidOn_obj (old? : Option Json) (members : List (String × Json)) :
    laidOn merge old? (obj members) =
      obj (laidOn (Entries.keywise merge) (old?.bind members?) members) := by
  cases old? with
  | none => rfl
  | some old =>
    cases old with
    | obj base => exact congrArg obj (mergeMembers_eq_keywise base members)
    | _ => rfl

/-- Laying an array lays its items over those of what was there. -/
theorem laidOn_arr (old? : Option Json) (items : List Json) :
    laidOn merge old? (arr items) =
      arr (laidOn (itemwise merge) (old?.bind items?) items) := by
  cases old? with
  | none => rfl
  | some old =>
    cases old with
    | arr base => exact congrArg arr (mergeItems_eq_itemwise base items)
    | _ => rfl

/-- A scalar replaces what it is laid on. -/
theorem merge_of_isScalar {top : Json} (scalar : top.isScalar = true) (base : Json) :
    merge base top = top := by
  cases top with
  | obj members => cases scalar
  | arr items => cases scalar
  | _ => rfl

/-- What does not merge with the base replaces it. -/
theorem merge_of_not_alike {base top : Json} (different : ¬ Alike base top) :
    merge base top = top := by
  cases top with
  | obj top =>
    cases base with
    | obj members => exact absurd (.objects members top) different
    | _ => rfl
  | arr top =>
    cases base with
    | arr items => exact absurd (.arrays items top) different
    | _ => rfl
  | _ => rfl

/-- What merges are containers. -/
theorem Alike.isScalar_merge {base top : Json} (alike : Alike base top) :
    (merge base top).isScalar = false := by
  cases alike <;> rfl

/-- Two values merge if the same step leads on in both of them. -/
theorem alike_of_step? {base top under above : Json} {step : Step}
    (left : base.step? step = some under) (right : top.step? step = some above) :
    Alike base top := by
  cases step with
  | key name =>
    cases base with
    | obj members =>
      cases top with
      | obj top => exact .objects members top
      | _ => cases right
    | _ => cases left
  | index position =>
    cases base with
    | arr items =>
      cases top with
      | arr top => exact .arrays items top
      | _ => cases right
    | _ => cases left

/-- A step into what merged leads to what the top has there over what the base has. -/
theorem step?_merge {base top : Json} (alike : Alike base top) (distinct : top.DistinctKeys)
    (step : Step) :
    (merge base top).step? step = optionwise merge (base.step? step) (top.step? step) := by
  cases alike with
  | objects base top =>
    cases step with
    | key name =>
      obtain ⟨keys, -⟩ := distinctKeys_obj_iff.mp distinct
      change Entries.get? (mergeMembers base top) name = _
      rw [mergeMembers_eq_keywise]
      exact Entries.get?_keywise keys base name
    | index position => rfl
  | arrays base top =>
    cases step with
    | key name => rfl
    | index position =>
      change (mergeItems base top)[position]? = _
      rw [mergeItems_eq_itemwise]
      exact getElem?_itemwise base top position

/-- A scalar has no keys. -/
theorem distinctKeys_of_isScalar {value : Json} (scalar : value.isScalar = true) :
    value.DistinctKeys := by
  intro members within
  cases within <;> cases scalar

/-- Laying a value where it has been laid already changes nothing. -/
theorem repeatable_merge {top : Json} (distinct : top.DistinctKeys) : Repeatable merge top := by
  induction top using Json.induction with
  | arr items ih =>
    have each : ∀ item ∈ items, Repeatable merge item :=
      fun item listed => ih item listed (distinctKeys_arr_iff.mp distinct item listed)
    intro old?
    have again := repeatable_itemwise each (old?.bind items?)
    rw [laidOn_arr]
    change arr (mergeItems _ items) = _
    rw [mergeItems_eq_itemwise, again]
  | obj members ih =>
    obtain ⟨keys, values⟩ := distinctKeys_obj_iff.mp distinct
    have each : ∀ member ∈ members, Repeatable merge member.2 :=
      fun member listed => ih member listed (values member listed)
    intro old?
    have again := Entries.repeatable_keywise keys each (old?.bind members?)
    rw [laidOn_obj]
    change obj (mergeMembers _ members) = _
    rw [mergeMembers_eq_keywise, again]
  | _ =>
    intro old?
    cases old? <;> rfl

/-! ### Along a path -/

variable {base top value : Json} {path : List Step}

/-- Where the top value has a scalar, the merge has it. -/
theorem at?_laidOn_of_isScalar (scalar : value.isScalar = true) (distinct : top.DistinctKeys)
    (found : top.at? path = some value) (old? : Option Json) :
    (laidOn merge old? top).at? path = some value := by
  induction path generalizing top old? with
  | nil =>
    obtain rfl : top = value := Option.some.inj found
    cases old? with
    | none => rfl
    | some old => exact congrArg some (merge_of_isScalar scalar old)
  | cons step path ih =>
    cases old? with
    | none => exact found
    | some base =>
      by_cases alike : Alike base top
      · obtain ⟨inner, stepped, onward⟩ := Option.bind_eq_some_iff.mp found
        have merged : (merge base top).step? step =
            some (laidOn merge (base.step? step) inner) := by
          rw [step?_merge alike distinct, stepped]
          rfl
        have below : inner.DistinctKeys := distinct.within (within_of_step? stepped)
        change (merge base top).at? (step :: path) = some value
        rw [at?_cons_of_step? merged]
        exact ih below onward _
      · change (merge base top).at? (step :: path) = some value
        rw [merge_of_not_alike alike]
        exact found

/-- Where both values have something, the merge has the merge of the two. -/
theorem at?_merge_of_both {under above : Json} (distinct : top.DistinctKeys)
    (left : base.at? path = some under) (right : top.at? path = some above) :
    (merge base top).at? path = some (merge under above) := by
  induction path generalizing base top with
  | nil =>
    cases left
    cases right
    rfl
  | cons step path ih =>
    obtain ⟨lower, steppedBase, onwardBase⟩ := Option.bind_eq_some_iff.mp left
    obtain ⟨upper, steppedTop, onwardTop⟩ := Option.bind_eq_some_iff.mp right
    have merged : (merge base top).step? step = some (merge lower upper) := by
      rw [step?_merge (alike_of_step? steppedBase steppedTop) distinct, steppedBase, steppedTop]
      rfl
    have below : upper.DistinctKeys := distinct.within (within_of_step? steppedTop)
    rw [at?_cons_of_step? merged]
    exact ih below onwardBase onwardTop

/-- Where the top value has nothing, the merge has what the base has, if nothing on the way there
was replaced. -/
theorem at?_merge_of_base (distinct : top.DistinctKeys) (held : base.at? path = some value)
    (absent : top.at? path = none)
    (alike : ∀ before above, before <+: path → before ≠ path → top.at? before = some above →
      ∃ under, base.at? before = some under ∧ Alike under above) :
    (merge base top).at? path = some value := by
  induction path generalizing base top with
  | nil => cases absent
  | cons step path ih =>
    have root : Alike base top := by
      obtain ⟨under, found, same⟩ := alike [] top List.nil_prefix (List.cons_ne_nil _ _).symm rfl
      cases found
      exact same
    obtain ⟨lower, stepped, onward⟩ := Option.bind_eq_some_iff.mp held
    have merged := step?_merge root distinct step
    rw [stepped] at merged
    cases steppedTop : top.step? step with
    | none =>
      -- Nothing of the top value is beyond this step, and the base stands from here on.
      rw [steppedTop] at merged
      rw [at?_cons_of_step? merged]
      exact onward
    | some upper =>
      rw [steppedTop] at merged
      have below : upper.DistinctKeys := distinct.within (within_of_step? steppedTop)
      have missing : upper.at? path = none := by
        rwa [at?_cons_of_step? steppedTop] at absent
      rw [at?_cons_of_step? merged]
      refine ih below onward missing fun before outer first proper reached => ?_
      have further := alike (step :: before) outer (List.cons_prefix_cons.mpr ⟨rfl, first⟩)
        (fun same => proper (List.cons.inj same).2)
      rw [at?_cons_of_step? steppedTop, at?_cons_of_step? stepped] at further
      exact further reached

/-- A scalar of a merge is at the same place in the one value or the other. -/
theorem at?_of_at?_merge (scalar : value.isScalar = true) (distinct : top.DistinctKeys)
    (found : (merge base top).at? path = some value) :
    base.at? path = some value ∨ top.at? path = some value := by
  induction path generalizing base top with
  | nil =>
    obtain rfl : merge base top = value := Option.some.inj found
    by_cases alike : Alike base top
    · rw [alike.isScalar_merge] at scalar
      cases scalar
    · exact .inr (congrArg some (merge_of_not_alike alike).symm)
  | cons step path ih =>
    by_cases alike : Alike base top
    · obtain ⟨inner, stepped, onward⟩ := Option.bind_eq_some_iff.mp found
      rw [step?_merge alike distinct] at stepped
      cases upper : top.step? step with
      | none =>
        rw [upper] at stepped
        left
        rw [at?_cons_of_step? stepped]
        exact onward
      | some above =>
        rw [upper] at stepped
        obtain rfl : laidOn merge (base.step? step) above = inner := Option.some.inj stepped
        rw [at?_cons_of_step? upper]
        cases lower : base.step? step with
        | none =>
          rw [lower] at onward
          exact .inr onward
        | some under =>
          rw [lower] at onward
          have below : above.DistinctKeys := distinct.within (within_of_step? upper)
          rw [at?_cons_of_step? lower]
          exact ih below onward
    · rw [merge_of_not_alike alike] at found
      exact .inr found

/-- A merge loses nothing and lets the top value win. At every path the scalars of the top value
stand, and what the base has where the top value has nothing stands too, unless the top value
replaced something on the way there. No scalar comes from elsewhere. Objects that merge have the
keys of the base and after them the new ones of the top, and arrays have the greater length. -/
theorem merging_loses_nothing (distinct : top.DistinctKeys) (base : Json) (path : List Step) :
    (∀ value, value.isScalar = true → top.at? path = some value →
      (merge base top).at? path = some value) ∧
    (∀ value, base.at? path = some value → top.at? path = none →
      (∀ before above, before <+: path → before ≠ path → top.at? before = some above →
        ∃ under, base.at? before = some under ∧ Alike under above) →
      (merge base top).at? path = some value) ∧
    (∀ value, value.isScalar = true → (merge base top).at? path = some value →
      base.at? path = some value ∨ top.at? path = some value) ∧
    (∀ under above, base.at? path = some (obj under) → top.at? path = some (obj above) →
      ∃ members, (merge base top).at? path = some (obj members) ∧
        Entries.keys members =
          Entries.keys under ++ (Entries.keys above).filter (· ∉ Entries.keys under)) ∧
    ∀ under above, base.at? path = some (arr under) → top.at? path = some (arr above) →
      ∃ items, (merge base top).at? path = some (arr items) ∧
        items.length = max under.length above.length := by
  refine ⟨fun value scalar found => at?_laidOn_of_isScalar scalar distinct found (some base),
    fun value held absent alike => at?_merge_of_base distinct held absent alike,
    fun value scalar found => at?_of_at?_merge scalar distinct found, ?_, ?_⟩
  · intro under above left right
    obtain ⟨keys, -⟩ := distinctKeys_obj_iff.mp (distinct.within (within_of_at? right))
    refine ⟨mergeMembers under above, at?_merge_of_both distinct left right, ?_⟩
    rw [mergeMembers_eq_keywise]
    exact Entries.keys_keywise keys under
  · intro under above left right
    refine ⟨mergeItems under above, at?_merge_of_both distinct left right, ?_⟩
    rw [mergeItems_eq_itemwise]
    exact length_itemwise under above

/-- Settings with a list of hosts and with limits. -/
def baseSettings : Json :=
  .obj [("name", .str "base"), ("hosts", .arr [.obj [("port", .num (.integer 80))], .str "b"]),
    ("limits", .obj [("low", .num (.integer 1))])]

/-- Settings that add to the first host and to the names, and take the limits away. -/
def topSettings : Json :=
  .obj [("hosts", .arr [.obj [("secure", .bool true)]]), ("limits", .null),
    ("verbose", .bool false)]

/-- The added settings win where they say something, and leave the port of the first host. -/
theorem merging_loses_nothing_settings :
    topSettings.DistinctKeys ∧
      (merge baseSettings topSettings).at? [.key "limits"] = some .null ∧
      (merge baseSettings topSettings).at? [.key "hosts", .index 0, .key "port"] =
        some (.num (.integer 80)) ∧
      ∃ members, (merge baseSettings topSettings).at? [] = some (.obj members) ∧
        Entries.keys members = ["name", "hosts", "limits", "verbose"] := by
  have distinct : topSettings.DistinctKeys := by
    simp (disch := decide) [topSettings, distinctKeys_obj_iff, distinctKeys_arr_iff, Entries.keys,
      distinctKeys_of_isScalar]
  obtain ⟨wins, -, -, -, -⟩ := merging_loses_nothing distinct baseSettings [.key "limits"]
  obtain ⟨-, stays, -, -, -⟩ :=
    merging_loses_nothing distinct baseSettings [.key "hosts", .index 0, .key "port"]
  obtain ⟨-, -, -, keys, -⟩ := merging_loses_nothing distinct baseSettings []
  refine ⟨distinct, wins .null rfl rfl, stays _ rfl rfl ?_, keys _ _ rfl rfl⟩
  intro before above first proper found
  -- The way to the port passes the settings, the hosts and the first host.
  rcases List.prefix_cons_iff.mp first with rfl | ⟨rest, rfl, second⟩
  · cases found
    exact ⟨_, rfl, .objects _ _⟩
  rcases List.prefix_cons_iff.mp second with rfl | ⟨rest, rfl, third⟩
  · cases found
    exact ⟨_, rfl, .arrays _ _⟩
  rcases List.prefix_cons_iff.mp third with rfl | ⟨rest, rfl, last⟩
  · cases found
    exact ⟨_, rfl, .objects _ _⟩
  · obtain rfl := List.prefix_nil.mp last
    exact absurd rfl proper

end ApiMock.Json
