import ApiMock.Text.Words
import Mathlib.Data.List.Basic
import Mathlib.Tactic.Linarith
/-!
# Letter case within words

The case forms of a letter begin with a letter, although marks may come after it. Read off the tables
this takes one look at each run of characters that change case together, since all of these runs but
one land between two neighbouring gaps in the letters (`LandsAmongLetters`). A character with which one
of its own case forms begins is all of that form. So a text that is its own lower case is so character
by character (`lowerAfter_append_eq_iff`), and likewise for a capital in front
(`capitalize_append_eq_iff`).
-/
namespace ApiMock

namespace Unicode

/-! ### Case forms of letters -/

/-- Whether all code points from one to another are letters, as far as one gapless run of letters
shows it. -/
def landsAmongLetters (low high : Nat) : Bool :=
  alphabeticRuns.any fun run => Nat.ble high run.2.1 && (Nat.ble run.1 low && Nat.beq run.2.2 1)

/-- Capitals of small Greek letters with a rough breathing: between them there are gaps. -/
def roughBreathing : Shift := (0x1F51, 0x1F57, 2, 8)

/-- Whether a run of characters that change case lands among letters. -/
def Shift.landsAmongLetters (shift : Shift) : Bool :=
  Unicode.landsAmongLetters ((shift.1 : Int) + shift.2.2.2).toNat
    ((shift.2.1 : Int) + shift.2.2.2).toNat

/-- All but one of the runs of characters that change case land among letters. -/
theorem landsAmongLetters_of_mem : ∀ shift ∈ lowerShifts ++ upperShifts,
    shift = roughBreathing ∨ shift.landsAmongLetters = true := by
  decide +kernel

/-- A case form of several characters begins with a letter. -/
theorem landsAmongLetters_head : ∀ entry ∈ lowerExpansions ++ upperExpansions,
    ∃ first ∈ entry.2.head?, landsAmongLetters first first = true := by
  decide +kernel

/-- The runs of letters hold no surrogates, and those within ASCII are the capitals and the small
letters. -/
theorem bounds_of_mem_alphabeticRuns : ∀ run ∈ alphabeticRuns,
    (run.2.1 < 0xD800 ∨ 0xDFFF < run.1 ∧ run.2.1 < 0x110000) ∧
      (run = (0x41, 0x5A, 1) ∨ run = (0x61, 0x7A, 1) ∨ 128 ≤ run.1) := by
  decide +kernel

/-- The first character of a capital of several characters is not the capital of a small letter that
begins with the character that it is a capital of. -/
theorem lowercase_head_ne : ∀ entry ∈ upperExpansions, ∀ first ∈ entry.2.head?,
    (lowercase (Char.ofNat first)).head? ≠ some (Char.ofNat entry.1) := by
  decide +kernel

/-- What holds of the first 128 code points holds of the characters of ASCII. -/
theorem forall_isAscii (property : Char → Prop) (table : ∀ code < 128, property (Char.ofNat code))
    {c : Char} (ascii : isAscii c = true) : property c := by
  have found := table c.toNat (by simpa [isAscii] using ascii)
  rwa [Char.ofNat_toNat] at found

/-- What the table lists as a letter is one, also within ASCII. -/
theorem isAlphabetic_of_mem_runs {c : Char} {run : Run} (listed : run ∈ alphabeticRuns)
    (within : run.contains c.toNat = true) : isAlphabetic c = true := by
  rw [isAlphabetic]
  split
  · rename_i ascii
    have small : c.toNat < 128 := by simpa [isAscii] using ascii
    have range : run.1 ≤ c.toNat ∧ c.toNat ≤ run.2.1 := by
      obtain ⟨low, high, step⟩ := run
      simp only [Run.contains, Bool.and_eq_true, decide_eq_true_eq] at within
      exact within.1
    have letter : (0x41 ≤ c.toNat ∧ c.toNat ≤ 0x5A) ∨ (0x61 ≤ c.toNat ∧ c.toNat ≤ 0x7A) := by
      rcases (bounds_of_mem_alphabeticRuns run listed).2 with rfl | rfl | beyond
      · exact .inl range
      · exact .inr range
      · omega
    refine forall_isAscii (fun c => (0x41 ≤ c.toNat ∧ c.toNat ≤ 0x5A) ∨
      (0x61 ≤ c.toNat ∧ c.toNat ≤ 0x7A) → c.isAlpha = true) ?_ ascii letter
    decide
  · exact List.any_eq_true.mpr ⟨run, listed, within⟩

/-- A code point among letters is a letter. -/
theorem isAlphabetic_of_landsAmongLetters {low high code : Nat}
    (lands : landsAmongLetters low high = true) (least : low ≤ code) (most : code ≤ high) :
    isAlphabetic (Char.ofNat code) = true := by
  obtain ⟨⟨first, last, step⟩, listed, covers⟩ := List.any_eq_true.mp lands
  simp only [Bool.and_eq_true, Nat.ble_eq] at covers
  obtain ⟨above, below, gapless⟩ := covers
  obtain rfl : step = 1 := Nat.eq_of_beq_eq_true gapless
  have valid : code.isValidChar := by
    have bounds := (bounds_of_mem_alphabeticRuns _ listed).1
    simp only [Nat.isValidChar] at bounds ⊢
    omega
  have same : (Char.ofNat code).toNat = code := by
    rw [Char.ofNat, dif_pos valid]
    rfl
  refine isAlphabetic_of_mem_runs listed ?_
  rw [same]
  simp only [Run.contains, Nat.mod_one, beq_self_eq_true, Bool.and_true, Bool.and_eq_true,
    decide_eq_true_eq]
  omega

/-- A character that changes case by a run of changes becomes a letter. -/
theorem isAlphabetic_of_shift {shift : Shift} {code : Nat} {c : Char}
    (listed : shift ∈ lowerShifts ++ upperShifts) (changed : shift.apply? code = some c) :
    isAlphabetic c = true := by
  obtain ⟨first, last, step, distance⟩ := shift
  simp only [ Shift.apply?, Option.ite_none_right_eq_some, Option.some.injEq, Run.contains,
    Bool.and_eq_true, decide_eq_true_eq, beq_iff_eq] at changed
  obtain ⟨⟨⟨least, most⟩, member⟩, rfl⟩ := changed
  rcases landsAmongLetters_of_mem _ listed with rough | lands
  · cases rough
    have listed : code = 0x1F51 ∨ code = 0x1F53 ∨ code = 0x1F55 ∨ code = 0x1F57 := by omega
    rcases listed with rfl | rfl | rfl | rfl
    all_goals decide +kernel
  · exact isAlphabetic_of_landsAmongLetters lands (by dsimp only; omega) (by dsimp only; omega)

/-- The case form of a character is what the table of expansions says, one letter, or the character
itself. -/
theorem mapCase_cases (expansions : List (Nat × List Nat)) (shifts : List Shift) (c : Char) :
    (∃ codes, (c.toNat, codes) ∈ expansions ∧
        mapCase expansions shifts c = codes.map Char.ofNat) ∨
      (∃ shift ∈ shifts, ∃ d, shift.apply? c.toNat = some d ∧ mapCase expansions shifts c = [d]) ∨
      mapCase expansions shifts c = [c] := by
  rw [mapCase]
  cases expanded : expansions.lookup c.toNat with
  | some codes =>
    obtain ⟨before, after, rfl, -⟩ := List.lookup_eq_some_iff.mp expanded
    exact .inl ⟨codes, by simp, rfl⟩
  | none =>
    cases changed : shifts.findSome? fun shift => shift.apply? c.toNat with
    | none => exact .inr (.inr rfl)
    | some d =>
      obtain ⟨shift, listed, applied⟩ := List.exists_of_findSome?_eq_some changed
      exact .inr (.inl ⟨shift, listed, d, applied, rfl⟩)

/-- The case form of a character begins with a letter or is the character itself. -/
theorem exists_mapCase_eq {expansions : List (Nat × List Nat)} {shifts : List Shift}
    (expansionsListed : expansions ⊆ lowerExpansions ++ upperExpansions)
    (shiftsListed : shifts ⊆ lowerShifts ++ upperShifts) (c : Char) :
    ∃ first others, mapCase expansions shifts c = first :: others ∧
      (isAlphabetic first = true ∨ first = c) := by
  rcases mapCase_cases expansions shifts c with
    ⟨codes, listed, form⟩ | ⟨shift, listed, d, changed, form⟩ | form
  · obtain ⟨first, head, lands⟩ := landsAmongLetters_head _ (expansionsListed listed)
    obtain ⟨others, rfl⟩ := List.head?_eq_some_iff.mp head
    exact ⟨_, _, form, .inl (isAlphabetic_of_landsAmongLetters lands le_rfl le_rfl)⟩
  · exact ⟨d, [], form, .inl (isAlphabetic_of_shift (shiftsListed listed) changed)⟩
  · exact ⟨c, [], form, .inr rfl⟩

/-- Lower case of ASCII. -/
theorem lowercase_of_isAscii {c : Char} (ascii : isAscii c = true) : lowercase c = [c.toLower] := by
  rw [lowercase, if_pos ascii]

/-- Upper case of ASCII. -/
theorem uppercase_of_isAscii {c : Char} (ascii : isAscii c = true) : uppercase c = [c.toUpper] := by
  rw [uppercase, if_pos ascii]

/-! ### Marks of ASCII -/

/-- A character that is a letter or digit if it is ASCII, and so no mark of ASCII. -/
def IsNameChar (c : Char) : Prop := isAscii c = true → c.isAlphanum = true

instance (c : Char) : Decidable (IsNameChar c) := inferInstanceAs (Decidable (_ → _))

/-- There are no marks of ASCII in case forms of several characters. -/
theorem isNameChar_of_mem_expansions : ∀ entry ∈ lowerExpansions ++ upperExpansions,
    ∀ code ∈ entry.2, IsNameChar (Char.ofNat code) := by
  decide

/-- Letters are no marks of ASCII. -/
theorem isNameChar_of_isAlphabetic {c : Char} (letter : isAlphabetic c = true) : IsNameChar c := by
  intro ascii
  rw [isAlphabetic, if_pos ascii] at letter
  rw [Char.isAlphanum, letter, Bool.true_or]

/-- A case form has no marks of ASCII where there was none. -/
theorem isNameChar_of_mem_mapCase {expansions : List (Nat × List Nat)} {shifts : List Shift}
    (expansionsListed : expansions ⊆ lowerExpansions ++ upperExpansions)
    (shiftsListed : shifts ⊆ lowerShifts ++ upperShifts) {c d : Char} (name : IsNameChar c)
    (within : d ∈ mapCase expansions shifts c) : IsNameChar d := by
  rcases mapCase_cases expansions shifts c with
    ⟨codes, listed, form⟩ | ⟨shift, listed, e, changed, form⟩ | form
  · rw [form] at within
    obtain ⟨code, inner, rfl⟩ := List.mem_map.mp within
    exact isNameChar_of_mem_expansions _ (expansionsListed listed) code inner
  · rw [form, List.mem_singleton] at within
    exact within ▸ isNameChar_of_isAlphabetic (isAlphabetic_of_shift (shiftsListed listed) changed)
  · rw [form, List.mem_singleton] at within
    exact within ▸ name

/-- A letter or digit of ASCII is one in either case. -/
theorem isAlphanum_of_isAscii {c : Char} (ascii : isAscii c = true) (plain : c.isAlphanum = true) :
    c.toLower.isAlphanum = true ∧ c.toUpper.isAlphanum = true := by
  refine forall_isAscii (fun c => c.isAlphanum = true →
    c.toLower.isAlphanum = true ∧ c.toUpper.isAlphanum = true) ?_ ascii plain
  decide

/-- Lower case has no marks of ASCII where there was none. -/
theorem isNameChar_of_mem_lowercase {c d : Char} (name : IsNameChar c) (within : d ∈ lowercase c) :
    IsNameChar d := by
  rw [lowercase] at within
  split at within
  · rename_i ascii
    rw [List.mem_singleton] at within
    exact fun _ => within ▸ (isAlphanum_of_isAscii ascii (name ascii)).1
  · exact isNameChar_of_mem_mapCase (List.subset_append_left _ _)
      (List.subset_append_left lowerShifts upperShifts) name within

/-- Upper case has no marks of ASCII where there was none. -/
theorem isNameChar_of_mem_uppercase {c d : Char} (name : IsNameChar c) (within : d ∈ uppercase c) :
    IsNameChar d := by
  rw [uppercase] at within
  split at within
  · rename_i ascii
    rw [List.mem_singleton] at within
    exact fun _ => within ▸ (isAlphanum_of_isAscii ascii (name ascii)).2
  · exact isNameChar_of_mem_mapCase (List.subset_append_right _ _)
      (List.subset_append_right lowerShifts upperShifts) name within

end Unicode

namespace Text

open Unicode

/-- Letters and digits are what has a kind. -/
theorem isSome_wordKind?_iff {c : Char} :
    (wordKind? c).isSome ↔ c.isDigit = true ∨ isUppercase c = true ∨ isAlphabetic c = true := by
  rw [wordKind?]
  split
  · simp_all
  · split
    · simp_all
    · split <;> simp_all

/-- A letter or digit of ASCII stays one in either case. -/
theorem isSome_wordKind?_of_isAscii {c : Char} (ascii : isAscii c = true)
    (letter : (wordKind? c).isSome) :
    (wordKind? c.toLower).isSome ∧ (wordKind? c.toUpper).isSome := by
  refine forall_isAscii (fun c => (wordKind? c).isSome →
    (wordKind? c.toLower).isSome ∧ (wordKind? c.toUpper).isSome) ?_ ascii letter
  decide

/-- Lower case begins with a letter or digit where there was one. -/
theorem exists_lowercase_eq (c : Char) :
    ∃ small others, lowercase c = small :: others ∧
      ((wordKind? c).isSome → (wordKind? small).isSome) := by
  rw [lowercase]
  split
  · rename_i ascii
    exact ⟨c.toLower, [], rfl, fun letter => (isSome_wordKind?_of_isAscii ascii letter).1⟩
  · obtain ⟨first, others, form, letter⟩ := exists_mapCase_eq (List.subset_append_left _ _)
      (List.subset_append_left lowerShifts upperShifts) c
    refine ⟨first, others, form, fun kind => ?_⟩
    rcases letter with letter | rfl
    · exact isSome_wordKind?_iff.mpr (.inr (.inr letter))
    · exact kind

/-- Upper case begins with a letter or digit where there was one. -/
theorem exists_uppercase_eq (c : Char) :
    ∃ capital others, uppercase c = capital :: others ∧
      ((wordKind? c).isSome → (wordKind? capital).isSome) := by
  rw [uppercase]
  split
  · rename_i ascii
    exact ⟨c.toUpper, [], rfl, fun letter => (isSome_wordKind?_of_isAscii ascii letter).2⟩
  · obtain ⟨first, others, form, letter⟩ := exists_mapCase_eq (List.subset_append_right _ _)
      (List.subset_append_right lowerShifts upperShifts) c
    refine ⟨first, others, form, fun kind => ?_⟩
    rcases letter with letter | rfl
    · exact isSome_wordKind?_iff.mpr (.inr (.inr letter))
    · exact kind

/-- Letters and digits are no marks of ASCII. -/
theorem isNameChar_of_isSome_wordKind? {c : Char} (letter : (wordKind? c).isSome) :
    IsNameChar c := by
  intro ascii
  refine forall_isAscii (fun c => (wordKind? c).isSome → c.isAlphanum = true) ?_ ascii letter
  decide

/-- A text in lower case has no marks of ASCII where there was none. -/
theorem isNameChar_of_mem_lowerAfter {text : List Char} (names : ∀ c ∈ text, IsNameChar c)
    {passed : List Char} {d : Char} (within : d ∈ lowerAfter passed text) : IsNameChar d := by
  induction text generalizing passed with
  | nil => cases within
  | cons c text ih =>
    obtain ⟨name, others⟩ := List.forall_mem_cons.mp names
    rw [lowerAfter, List.mem_append] at within
    rcases within with first | later
    · have sigmas : IsNameChar 'ς' ∧ IsNameChar 'σ' := by decide
      split at first
      · split at first
        · exact List.mem_singleton.mp first ▸ sigmas.1
        · exact List.mem_singleton.mp first ▸ sigmas.2
      · exact isNameChar_of_mem_lowercase name first
    · exact ih others later

/-- A capitalized text has no marks of ASCII where there was none. -/
theorem isNameChar_of_mem_capitalizeChars {text : List Char} (names : ∀ c ∈ text, IsNameChar c)
    {d : Char} (within : d ∈ capitalizeChars text) : IsNameChar d := by
  cases text with
  | nil => cases within
  | cons c text =>
    obtain ⟨name, others⟩ := List.forall_mem_cons.mp names
    rw [capitalizeChars, List.mem_append] at within
    exact within.elim (isNameChar_of_mem_uppercase name) (others d)

/-! ### Texts that are case forms of themselves -/

/-- The capital with a dot is the only character whose lower case has several characters. -/
theorem exists_lowercase_eq_singleton (c : Char) :
    c = Char.ofNat 0x130 ∨ ∃ small, lowercase c = [small] := by
  rw [lowercase]
  split
  · exact .inr ⟨_, rfl⟩
  · rcases mapCase_cases lowerExpansions lowerShifts c with
      ⟨codes, listed, -⟩ | ⟨-, -, d, -, form⟩ | form
    · simp only [lowerExpansions, List.mem_singleton, Prod.mk.injEq] at listed
      rw [← listed.1, Char.ofNat_toNat]
      exact .inl rfl
    · exact .inr ⟨d, form⟩
    · exact .inr ⟨c, form⟩

/-- A character with which its lower case begins is all of its lower case. -/
theorem lowercase_of_head {c : Char} {others : List Char} (own : lowercase c = c :: others) :
    others = [] := by
  rcases exists_lowercase_eq_singleton c with rfl | ⟨small, form⟩
  · have head : (lowercase (Char.ofNat 0x130)).head? = some (Char.ofNat 0x130) := by
      rw [own]
      rfl
    exact absurd head (by decide)
  · rw [form] at own
    exact (List.cons.inj own).2.symm

/-- A character with which the capital of its lower case begins is all of this capital. -/
theorem uppercase_of_head {c small : Char} {others marks : List Char}
    (lower : lowercase c = small :: marks) (own : uppercase small = c :: others) :
    marks = [] ∧ others = [] := by
  constructor
  · rcases exists_lowercase_eq_singleton c with rfl | ⟨_, form⟩
    · have dotless : lowercase (Char.ofNat 0x130) = ['i', Char.ofNat 0x307] := by decide
      rw [dotless] at lower
      obtain ⟨rfl, -⟩ := List.cons.inj lower
      have head : (uppercase 'i').head? = some (Char.ofNat 0x130) := by
        rw [own]
        rfl
      exact absurd head (by decide)
    · rw [form] at lower
      exact (List.cons.inj lower).2.symm
  · rw [uppercase] at own
    split at own
    · exact (List.cons.inj own).2.symm
    · rcases mapCase_cases upperExpansions upperShifts small with
        ⟨codes, listed, form⟩ | ⟨-, -, d, -, form⟩ | form
      · -- A letter whose capital has several characters is the lower case of none of them.
        rw [form] at own
        cases codes with
        | nil => cases own
        | cons first rest =>
          obtain ⟨rfl, -⟩ := List.cons.inj own
          have differs := lowercase_head_ne _ listed first rfl
          rw [lower, Char.ofNat_toNat] at differs
          exact absurd rfl differs
      · rw [form] at own
        exact (List.cons.inj own).2.symm
      · rw [form] at own
        exact (List.cons.inj own).2.symm

/-- The capital sigma has a lower case of its own, whatever the place. -/
theorem lowercase_sigma : lowercase 'Σ' = ['σ'] := by
  decide

/-- A word in lower case begins with the lower case of its first character. -/
theorem lowerChars_cons (c : Char) (rest : List Char) :
    lowerChars (c :: rest) = lowercase c ++ lowerAfter [c] rest := by
  rw [lowerChars, lowerAfter]
  by_cases sigma : c = 'Σ'
  · subst sigma
    rw [lowercase_sigma]
    rfl
  · rw [if_neg sigma]

/-- A text in lower case, and something after it, begins with the text exactly when each character is
its own lower case. -/
theorem lowerAfter_append_eq_iff {passed word more other : List Char} :
    lowerAfter passed word ++ more = word ++ other ↔
      (∀ c ∈ word, lowercase c = [c]) ∧ more = other := by
  induction word generalizing passed with
  | nil => simp [lowerAfter]
  | cons c word ih =>
    rw [List.forall_mem_cons, lowerAfter]
    by_cases sigma : c = 'Σ'
    · subst sigma
      have changed : lowercase 'Σ' ≠ ['Σ'] := by
        rw [lowercase_sigma]
        decide
      simp only [↓reduceIte, changed, false_and, iff_false]
      split <;> simp
    · obtain ⟨small, others, form, -⟩ := exists_lowercase_eq c
      rw [if_neg sigma, form]
      constructor
      · intro same
        obtain ⟨rfl, rest⟩ := List.cons.inj same
        obtain rfl := lowercase_of_head form
        obtain ⟨own, rfl⟩ := ih.mp rest
        exact ⟨⟨rfl, own⟩, rfl⟩
      · rintro ⟨⟨own, word⟩, rfl⟩
        obtain ⟨rfl, rfl⟩ := List.cons.inj own
        exact congrArg (small :: ·) (ih.mpr ⟨word, rfl⟩)

/-- A capitalized word, and something after it, begins with the word exactly when the first character
is the capital of its lower case and each other character is its own lower case. -/
theorem capitalize_append_eq_iff {c : Char} {word more other : List Char} :
    capitalizeChars (lowerChars (c :: word)) ++ more = c :: word ++ other ↔
      (∃ small, lowercase c = [small] ∧ uppercase small = [c]) ∧
        (∀ d ∈ word, lowercase d = [d]) ∧ more = other := by
  obtain ⟨small, marks, lower, -⟩ := exists_lowercase_eq c
  obtain ⟨capital, others, upper, -⟩ := exists_uppercase_eq small
  rw [lowerChars_cons, lower, List.cons_append, capitalizeChars, upper]
  constructor
  · intro same
    obtain ⟨rfl, rest⟩ := List.cons.inj same
    obtain ⟨rfl, rfl⟩ := uppercase_of_head lower upper
    exact ⟨⟨small, rfl, upper⟩, lowerAfter_append_eq_iff.mp rest⟩
  · rintro ⟨⟨own, first, last⟩, rest⟩
    obtain ⟨rfl, rfl⟩ := List.cons.inj first
    rw [upper] at last
    obtain ⟨rfl, rfl⟩ := List.cons.inj last
    exact congrArg (capital :: ·) (lowerAfter_append_eq_iff.mpr rest)

end Text

end ApiMock
