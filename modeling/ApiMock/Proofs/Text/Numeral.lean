import ApiMock.Text.Decimal
import Mathlib.Data.List.TakeWhile
/-!
# White space at the ends of a text, and the numerals between it

Trimming cuts a text into white space, what is left and white space again, and what is left neither
starts nor ends with white space. This is the only such cut (`trimChars_append`), so to trim twice
is to trim once. `natBelow?_eq_some_iff` says which texts are numerals, sign and leading zeros
included.
-/
namespace ApiMock.Text

open Unicode (isWhiteSpace)

/-- A text neither starts nor ends with white space. -/
structure IsBare (text : List Char) : Prop where
  /-- The first character is no white space. -/
  first : ∀ c, text.head? = some c → isWhiteSpace c = false
  /-- The last character is no white space. -/
  last : ∀ c, text.getLast? = some c → isWhiteSpace c = false

/-- A text without any white space is bare. -/
theorem isBare_of_forall {text : List Char} (dark : ∀ c ∈ text, isWhiteSpace c = false) :
    IsBare text where
  first c found := dark c (List.mem_of_head? found)
  last c found := dark c (List.mem_of_getLast? found)

/-- What does not start with white space loses none at its start. -/
theorem dropWhile_of_head? {text : List Char}
    (first : ∀ c, text.head? = some c → isWhiteSpace c = false) :
    text.dropWhile isWhiteSpace = text := by
  cases text with
  | nil => rfl
  | cons c rest => exact List.dropWhile_cons_of_neg (by simp [first c rfl])

/-- What is left after dropping white space does not start with any. -/
theorem isWhiteSpace_head?_dropWhile (text : List Char) (c : Char)
    (found : (text.dropWhile isWhiteSpace).head? = some c) : isWhiteSpace c = false := by
  have first := List.head?_dropWhile_not isWhiteSpace text
  rwa [found] at first

/-- White space around a bare text is what trimming drops. -/
theorem trimChars_append {before core after : List Char}
    (leading : ∀ c ∈ before, isWhiteSpace c) (bare : IsBare core)
    (trailing : ∀ c ∈ after, isWhiteSpace c) : trimChars (before ++ core ++ after) = core := by
  have fromEnd : trimEndChars isWhiteSpace (core ++ after) = core := by
    have reversed : ∀ c ∈ after.reverse, isWhiteSpace c :=
      fun c listed => trailing c (List.mem_reverse.mp listed)
    have lastFirst : ∀ c, core.reverse.head? = some c → isWhiteSpace c = false := by
      intro c found
      exact bare.last c (by rwa [List.head?_reverse] at found)
    rw [trimEndChars, List.reverse_append, List.dropWhile_append_of_pos reversed,
      dropWhile_of_head? lastFirst, List.reverse_reverse]
  rw [trimChars, List.append_assoc, List.dropWhile_append_of_pos leading]
  cases core with
  | nil =>
    have nothing : after.dropWhile isWhiteSpace = [] := List.dropWhile_eq_nil_iff.mpr trailing
    rw [List.nil_append, nothing]
    rfl
  | cons c rest =>
    have first : isWhiteSpace c = false := bare.first c rfl
    rw [List.cons_append, List.dropWhile_cons_of_neg (by simp [first]), ← List.cons_append, fromEnd]

/-- What is dropped at the end of a text is the last characters that pass the test. -/
theorem trimEndChars_append_takeWhile (test : Char → Bool) (text : List Char) :
    trimEndChars test text ++ (text.reverse.takeWhile test).reverse = text := by
  rw [trimEndChars, ← List.reverse_append, List.takeWhile_append_dropWhile, List.reverse_reverse]

/-- A trimmed text is bare. -/
theorem isBare_trimChars (text : List Char) : IsBare (trimChars text) where
  last c found := by
    rw [trimChars, trimEndChars, List.getLast?_reverse] at found
    exact isWhiteSpace_head?_dropWhile _ c found
  first c found := by
    -- The first character of what is left is the first one after the white space at the start.
    refine isWhiteSpace_head?_dropWhile text c ?_
    rw [← trimEndChars_append_takeWhile isWhiteSpace (text.dropWhile isWhiteSpace),
      List.head?_append, ← trimChars, found]
    rfl

/-- A text is its trimmed text between white space. -/
theorem exists_eq_trimChars (text : List Char) :
    ∃ before after, text = before ++ trimChars text ++ after ∧
      (∀ c ∈ before, isWhiteSpace c) ∧ ∀ c ∈ after, isWhiteSpace c := by
  refine ⟨text.takeWhile isWhiteSpace,
    ((text.dropWhile isWhiteSpace).reverse.takeWhile isWhiteSpace).reverse, ?_, ?_, ?_⟩
  · rw [trimChars, List.append_assoc, trimEndChars_append_takeWhile,
      List.takeWhile_append_dropWhile]
  · exact List.all_eq_true.mp List.all_takeWhile
  · intro c listed
    exact List.all_eq_true.mp List.all_takeWhile c (List.mem_reverse.mp listed)

/-- To trim twice is to trim once. -/
theorem trim_trim (text : String) : trim (trim text) = trim text := by
  have nothing : ∀ c ∈ ([] : List Char), isWhiteSpace c := List.forall_mem_nil _
  have again : trimChars (trimChars text.toList) = trimChars text.toList := by
    have cut := trimChars_append nothing (isBare_trimChars text.toList) nothing
    rwa [List.nil_append, List.append_nil] at cut
  rw [trim, trim, onChars, onChars, String.toList_ofList, again]

/-! ### Numerals -/

/-- Digits, and nothing else, write a natural. -/
theorem digitsNat?_eq_some_iff {text : List Char} {n : Nat} :
    digitsNat? text = some n ↔
      text ≠ [] ∧ (∀ c ∈ text, c.isDigit) ∧ n = ofDigits (text.map digitValue) := by
  unfold digitsNat?
  by_cases vacant : text = []
  · simp [vacant]
  · by_cases digits : text.all Char.isDigit
    · have each : ∀ c ∈ text, c.isDigit := List.all_eq_true.mp digits
      rw [List.isEmpty_eq_false_iff.mpr vacant, digits]
      simp only [Bool.false_eq_true, if_false, if_true, Option.some.injEq]
      exact ⟨fun equal => ⟨vacant, each, equal.symm⟩, fun numeral => numeral.2.2.symm⟩
    · have notEach : ¬ ∀ c ∈ text, c.isDigit := fun each => digits (List.all_eq_true.mpr each)
      simp [vacant, digits, notEach]

/-- A natural is written by its digits, at most a plus sign before them, if it is below the
limit. -/
theorem natBelow?_eq_some_iff {limit : Nat} {text : String} {n : Nat} :
    natBelow? limit text = some n ↔
      ∃ sign digits, text.toList = sign ++ digits ∧ (sign = [] ∨ sign = ['+']) ∧
        digits ≠ [] ∧ (∀ c ∈ digits, c.isDigit) ∧ n = ofDigits (digits.map digitValue) ∧
          n < limit := by
  have read : ∀ digits : List Char, (digitsNat? digits).filter (· < limit) = some n ↔
      digits ≠ [] ∧ (∀ c ∈ digits, c.isDigit) ∧ n = ofDigits (digits.map digitValue) ∧
        n < limit := by
    intro digits
    simp only [Option.filter_eq_some_iff, digitsNat?_eq_some_iff, decide_eq_true_eq, and_assoc]
  unfold natBelow?
  constructor
  · intro found
    split at found
    · rename_i rest signed
      exact ⟨['+'], rest, signed, .inr rfl, (read rest).mp found⟩
    · exact ⟨[], text.toList, rfl, .inl rfl, (read _).mp found⟩
  · rintro ⟨sign, digits, split, rfl | rfl, numeral⟩
    · -- Without a sign the first character is a digit, so it is not taken for a sign.
      rw [split]
      cases digits with
      | nil => exact absurd rfl numeral.1
      | cons c rest =>
        have digit : c.isDigit := numeral.2.1 c List.mem_cons_self
        have noSign : c ≠ '+' := by
          rintro rfl
          exact absurd digit (by decide)
        simpa [noSign] using (read (c :: rest)).mpr numeral
    · rw [split]
      exact (read digits).mpr numeral

end ApiMock.Text
