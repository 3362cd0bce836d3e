import ApiMock.Text.Words
import Mathlib.Data.List.Basic
/-!
# How a text is cut into words

Where a word ends shows at its last character and the text after it (`endsWord`). With this test the
words of a text satisfy one recursion over its characters, and separators need no pieces of their own.
A text begins with a separator or with a word (`LeadingWord`), which gives an induction from word to
word. A text in two parts has the words of both if a word ends between them: what comes later moves no
boundary of the first part, although each boundary depends on the character after it.
-/
namespace ApiMock.Text

/-! ### Where words end -/

/-- ASCII digits are the digits. -/
theorem wordKind?_eq_digit_iff {c : Char} : wordKind? c = some .digit ↔ c.isDigit = true := by
  rw [wordKind?]
  split
  · simp_all
  · rename_i other
    refine iff_of_false ?_ other
    split
    · nofun
    · split <;> nofun

/-- Whether a word ends with a character, given the text after it: at the end, before a separator and
where the kind of the characters changes. -/
def endsWord (c : Char) : List Char → Bool
  | [] => true
  | d :: rest => (wordKind? d).isNone || wordBreak c d rest

/-- A word ends before a separator. -/
theorem endsWord_of_separator {c d : Char} (separator : wordKind? d = none) (rest : List Char) :
    endsWord c (d :: rest) = true := by
  rw [endsWord, separator]
  rfl

/-- Between two letters or digits the kinds of the characters decide. -/
theorem endsWord_of_kinds {c d : Char} {left right : WordKind} (first : wordKind? c = some left)
    (second : wordKind? d = some right) (rest : List Char) :
    endsWord c (d :: rest) = breaksBetween left right (rest.head?.bind wordKind?) := by
  rw [endsWord, wordBreak, first, second]
  rfl

/-- A break does not depend on what follows, unless it lies between two capitals. -/
theorem breaksBetween_congr {left right : WordKind} {next other : Option WordKind}
    (same : left = .upper → right = .upper → (next = some .lower ↔ other = some .lower)) :
    breaksBetween left right next = breaksBetween left right other := by
  cases left with
  | lower => cases right <;> rfl
  | digit => cases right <;> rfl
  | upper =>
    cases right with
    | lower => rfl
    | digit => rfl
    | upper =>
      show (next == some WordKind.lower) = (other == some WordKind.lower)
      rw [Bool.eq_iff_iff, beq_iff_eq, beq_iff_eq]
      exact same rfl rfl

/-- Within a word the kind stays the same, or small letters follow a capital. -/
theorem kinds_of_not_break {left right : WordKind} {next : Option WordKind}
    (inner : breaksBetween left right next = false) :
    left = right ∨ left = .upper ∧ right = .lower := by
  cases left with
  | upper =>
    cases right with
    | upper => exact .inl rfl
    | lower => exact .inr ⟨rfl, rfl⟩
    | digit => cases inner
  | lower =>
    cases right with
    | lower => exact .inl rfl
    | upper => cases inner
    | digit => cases inner
  | digit =>
    cases right with
    | digit => exact .inl rfl
    | upper => cases inner
    | lower => cases inner

/-! ### The words, character by character -/

/-- A character put in front of the first of several words. -/
def extendFirst (c : Char) : List (List Char) → List (List Char)
  | [] => [[c]]
  | word :: others => (c :: word) :: others

/-- The first piece of a text reaches up to the first separator. -/
theorem exists_pieces_eq (separates : Char → Bool) (text : List Char) :
    ∃ others, pieces separates text = text.takeWhile (fun c => !separates c) :: others := by
  induction text with
  | nil => exact ⟨[], rfl⟩
  | cons c rest ih =>
    obtain ⟨others, cut⟩ := ih
    cases separator : separates c with
    | true => exact ⟨pieces separates rest, by simp [pieces, separator]⟩
    | false => exact ⟨others, by simp [pieces, separator, cut]⟩

/-- A run that is not empty has a word. -/
theorem runWords_ne_nil (c : Char) (rest : List Char) : runWords (c :: rest) ≠ [] := by
  cases rest with
  | nil => simp [runWords]
  | cons d rest =>
    rw [runWords]
    split
    · simp
    · split <;> simp

/-- A text without characters has no words. -/
theorem wordsOf_nil : wordsOf [] = [] := rfl

/-- A separator belongs to no word. -/
theorem wordsOf_separator {c : Char} (separator : wordKind? c = none) (rest : List Char) :
    wordsOf (c :: rest) = wordsOf rest := by
  have cut : pieces (fun d => (wordKind? d).isNone) (c :: rest) =
      [] :: pieces (fun d => (wordKind? d).isNone) rest := by
    rw [pieces, separator]
    rfl
  rw [wordsOf, cut, List.flatMap_cons]
  rfl

/-- A letter or digit is a word of its own or the first character of the next word, depending on
whether a word ends with it. -/
theorem wordsOf_letter {c : Char} (letter : (wordKind? c).isSome) (rest : List Char) :
    wordsOf (c :: rest) =
      if endsWord c rest then [c] :: wordsOf rest else extendFirst c (wordsOf rest) := by
  obtain ⟨others, cut⟩ := exists_pieces_eq (fun d => (wordKind? d).isNone) rest
  have kept : (wordKind? c).isNone = false := by simpa using letter
  have cutMore : pieces (fun d => (wordKind? d).isNone) (c :: rest) =
      (c :: rest.takeWhile fun d => !(wordKind? d).isNone) :: others := by
    rw [pieces, cut]
    simp [kept]
  rw [wordsOf, wordsOf, cut, cutMore, List.flatMap_cons, List.flatMap_cons]
  cases rest with
  | nil => rfl
  | cons d rest =>
    cases second : wordKind? d with
    | none => simp [endsWord, second, runWords]
    | some right =>
      -- Beyond the next character a separator looks the same as the end of the run.
      have ahead : (rest.takeWhile fun e => !(wordKind? e).isNone).head?.bind wordKind? =
          rest.head?.bind wordKind? := by
        cases rest with
        | nil => rfl
        | cons e rest => cases third : wordKind? e <;> simp [third]
      have sameBreak : wordBreak c d (rest.takeWhile fun e => !(wordKind? e).isNone) =
          wordBreak c d rest := by
        rw [wordBreak, wordBreak, ahead]
      have run : (d :: rest).takeWhile (fun e => !(wordKind? e).isNone) =
          d :: rest.takeWhile fun e => !(wordKind? e).isNone := by
        simp [second]
      have ends : endsWord c (d :: rest) = wordBreak c d rest := by simp [endsWord, second]
      rw [run, ends, runWords, sameBreak]
      split
      · rfl
      · cases words : runWords (d :: rest.takeWhile fun e => !(wordKind? e).isNone) with
        | nil => exact absurd words (runWords_ne_nil _ _)
        | cons word later => rfl

/-- The words of a text leave out its separators and nothing else. -/
theorem flatten_wordsOf (text : List Char) :
    (wordsOf text).flatten = text.filter fun c => (wordKind? c).isSome := by
  induction text with
  | nil => rfl
  | cons c rest ih =>
    have joined : (extendFirst c (wordsOf rest)).flatten = c :: (wordsOf rest).flatten := by
      cases wordsOf rest <;> rfl
    by_cases letter : (wordKind? c).isSome
    · rw [wordsOf_letter letter, List.filter_cons_of_pos (p := fun c => (wordKind? c).isSome) letter,
        ← ih]
      split
      · rfl
      · exact joined
    · rw [wordsOf_separator (Option.not_isSome_iff_eq_none.mp letter), ih,
        List.filter_cons_of_neg (p := fun c => (wordKind? c).isSome) letter]

/-- The characters of a word are letters and digits of the text. -/
theorem mem_of_mem_wordsOf {word text : List Char} {c : Char} (listed : word ∈ wordsOf text)
    (within : c ∈ word) : c ∈ text ∧ (wordKind? c).isSome := by
  have joined : c ∈ (wordsOf text).flatten := List.mem_flatten.mpr ⟨word, listed, within⟩
  rw [flatten_wordsOf] at joined
  exact List.mem_filter.mp joined

/-! ### From word to word -/

/-- A text begins with a word: its characters are letters and digits, and the word ends with its last
character and not before. -/
inductive LeadingWord : List Char → List Char → Prop
  /-- A word of one character. -/
  | last {c : Char} {rest : List Char} (letter : (wordKind? c).isSome)
      (ends : endsWord c rest = true) : LeadingWord [c] rest
  /-- A character in front of the word that follows it. -/
  | more {c : Char} {word rest : List Char} (letter : (wordKind? c).isSome)
      (inner : endsWord c (word ++ rest) = false) (leading : LeadingWord word rest) :
      LeadingWord (c :: word) rest

/-- What begins with a letter or digit begins with a word. -/
theorem exists_leadingWord {c : Char} (letter : (wordKind? c).isSome) (text : List Char) :
    ∃ word rest, c :: text = c :: word ++ rest ∧ LeadingWord (c :: word) rest := by
  induction text generalizing c with
  | nil => exact ⟨[], [], rfl, .last letter rfl⟩
  | cons d text ih =>
    cases ends : endsWord c (d :: text) with
    | true => exact ⟨[], d :: text, rfl, .last letter ends⟩
    | false =>
      have second : (wordKind? d).isSome := by
        cases separator : wordKind? d with
        | none => rw [endsWord_of_separator separator] at ends; cases ends
        | some _ => rfl
      obtain ⟨word, rest, same, leading⟩ := ih second
      exact ⟨d :: word, rest, by rw [same]; rfl, .more letter (same ▸ ends) leading⟩

namespace LeadingWord

variable {word rest : List Char}

/-- A word has a character. -/
theorem ne_nil (leading : LeadingWord word rest) : word ≠ [] := by
  cases leading <;> simp

/-- The word that a text begins with is the first of its words. -/
theorem wordsOf_eq (leading : LeadingWord word rest) :
    wordsOf (word ++ rest) = word :: wordsOf rest := by
  induction leading with
  | last letter ends => rw [List.singleton_append, wordsOf_letter letter, if_pos ends]
  | more letter inner leading ih =>
    rw [List.cons_append, wordsOf_letter letter, inner, ih]
    rfl

/-- Digits and letters do not share a word. -/
theorem digits_or_letters (leading : LeadingWord word rest) :
    (∀ c ∈ word, wordKind? c = some .digit) ∨ ∀ c ∈ word, wordKind? c ≠ some .digit := by
  induction leading with
  | @last c rest letter ends =>
    by_cases digit : wordKind? c = some .digit
    · exact .inl (by simpa using digit)
    · exact .inr (by simpa using digit)
  | @more c word rest letter inner leading ih =>
    cases word with
    | nil => exact absurd rfl leading.ne_nil
    | cons d word =>
      obtain ⟨left, first⟩ := Option.isSome_iff_exists.mp letter
      obtain ⟨right, second⟩ : ∃ right, wordKind? d = some right := by
        cases leading with
        | last letter _ => exact Option.isSome_iff_exists.mp letter
        | more letter _ _ => exact Option.isSome_iff_exists.mp letter
      rw [List.cons_append, endsWord_of_kinds first second] at inner
      have alike : left = .digit ↔ right = .digit := by
        rcases kinds_of_not_break inner with rfl | ⟨rfl, rfl⟩
        · rfl
        · decide
      rcases ih with digits | letters
      · have digit : right = .digit := by
          have found := digits d List.mem_cons_self
          rw [second] at found
          exact Option.some.inj found
        refine .inl (List.forall_mem_cons.mpr ⟨?_, digits⟩)
        rw [first, alike.mpr digit]
      · refine .inr (List.forall_mem_cons.mpr ⟨fun digit => ?_, letters⟩)
        rw [first] at digit
        have found : wordKind? d = some .digit := by
          rw [second, alike.mp (Option.some.inj digit)]
        exact letters d List.mem_cons_self found

end LeadingWord

/-- What holds of no text, of a separator before a text of which it holds, and of a word before such a
text, holds of every text. -/
@[elab_as_elim]
theorem word_induction {motive : List Char → Prop} (nil : motive [])
    (separator : ∀ c rest, wordKind? c = none → motive rest → motive (c :: rest))
    (word : ∀ word rest, LeadingWord word rest → motive rest → motive (word ++ rest))
    (text : List Char) : motive text := by
  induction size : text.length using Nat.strongRecOn generalizing text with
  | _ size ih =>
    subst size
    cases text with
    | nil => exact nil
    | cons c text =>
      cases kind : wordKind? c with
      | none => exact separator c text kind (ih _ (by simp) text rfl)
      | some _ =>
        obtain ⟨tail, rest, same, leading⟩ := exists_leadingWord (c := c) (by simp [kind]) text
        have shorter : rest.length < (c :: text).length := by
          rw [same, List.length_append, List.length_cons]
          omega
        rw [same]
        exact word (c :: tail) rest leading (ih _ shorter rest rfl)

/-- A word of a text is the one that some rest of the text begins with. -/
theorem exists_leadingWord_of_mem_wordsOf {word text : List Char} (listed : word ∈ wordsOf text) :
    ∃ rest, LeadingWord word rest := by
  induction text using word_induction with
  | nil => cases listed
  | separator c rest separator ih => exact ih (wordsOf_separator separator rest ▸ listed)
  | word first rest leading ih =>
    rw [leading.wordsOf_eq] at listed
    rcases List.mem_cons.mp listed with rfl | later
    · exact ⟨rest, leading⟩
    · exact ih later

/-- Words have characters. -/
theorem ne_nil_of_mem_wordsOf {word text : List Char} (listed : word ∈ wordsOf text) :
    word ≠ [] := by
  obtain ⟨rest, leading⟩ := exists_leadingWord_of_mem_wordsOf listed
  exact leading.ne_nil

/-- Digits and letters do not share a word. -/
theorem isDigit_of_mem_wordsOf {word text : List Char} (listed : word ∈ wordsOf text) :
    (∀ c ∈ word, wordKind? c = some .digit) ∨ ∀ c ∈ word, wordKind? c ≠ some .digit := by
  obtain ⟨rest, leading⟩ := exists_leadingWord_of_mem_wordsOf listed
  exact leading.digits_or_letters

/-! ### Texts in two parts -/

/-- A word boundary separates two parts of a text: the first is empty, ends in a separator or with a
word. -/
def Parted (before after : List Char) : Prop :=
  ∀ c ∈ before.getLast?, wordKind? c = none ∨ endsWord c after = true

namespace Parted

variable {before rest after : List Char}

/-- Only the end of the first part counts. -/
theorem of_append (first : List Char) (parted : Parted (first ++ rest) after) :
    Parted rest after := by
  intro c last
  refine parted c ?_
  rw [List.getLast?_append, Option.mem_def.mp last]
  rfl

/-- What comes after the boundary does not move the end of a word before it. -/
theorem endsWord_append {c : Char} (parted : Parted (c :: rest) after)
    (letter : (wordKind? c).isSome) : endsWord c (rest ++ after) = endsWord c rest := by
  cases rest with
  | nil =>
    rw [List.nil_append]
    exact (parted c rfl).resolve_left (Option.isSome_iff_ne_none.mp letter)
  | cons d rest =>
    cases rest with
    | cons e rest => rfl
    | nil =>
      cases second : wordKind? d with
      | none => rw [List.cons_append, endsWord_of_separator second, endsWord_of_separator second]
      | some right =>
        obtain ⟨left, first⟩ := Option.isSome_iff_exists.mp letter
        rw [List.cons_append, endsWord_of_kinds first second, endsWord_of_kinds first second]
        refine breaksBetween_congr fun _ upper => ?_
        subst upper
        have ends : endsWord d after = true :=
          (parted d rfl).resolve_left (by simp [second])
        -- A small letter after a capital would belong to its word.
        cases after with
        | nil => rfl
        | cons e after =>
          cases third : wordKind? e with
          | none => simp [third]
          | some next =>
            rw [endsWord_of_kinds second third] at ends
            cases next
            all_goals simp_all [breaksBetween]

/-- A word before the boundary stays the first one. -/
theorem leadingWord {word : List Char} (parted : Parted (word ++ rest) after)
    (leading : LeadingWord word rest) : LeadingWord word (rest ++ after) := by
  induction leading with
  | @last c rest letter ends => exact .last letter ((parted.endsWord_append letter).trans ends)
  | @more c word rest letter inner leading ih =>
    have kept : endsWord c (word ++ rest ++ after) = endsWord c (word ++ rest) :=
      parted.endsWord_append letter
    rw [List.append_assoc, inner] at kept
    exact .more letter kept (ih (parted.of_append [c]))

/-- A text in two parts has the words of both. -/
theorem wordsOf_append (parted : Parted before after) :
    wordsOf (before ++ after) = wordsOf before ++ wordsOf after := by
  induction before using word_induction with
  | nil => rfl
  | separator c rest separator ih =>
    rw [List.cons_append, wordsOf_separator separator, wordsOf_separator separator,
      ih (parted.of_append [c])]
  | word word rest leading ih =>
    rw [List.append_assoc, (parted.leadingWord leading).wordsOf_eq, leading.wordsOf_eq,
      ih (parted.of_append word), List.cons_append]

end Parted

/-- A capital with a small letter after it begins a word, whatever stands before it. -/
theorem parted_of_capitalized {c d : Char} (upper : wordKind? c = some .upper)
    (lower : wordKind? d = some .lower) (before rest : List Char) :
    Parted before (c :: d :: rest) := by
  intro b last
  cases kind : wordKind? b with
  | none => exact .inl rfl
  | some left =>
    right
    rw [endsWord_of_kinds kind upper, List.head?_cons, Option.bind_some, lower]
    cases left <;> rfl

/-- Digits begin a word after anything but a digit. -/
theorem parted_of_digits {before digits : List Char}
    (other : ∀ c ∈ before.getLast?, wordKind? c ≠ some .digit)
    (all : ∀ c ∈ digits, wordKind? c = some .digit) : Parted before digits := by
  intro b last
  cases kind : wordKind? b with
  | none => exact .inl rfl
  | some left =>
    right
    cases digits with
    | nil => rfl
    | cons d digits =>
      rw [endsWord_of_kinds kind (all d List.mem_cons_self)]
      cases left with
      | upper => rfl
      | lower => rfl
      | digit => exact absurd kind (other b last)

end ApiMock.Text
