import ApiMock.Proofs.Text.LetterCase
import ApiMock.Proofs.Text.Words
import Mathlib.Data.List.Chain
import Mathlib.Data.List.Induction
/-!
# Texts in camel case

Writing a text in camel case leaves it alone exactly when each of its characters is in place: a capital
where a word after the first begins, small everywhere else (`InCamelCase`). What camel case makes of a
text need not be of this kind, since words of one letter each leave capitals side by side, and these
count as one word when they are read again. For ASCII that is the only obstacle
(`camelCase_camelCase_iff`).
-/
namespace ApiMock.Text

open Unicode

/-! ### Joining words -/

/-- A word in lower case with a capital first. -/
def capitalWord (word : List Char) : List Char := capitalizeChars (lowerChars word)

/-- The words of a text in camel case when other words come before them. -/
def joinLater (text : List Char) : List Char := (wordsOf text).flatMap capitalWord

/-- The characters of a text in camel case. -/
theorem toList_camelCase (text : String) :
    (camelCase text).toList = joinCamel (wordsOf text.toList) := by
  rw [camelCase, onChars, String.toList_ofList]

/-- A first word is in lower case, the others are capitalized. -/
theorem joinCamel_cons (word : List Char) (others : List (List Char)) :
    joinCamel (word :: others) = lowerChars word ++ others.flatMap capitalWord := rfl

/-- A word in lower case begins with a letter or digit. -/
theorem exists_lowerChars_eq {text word : List Char} (listed : word ∈ wordsOf text) :
    ∃ small others, lowerChars word = small :: others ∧ (wordKind? small).isSome := by
  cases word with
  | nil => exact absurd rfl (ne_nil_of_mem_wordsOf listed)
  | cons c word =>
    obtain ⟨small, others, lower, letter⟩ := exists_lowercase_eq c
    refine ⟨small, others ++ lowerAfter [c] word, ?_,
      letter (mem_of_mem_wordsOf listed List.mem_cons_self).2⟩
    rw [lowerChars_cons, lower, List.cons_append]

/-- A separator begins no text in camel case. -/
theorem isSome_head?_joinCamel {text : List Char} {c : Char}
    (head : (joinCamel (wordsOf text)).head? = some c) : (wordKind? c).isSome := by
  cases words : wordsOf text with
  | nil =>
    rw [words] at head
    cases head
  | cons word others =>
    have listed : word ∈ wordsOf text := words ▸ List.mem_cons_self
    obtain ⟨small, rest, lower, letter⟩ := exists_lowerChars_eq listed
    rw [words, joinCamel_cons, lower] at head
    exact Option.some.inj head ▸ letter

/-- After other words, the camel case of a text is the same but for its first character, which is
capitalized. -/
theorem joinLater_eq_capitalizeChars (text : List Char) :
    joinLater text = capitalizeChars (joinCamel (wordsOf text)) := by
  rw [joinLater]
  cases words : wordsOf text with
  | nil => rfl
  | cons word others =>
    have listed : word ∈ wordsOf text := words ▸ List.mem_cons_self
    obtain ⟨small, rest, lower, -⟩ := exists_lowerChars_eq listed
    rw [List.flatMap_cons, capitalWord, joinCamel_cons, lower]
    simp [capitalizeChars]

/-- A separator begins no text in camel case. -/
theorem isSome_head?_joinLater {text : List Char} {c : Char}
    (head : (joinLater text).head? = some c) : (wordKind? c).isSome := by
  rw [joinLater_eq_capitalizeChars] at head
  cases joined : joinCamel (wordsOf text) with
  | nil =>
    rw [joined] at head
    cases head
  | cons small rest =>
    obtain ⟨capital, others, upper, letter⟩ := exists_uppercase_eq small
    have first : (joinCamel (wordsOf text)).head? = some small := by rw [joined]; rfl
    rw [joined, capitalizeChars, upper] at head
    exact Option.some.inj head ▸ letter (isSome_head?_joinCamel first)

/-- There are no marks of ASCII in camel case. -/
theorem isNameChar_of_mem_joinLater {text : List Char} {d : Char} (within : d ∈ joinLater text) :
    IsNameChar d := by
  obtain ⟨word, listed, inner⟩ := List.mem_flatMap.mp within
  have names : ∀ c ∈ word, IsNameChar c := fun c member =>
    isNameChar_of_isSome_wordKind? (mem_of_mem_wordsOf listed member).2
  exact isNameChar_of_mem_capitalizeChars
    (fun c lower => isNameChar_of_mem_lowerAfter names lower) inner

/-! ### Characters in place -/

/-- A letter or digit that is its own lower case. -/
def IsSmall (c : Char) : Prop := (wordKind? c).isSome ∧ lowercase c = [c]

/-- A letter or digit that is the capital of its own lower case. -/
def IsCapital (c : Char) : Prop :=
  (wordKind? c).isSome ∧ ∃ small, lowercase c = [small] ∧ uppercase small = [c]

/-- Each character of a text is in place: the first is as asked, a capital follows where a word ends,
and any other character is small. -/
def InPlace (first : Char → Prop) : List Char → Prop
  | [] => True
  | c :: rest => first c ∧ InPlace (if endsWord c rest then IsCapital else IsSmall) rest

/-- A text in camel case: capitals begin all words but the first, and there are no others. -/
def InCamelCase (text : List Char) : Prop := InPlace IsSmall text

/-- Within a word all characters but the first are small, and a capital follows it. -/
theorem LeadingWord.inPlace_iff {c : Char} {word rest : List Char}
    (leading : LeadingWord (c :: word) rest) (first : Char → Prop) :
    InPlace first (c :: word ++ rest) ↔
      first c ∧ (∀ d ∈ word, IsSmall d) ∧ InPlace IsCapital rest := by
  induction word generalizing c first with
  | nil =>
    cases leading with
    | last letter ends => simp [InPlace, ends]
    | more letter inner leading => exact absurd rfl leading.ne_nil
  | cons d word ih =>
    cases leading with
    | more letter inner leading =>
      rw [List.cons_append, InPlace, inner, List.forall_mem_cons, and_assoc]
      exact and_congr_right fun _ => ih leading IsSmall

/-- The characters of a word are letters and digits. -/
theorem LeadingWord.isSome_wordKind? {c d : Char} {word rest : List Char}
    (leading : LeadingWord (c :: word) rest) (within : d ∈ c :: word) : (wordKind? d).isSome := by
  have listed : c :: word ∈ wordsOf (c :: word ++ rest) := by
    rw [leading.wordsOf_eq]
    exact List.mem_cons_self
  exact (mem_of_mem_wordsOf listed within).2

/-- The characters of a word are small as soon as they are their own lower case. -/
theorem LeadingWord.forall_isSmall_iff {c : Char} {word rest : List Char}
    (leading : LeadingWord (c :: word) rest) :
    (∀ d ∈ word, IsSmall d) ↔ ∀ d ∈ word, lowercase d = [d] :=
  forall₂_congr fun _ within =>
    and_iff_right (leading.isSome_wordKind? (List.mem_cons_of_mem _ within))

/-- A text is its own camel case after other words exactly when each character is in place and the
first is a capital. -/
theorem joinLater_eq_self_iff {text : List Char} :
    joinLater text = text ↔ InPlace IsCapital text := by
  induction text using word_induction with
  | nil => simp [joinLater, wordsOf_nil, InPlace]
  | separator c rest separator ih =>
    constructor
    · intro same
      have head : (joinLater (c :: rest)).head? = some c := by rw [same]; rfl
      have letter := isSome_head?_joinLater head
      rw [separator] at letter
      cases letter
    · rintro ⟨⟨letter, -⟩, -⟩
      rw [separator] at letter
      cases letter
  | word word rest leading ih =>
    cases word with
    | nil => exact absurd rfl leading.ne_nil
    | cons c word =>
      have own : IsCapital c ↔ ∃ small, lowercase c = [small] ∧ uppercase small = [c] :=
        and_iff_right (leading.isSome_wordKind? List.mem_cons_self)
      rw [joinLater, leading.wordsOf_eq, List.flatMap_cons, ← joinLater, capitalWord,
        capitalize_append_eq_iff, ih, leading.inPlace_iff, leading.forall_isSmall_iff, own]

/-- A text is in camel case exactly when writing it in camel case leaves it alone. -/
theorem joinCamel_eq_self_iff {text : List Char} :
    joinCamel (wordsOf text) = text ↔ InCamelCase text := by
  cases text with
  | nil => simp [wordsOf_nil, joinCamel, InCamelCase, InPlace]
  | cons c text =>
    by_cases letter : (wordKind? c).isSome
    · obtain ⟨word, rest, same, leading⟩ := exists_leadingWord letter text
      have own : IsSmall c ↔ lowercase c = [c] := and_iff_right letter
      rw [same, InCamelCase, leading.inPlace_iff, leading.forall_isSmall_iff, own,
        ← joinLater_eq_self_iff, leading.wordsOf_eq, joinCamel_cons, ← joinLater, lowerChars,
        lowerAfter_append_eq_iff, List.forall_mem_cons, and_assoc]
    · constructor
      · intro same
        have head : (joinCamel (wordsOf (c :: text))).head? = some c := by rw [same]; rfl
        exact absurd (isSome_head?_joinCamel head) letter
      · rintro ⟨⟨kind, -⟩, -⟩
        exact absurd kind letter

/-! ### Capitals side by side -/

/-- A digit that neither case changes. -/
def IsSteadyDigit (c : Char) : Prop := wordKind? c = some .digit ∧ IsSmall c ∧ IsCapital c

/-- What a later word becomes in camel case: digits, or a capital with small letters after it. -/
inductive Piece : List Char → Prop
  /-- Digits. -/
  | digits {c : Char} {rest : List Char} (digits : ∀ d ∈ c :: rest, IsSteadyDigit d) :
      Piece (c :: rest)
  /-- A capital and small letters. -/
  | capital {c : Char} {rest : List Char} (upper : wordKind? c = some .upper)
      (capital : IsCapital c) (changed : ¬ IsSmall c)
      (small : ∀ d ∈ rest, wordKind? d = some .lower ∧ IsSmall d) : Piece (c :: rest)

/-- A capital that is a piece of its own. -/
def IsLoneCapital (piece : List Char) : Prop := ∃ c, wordKind? c = some .upper ∧ piece = [c]

/-- A piece is a capital alone when nothing comes after it. -/
theorem isLoneCapital_cons_iff {c : Char} {rest : List Char} :
    IsLoneCapital (c :: rest) ↔ wordKind? c = some .upper ∧ rest = [] := by
  constructor
  · rintro ⟨letter, upper, single⟩
    obtain ⟨rfl, rfl⟩ := List.cons.inj single
    exact ⟨upper, rfl⟩
  · rintro ⟨upper, rfl⟩
    exact ⟨c, upper, rfl⟩

/-- A text that begins with a digit or a capital, if with anything. -/
def Opens (text : List Char) : Prop :=
  ∀ c ∈ text.head?, wordKind? c = some .upper ∨ IsSteadyDigit c

/-- Pieces begin with a digit or a capital. -/
theorem opens_flatten {pieces : List (List Char)} (regular : ∀ piece ∈ pieces, Piece piece) :
    Opens pieces.flatten := by
  cases pieces with
  | nil =>
    intro d head
    cases head
  | cons piece rest =>
    intro d head
    rw [List.flatten_cons] at head
    cases regular piece List.mem_cons_self with
    | digits digits =>
      obtain rfl : _ = d := Option.some.inj head
      exact .inr (digits _ List.mem_cons_self)
    | capital upper _ _ _ =>
      obtain rfl : _ = d := Option.some.inj head
      exact .inl upper

/-- A digit may stand wherever a small character or a capital may. -/
theorem inPlace_steadyDigit {c : Char} (digit : IsSteadyDigit c) (rest : List Char) :
    InPlace IsSmall (c :: rest) ↔ InPlace IsCapital (c :: rest) := by
  rw [InPlace, InPlace, and_iff_right digit.2.1, and_iff_right digit.2.2]

/-- Where the text after them opens anew, small letters are in place as soon as the first one is, and
so are digits. -/
theorem inPlace_append_iff {kind : WordKind} (flat : kind = .lower ∨ kind = .digit) {c : Char}
    {word rest : List Char} (head : wordKind? c = some kind)
    (tail : ∀ d ∈ word, wordKind? d = some kind ∧ IsSmall d) (opens : Opens rest)
    (first : Char → Prop) :
    InPlace first (c :: word ++ rest) ↔ first c ∧ InPlace IsCapital rest := by
  induction word generalizing c first with
  | nil =>
    rw [List.singleton_append, InPlace]
    refine and_congr_right fun _ => ?_
    cases rest with
    | nil => exact Iff.rfl
    | cons d rest =>
      rcases opens d rfl with upper | digit
      · rw [endsWord_of_kinds head upper]
        rcases flat with rfl | rfl
        · exact Iff.rfl
        · exact Iff.rfl
      · rw [endsWord_of_kinds head digit.1]
        rcases flat with rfl | rfl
        · exact Iff.rfl
        · exact inPlace_steadyDigit digit rest
  | cons d word ih =>
    rw [List.forall_mem_cons] at tail
    have inner : endsWord c (d :: word ++ rest) = false := by
      rw [List.cons_append, endsWord_of_kinds head tail.1.1]
      rcases flat with rfl | rfl
      · rfl
      · rfl
    rw [List.cons_append, InPlace, inner]
    exact and_congr_right fun _ => (ih tail.1.1 tail.2 IsSmall).trans (and_iff_right tail.1.2)

/-- A piece that is no lone capital is in place before a text that opens anew. -/
theorem Piece.inPlace_iff {piece rest : List Char} (regular : Piece piece)
    (crowd : ¬ IsLoneCapital piece) (opens : Opens rest) :
    InPlace IsCapital (piece ++ rest) ↔ InPlace IsCapital rest := by
  cases regular with
  | @digits c word digits =>
    rw [List.forall_mem_cons] at digits
    have tail : ∀ d ∈ word, wordKind? d = some .digit ∧ IsSmall d := fun d within =>
      ⟨(digits.2 d within).1, (digits.2 d within).2.1⟩
    rw [inPlace_append_iff (.inr rfl) digits.1.1 tail opens, and_iff_right digits.1.2.2]
  | @capital c word upper capital changed small =>
    cases word with
    | nil => exact absurd ⟨c, upper, rfl⟩ crowd
    | cons d word =>
      rw [List.forall_mem_cons] at small
      have inner : endsWord c (d :: word ++ rest) = false := by
        rw [List.cons_append, endsWord_of_kinds upper small.1.1]
        rfl
      have place := inPlace_append_iff (.inl rfl) small.1.1 small.2 opens IsSmall
      rw [and_iff_right small.1.2] at place
      rw [List.cons_append, InPlace, inner, and_iff_right capital]
      exact place

/-- A word ends with a capital before a piece that is no lone capital. -/
theorem Piece.endsWord_eq {c : Char} {piece : List Char} (regular : Piece piece)
    (crowd : ¬ IsLoneCapital piece) (upper : wordKind? c = some .upper) (rest : List Char) :
    endsWord c (piece ++ rest) = true := by
  cases regular with
  | @digits d word digits =>
    rw [List.cons_append, endsWord_of_kinds upper (digits d List.mem_cons_self).1]
    rfl
  | @capital d word next capital changed small =>
    cases word with
    | nil => exact absurd ⟨d, next, rfl⟩ crowd
    | cons e word =>
      -- The small letter after the next capital makes it begin a word.
      rw [List.cons_append, endsWord_of_kinds upper next, List.cons_append, List.head?_cons,
        Option.bind_some, (small e List.mem_cons_self).1]
      rfl

/-- No word ends between two lone capitals. -/
theorem endsWord_lone {c d : Char} {rest : List Char} (upper : wordKind? c = some .upper)
    (next : wordKind? d = some .upper) (opens : Opens rest) : endsWord c (d :: rest) = false := by
  rw [endsWord_of_kinds upper next]
  cases rest with
  | nil => rfl
  | cons e rest =>
    rcases opens e rfl with third | digit
    · rw [List.head?_cons, Option.bind_some, third]
      rfl
    · rw [List.head?_cons, Option.bind_some, digit.1]
      rfl

/-- A lone capital is the capital of its own lower case, and not its own lower case. -/
theorem Piece.capital_of_lone {c : Char} (regular : Piece [c]) (upper : wordKind? c = some .upper) :
    IsCapital c ∧ ¬ IsSmall c := by
  cases regular with
  | digits digits =>
    rw [(digits c List.mem_cons_self).1] at upper
    cases upper
  | capital _ capital changed _ => exact ⟨capital, changed⟩

/-- Pieces after a lone capital are in place exactly when they are so by themselves and the first of
them is no lone capital. -/
theorem inPlace_lone_iff {c : Char} {next : List Char} {later : List (List Char)}
    (upper : wordKind? c = some .upper) (capital : IsCapital c) (regular : Piece next)
    (others : ∀ piece ∈ later, Piece piece) :
    InPlace IsCapital (c :: (next ++ later.flatten)) ↔
      ¬ IsLoneCapital next ∧ InPlace IsCapital (next ++ later.flatten) := by
  rw [InPlace, and_iff_right capital]
  by_cases lone : IsLoneCapital next
  · -- The second capital would have to begin a word, and does not.
    obtain ⟨d, upperNext, rfl⟩ := lone
    have changed : ¬ IsSmall d := (regular.capital_of_lone upperNext).2
    have inner := endsWord_lone upper upperNext (opens_flatten others)
    rw [List.singleton_append, inner]
    exact iff_of_false (fun place => changed place.1) fun both => both.1 ⟨d, upperNext, rfl⟩
  · rw [regular.endsWord_eq lone upper, and_iff_right lone]
    rfl

/-- Pieces are in place exactly when no two lone capitals stand side by side. -/
theorem inPlace_flatten_iff {pieces : List (List Char)}
    (regular : ∀ piece ∈ pieces, Piece piece) :
    InPlace IsCapital pieces.flatten ↔
      pieces.IsChain fun piece next => ¬ (IsLoneCapital piece ∧ IsLoneCapital next) := by
  induction pieces with
  | nil => simp [InPlace]
  | cons piece rest ih =>
    rw [List.forall_mem_cons] at regular
    rw [List.flatten_cons, List.isChain_cons, ← ih regular.2]
    by_cases lone : IsLoneCapital piece
    · obtain ⟨c, upper, rfl⟩ := lone
      have capital : IsCapital c := (regular.1.capital_of_lone upper).1
      cases rest with
      | nil => simp [InPlace, capital]
      | cons next later =>
        have alone : IsLoneCapital [c] := ⟨c, upper, rfl⟩
        have neighbours : (∀ other ∈ (next :: later).head?,
            ¬ (IsLoneCapital [c] ∧ IsLoneCapital other)) ↔ ¬ IsLoneCapital next := by
          simp [alone]
        rw [List.forall_mem_cons] at regular
        rw [neighbours, List.flatten_cons]
        exact inPlace_lone_iff upper capital regular.2.1 regular.2.2
    · rw [regular.1.inPlace_iff lone (opens_flatten regular.2)]
      exact (and_iff_right fun _ _ both => lone both.1).symm

/-! ### Words of ASCII -/

/-- A word of one letter. -/
def IsInitial (word : List Char) : Prop := ∃ letter : Char, letter.isAlpha = true ∧ word = [letter]

instance : DecidablePred IsInitial
  | [] => .isFalse fun ⟨_, _, single⟩ => nomatch single
  | [c] => decidable_of_iff (c.isAlpha = true)
      ⟨fun letter => ⟨c, letter, rfl⟩, fun ⟨_, letter, single⟩ => (List.cons.inj single).1 ▸ letter⟩
  | _ :: _ :: _ => .isFalse fun ⟨_, _, single⟩ => nomatch single

/-- A word is one letter when nothing comes after its first letter. -/
theorem isInitial_cons_iff {c : Char} {word : List Char} :
    IsInitial (c :: word) ↔ c.isAlpha = true ∧ word = [] := by
  constructor
  · rintro ⟨letter, alpha, single⟩
    obtain ⟨rfl, rfl⟩ := List.cons.inj single
    exact ⟨alpha, rfl⟩
  · rintro ⟨alpha, rfl⟩
    exact ⟨c, alpha, rfl⟩

/-- Digits are ASCII. -/
theorem isAscii_of_isDigit {c : Char} (digit : c.isDigit = true) : isAscii c = true := by
  have range : c.toNat ≤ '9'.toNat := (Char.isDigit_iff_toNat.mp digit).2
  have last : '9'.toNat < 128 := by decide
  rw [isAscii, decide_eq_true_eq]
  exact range.trans_lt last

/-- Neither case changes an ASCII digit. -/
theorem forms_of_digit {c : Char} (ascii : isAscii c = true) (digit : wordKind? c = some .digit) :
    c.toLower = c ∧ c.toUpper = c ∧ c.isAlpha = false := by
  refine forall_isAscii (fun c => wordKind? c = some .digit →
    c.toLower = c ∧ c.toUpper = c ∧ c.isAlpha = false) ?_ ascii digit
  decide

/-- An ASCII letter has a small form, which is its own lower case. -/
theorem smallForm_of_letter {c : Char} (ascii : isAscii c = true) (kind : (wordKind? c).isSome)
    (letter : wordKind? c ≠ some .digit) :
    c.isAlpha = true ∧ isAscii c.toLower = true ∧ wordKind? c.toLower = some .lower ∧
      c.toLower.toLower = c.toLower := by
  refine forall_isAscii (fun c => (wordKind? c).isSome → wordKind? c ≠ some .digit →
    c.isAlpha = true ∧ isAscii c.toLower = true ∧ wordKind? c.toLower = some .lower ∧
      c.toLower.toLower = c.toLower) ?_ ascii kind letter
  decide

/-- An ASCII letter has a capital, of which its small form is the lower case. -/
theorem capitalForm_of_letter {c : Char} (ascii : isAscii c = true) (kind : (wordKind? c).isSome)
    (letter : wordKind? c ≠ some .digit) :
    isAscii c.toLower.toUpper = true ∧ wordKind? c.toLower.toUpper = some .upper ∧
      c.toLower.toUpper.toLower = c.toLower ∧ c.toLower.toUpper ≠ c.toLower := by
  refine forall_isAscii (fun c => (wordKind? c).isSome → wordKind? c ≠ some .digit →
    isAscii c.toLower.toUpper = true ∧ wordKind? c.toLower.toUpper = some .upper ∧
      c.toLower.toUpper.toLower = c.toLower ∧ c.toLower.toUpper ≠ c.toLower) ?_ ascii kind letter
  decide

/-- Both cases of ASCII are ASCII. -/
theorem caseForms_isAscii {c : Char} (ascii : isAscii c = true) :
    isAscii c.toLower = true ∧ isAscii c.toUpper = true := by
  refine forall_isAscii (fun c => isAscii c.toLower = true ∧ isAscii c.toUpper = true) ?_ ascii
  decide

/-- An ASCII digit may stand for either case. -/
theorem isSteadyDigit_of_isAscii {c : Char} (ascii : isAscii c = true)
    (digit : wordKind? c = some .digit) : IsSteadyDigit c := by
  obtain ⟨lower, upper, -⟩ := forms_of_digit ascii digit
  have kind : (wordKind? c).isSome := by rw [digit]; rfl
  have small : lowercase c = [c] := by rw [lowercase_of_isAscii ascii, lower]
  have capital : uppercase c = [c] := by rw [uppercase_of_isAscii ascii, upper]
  exact ⟨digit, ⟨kind, small⟩, kind, c, small, capital⟩

/-- Lower case of ASCII, character by character. -/
theorem lowerAfter_of_isAscii {word : List Char} (ascii : ∀ c ∈ word, isAscii c = true)
    (passed : List Char) : lowerAfter passed word = word.map Char.toLower := by
  induction word generalizing passed with
  | nil => rfl
  | cons c word ih =>
    rw [List.forall_mem_cons] at ascii
    have plain : c ≠ 'Σ' := by
      rintro rfl
      exact absurd ascii.1 (by decide)
    rw [lowerAfter, if_neg plain, lowercase_of_isAscii ascii.1, ih ascii.2, List.map_cons]
    rfl

/-- An ASCII letter has a capital, which is not its own lower case. -/
theorem capital_of_letter {c : Char} (ascii : isAscii c = true) (kind : (wordKind? c).isSome)
    (letter : wordKind? c ≠ some .digit) :
    wordKind? c.toLower.toUpper = some .upper ∧ IsCapital c.toLower.toUpper ∧
      ¬ IsSmall c.toLower.toUpper := by
  obtain ⟨-, small, -, -⟩ := smallForm_of_letter ascii kind letter
  obtain ⟨capital, upper, back, changed⟩ := capitalForm_of_letter ascii kind letter
  have lower : lowercase c.toLower.toUpper = [c.toLower] := by
    rw [lowercase_of_isAscii capital, back]
  refine ⟨upper, ⟨by rw [upper]; rfl, c.toLower, lower, uppercase_of_isAscii small⟩, ?_⟩
  rintro ⟨-, own⟩
  exact changed (List.singleton_inj.mp (own.symm.trans lower))

section AsciiWord

variable {text word : List Char} (ascii : ∀ c ∈ text, isAscii c = true)
  (listed : word ∈ wordsOf text)

include ascii listed

/-- The characters of a word of ASCII. -/
theorem isAscii_of_mem_wordsOf {c : Char} (within : c ∈ word) :
    isAscii c = true ∧ (wordKind? c).isSome :=
  (mem_of_mem_wordsOf listed within).imp_left (ascii c)

/-- A word of ASCII in lower case, character by character. -/
theorem lowerChars_of_isAscii : lowerChars word = word.map Char.toLower :=
  lowerAfter_of_isAscii (fun _ within => (isAscii_of_mem_wordsOf ascii listed within).1) []

/-- A word of ASCII digits is its own lower case, and a word of letters has small letters there. -/
theorem lowerChars_cases :
    ((∀ c ∈ word, IsSteadyDigit c) ∧ lowerChars word = word) ∨
      (∀ c ∈ word, wordKind? c ≠ some .digit) ∧
        ∀ d ∈ lowerChars word, wordKind? d = some .lower ∧ IsSmall d := by
  have range := fun {c} within => isAscii_of_mem_wordsOf (c := c) ascii listed within
  rw [lowerChars_of_isAscii ascii listed]
  rcases isDigit_of_mem_wordsOf listed with digits | letters
  · refine .inl ⟨fun c within => isSteadyDigit_of_isAscii (range within).1 (digits c within), ?_⟩
    calc word.map Char.toLower
      _ = word.map id := List.map_congr_left fun c within =>
          (forms_of_digit (range within).1 (digits c within)).1
      _ = word := List.map_id word
  · refine .inr ⟨letters, fun d within => ?_⟩
    obtain ⟨c, listed, rfl⟩ := List.mem_map.mp within
    obtain ⟨-, small, lower, again⟩ :=
      smallForm_of_letter (range listed).1 (range listed).2 (letters c listed)
    exact ⟨lower, by rw [lower]; rfl, by rw [lowercase_of_isAscii small, again]⟩

/-- A word of ASCII, capitalized, character by character. -/
theorem capitalWord_of_isAscii :
    capitalWord word = (word.map Char.toLower).modifyHead Char.toUpper := by
  have range := fun {c} within => isAscii_of_mem_wordsOf (c := c) ascii listed within
  rw [capitalWord, lowerChars_of_isAscii ascii listed]
  cases word with
  | nil => rfl
  | cons c word =>
    have small : isAscii c.toLower = true :=
      (caseForms_isAscii (range List.mem_cons_self).1).1
    rw [List.map_cons, capitalizeChars, uppercase_of_isAscii small]
    rfl

/-- A word of ASCII, capitalized: digits, or a capital with small letters after it, and alone if the
word is one letter. -/
theorem piece_capitalWord :
    Piece (capitalWord word) ∧ (IsLoneCapital (capitalWord word) ↔ IsInitial word) := by
  have form := capitalWord_of_isAscii ascii listed
  have lower := lowerChars_of_isAscii ascii listed
  cases word with
  | nil => exact absurd rfl (ne_nil_of_mem_wordsOf listed)
  | cons c word =>
    obtain ⟨range, kind⟩ := isAscii_of_mem_wordsOf ascii listed List.mem_cons_self
    rw [List.map_cons, List.modifyHead_cons] at form
    rw [form, isInitial_cons_iff]
    rcases lowerChars_cases ascii listed with ⟨digits, same⟩ | ⟨letters, small⟩
    · have digit := (digits c List.mem_cons_self).1
      obtain ⟨-, upper, noLetter⟩ := forms_of_digit range digit
      rw [lower, List.map_cons, List.cons_eq_cons] at same
      rw [same.1, same.2, upper]
      refine ⟨.digits digits, iff_of_false ?_ fun initial => ?_⟩
      · rw [isLoneCapital_cons_iff, digit]
        rintro ⟨capital, -⟩
        cases capital
      · exact Bool.false_ne_true (noLetter.symm.trans initial.1)
    · have letter := letters c List.mem_cons_self
      have alpha := (smallForm_of_letter range kind letter).1
      rw [lower, List.map_cons, List.forall_mem_cons] at small
      obtain ⟨upper, capital, changed⟩ := capital_of_letter range kind letter
      rw [isLoneCapital_cons_iff, List.map_eq_nil_iff, and_iff_right upper, and_iff_right alpha]
      exact ⟨.capital upper capital changed small.2, Iff.rfl⟩

/-- A capitalized word of ASCII is ASCII. -/
theorem isAscii_of_mem_capitalWord {d : Char} (within : d ∈ capitalWord word) :
    isAscii d = true := by
  have range := fun {c} within => (isAscii_of_mem_wordsOf (c := c) ascii listed within).1
  rw [capitalWord_of_isAscii ascii listed] at within
  cases word with
  | nil => cases within
  | cons c word =>
    have small := caseForms_isAscii (range List.mem_cons_self)
    rw [List.map_cons, List.modifyHead_cons, List.mem_cons] at within
    rcases within with rfl | later
    · exact (caseForms_isAscii small.1).2
    · obtain ⟨e, member, rfl⟩ := List.mem_map.mp later
      exact (caseForms_isAscii (range (List.mem_cons_of_mem _ member))).1

/-- A first word of ASCII is in place before a text that opens anew. -/
theorem inPlace_lowerChars {rest : List Char} (opens : Opens rest) :
    InPlace IsSmall (lowerChars word ++ rest) ↔ InPlace IsCapital rest := by
  obtain ⟨small, others, form, -⟩ := exists_lowerChars_eq listed
  rcases lowerChars_cases ascii listed with ⟨digits, same⟩ | ⟨-, letters⟩
  · rw [← same, form, List.forall_mem_cons] at digits
    rw [form, inPlace_append_iff (.inr rfl) digits.1.1
      (fun d within => ⟨(digits.2 d within).1, (digits.2 d within).2.1⟩) opens,
      and_iff_right digits.1.2.1]
  · rw [form, List.forall_mem_cons] at letters
    rw [form, inPlace_append_iff (.inl rfl) letters.1.1 letters.2 opens,
      and_iff_right letters.1.2]

end AsciiWord

/-! ### Digits at the end -/

/-- The words of a text in two parts are joined part by part. -/
theorem Parted.joinLater_append {before after : List Char} (parted : Parted before after) :
    joinLater (before ++ after) = joinLater before ++ joinLater after := by
  rw [joinLater, parted.wordsOf_append, List.flatMap_append]
  rfl

/-- Digits are the same in camel case. -/
theorem joinLater_digits {digits : List Char} (all : ∀ c ∈ digits, c.isDigit = true) :
    joinLater digits = digits := by
  have steady : ∀ c ∈ digits, IsSteadyDigit c := fun c within =>
    isSteadyDigit_of_isAscii (isAscii_of_isDigit (all c within))
      (wordKind?_eq_digit_iff.mpr (all c within))
  cases digits with
  | nil => rfl
  | cons c digits =>
    rw [List.forall_mem_cons] at steady
    have nothing : Opens [] := fun d head => nomatch head
    have place := inPlace_append_iff (.inr rfl) steady.1.1
      (fun d within => ⟨(steady.2 d within).1, (steady.2 d within).2.1⟩) nothing IsCapital
    rw [List.append_nil] at place
    exact joinLater_eq_self_iff.mpr (place.mpr ⟨steady.1.2.2, trivial⟩)

/-- Digits at the end of a text pass through camel case. -/
theorem joinLater_append_digits {digits : List Char} (text : List Char)
    (all : ∀ c ∈ digits, c.isDigit = true) :
    joinLater (text ++ digits) = joinLater text ++ digits := by
  induction text using List.reverseRecOn generalizing digits with
  | nil => exact joinLater_digits all
  | append_singleton text last ih =>
    by_cases digit : last.isDigit = true
    · -- The last digit of the text counts as the first one of those after it.
      have longer : ∀ c ∈ last :: digits, c.isDigit = true := List.forall_mem_cons.mpr ⟨digit, all⟩
      have single : ∀ c ∈ [last], c.isDigit = true := List.forall_mem_singleton.mpr digit
      rw [List.append_assoc, List.singleton_append, ih longer, ih single, List.append_assoc,
        List.singleton_append]
    · have other : ∀ c ∈ (text ++ [last]).getLast?, wordKind? c ≠ some .digit := by
        intro c found
        rw [List.getLast?_concat] at found
        obtain rfl : last = c := Option.some.inj found
        exact fun kind => digit (wordKind?_eq_digit_iff.mp kind)
      have parted : Parted (text ++ [last]) digits :=
        parted_of_digits other fun c within => wordKind?_eq_digit_iff.mpr (all c within)
      rw [parted.joinLater_append, joinLater_digits all]

/-! ### Camel case of camel case -/

/-- What camel case makes of ASCII is in camel case exactly when no two words after the first that are
one letter each stand side by side. -/
theorem inCamelCase_joinCamel_iff {text : List Char} (ascii : ∀ c ∈ text, isAscii c = true) :
    InCamelCase (joinCamel (wordsOf text)) ↔
      (wordsOf text).tail.IsChain fun word next => ¬ (IsInitial word ∧ IsInitial next) := by
  cases words : wordsOf text with
  | nil => simp [joinCamel, InCamelCase, InPlace]
  | cons first others =>
    have listedFirst : first ∈ wordsOf text := words ▸ List.mem_cons_self
    have listed : ∀ word ∈ others, word ∈ wordsOf text := fun word within =>
      words ▸ List.mem_cons_of_mem _ within
    have regular : ∀ piece ∈ others.map capitalWord, Piece piece := by
      intro piece made
      obtain ⟨word, within, rfl⟩ := List.mem_map.mp made
      exact (piece_capitalWord ascii (listed word within)).1
    rw [joinCamel_cons, List.flatMap_def, InCamelCase,
      inPlace_lowerChars ascii listedFirst (opens_flatten regular), inPlace_flatten_iff regular,
      List.isChain_map, List.tail_cons]
    refine List.IsChain.iff_of_mem_imp fun word next within withinNext => ?_
    rw [(piece_capitalWord ascii (listed word within)).2,
      (piece_capitalWord ascii (listed next withinNext)).2]

/-- Writing a text in camel case twice gives the same as once exactly when the first result has a
capital where each word but the first begins and nowhere else. For ASCII this is so exactly when no two
words after the first that are one letter each stand side by side. -/
theorem camelCase_camelCase_iff (text : String) :
    (camelCase (camelCase text) = camelCase text ↔ InCamelCase (camelCase text).toList) ∧
      ((∀ c ∈ text.toList, isAscii c = true) →
        (camelCase (camelCase text) = camelCase text ↔
          (wordsOf text.toList).tail.IsChain fun word next =>
            ¬ (IsInitial word ∧ IsInitial next))) := by
  have exact_iff : camelCase (camelCase text) = camelCase text ↔
      InCamelCase (camelCase text).toList := by
    rw [← joinCamel_eq_self_iff, ← toList_camelCase, String.toList_inj]
  refine ⟨exact_iff, fun ascii => exact_iff.trans ?_⟩
  rw [toList_camelCase, inCamelCase_joinCamel_iff ascii]

/-- The name of a function keeps its form, although its words include a single letter and digits. -/
theorem camelCase_camelCase_findByX :
    (∀ c ∈ "get find_by_x404Response".toList, isAscii c = true) ∧
      camelCase "get find_by_x404Response" = "getFindByX404Response" ∧
      camelCase "getFindByX404Response" = "getFindByX404Response" := by
  have ascii : ∀ c ∈ "get find_by_x404Response".toList, isAscii c = true :=
    List.all_eq_true.mp (by decide)
  have once : camelCase "get find_by_x404Response" = "getFindByX404Response" := by decide
  have again := ((camelCase_camelCase_iff "get find_by_x404Response").2 ascii).mpr
    (by decide)
  rw [once] at again
  exact ⟨ascii, once, again⟩

/-- Two initials are taken for one word when they are read again. -/
theorem camelCase_camelCase_initials : camelCase (camelCase "a b c") ≠ camelCase "a b c" := by
  decide

end ApiMock.Text
