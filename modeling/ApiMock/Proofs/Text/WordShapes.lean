import ApiMock.Proofs.Text.Words
/-!
# The shapes of words

A word consists of digits, of capitals, or of small letters with at most one capital in front
(`Shaped`): a word ends where it would lose its shape (`LeadingWord.shaped`). Between letters and digits
it ends nowhere else, since two words side by side have none of these shapes when they are joined
(`LeadingWord.not_shaped_append`). So the words of a text are its letters and digits, cut as rarely as
the shapes allow.
-/
namespace ApiMock.Text

/-- All characters of a text are of one kind. -/
def AllOf (kind : WordKind) (text : List Char) : Prop := ∀ c ∈ text, wordKind? c = some kind

/-- A text of one kind begins with a character of that kind and goes on with such characters. -/
theorem allOf_cons_iff {kind : WordKind} {c : Char} {rest : List Char} :
    AllOf kind (c :: rest) ↔ wordKind? c = some kind ∧ AllOf kind rest :=
  List.forall_mem_cons

/-- The shapes of words: digits only, capitals only, and small letters with at most one capital in
front of them. -/
inductive Shaped : List Char → Prop
  /-- Characters of one kind. -/
  | uniform {kind : WordKind} {word : List Char} (all : AllOf kind word) : Shaped word
  /-- A capital and small letters. -/
  | capitalized {c : Char} {rest : List Char} (upper : wordKind? c = some .upper)
      (lower : AllOf .lower rest) : Shaped (c :: rest)

/-- Without its first character, a word still has a shape. -/
theorem Shaped.tail {c : Char} {word : List Char} (shaped : Shaped (c :: word)) : Shaped word := by
  cases shaped with
  | uniform all => exact .uniform (allOf_cons_iff.mp all).2
  | capitalized _ lower => exact .uniform lower

namespace LeadingWord

variable {word rest : List Char}

/-- The first character of a word is a letter or digit. -/
theorem exists_wordKind? {c : Char} (leading : LeadingWord (c :: word) rest) :
    ∃ kind, wordKind? c = some kind := by
  cases leading with
  | last letter _ | more letter _ _ => exact Option.isSome_iff_exists.mp letter

/-- A character that no break parts from a word with a shape joins in its shape. -/
theorem shaped_cons {c : Char} (letter : (wordKind? c).isSome)
    (inner : endsWord c (word ++ rest) = false) (leading : LeadingWord word rest)
    (shaped : Shaped word) : Shaped (c :: word) := by
  obtain ⟨left, first⟩ := Option.isSome_iff_exists.mp letter
  cases word with
  | nil => exact absurd rfl leading.ne_nil
  | cons d word =>
    obtain ⟨right, second⟩ := leading.exists_wordKind?
    rw [List.cons_append, endsWord_of_kinds first second] at inner
    cases shaped with
    | @uniform kind _ all =>
      obtain rfl : right = kind :=
        Option.some.inj (second.symm.trans (all d List.mem_cons_self))
      rcases kinds_of_not_break inner with rfl | ⟨rfl, rfl⟩
      · exact .uniform (allOf_cons_iff.mpr ⟨first, all⟩)
      · exact .capitalized first all
    | capitalized upper lower =>
      obtain rfl : right = .upper := Option.some.inj (second.symm.trans upper)
      rcases kinds_of_not_break inner with rfl | ⟨_, other⟩
      · cases word with
        | nil => exact .uniform (allOf_cons_iff.mpr ⟨first, allOf_cons_iff.mpr ⟨second, nofun⟩⟩)
        | cons e word =>
          -- A break lies before the last capital that small letters follow.
          have third : wordKind? e = some .lower := lower e List.mem_cons_self
          rw [List.cons_append, List.head?_cons, Option.bind_some, third] at inner
          cases inner
      · cases other

/-- A word has one of the shapes. -/
theorem shaped (leading : LeadingWord word rest) : Shaped word := by
  induction leading with
  | @last c rest letter ends =>
    obtain ⟨kind, first⟩ := Option.isSome_iff_exists.mp letter
    exact .uniform (allOf_cons_iff.mpr ⟨first, nofun⟩)
  | more letter inner leading ih => exact leading.shaped_cons letter inner ih

/-- No small letter follows a word that ends in a capital. -/
theorem head?_ne_lower {d : Char} (upper : wordKind? d = some .upper)
    (leading : LeadingWord [d] rest) : rest.head?.bind wordKind? ≠ some .lower := by
  have ends : endsWord d rest = true := by
    cases leading with
    | last _ ends => exact ends
    | more _ _ inner => exact absurd rfl inner.ne_nil
  intro small
  cases rest with
  | nil => cases small
  | cons e rest =>
    have second : wordKind? e = some .lower := small
    rw [endsWord_of_kinds upper second] at ends
    cases ends

/-- Within one of the shapes no word ends before another. -/
theorem endsWord_of_shaped {c : Char} (leading : LeadingWord word rest)
    (shaped : Shaped (c :: word)) : endsWord c (word ++ rest) = false := by
  cases word with
  | nil => exact absurd rfl leading.ne_nil
  | cons d word =>
    cases shaped with
    | @uniform kind _ all =>
      obtain ⟨first, later⟩ := allOf_cons_iff.mp all
      obtain ⟨second, later⟩ := allOf_cons_iff.mp later
      rw [List.cons_append, endsWord_of_kinds first second]
      cases kind with
      | lower => rfl
      | digit => rfl
      | upper =>
        have onward : (word ++ rest).head?.bind wordKind? ≠ some .lower := by
          cases word with
          | nil => exact leading.head?_ne_lower second
          | cons e word =>
            have third : wordKind? e = some .upper := later e List.mem_cons_self
            rw [List.cons_append, List.head?_cons, Option.bind_some, third]
            decide
        exact beq_eq_false_iff_ne.mpr onward
    | capitalized upper lower =>
      rw [List.cons_append, endsWord_of_kinds upper (lower d List.mem_cons_self)]
      rfl

/-- A word and the word right after it have none of the shapes when they are joined. -/
theorem not_shaped_append {next : List Char} (leading : LeadingWord word (next ++ rest))
    (following : LeadingWord next rest) : ¬ Shaped (word ++ next) := by
  generalize onward : next ++ rest = text at leading
  induction leading with
  | last letter ends =>
    subst onward
    intro shaped
    exact Bool.false_ne_true ((following.endsWord_of_shaped shaped).symm.trans ends)
  | more letter inner leading ih =>
    intro shaped
    exact ih onward shaped.tail

end LeadingWord

/-- If the first of the words of a text stands at its beginning, the text begins with this word, and the
other words are those of the rest. -/
theorem leadingWord_of_wordsOf {word rest : List Char} {others : List (List Char)}
    (cut : wordsOf (word ++ rest) = word :: others) :
    LeadingWord word rest ∧ wordsOf rest = others := by
  have listed : word ∈ wordsOf (word ++ rest) := cut ▸ List.mem_cons_self
  obtain ⟨c, tail, rfl⟩ := List.exists_cons_of_ne_nil (ne_nil_of_mem_wordsOf listed)
  have letter : (wordKind? c).isSome := (mem_of_mem_wordsOf listed List.mem_cons_self).2
  obtain ⟨found, after, same, leading⟩ := exists_leadingWord letter (tail ++ rest)
  rw [List.cons_append, same, leading.wordsOf_eq] at cut
  obtain ⟨whole, later⟩ := List.cons.inj cut
  obtain rfl : found = tail := (List.cons.inj whole).2
  obtain rfl : rest = after := List.append_cancel_left (List.cons.inj same).2
  exact ⟨leading, later⟩

/-- Two words side by side have none of the shapes when they are joined. -/
theorem not_shaped_of_adjacent {before first second after : List Char}
    (cut : wordsOf (before ++ (first ++ (second ++ after))) =
      wordsOf before ++ first :: second :: wordsOf after) : ¬ Shaped (first ++ second) := by
  induction before using word_induction with
  | nil =>
    have leads : LeadingWord first (second ++ after) ∧
        wordsOf (second ++ after) = second :: wordsOf after := leadingWord_of_wordsOf cut
    obtain ⟨leading, later⟩ := leads
    exact leading.not_shaped_append (leadingWord_of_wordsOf later).1
  | separator c rest separator ih =>
    rw [List.cons_append, wordsOf_separator separator, wordsOf_separator separator] at cut
    exact ih cut
  | word word rest leading ih =>
    rw [List.append_assoc, leading.wordsOf_eq, List.cons_append] at cut
    exact ih (leadingWord_of_wordsOf cut).2

/-- The words of a text are its letters and digits in order, without separators, and no word is empty.
Each word consists of digits, of capitals, or of small letters with at most one capital in front, and
two words that stand side by side in the text have none of these shapes when they are joined. -/
theorem words_shaped (text : String) :
    (words text).flatMap String.toList = text.toList.filter (fun c => (wordKind? c).isSome) ∧
      (∀ word ∈ words text, word ≠ "" ∧ Shaped word.toList) ∧
      ∀ before first second after, text = before ++ first ++ second ++ after →
        words text = words before ++ first :: second :: words after →
        ¬ Shaped (first.toList ++ second.toList) := by
  have listing : ∀ other, (words other).map String.toList = wordsOf other.toList := by
    intro other
    simp [words, Function.comp_def]
  refine ⟨?_, ?_, ?_⟩
  · calc (words text).flatMap String.toList
        _ = ((words text).map String.toList).flatten := List.flatMap_def
        _ = (wordsOf text.toList).flatten := by rw [listing]
        _ = text.toList.filter fun c => (wordKind? c).isSome := flatten_wordsOf text.toList
  · intro word listed
    have within : word.toList ∈ wordsOf text.toList :=
      listing text ▸ List.mem_map_of_mem listed
    obtain ⟨rest, leading⟩ := exists_leadingWord_of_mem_wordsOf within
    exact ⟨fun blank => leading.ne_nil (blank ▸ rfl), leading.shaped⟩
  · intro before first second after parts cut
    have chars : text.toList =
        before.toList ++ (first.toList ++ (second.toList ++ after.toList)) := by
      rw [parts]
      simp [String.toList_append]
    have lists := congrArg (List.map String.toList) cut
    rw [List.map_append, List.map_cons, List.map_cons, listing, listing, listing, chars] at lists
    exact not_shaped_of_adjacent lists

/-- In `get XMLHttp2` the acronym and the word after it are cut, and would have no shape together. -/
theorem words_shaped_acronym :
    let text := "get XMLHttp2"
    words text = ["get", "XML", "Http", "2"] ∧
      (∀ word ∈ words text, word ≠ "" ∧ Shaped word.toList) ∧
      ¬ Shaped ("XML".toList ++ "Http".toList) := by
  intro text
  have cut : words text = ["get", "XML", "Http", "2"] := by decide
  have around : words "get " = ["get"] ∧ words "2" = ["2"] := by decide
  obtain ⟨-, shapes, adjacent⟩ := words_shaped text
  refine ⟨cut, shapes, adjacent "get " "XML" "Http" "2" (by decide) ?_⟩
  rw [cut, around.1, around.2]
  rfl

end ApiMock.Text
