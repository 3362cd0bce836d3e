import ApiMock.Unicode.Property

/-!
# Text

Cutting, searching and joining texts. The functions work on lists of characters, where each is
a recursion on the list, and the same operations on `String` go through that view.
-/
namespace ApiMock.Text

/-- Apply a function on characters to a text. -/
def onChars (change : List Char → List Char) (text : String) : String :=
  String.ofList (change text.toList)

/-- The pieces of a text between the characters that separate, empty pieces included: there is
one piece more than there are separators. -/
def pieces (separates : Char → Bool) : List Char → List (List Char)
  | [] => [[]]
  | c :: rest =>
    if separates c then
      [] :: pieces separates rest
    else
      match pieces separates rest with
      | [] => [[c]]
      | first :: others => (c :: first) :: others

/-- A text always has a piece. -/
theorem pieces_ne_nil (separates : Char → Bool) (text : List Char) :
    pieces separates text ≠ [] := by
  induction text with
  | nil => simp [pieces]
  | cons c rest ih =>
    simp only [pieces]
    split
    · simp
    · split <;> simp

/-- The pieces of a text between the occurrences of one character. -/
def split (separator : Char) (text : String) : List String :=
  (pieces (· == separator) text.toList).map String.ofList

/-- Drop the characters at the end that satisfy a test. -/
def trimEndChars (test : Char → Bool) (text : List Char) : List Char :=
  (text.reverse.dropWhile test).reverse

/-- Drop white space at both ends. -/
def trimChars (text : List Char) : List Char :=
  trimEndChars Unicode.isWhiteSpace (text.dropWhile Unicode.isWhiteSpace)

/-- The text without white space at its ends. -/
def trim (text : String) : String := onChars trimChars text

/-- A text of white space only. -/
def isBlank (text : String) : Bool := text.toList.all Unicode.isWhiteSpace

/-- The text without the slashes at its end. -/
def trimSlashes (text : String) : String := onChars (trimEndChars (· == '/')) text

/-- What follows `lead` in a text that starts with it. -/
def afterChars? : (lead text : List Char) → Option (List Char)
  | [], text => some text
  | _ :: _, [] => none
  | l :: lead, c :: text => if l = c then afterChars? lead text else none

/-- A text starts with a lead exactly when it is the lead and the rest. -/
theorem afterChars?_eq_some_iff {lead text rest : List Char} :
    afterChars? lead text = some rest ↔ text = lead ++ rest := by
  induction lead generalizing text with
  | nil => simp [afterChars?]
  | cons l lead ih =>
    cases text with
    | nil => simp [afterChars?]
    | cons c text =>
      by_cases same : l = c
      · simp [afterChars?, same, ih]
      · simp [afterChars?, same, Ne.symm same]

/-- What follows `lead` in a text that starts with it. -/
def after? (lead text : String) : Option String :=
  (afterChars? lead.toList text.toList).map String.ofList

/-- What precedes `tail` in a text that ends with it. -/
def before? (tail text : String) : Option String :=
  (afterChars? tail.toList.reverse text.toList.reverse).map fun rest => String.ofList rest.reverse

/-- A text starts with a lead exactly when it is the lead and the rest. -/
theorem after?_eq_some_iff {lead text rest : String} :
    after? lead text = some rest ↔ text = lead ++ rest := by
  simp only [after?, Option.map_eq_some_iff, afterChars?_eq_some_iff]
  constructor
  · rintro ⟨chars, split, rfl⟩
    apply String.toList_inj.mp
    rw [split, String.toList_append, String.toList_ofList]
  · rintro rfl
    exact ⟨rest.toList, String.toList_append, String.ofList_toList⟩

/-- A text ends with a tail exactly when it is what precedes it and the tail. -/
theorem before?_eq_some_iff {tail text rest : String} :
    before? tail text = some rest ↔ text = rest ++ tail := by
  simp only [before?, Option.map_eq_some_iff, afterChars?_eq_some_iff]
  constructor
  · rintro ⟨chars, split, rfl⟩
    apply String.toList_inj.mp
    rw [String.toList_append, String.toList_ofList, ← List.reverse_inj, split,
      List.reverse_append, List.reverse_reverse]
  · rintro rfl
    refine ⟨rest.toList.reverse, ?_, ?_⟩
    · rw [String.toList_append, List.reverse_append]
    · rw [List.reverse_reverse, String.ofList_toList]

/-- Whether a text ends with another. -/
def endsWith (text tail : String) : Bool := tail.toList.isSuffixOf text.toList

/-- Whether a list of characters occurs in another without a gap. -/
def occursIn (part : List Char) : List Char → Bool
  | [] => part.isEmpty
  | c :: rest => part.isPrefixOf (c :: rest) || occursIn part rest

/-- Whether a text occurs within another. -/
def contains (text part : String) : Bool := occursIn part.toList text.toList

/-- Put a text in place of every occurrence of two adjacent characters, from the left. -/
def replacePair (first second : Char) (replacement : List Char) : List Char → List Char
  | [] => []
  | [c] => [c]
  | c :: d :: rest =>
    if c = first ∧ d = second then
      replacement ++ replacePair first second replacement rest
    else
      c :: replacePair first second replacement (d :: rest)

/-- Put one character in place of another. -/
def replaceChar (old new : Char) (text : String) : String :=
  onChars (List.map fun c => if c = old then new else c) text

/-- The text with the ASCII capitals in lower case. -/
def lowerAscii (text : String) : String := onChars (List.map Char.toLower) text

/-- The text with the ASCII letters in upper case. -/
def upperAscii (text : String) : String := onChars (List.map Char.toUpper) text

/-- The entries of a comma-separated list: pieces without surrounding white space, empty ones
left out. -/
def listEntries (text : String) : List String :=
  ((split ',' text).map trim).filter (!·.isEmpty)

end ApiMock.Text
