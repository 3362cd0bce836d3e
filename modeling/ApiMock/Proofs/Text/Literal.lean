import ApiMock.Proofs.Text.Brackets
import Mathlib.Data.List.Chain
/-!
# Quoted texts and comments

A quoted text is read from behind its opening quote: a backslash takes the character after it along, and
the first quote without one ends the text. `Quoting.Holds` says of characters between two quotes which
text they stand for, whatever follows the closing quote, and it is put together character by character.
Code is read as the sequence of its comments and quoted texts (`Lexes`), so that a text of code stands
for its own sequence wherever it occurs (`Reads`) and two texts stand for both sequences.
-/
namespace ApiMock.Text

/-! ### Quoted texts -/

/-- A way to quote texts, by how they are read from behind the opening quote. -/
structure Quoting where
  /-- The quote at both ends. -/
  quote : Char
  /-- What a character after a backslash stands for, if anything. -/
  unescape? : Char → Option Char
  /-- Whether a character must not stand in the text without a backslash, by the character after it. -/
  refuses : Char → Option Char → Bool
  /-- A backslash is no quote. -/
  quote_ne : quote ≠ '\\'

namespace Quoting

/-- Read a text from behind its opening quote: the text, and what follows the closing quote. There is
nothing to read where the text has no end, or a character that may not stand there. -/
def read (quoting : Quoting) : List Char → Option (List Char × List Char)
  | [] => none
  | c :: rest =>
    if c = quoting.quote then some ([], rest)
    else if c = '\\' then
      match rest with
      | [] => none
      | d :: later =>
        (quoting.unescape? d).bind fun plain =>
          (quoting.read later).map fun (text, after) => (plain :: text, after)
    else if quoting.refuses c rest.head? then none
    else (quoting.read rest).map fun (text, after) => (c :: text, after)

/-- What follows a quoted text is shorter than what it is read from. -/
theorem length_lt_of_read {quoting : Quoting} {source text after : List Char}
    (reads : quoting.read source = some (text, after)) : after.length < source.length := by
  fun_induction read quoting source generalizing text after with
  | case1 => cases reads
  | case2 later =>
    obtain ⟨-, rfl⟩ := Prod.mk.inj (Option.some.inj reads)
    exact Nat.lt_add_one _
  | case3 => cases reads
  | case4 d later _ ih =>
    obtain ⟨plain, -, found⟩ := Option.bind_eq_some_iff.mp reads
    obtain ⟨⟨inner, tail⟩, inside, same⟩ := Option.map_eq_some_iff.mp found
    obtain ⟨-, rfl⟩ := Prod.mk.inj same
    have shorter := ih inside
    simp only [List.length_cons]
    omega
  | case5 => cases reads
  | case6 c later _ _ _ ih =>
    obtain ⟨⟨inner, tail⟩, inside, same⟩ := Option.map_eq_some_iff.mp reads
    obtain ⟨-, rfl⟩ := Prod.mk.inj same
    exact (ih inside).trans (Nat.lt_add_one _)

/-- Characters between two quotes stand for a text: it is what is read there, up to the closing quote
and no further, whatever follows. -/
def Holds (quoting : Quoting) (inside text : List Char) : Prop :=
  ∀ rest, quoting.read (inside ++ quoting.quote :: rest) = some (text, rest)

variable {quoting : Quoting} {inside text : List Char}

/-- Nothing between two quotes is the empty text. -/
theorem holds_nil (quoting : Quoting) : quoting.Holds [] [] := by
  intro rest
  rw [List.nil_append, read.eq_def]
  exact if_pos rfl

/-- A backslash and a character stand for what the character is read as there. -/
theorem Holds.escaped {c d : Char} (stands : quoting.unescape? d = some c)
    (holds : quoting.Holds inside text) : quoting.Holds ('\\' :: d :: inside) (c :: text) := by
  intro rest
  rw [List.cons_append, List.cons_append, read, if_neg quoting.quote_ne.symm, if_pos rfl]
  simp only [stands, Option.bind_some, holds rest, Option.map_some]

/-- A character that is neither quote nor backslash stands for itself where it is not refused. -/
theorem Holds.plain {c : Char} (noQuote : c ≠ quoting.quote) (noBackslash : c ≠ '\\')
    (allowed : quoting.refuses c ((inside.head?).getD quoting.quote) = false)
    (holds : quoting.Holds inside text) : quoting.Holds (c :: inside) (c :: text) := by
  intro rest
  have next : (inside ++ quoting.quote :: rest).head? =
      some ((inside.head?).getD quoting.quote) := by
    cases inside <;> rfl
  rw [List.cons_append, read.eq_def]
  simp only [if_neg noQuote, if_neg noBackslash, next, allowed, holds rest]
  rfl

end Quoting

/-- Single quotes: of the characters after a backslash, a backslash and a quote stand for themselves, and
two letters for the ends of lines, which must not stand there as they are. -/
def singleQuotes : Quoting where
  quote := '\''
  unescape? c :=
    if c = '\\' ∨ c = '\'' then some c
    else if c = 'n' then some '\n'
    else if c = 'r' then some '\r'
    else none
  refuses c _ := c == '\n' || c == '\r'
  quote_ne := by decide

/-- Quotes of templates: any character after a backslash stands for itself, and a dollar sign before a
brace would open a substitution. -/
def templateQuotes : Quoting where
  quote := '\x60'
  unescape? := some
  refuses c next := c == '$' && next == some '\x7b'
  quote_ne := by decide

/-! ### Comments -/

/-- Whether two characters do not end a comment when they stand side by side. -/
def KeepsComment (c d : Char) : Prop := ¬ (c = '*' ∧ d = '/')

instance (c d : Char) : Decidable (KeepsComment c d) := inferInstanceAs (Decidable (¬ _))

/-- Texts that do not end a comment do not do so together where they meet at another character. -/
theorem isChain_toList_append {first second : String} (left : first.toList.IsChain KeepsComment)
    (right : second.toList.IsChain KeepsComment)
    (apart : first.toList.getLast? ≠ some '*' ∨ second.toList.head? ≠ some '/') :
    (first ++ second).toList.IsChain KeepsComment := by
  rw [String.toList_append, List.isChain_append]
  refine ⟨left, right, fun c last d head both => ?_⟩
  obtain ⟨rfl, rfl⟩ := both
  exact apart.elim (· last) (· head)

/-- Read a comment from behind its opening: what stands in it, and what follows its end. -/
def readComment : List Char → Option (List Char × List Char)
  | [] => none
  | c :: rest =>
    if c = '*' ∧ rest.head? = some '/' then some ([], rest.tail)
    else (readComment rest).map fun (text, after) => (c :: text, after)

/-- A comment that has no end inside is read up to the end that is put after it. -/
theorem readComment_append {inside : List Char} (kept : inside.IsChain KeepsComment)
    (rest : List Char) : readComment (inside ++ '*' :: '/' :: rest) = some (inside, rest) := by
  induction inside with
  | nil =>
    rw [List.nil_append, readComment, if_pos ⟨rfl, rfl⟩]
    rfl
  | cons c inside ih =>
    have goesOn : ¬ (c = '*' ∧ (inside ++ '*' :: '/' :: rest).head? = some '/') := by
      rintro ⟨star, slash⟩
      cases inside with
      | nil => cases slash
      | cons d inside =>
        exact (List.isChain_cons_cons.mp kept).1 ⟨star, Option.some.inj slash⟩
    rw [List.cons_append, readComment, if_neg goesOn, ih kept.tail]
    rfl

/-- What follows a comment is shorter than what it is read from. -/
theorem length_lt_of_readComment {source text after : List Char}
    (reads : readComment source = some (text, after)) : after.length < source.length := by
  induction source generalizing text after with
  | nil => cases reads
  | cons c rest ih =>
    rw [readComment] at reads
    split at reads
    · obtain ⟨-, rfl⟩ := Prod.mk.inj (Option.some.inj reads)
      rw [List.length_tail, List.length_cons]
      omega
    · obtain ⟨⟨inner, tail⟩, inside, same⟩ := Option.map_eq_some_iff.mp reads
      obtain ⟨-, rfl⟩ := Prod.mk.inj same
      exact (ih inside).trans (Nat.lt_add_one _)

/-! ### Sequences of comments and quoted texts -/

/-- What is set apart from code: a comment or a quoted text. -/
inductive Token where
  /-- A comment. -/
  | comment (text : String)
  /-- A text in single quotes. -/
  | single (text : String)
  /-- A template without substitutions. -/
  | template (text : String)
  deriving DecidableEq, Repr

/-- A character of code that opens neither a comment nor a quoted text. -/
def IsCode (c : Char) : Prop := c ≠ '/' ∧ c ≠ '"' ∧ c ≠ '\'' ∧ c ≠ '\x60'

instance (c : Char) : Decidable (IsCode c) := inferInstanceAs (Decidable (_ ∧ _))

/-- Read what is set apart at the start of code, if it starts with a comment or a quoted text. -/
def readToken : List Char → Option (Token × List Char)
  | '/' :: '*' :: inside =>
    (readComment inside).map fun (text, after) => (.comment (String.ofList text), after)
  | '\'' :: inside =>
    (singleQuotes.read inside).map fun (text, after) => (.single (String.ofList text), after)
  | '\x60' :: inside =>
    (templateQuotes.read inside).map fun (text, after) => (.template (String.ofList text), after)
  | _ => none

/-- What follows a comment or a quoted text is shorter than what it is read from. -/
theorem length_lt_of_readToken {source after : List Char} {token : Token}
    (reads : readToken source = some (token, after)) : after.length < source.length := by
  unfold readToken at reads
  split at reads
  · obtain ⟨⟨text, tail⟩, inside, same⟩ := Option.map_eq_some_iff.mp reads
    obtain ⟨-, rfl⟩ := Prod.mk.inj same
    have shorter := length_lt_of_readComment inside
    simp only [List.length_cons]
    omega
  · obtain ⟨⟨text, tail⟩, inside, same⟩ := Option.map_eq_some_iff.mp reads
    obtain ⟨-, rfl⟩ := Prod.mk.inj same
    exact (Quoting.length_lt_of_read inside).trans (Nat.lt_add_one _)
  · obtain ⟨⟨text, tail⟩, inside, same⟩ := Option.map_eq_some_iff.mp reads
    obtain ⟨-, rfl⟩ := Prod.mk.inj same
    exact (Quoting.length_lt_of_read inside).trans (Nat.lt_add_one _)
  · cases reads

/-- Nothing is set apart where a character of code stands. -/
theorem readToken_of_isCode {c : Char} (plain : IsCode c) (rest : List Char) :
    readToken (c :: rest) = none := by
  obtain ⟨noSlash, -, noQuote, noTemplate⟩ := plain
  unfold readToken
  split
  · rename_i same
    exact absurd (List.cons.inj same).1 noSlash
  · rename_i same
    exact absurd (List.cons.inj same).1 noQuote
  · rename_i same
    exact absurd (List.cons.inj same).1 noTemplate
  · rfl

/-- Code has some comments and quoted texts, in order, before the rest of it. -/
inductive Lexes : List Char → List Token → List Char → Prop
  /-- The rest. -/
  | done (rest : List Char) : Lexes rest [] rest
  /-- A character of code. -/
  | code {c : Char} {source rest : List Char} {tokens : List Token} (plain : IsCode c)
      (later : Lexes source tokens rest) : Lexes (c :: source) tokens rest
  /-- A comment or a quoted text. -/
  | token {source after rest : List Char} {token : Token} {tokens : List Token}
      (reads : readToken source = some (token, after)) (later : Lexes after tokens rest) :
      Lexes source (token :: tokens) rest

namespace Lexes

variable {source middle rest : List Char} {tokens others : List Token}

/-- What is read in two stretches. -/
theorem trans (first : Lexes source tokens middle) (second : Lexes middle others rest) :
    Lexes source (tokens ++ others) rest := by
  induction first with
  | done _ => exact second
  | code plain _ ih => exact .code plain (ih second)
  | token reads _ ih => exact .token reads (ih second)

/-- Code does not grow as it is read. -/
theorem length_le (lexes : Lexes source tokens rest) : rest.length ≤ source.length := by
  induction lexes with
  | done rest => exact le_rfl
  | code _ _ ih => exact ih.trans (Nat.le_succ _)
  | token reads _ ih => exact ih.trans (length_lt_of_readToken reads).le

/-- Code has one sequence only of comments and quoted texts before the rest of it. -/
theorem unique (first : Lexes source tokens rest) (second : Lexes source others rest) :
    tokens = others := by
  induction first generalizing others with
  | done rest =>
    cases second with
    | done => rfl
    | code plain later => exact absurd later.length_le (Nat.not_succ_le_self _)
    | token reads later => exact absurd later.length_le (length_lt_of_readToken reads).not_ge
  | code plain later ih =>
    cases second with
    | done => exact absurd later.length_le (Nat.not_succ_le_self _)
    | code _ other => exact ih other
    | token reads _ =>
      rw [readToken_of_isCode plain] at reads
      cases reads
  | token reads later ih =>
    cases second with
    | done => exact absurd later.length_le (length_lt_of_readToken reads).not_ge
    | code plain _ =>
      rw [readToken_of_isCode plain] at reads
      cases reads
    | token found other =>
      obtain ⟨rfl, rfl⟩ := Prod.mk.inj (Option.some.inj (reads.symm.trans found))
      rw [ih other]

end Lexes

/-- A text has some comments and quoted texts, in order, wherever it stands in code. -/
def Reads (text : String) (tokens : List Token) : Prop :=
  ∀ rest, Lexes (text.toList ++ rest) tokens rest

namespace Reads

variable {first second : String} {tokens others : List Token}

/-- Two texts have what both of them have. -/
theorem append (left : Reads first tokens) (right : Reads second others) :
    Reads (first ++ second) (tokens ++ others) := by
  intro rest
  rw [String.toList_append, List.append_assoc]
  exact (left _).trans (right rest)

/-- Code without slashes and quotes has nothing set apart. -/
theorem code {text : String} (plain : ∀ c ∈ text.toList, IsCode c) : Reads text [] := by
  intro rest
  generalize text.toList = chars at plain
  induction chars with
  | nil => exact .done rest
  | cons c chars ih =>
    obtain ⟨one, others⟩ := List.forall_mem_cons.mp plain
    exact .code one (ih others)

/-- A text of code that is checked character by character. -/
theorem fixed {text : String} (plain : text.toList.all (fun c => decide (IsCode c)) = true) :
    Reads text [] :=
  code (forall_mem_of_all plain)

/-- Code after a text adds nothing. -/
theorem append_code (left : Reads first tokens) (right : Reads second []) :
    Reads (first ++ second) tokens := by
  have both := left.append right
  rwa [List.append_nil] at both

/-- A comment that has no end inside, and what comes after it. -/
theorem comment {inside tail : String} (kept : inside.toList.IsChain KeepsComment)
    (later : Reads tail tokens) :
    Reads ("/*" ++ (inside ++ ("*/" ++ tail))) (.comment inside :: tokens) := by
  intro rest
  have parts : ("/*" ++ (inside ++ ("*/" ++ tail))).toList ++ rest =
      '/' :: '*' :: (inside.toList ++ '*' :: '/' :: (tail.toList ++ rest)) := by
    simp [String.toList_append]
  have reads : readToken ('/' :: '*' :: (inside.toList ++ '*' :: '/' :: (tail.toList ++ rest))) =
      some (.comment inside, tail.toList ++ rest) := by
    rw [readToken, readComment_append kept]
    simp only [Option.map_some, String.ofList_toList]
  rw [parts]
  exact .token reads (later rest)

/-- A quoted text, and what comes after it. -/
theorem quoted {quoting : Quoting} {token : String → Token}
    (opens : ∀ source, readToken (quoting.quote :: source) =
      (quoting.read source).map fun (text, after) => (token (String.ofList text), after))
    {mark inside text tail : String} (marked : mark.toList = [quoting.quote])
    (holds : quoting.Holds inside.toList text.toList) (later : Reads tail tokens) :
    Reads (mark ++ (inside ++ (mark ++ tail))) (token text :: tokens) := by
  intro rest
  have parts : (mark ++ (inside ++ (mark ++ tail))).toList ++ rest =
      quoting.quote :: (inside.toList ++ quoting.quote :: (tail.toList ++ rest)) := by
    simp [String.toList_append, marked]
  have reads : readToken (quoting.quote :: (inside.toList ++ quoting.quote ::
      (tail.toList ++ rest))) = some (token text, tail.toList ++ rest) := by
    rw [opens, holds]
    simp only [Option.map_some, String.ofList_toList]
  rw [parts]
  exact .token reads (later rest)

/-- A text in single quotes, and what comes after it. -/
theorem single {inside text tail : String}
    (holds : singleQuotes.Holds inside.toList text.toList) (later : Reads tail tokens) :
    Reads ("'" ++ (inside ++ ("'" ++ tail))) (.single text :: tokens) :=
  quoted (fun _ => rfl) (by decide) holds later

/-- A template, and what comes after it. -/
theorem template {inside text tail : String}
    (holds : templateQuotes.Holds inside.toList text.toList) (later : Reads tail tokens) :
    Reads ("\x60" ++ (inside ++ ("\x60" ++ tail))) (.template text :: tokens) :=
  quoted (fun _ => rfl) (by decide) holds later

section List

variable {α : Type} {entries : List α} {text : α → String} {found : α → List Token}

/-- Texts one after the other have what each of them has. -/
theorem join (each : ∀ entry ∈ entries, Reads (text entry) (found entry)) :
    Reads (String.join (entries.map text)) (entries.flatMap found) := by
  induction entries with
  | nil => exact .done
  | cons entry entries ih =>
    obtain ⟨one, others⟩ := List.forall_mem_cons.mp each
    rw [List.map_cons, String.join_cons, List.flatMap_cons]
    exact one.append (ih others)

/-- Texts between separators of code have what each of them has. -/
theorem intercalate {separator : String} (between : Reads separator [])
    (each : ∀ entry ∈ entries, Reads (text entry) (found entry)) :
    Reads (separator.intercalate (entries.map text)) (entries.flatMap found) := by
  induction entries with
  | nil => exact .done
  | cons entry entries ih =>
    obtain ⟨one, others⟩ := List.forall_mem_cons.mp each
    cases entries with
    | nil => simpa using one
    | cons next last =>
      have more : (next :: last).map text ≠ [] := List.cons_ne_nil _ _
      rw [List.map_cons, String.intercalate_cons_of_ne_nil more, List.flatMap_cons]
      exact (one.append_code between).append (ih others)

end List

end Reads

end ApiMock.Text
