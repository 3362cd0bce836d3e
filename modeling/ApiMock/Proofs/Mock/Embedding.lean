import ApiMock.Mock.Source
import ApiMock.Proofs.Mock.AccessorName
import ApiMock.Proofs.Text.Literal
/-!
# Texts within the module

The texts of a document and of the options stand in the module in single quotes, in templates and in the
comment at its head. Quoting is undone by reading (`holds_singleQuoted`, `holds_templateQuoted`), and
what is put into a comment has neither its end nor an end of line. The template form replaces pairs of
characters in a text that has been escaped before. It is nevertheless read character by character: each
gets a backslash or not by itself and the character after it (`templateChars_cons`). So the module, read
from its start, has the texts in their places and nothing else set apart from code, up to the functions
(`moduleSource_lexes`).
-/
namespace ApiMock

open Text Unicode

/-! ### Quoting -/

/-- A character within single quotes has a backslash before what it is read from, or is as it was and may
stand there. -/
theorem escapeSingleQuoted_cases (c : Char) :
    (∃ d, escapeSingleQuoted c = ['\\', d] ∧ singleQuotes.unescape? d = some c) ∨
      (escapeSingleQuoted c = [c] ∧ c ≠ '\'' ∧ c ≠ '\\' ∧
        ∀ next, singleQuotes.refuses c next = false) := by
  by_cases backslash : c = '\\'
  · subst backslash
    exact .inl ⟨'\\', rfl, rfl⟩
  by_cases quote : c = '\''
  · subst quote
    exact .inl ⟨'\'', rfl, rfl⟩
  by_cases feed : c = '\n'
  · subst feed
    exact .inl ⟨'n', rfl, rfl⟩
  by_cases carriage : c = '\r'
  · subst carriage
    exact .inl ⟨'r', rfl, rfl⟩
  have same : escapeSingleQuoted c = [c] := by
    rw [escapeSingleQuoted, if_neg backslash, if_neg quote, if_neg feed, if_neg carriage]
  have allowed : ∀ next, singleQuotes.refuses c next = false := fun _ => by
    simp [singleQuotes, feed, carriage]
  exact .inr ⟨same, quote, backslash, allowed⟩

/-- A text as it stands in single quotes is read as the text. -/
theorem holds_singleQuoted (text : String) :
    singleQuotes.Holds (singleQuoted text).toList text.toList := by
  rw [singleQuoted, onChars, String.toList_ofList]
  induction text.toList with
  | nil => exact Quoting.holds_nil _
  | cons c rest ih =>
    rw [List.flatMap_cons]
    rcases escapeSingleQuoted_cases c with
      ⟨d, escaped, stands⟩ | ⟨same, noQuote, noBackslash, allowed⟩
    · rw [escaped]
      exact .escaped stands ih
    · rw [same]
      exact .plain noQuote noBackslash (allowed _) ih

/-- A text of characters that need no backslash stands in single quotes as it is. -/
theorem singleQuoted_eq_self {text : String}
    (plain : ∀ c ∈ text.toList, escapeSingleQuoted c = [c]) : singleQuoted text = text := by
  have same : text.toList.flatMap escapeSingleQuoted = text.toList := by
    rw [List.flatMap_congr plain, List.flatMap_singleton']
  rw [singleQuoted, onChars, same, String.ofList_toList]

/-- A character stays where it does not begin the pair that is replaced. -/
theorem replacePair_cons {first second c : Char} {replacement rest : List Char}
    (apart : ¬ (c = first ∧ rest.head? = some second)) :
    replacePair first second replacement (c :: rest) =
      c :: replacePair first second replacement rest := by
  cases rest with
  | nil => rfl
  | cons d rest =>
    rw [replacePair, if_neg]
    rintro ⟨same, rfl⟩
    exact apart ⟨same, rfl⟩

/-- A brace comes first in the escaped text only where it does so in the text. -/
theorem head?_flatMap_escapeTemplateChar {text : List Char}
    (brace : (text.flatMap escapeTemplateChar).head? = some '\x7b') : text.head? = some '\x7b' := by
  cases text with
  | nil => cases brace
  | cons c rest =>
    rw [List.flatMap_cons, escapeTemplateChar] at brace
    have marks : ¬ ('\\' = '\x7b') := by decide
    split at brace
    · exact absurd (Option.some.inj brace) marks
    · split at brace
      · exact absurd (Option.some.inj brace) marks
      · exact brace

/-- A character gets a backslash in a template if it is a backslash or a quote, or a dollar sign with a
brace after it. -/
theorem templateChars_cons (c : Char) (rest : List Char) :
    templateChars (c :: rest) =
      (if c = '\\' ∨ c = '\x60' ∨ (c = '$' ∧ rest.head? = some '\x7b') then ['\\', c] else [c]) ++
        templateChars rest := by
  rw [templateChars, List.flatMap_cons, escapeTemplateChar]
  by_cases backslash : c = '\\'
  · have plain : ¬ ('\\' = '$') := by decide
    rw [if_pos backslash, if_pos (.inl backslash), backslash]
    exact (replacePair_cons fun pair => plain pair.1).trans
      (congrArg _ (replacePair_cons fun pair => plain pair.1))
  · rw [if_neg backslash]
    by_cases quote : c = '\x60'
    · have plain : ¬ ('\\' = '$') ∧ ¬ ('\x60' = '$') := by decide
      rw [if_pos quote, if_pos (.inr (.inl quote)), quote]
      exact (replacePair_cons fun pair => plain.1 pair.1).trans
        (congrArg _ (replacePair_cons fun pair => plain.2 pair.1))
    · rw [if_neg quote, List.singleton_append]
      by_cases pair : c = '$' ∧ rest.head? = some '\x7b'
      · -- The brace is written after the backslash and the dollar sign, and is not looked at again.
        obtain ⟨rfl, brace⟩ := pair
        obtain ⟨later, rfl⟩ := List.head?_eq_some_iff.mp brace
        rw [if_pos (.inr (.inr ⟨rfl, rfl⟩)), templateChars, List.flatMap_cons]
        have kept : escapeTemplateChar '\x7b' = ['\x7b'] := by decide
        have single : ¬ ('\x7b' = '$' ∧ (later.flatMap escapeTemplateChar).head? = some '\x7b') :=
          fun both => absurd both.1 (by decide)
        rw [kept, List.singleton_append, replacePair, if_pos ⟨rfl, rfl⟩, replacePair_cons single]
        rfl
      · have apart : ¬ (c = '$' ∧ (rest.flatMap escapeTemplateChar).head? = some '\x7b') :=
          fun both => pair ⟨both.1, head?_flatMap_escapeTemplateChar both.2⟩
        have unescaped : ¬ (c = '\\' ∨ c = '\x60' ∨ (c = '$' ∧ rest.head? = some '\x7b')) := by
          simp only [backslash, quote, pair, or_self, not_false_eq_true]
        rw [if_neg unescaped, replacePair_cons apart]
        rfl

/-- A brace comes first in a template only where it does so in the text. -/
theorem head?_templateChars {text : List Char}
    (brace : (templateChars text).head?.getD '\x60' = '\x7b') : text.head? = some '\x7b' := by
  cases text with
  | nil => exact absurd brace (by decide)
  | cons c rest =>
    rw [templateChars_cons] at brace
    split at brace
    · have mark : ¬ ('\\' = '\x7b') := by decide
      exact absurd brace mark
    · exact congrArg some brace

/-- A text as it stands in a template is read as the text. -/
theorem holds_templateQuoted (text : String) :
    templateQuotes.Holds (templateQuoted text).toList text.toList := by
  rw [templateQuoted, onChars, String.toList_ofList]
  induction text.toList with
  | nil => exact Quoting.holds_nil _
  | cons c rest ih =>
    rw [templateChars_cons]
    split
    · exact .escaped rfl ih
    · rename_i unescaped
      simp only [not_or] at unescaped
      obtain ⟨noBackslash, noQuote, noPair⟩ := unescaped
      have allowed : (c == '$' && some ((templateChars rest).head?.getD '\x60') == some '\x7b') =
          false := by
        rw [Bool.and_eq_false_iff]
        by_cases dollar : c = '$'
        · have noBrace : (templateChars rest).head?.getD '\x60' ≠ '\x7b' := fun brace =>
            noPair ⟨dollar, head?_templateChars brace⟩
          exact .inr (by simpa using noBrace)
        · exact .inl (by simpa using dollar)
      exact .plain noQuote noBackslash allowed ih

/-- The dollar sign before the brace gets a backslash, the one before it does not. -/
example : templateQuoted "/$$\x7bid\x7d\x60" = "/$\\$\x7bid\x7d\\\x60" := by decide

/-! ### Comments -/

/-- The first character stays where the pair that is replaced becomes a text with the same beginning. -/
theorem head?_replacePair {first second : Char} {more : List Char} (text : List Char) :
    (replacePair first second (first :: more) text).head? = text.head? := by
  cases text with
  | nil => rfl
  | cons c rest =>
    by_cases pair : c = first ∧ rest.head? = some second
    · obtain ⟨rfl, next⟩ := pair
      obtain ⟨later, rfl⟩ := List.head?_eq_some_iff.mp next
      rw [replacePair, if_pos ⟨rfl, rfl⟩]
      rfl
    · rw [replacePair_cons pair]
      rfl

/-- Once the ends of comments are replaced there are none. -/
theorem isChain_replacePair (text : List Char) :
    (replacePair '*' '/' ['*', ' ', '/'] text).IsChain KeepsComment := by
  fun_induction replacePair '*' '/' ['*', ' ', '/'] text with
  | case1 => exact .nil
  | case2 c => exact .singleton c
  | case3 c d rest pair ih =>
    have star : KeepsComment '*' ' ' ∧ KeepsComment ' ' '/' := by decide
    refine .cons_cons star.1 (.cons_cons star.2 (.cons ih fun next _ => ?_))
    exact fun both => absurd both.1 (by decide)
  | case4 c d rest pair ih =>
    refine .cons ih fun next head => ?_
    rw [head?_replacePair] at head
    obtain rfl : d = next := Option.some.inj head
    exact pair

/-- What is put into a comment does not end it. -/
theorem isChain_commentText (title : String) :
    (commentText title).toList.IsChain KeepsComment := by
  rw [commentText, onChars, String.toList_ofList, commentChars, List.isChain_map]
  refine (isChain_replacePair title.toList).imp fun c d keeps both => keeps ?_
  have blank : ¬ (' ' = '*') ∧ ¬ (' ' = '/') := by decide
  obtain ⟨star, slash⟩ := both
  split at star
  · exact absurd star blank.1
  · split at slash
    · exact absurd slash blank.2
    · exact ⟨star, slash⟩

/-- What is put into a comment has no end of a comment and no end of a line. -/
theorem commentText_stays (title : String) :
    ¬ ['*', '/'] <:+: (commentText title).toList ∧
      '\n' ∉ (commentText title).toList ∧ '\r' ∉ (commentText title).toList := by
  have oneLine : ∀ c ∈ (commentText title).toList, c ≠ '\n' ∧ c ≠ '\r' := by
    intro c within
    rw [commentText, onChars, String.toList_ofList, commentChars] at within
    obtain ⟨d, -, rfl⟩ := List.mem_map.mp within
    have blank : ' ' ≠ '\n' ∧ ' ' ≠ '\r' := by decide
    split
    · exact blank
    · rename_i other
      exact not_or.mp other
  refine ⟨fun ends => ?_, fun feed => (oneLine _ feed).1 rfl,
    fun carriage => (oneLine _ carriage).2 rfl⟩
  obtain ⟨before, after, parts⟩ := ends
  have chain := isChain_commentText title
  rw [← parts, List.isChain_append, List.isChain_append] at chain
  obtain ⟨⟨-, pair, -⟩, -, -⟩ := chain
  exact (List.isChain_cons_cons.mp pair).1 ⟨rfl, rfl⟩

/-! ### The module -/

/-- What may stand in a name may stand in code. -/
theorem isCode_of_isNameChar {c : Char} (name : IsNameChar c) : IsCode c := by
  have apart : ∀ {mark}, ¬ IsNameChar mark → c ≠ mark := fun noName same => noName (same ▸ name)
  exact ⟨apart (by decide), apart (by decide), apart (by decide), apart (by decide)⟩

/-- Numerals are code. -/
theorem reads_repr (n : Nat) : Reads (Nat.repr n) [] := by
  refine Reads.code fun c within => isCode_of_isNameChar fun _ => ?_
  rw [Nat.toList_repr] at within
  have digit : c.isDigit = true := Nat.isDigit_of_mem_toDigits (by decide) (by decide) within
  rw [Char.isAlphanum, digit, Bool.or_true]

/-- The arguments that answer with a response are code: the name of its function has no quotes. -/
theorem reads_response {response : Response} {turn : MockResponse}
    (made : Mock.response? response = some turn) : Reads turn.source [] := by
  obtain ⟨status, -, rfl⟩ := Option.map_eq_some_iff.mp made
  have number : Reads ("ctx.status(" ++ Nat.repr status ++ ")") [] :=
    ((Reads.fixed (by decide)).append (reads_repr status)).append (Reads.fixed (by decide))
  have named : ∀ {name}, response.accessorName? = some name → Reads name [] := fun found =>
    Reads.code fun c within => isCode_of_isNameChar (isNameChar_of_mem_accessorName found within)
  rw [MockResponse.source]
  split
  · have opening : Reads ("[" ++ ("ctx.status(" ++ Nat.repr status ++ ")") ++ ", ctx.json(") [] :=
      ((Reads.fixed (by decide)).append number).append (Reads.fixed (by decide))
    refine (opening.append_code ?_).append_code (.fixed (by decide))
    split
    · rename_i name found
      exact (named found).append (Reads.fixed (by decide))
    · exact .fixed (by decide)
  · exact ((Reads.fixed (by decide)).append number).append (Reads.fixed (by decide))

/-- Names of verbs are code. -/
theorem isCode_of_mem_verb (verb : Verb) :
    ∀ c ∈ (lowerAscii (Method.ofVerb verb).name).toList, IsCode c := by
  cases verb <;> exact forall_mem_of_all (by decide)

/-- The responses of a handler are code. -/
theorem reads_responses (operation : Operation) :
    Reads (", ".intercalate ((Mock.handler operation).responses.map MockResponse.source)) [] := by
  have each : ∀ turn ∈ (Mock.handler operation).responses, Reads turn.source [] := by
    intro turn listed
    obtain ⟨response, -, made⟩ := List.mem_filterMap.mp listed
    exact reads_response made
  have comma : Reads ", " [] := .fixed (by decide)
  have reads := comma.intercalate each
  rwa [List.flatMap_eq_nil_iff.mpr fun _ _ => rfl] at reads

/-- The registration of a handler has the route in a template. -/
theorem reads_handler (operation : Operation) :
    Reads (Mock.handler operation).source [.template operation.route] := by
  have quotes : "(\x60" = "(" ++ "\x60" ∧
      "\x60, (req, res, ctx) => \x7b\n      const resultArray = [" =
        "\x60" ++ ", (req, res, ctx) => \x7b\n      const resultArray = [" := by decide
  have method : Reads (lowerAscii (Mock.handler operation).method.name) [] :=
    Reads.code (isCode_of_mem_verb operation.verb)
  rw [Handler.source, quotes.1, quotes.2]
  simp only [String.append_assoc]
  refine (Reads.fixed (by decide)).append (method.append ((Reads.fixed (by decide)).append ?_))
  refine .template (holds_templateQuoted operation.route) ?_
  refine (Reads.fixed (by decide)).append ((reads_responses operation).append ?_)
  exact .fixed (by decide)

/-- The comment at the head of the module, without its ends. -/
def headerComment (title : String) : String :=
  let source := if title.isEmpty then "" else " from \"" ++ commentText title ++ "\""
  "*\n * This file is AUTO GENERATED by mockgen" ++ source ++
    ".\n * Feel free to commit/edit it as you need.\n "

/-- The comment at the head of the module does not end before its end. -/
theorem isChain_headerComment (title : String) :
    (headerComment title).toList.IsChain KeepsComment := by
  have source : (if title.isEmpty then "" else " from \"" ++ commentText title ++ "\"").toList.IsChain
      KeepsComment := by
    split
    · exact .nil
    · have name : (" from \"" ++ commentText title).toList.IsChain KeepsComment :=
        isChain_toList_append (by decide) (isChain_commentText title) (.inl (by decide))
      exact isChain_toList_append name (by decide) (.inr (by decide))
  have opening : "*\n * This file is AUTO GENERATED by mockgen".toList.IsChain KeepsComment := by
    decide
  have before := isChain_toList_append opening source (.inl (by decide))
  exact isChain_toList_append before (by decide) (.inr (by decide))

/-- The head of the module is three comments. -/
theorem reads_headerSource (title : String) :
    Reads (headerSource title)
      [.comment (headerComment title), .comment " eslint-disable ", .comment " tslint:disable "] := by
  have parts : headerSource title =
      "/*" ++ (headerComment title ++ ("*/" ++ ("\n" ++
        ("/*" ++ (" eslint-disable " ++ ("*/" ++ ("\n" ++
          ("/*" ++ (" tslint:disable " ++ ("*/" ++ "\n")))))))))) := by
    unfold headerSource headerComment
    extract_lets source
    apply String.toList_inj.mp
    simp [String.toList_append]
  have feed : Reads "\n" [] := .fixed (by decide)
  rw [parts]
  refine .comment (isChain_headerComment title) (feed.append ?_)
  refine .comment (by decide) (feed.append ?_)
  exact .comment (by decide) feed

/-- The names that the module imports, each with where it comes from. -/
def importedNames (options : Options) : List (String × String) :=
  [("rest", "mswx"), ("faker", "@faker-js/faker")] ++
    (match options.registryImport? with
      | some path => [("generateMock", "@anatine/zod-mock"), ("schemas", path)]
      | none => []) ++
    [if options.node then ("setupServer", "msw/node") else ("setupWorker", "msw")]

/-- A line that imports a name. -/
def importLine (name path : String) : String :=
  "import \x7b " ++ name ++ " \x7d from '" ++ singleQuoted path ++ "';"

/-- The lines of the module that import something. -/
theorem importLines_eq (options : Options) :
    importLines options = (importedNames options).map fun entry => importLine entry.1 entry.2 := by
  have line : ∀ name {path : String}, (∀ c ∈ path.toList, escapeSingleQuoted c = [c]) →
      importLine name path = "import \x7b " ++ name ++ " \x7d from '" ++ path ++ "';" :=
    fun name _ plain => by rw [importLine, singleQuoted_eq_self plain]
  have rest : importLine "rest" "mswx" = "import \x7b rest \x7d from 'mswx';" :=
    (line _ (forall_mem_of_all (by decide))).trans (by decide)
  have faker : importLine "faker" "@faker-js/faker" =
      "import \x7b faker \x7d from '@faker-js/faker';" :=
    (line _ (forall_mem_of_all (by decide))).trans (by decide)
  have generate : importLine "generateMock" "@anatine/zod-mock" =
      "import \x7b generateMock \x7d from '@anatine/zod-mock';" :=
    (line _ (forall_mem_of_all (by decide))).trans (by decide)
  have schemas : ∀ path, importLine "schemas" path =
      "import \x7b schemas \x7d from '" ++ singleQuoted path ++ "';" := by
    have opening : "import \x7b " ++ "schemas" ++ " \x7d from '" =
        "import \x7b schemas \x7d from '" := by decide
    intro path
    rw [importLine, opening]
  have server : importLine "setupServer" "msw/node" =
      "import \x7b setupServer \x7d from 'msw/node';" :=
    (line _ (forall_mem_of_all (by decide))).trans (by decide)
  have worker : importLine "setupWorker" "msw" = "import \x7b setupWorker \x7d from 'msw';" :=
    (line _ (forall_mem_of_all (by decide))).trans (by decide)
  rw [importLines, importedNames]
  cases options.registryImport? <;> cases options.node <;>
    simp only [List.map_append, List.map_cons, List.map_nil, rest, faker, generate, schemas, server,
      worker, Bool.false_eq_true, if_true, if_false]

/-- The imported names are code. -/
theorem isCode_of_mem_importedNames {options : Options} {entry : String × String}
    (listed : entry ∈ importedNames options) : ∀ c ∈ entry.1.toList, IsCode c := by
  have names : entry.1 ∈
      ["rest", "faker", "generateMock", "schemas", "setupServer", "setupWorker"] := by
    rw [importedNames] at listed
    cases found : options.registryImport? <;> cases node : options.node <;>
      simp only [found, node] at listed <;> aesop
  have plain : ∀ name ∈ ["rest", "faker", "generateMock", "schemas", "setupServer", "setupWorker"],
      name.toList.all (fun c => decide (IsCode c)) = true := by decide
  exact forall_mem_of_all (plain entry.1 names)

/-- A line that imports a name has the path in quotes. -/
theorem reads_importLine {name : String} (plain : ∀ c ∈ name.toList, IsCode c) (path : String) :
    Reads (importLine name path ++ "\n") [.single path] := by
  have quotes : " \x7d from '" = " \x7d from " ++ "'" ∧ "';" = "'" ++ ";" := by decide
  rw [importLine, quotes.1, quotes.2]
  simp only [String.append_assoc]
  refine (Reads.fixed (by decide)).append ((Reads.code plain).append ?_)
  refine (Reads.fixed (by decide)).append (.single (holds_singleQuoted path) ?_)
  exact .fixed (by decide)

/-- The lines that import something have the paths in quotes. -/
theorem reads_importLines (options : Options) :
    Reads (String.join ((importLines options).map (· ++ "\n")))
      ((importedNames options).map fun entry => .single entry.2) := by
  have flat : (importedNames options).map (fun entry => Token.single entry.2) =
      (importedNames options).flatMap fun entry => [.single entry.2] := List.map_eq_flatMap
  rw [importLines_eq, List.map_map, flat]
  exact Reads.join fun entry listed => reads_importLine (isCode_of_mem_importedNames listed) entry.2

/-- The registrations of handlers have the routes in templates. -/
theorem reads_handlerSource (options : Options) (operations : List Operation) :
    Reads (Mock.ofOperations options operations).handlerSource
      (operations.map fun operation => .template operation.route) := by
  have handlers : (Mock.ofOperations options operations).handlers =
      operations.map Mock.handler := rfl
  have flat : operations.map (fun operation => Token.template operation.route) =
      operations.flatMap fun operation => [.template operation.route] := List.map_eq_flatMap
  have line : Reads "\n    " [] := .fixed (by decide)
  rw [Mock.handlerSource, handlers, List.map_map, flat]
  exact line.intercalate fun operation _ => reads_handler operation

/-- The counters of paths are code. -/
theorem reads_counterSource (typed : Bool) : Reads (counterSource typed) [] := by
  have declared : Reads (if typed then
      "interface MockContext \x7b\n  next(pathname: string): number;\n\x7d\n\n" ++
        "export function createMockContext(): MockContext \x7b\n" ++
        "  const counters: \x7b [pathname: string]: number \x7d = \x7b\x7d;"
      else "export function createMockContext() \x7b\n  const counters = \x7b\x7d;") [] := by
    split
    · exact ((Reads.fixed (by decide)).append (Reads.fixed (by decide))).append
        (Reads.fixed (by decide))
    · exact .fixed (by decide)
  have annotated : Reads (if typed then ": string" else "") [] :=
    .fixed (by cases typed <;> decide)
  unfold counterSource
  refine ((((declared.append_code ?_).append_code annotated).append_code ?_).append_code
    ?_).append_code ?_
  all_goals exact .fixed (by decide)

/-- The comments and quoted texts of the module up to its functions, in order. -/
def moduleTokens (title baseUrl : String) (options : Options) (operations : List Operation) :
    List Token :=
  [.comment (headerComment title), .comment " eslint-disable ", .comment " tslint:disable "] ++
    ((importedNames options).map (fun entry => .single entry.2) ++
      .single baseUrl :: operations.map fun operation => .template operation.route)

/-- The module up to its functions has its texts in their places. -/
theorem moduleSource_lexes (title baseUrl : String) (options : Options)
    (operations : List Operation) :
    let mock := Mock.ofOperations options operations
    Lexes (moduleSource title baseUrl options mock).toList
      (moduleTokens title baseUrl options operations) mock.accessorSource.toList := by
  intro mock
  have quotes : "\nrest.config.API_PREFIX = '" = "\nrest.config.API_PREFIX = " ++ "'" ∧
      "';\n\n" = "'" ++ ";\n\n" := by decide
  have context : Reads (if options.isTypeScript then ": MockContext" else "") [] :=
    .fixed (by cases options.isTypeScript <;> decide)
  have start : Reads (startSource options.node) [] :=
    .fixed (by cases options.node <;> decide)
  unfold moduleSource
  rw [String.toList_append]
  refine (?_ : Reads _ _) mock.accessorSource.toList
  rw [quotes.1, quotes.2]
  simp only [String.append_assoc]
  refine (reads_headerSource title).append ((reads_importLines options).append ?_)
  refine (Reads.fixed (by decide)).append ((Reads.fixed (by decide)).append ?_)
  refine (Reads.fixed (by decide)).append ((reads_repr _).append ?_)
  refine (Reads.fixed (by decide)).append ((reads_counterSource _).append ?_)
  refine (Reads.fixed (by decide)).append ?_
  refine .single (holds_singleQuoted baseUrl) ?_
  refine (Reads.fixed (by decide)).append ((Reads.fixed (by decide)).append (context.append ?_))
  refine (Reads.fixed (by decide)).append ?_
  refine (reads_handlerSource options operations).append_code ?_
  refine (Reads.fixed (by decide)).append ((Reads.fixed (by decide)).append (start.append ?_))
  exact .fixed (by decide)

/-- Texts that are embedded in the module read back as themselves. What is written between single quotes
is read as the text up to the closing quote, whatever follows, and likewise between the quotes of a
template, where no substitution opens. What is put into the comment at the head has no end of a comment
and no end of a line. So the module up to its functions has one sequence of comments and quoted texts
only, with the paths of the imports, the base URL and the routes as they are. -/
theorem embedded_texts_read_back (text : String) (rest : List Char) (title baseUrl : String)
    (options : Options) (operations : List Operation) :
    singleQuotes.read ((singleQuoted text).toList ++ '\'' :: rest) = some (text.toList, rest) ∧
      templateQuotes.read ((templateQuoted text).toList ++ '\x60' :: rest) =
        some (text.toList, rest) ∧
      (¬ ['*', '/'] <:+: (commentText title).toList ∧
        '\n' ∉ (commentText title).toList ∧ '\r' ∉ (commentText title).toList) ∧
      let mock := Mock.ofOperations options operations
      ∀ tokens, Lexes (moduleSource title baseUrl options mock).toList tokens
          mock.accessorSource.toList ↔ tokens = moduleTokens title baseUrl options operations := by
  refine ⟨holds_singleQuoted text rest, holds_templateQuoted text rest, commentText_stays title, ?_⟩
  intro mock tokens
  have places := moduleSource_lexes title baseUrl options operations
  exact ⟨fun lexes => lexes.unique places, fun same => same ▸ places⟩

end ApiMock
