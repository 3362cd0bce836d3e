import ApiMock.Json.Writer
/-!
# Brackets and strings of code

Code is scanned from left to right: brackets of three kinds are opened and closed, and strings in
double quotes are passed over, where a backslash takes the character after it along. `Passes` says
which brackets a text closes and which it leaves open. It does so beneath any other open brackets
(`Passes.under`), so texts are put together from what their parts do (`Passes.append`), and the
bracket that opens a block stays open until the end of the block (`Passes.afterBlock`).
-/
namespace ApiMock

/-- The kinds of brackets. -/
inductive Bracket where
  /-- Parentheses. -/
  | round
  /-- Square brackets. -/
  | square
  /-- Braces. -/
  | curly
  deriving DecidableEq, Repr

namespace Bracket

/-- The bracket that a character opens. -/
def opening? (c : Char) : Option Bracket :=
  if c = '(' then some round
  else if c = '[' then some square
  else if c = '\x7b' then some curly
  else none

/-- The bracket that a character closes. -/
def closing? (c : Char) : Option Bracket :=
  if c = ')' then some round
  else if c = ']' then some square
  else if c = '\x7d' then some curly
  else none

end Bracket

/-- What the next character of a scan belongs to. -/
inductive ScanMode where
  /-- Code outside of strings. -/
  | code
  /-- A string. -/
  | text
  /-- A string, and a backslash stands right before. -/
  | escaped
  deriving DecidableEq, Repr

/-- How far a scan of code has come. -/
structure Scan where
  /-- The brackets that are open, the innermost first. -/
  opened : List Bracket := []
  /-- What the next character belongs to. -/
  mode : ScanMode := .code
  deriving DecidableEq, Repr

namespace Scan

/-- The scan after a character of code; nothing where the character closes another bracket than
the innermost one. -/
def codeStep (opened : List Bracket) (c : Char) : Option Scan :=
  if c = '"' then some ⟨opened, .text⟩
  else
    match Bracket.opening? c, Bracket.closing? c with
    | some bracket, _ => some ⟨bracket :: opened, .code⟩
    | none, some bracket =>
      match opened with
      | [] => none
      | top :: rest => if top = bracket then some ⟨rest, .code⟩ else none
    | none, none => some ⟨opened, .code⟩

/-- The scan after one more character. -/
def step (scan : Scan) (c : Char) : Option Scan :=
  match scan.mode with
  | .code => codeStep scan.opened c
  | .text =>
    some ⟨scan.opened, if c = '"' then .code else if c = '\\' then .escaped else .text⟩
  | .escaped => some ⟨scan.opened, .text⟩

/-- The scan after more characters. -/
def run (scan : Scan) : List Char → Option Scan
  | [] => some scan
  | c :: rest => (scan.step c).bind fun next => next.run rest

/-- What follows the character that closes the outermost open bracket. -/
def afterClosing (scan : Scan) : List Char → Option (List Char)
  | [] => none
  | c :: rest =>
    (scan.step c).bind fun next =>
      if next = {} then some rest else next.afterClosing rest

/-- A scan that stands beneath further open brackets. -/
def under (scan : Scan) (outer : List Bracket) : Scan :=
  { scan with opened := scan.opened ++ outer }

/-- To scan two texts is to scan the second from where the first leads. -/
theorem run_append (scan : Scan) (first second : List Char) :
    scan.run (first ++ second) = (scan.run first).bind fun next => next.run second := by
  induction first generalizing scan with
  | nil => rfl
  | cons c rest ih =>
    rw [List.cons_append, run, run]
    cases scan.step c with
    | none => rfl
    | some next => exact ih next

/-- Further open brackets do not change what a character of code does. -/
theorem codeStep_append {opened : List Bracket} {c : Char} {next : Scan} (outer : List Bracket)
    (reads : codeStep opened c = some next) :
    codeStep (opened ++ outer) c = some (next.under outer) := by
  unfold codeStep at reads ⊢
  split at reads
  · rename_i quote
    cases reads
    rw [if_pos quote]
    rfl
  · rename_i other
    rw [if_neg other]
    split at reads
    · cases reads
      rfl
    · rename_i bracket _ _
      cases opened with
      | nil => cases reads
      | cons top rest =>
        simp only [List.cons_append] at reads ⊢
        split at reads
        · rename_i same
          cases reads
          rw [if_pos same]
          rfl
        · cases reads
    · cases reads
      rfl

/-- Further open brackets do not change what a character does. -/
theorem step_under {scan next : Scan} {c : Char} (outer : List Bracket)
    (reads : scan.step c = some next) :
    (scan.under outer).step c = some (next.under outer) := by
  obtain ⟨opened, mode⟩ := scan
  cases mode with
  | code => exact codeStep_append outer reads
  | text | escaped =>
    cases reads
    rfl

/-- Further open brackets do not change what a text does. -/
theorem run_under {scan next : Scan} {text : List Char} (outer : List Bracket)
    (reads : scan.run text = some next) :
    (scan.under outer).run text = some (next.under outer) := by
  induction text generalizing scan with
  | nil =>
    cases reads
    rfl
  | cons c rest ih =>
    obtain ⟨middle, first, later⟩ := Option.bind_eq_some_iff.mp reads
    rw [run, step_under outer first]
    exact ih later

/-- A text that can be scanned on its own does not close the bracket that it stands in. -/
theorem afterClosing_append {scan next : Scan} {text : List Char} (bracket : Bracket)
    (outer : List Bracket) (reads : scan.run text = some next) (rest : List Char) :
    (scan.under (bracket :: outer)).afterClosing (text ++ rest) =
      (next.under (bracket :: outer)).afterClosing rest := by
  induction text generalizing scan with
  | nil =>
    cases reads
    rfl
  | cons c later ih =>
    obtain ⟨middle, first, onward⟩ := Option.bind_eq_some_iff.mp reads
    have within : middle.under (bracket :: outer) ≠ {} := by
      simp [under]
    rw [List.cons_append, afterClosing, step_under _ first, Option.bind_some, if_neg within]
    exact ih onward

end Scan

/-- What follows the bracket that closes the one at the start of a text; nothing for a text that
does not start with a bracket, or where it is not closed. -/
def afterBlock (text : String) : Option String :=
  match text.toList with
  | [] => none
  | c :: rest =>
    (Bracket.opening? c).bind fun bracket =>
      (Scan.afterClosing ⟨[bracket], .code⟩ rest).map String.ofList

/-- What holds of each character of a list, checked one by one, holds of all that are in it. To
decide such a statement by trying every character there is takes too long. -/
theorem forall_mem_of_all {property : Char → Prop} [DecidablePred property] {text : List Char}
    (all : text.all (fun c => decide (property c)) = true) : ∀ c ∈ text, property c :=
  fun c listed => of_decide_eq_true (List.all_eq_true.mp all c listed)

/-- A text of code that leads from some open brackets to others, and has no control characters. -/
structure Passes (before : List Bracket) (text : String) (after : List Bracket) : Prop where
  /-- The text starts and ends outside of strings, and matches brackets in between. -/
  reads : Scan.run ⟨before, .code⟩ text.toList = some ⟨after, .code⟩
  /-- No control character stands in the text, in strings neither. -/
  visible : ∀ c ∈ text.toList, 0x20 ≤ c.toNat

instance (before : List Bracket) (text : String) (after : List Bracket) :
    Decidable (Passes before text after) :=
  decidable_of_iff
    (Scan.run ⟨before, .code⟩ text.toList = some ⟨after, .code⟩ ∧
      text.toList.all (fun c => decide (0x20 ≤ c.toNat)) = true)
    ⟨fun ⟨reads, visible⟩ => ⟨reads, forall_mem_of_all visible⟩, fun ⟨reads, visible⟩ =>
      ⟨reads, List.all_eq_true.mpr fun c listed => decide_eq_true (visible c listed)⟩⟩

namespace Passes

variable {before middle after : List Bracket} {text first second : String}

/-- A text does the same beneath further open brackets. -/
theorem under (passes : Passes before text after) (outer : List Bracket) :
    Passes (before ++ outer) text (after ++ outer) :=
  ⟨Scan.run_under outer passes.reads, passes.visible⟩

/-- A text may stand beneath any open brackets if it leaves none of its own. -/
theorem within (passes : Passes [] text []) (opened : List Bracket) : Passes opened text opened :=
  passes.under opened

/-- A text leads on from where the text before it leads. -/
theorem append (left : Passes before first middle) (right : Passes middle second after) :
    Passes before (first ++ second) after where
  reads := by rw [String.toList_append, Scan.run_append, left.reads, Option.bind_some, right.reads]
  visible c listed := by
    rw [String.toList_append, List.mem_append] at listed
    exact listed.elim (left.visible c) (right.visible c)

/-- Texts between separators, all of which leave the open brackets as they are. -/
theorem intercalate {opened : List Bracket} {separator : String} {texts : List String}
    (between : Passes opened separator opened)
    (each : ∀ text ∈ texts, Passes opened text opened) :
    Passes opened (separator.intercalate texts) opened := by
  induction texts with
  | nil => exact ⟨rfl, nofun⟩
  | cons head rest ih =>
    obtain ⟨one, others⟩ := List.forall_mem_cons.mp each
    cases rest with
    | nil => simpa using one
    | cons next last =>
      rw [String.intercalate_cons_of_ne_nil (List.cons_ne_nil _ _)]
      exact (one.append between).append (ih others)

/-- The bracket that opens a block is closed right after a text that stands in the block and leaves
no bracket open. -/
theorem afterBlock (passes : Passes [] text []) (rest : String) :
    ApiMock.afterBlock ("\x7b" ++ text ++ "\x7d" ++ rest) = some rest := by
  have inside : Scan.afterClosing ⟨[.curly], .code⟩ (text.toList ++ '\x7d' :: rest.toList) =
      some rest.toList :=
    Scan.afterClosing_append .curly [] passes.reads ('\x7d' :: rest.toList)
  have split : ("\x7b" ++ text ++ "\x7d" ++ rest).toList =
      '\x7b' :: (text.toList ++ '\x7d' :: rest.toList) := by
    simp [String.toList_append]
  have opens : Bracket.opening? '\x7b' = some .curly := rfl
  simp only [ApiMock.afterBlock, split, opens, Option.bind_some, inside, Option.map_some,
    String.ofList_toList]

end Passes

/-! ### Plain texts -/

/-- A visible character that neither opens nor closes anything. -/
structure IsPlain (c : Char) : Prop where
  /-- No string starts or ends here. -/
  unquoted : c ≠ '"'
  /-- No bracket is opened. -/
  opens : Bracket.opening? c = none
  /-- No bracket is closed. -/
  closes : Bracket.closing? c = none
  /-- It is no control character. -/
  visible : 0x20 ≤ c.toNat

instance : DecidablePred IsPlain := fun c =>
  decidable_of_iff
    (c ≠ '"' ∧ Bracket.opening? c = none ∧ Bracket.closing? c = none ∧ 0x20 ≤ c.toNat)
    ⟨fun ⟨unquoted, opens, closes, visible⟩ => ⟨unquoted, opens, closes, visible⟩,
      fun ⟨unquoted, opens, closes, visible⟩ => ⟨unquoted, opens, closes, visible⟩⟩

/-- Digits are plain. -/
theorem isPlain_of_isDigit {c : Char} (digit : c.isDigit) : IsPlain c := by
  have other : ∀ d : Char, d.isDigit = false → c ≠ d := by
    rintro d unlike rfl
    rw [unlike] at digit
    cases digit
  refine ⟨other '"' rfl, ?_, ?_, ?_⟩
  · simp [Bracket.opening?, other '(' rfl, other '[' rfl, other '\x7b' rfl]
  · simp [Bracket.closing?, other ')' rfl, other ']' rfl, other '\x7d' rfl]
  · have range : '0'.toNat ≤ c.toNat ∧ c.toNat ≤ '9'.toNat := Char.isDigit_iff_toNat.mp digit
    have zero : '0'.toNat = 48 := rfl
    omega

/-- Plain characters leave the open brackets as they are. -/
theorem Scan.run_plain {opened : List Bracket} {text : List Char}
    (plain : ∀ c ∈ text, IsPlain c) : run ⟨opened, .code⟩ text = some ⟨opened, .code⟩ := by
  induction text with
  | nil => rfl
  | cons c rest ih =>
    obtain ⟨first, later⟩ := List.forall_mem_cons.mp plain
    have stays : step ⟨opened, .code⟩ c = some ⟨opened, .code⟩ := by
      simp [step, codeStep, first.unquoted, first.opens, first.closes]
    rw [run, stays]
    exact ih later

/-- A text of plain characters leaves the open brackets as they are. -/
theorem Passes.plain {text : String} (plain : ∀ c ∈ text.toList, IsPlain c) :
    Passes [] text [] :=
  ⟨Scan.run_plain plain, fun c listed => (plain c listed).visible⟩

/-- The digits of a natural are plain. -/
theorem isPlain_of_mem_repr {n : Nat} {c : Char} (listed : c ∈ (Nat.repr n).toList) :
    IsPlain c := by
  rw [Nat.toList_repr] at listed
  exact isPlain_of_isDigit (Nat.isDigit_of_mem_toDigits (by decide) (by decide) listed)

end ApiMock
