import ApiMock.Proofs.Json.Position
import ApiMock.Proofs.Text.Brackets
/-!
# Brackets of JSON texts

The text of a value is code that leaves no bracket open and has no control character, whatever its
strings are: quotes and backslashes within them are escaped, so a string ends at its own quote, and
controls are written with letters and digits. Numbers are plain.
-/
namespace ApiMock

namespace NumberLayout

variable {layout : NumberLayout}

/-- Digits that are written without exponent, and what is written around them, are plain. -/
theorem isPlain_of_mem_positional {digits : List Char} {place : Int}
    (plain : ∀ c ∈ digits, IsPlain c) {c : Char} (listed : c ∈ layout.positional digits place) :
    IsPlain c := by
  have zeros : ∀ count, ∀ c ∈ List.replicate count '0', IsPlain c := by
    intro count c listed
    rw [List.eq_of_mem_replicate listed]
    decide
  unfold positional at listed
  split at listed
  · simp only [List.mem_append, List.mem_cons, List.not_mem_nil, or_false] at listed
    rcases listed with ((rfl | rfl) | padding) | digit
    · decide
    · decide
    · exact zeros _ c padding
    · exact plain c digit
  · rw [List.mem_append] at listed
    rcases listed with whole | fraction
    · rcases List.mem_append.mp (List.mem_of_mem_take whole) with digit | padding
      · exact plain c digit
      · exact zeros _ c padding
    · split at fraction
      · split at fraction
        · simp only [List.mem_cons, List.not_mem_nil, or_false] at fraction
          rcases fraction with rfl | rfl <;> decide
        · cases fraction
      · rcases List.mem_cons.mp fraction with rfl | digit
        · decide
        · exact plain c (List.mem_of_mem_drop digit)

/-- Digits that are written with an exponent, and the exponent, are plain. -/
theorem isPlain_of_mem_scientific {digits : List Char} {place : Int}
    (plain : ∀ c ∈ digits, IsPlain c) {c : Char} (listed : c ∈ scientific digits place) :
    IsPlain c := by
  unfold scientific at listed
  simp only [List.mem_append] at listed
  rcases listed with ((first | fraction) | mark) | exponent
  · exact plain c (List.mem_of_mem_take first)
  · split at fraction
    · cases fraction
    · rcases List.mem_cons.mp fraction with rfl | digit
      · decide
      · exact plain c (List.mem_of_mem_drop digit)
  · simp only [List.mem_cons, List.not_mem_nil, or_false] at mark
    rcases mark with rfl | rfl
    · decide
    · split <;> decide
  · exact isPlain_of_isDigit (Nat.isDigit_of_mem_toDigits (by decide) (by decide) exponent)

/-- The text of a positive decimal is plain. -/
theorem isPlain_of_mem_decimal {value : Decimal} {c : Char} (listed : c ∈ layout.decimal value) :
    IsPlain c := by
  have digits : ∀ c ∈ Nat.toDigits 10 value.digits, IsPlain c := fun c listed =>
    isPlain_of_isDigit (Nat.isDigit_of_mem_toDigits (by decide) (by decide) listed)
  simp only [decimal] at listed
  split at listed
  · split at listed
    · exact isPlain_of_mem_positional digits listed
    · exact isPlain_of_mem_scientific digits listed
  · exact isPlain_of_mem_positional digits listed

/-- The text of a magnitude is plain. -/
theorem isPlain_of_mem_magnitude {significand : Nat} {exponent : Int} {c : Char}
    (listed : c ∈ layout.magnitude significand exponent) : IsPlain c := by
  unfold magnitude at listed
  split at listed
  · split at listed
    · exact (forall_mem_of_all (by decide) : ∀ c ∈ ['0', '.', '0'], IsPlain c) c listed
    · exact (forall_mem_of_all (by decide) : ∀ c ∈ ['0'], IsPlain c) c listed
  · exact isPlain_of_mem_decimal listed

/-- The text of a number is plain. -/
theorem isPlain_of_mem_write {x : Binary64} {c : Char} (listed : c ∈ (layout.write x).toList) :
    IsPlain c := by
  unfold write at listed
  split at listed
  · exact (forall_mem_of_all (by decide) : ∀ c ∈ "NaN".toList, IsPlain c) c listed
  · split at listed
    · exact (forall_mem_of_all (by decide) : ∀ c ∈ "-inf".toList, IsPlain c) c listed
    · exact (forall_mem_of_all (by decide) : ∀ c ∈ "inf".toList, IsPlain c) c listed
  · rw [String.toList_ofList, List.mem_append] at listed
    rcases listed with sign | digits
    · split at sign
      · rw [List.mem_singleton.mp sign]
        decide
      · cases sign
    · exact isPlain_of_mem_magnitude digits

end NumberLayout

/-- The JSON text of a number is plain. -/
theorem Number.isPlain_of_mem_text {n : Number} {c : Char} (listed : c ∈ n.text.toList) :
    IsPlain c := by
  cases n with
  | float value => exact NumberLayout.isPlain_of_mem_write listed
  | integer value =>
    simp only [text, integerText] at listed
    split at listed
    · rw [String.toList_append, List.mem_append] at listed
      rcases listed with sign | digit
      · exact (forall_mem_of_all (by decide) : ∀ c ∈ "-".toList, IsPlain c) c sign
      · exact isPlain_of_mem_repr digit
    · exact isPlain_of_mem_repr listed

namespace Json

/-- A hexadecimal digit is plain and no backslash. -/
theorem isPlain_hexDigit (n : Nat) : IsPlain (hexDigit n) ∧ hexDigit n ≠ '\\' := by
  have digits : ∀ digit < 16, IsPlain ((Nat.toDigits 16 digit).headD '0') ∧
      (Nat.toDigits 16 digit).headD '0' ≠ '\\' := by decide
  exact digits (n % 16) (Nat.mod_lt n (by decide))

/-- A character of a string is escaped by a letter after a backslash or by four digits, or it stands
for itself, being neither a quote nor a backslash nor a control character. -/
theorem escapeChar_cases (c : Char) :
    (∃ letter ∈ "\"\\nrtbf".toList, escapeChar c = ['\\', letter]) ∨
      (∃ high low, escapeChar c = ['\\', 'u', '0', '0', hexDigit high, hexDigit low]) ∨
      escapeChar c = [c] ∧ c ≠ '"' ∧ c ≠ '\\' ∧ 0x20 ≤ c.toNat := by
  by_cases quote : c = '"'
  · exact .inl ⟨'"', by decide, by rw [quote]; rfl⟩
  by_cases backslash : c = '\\'
  · exact .inl ⟨'\\', by decide, by rw [backslash]; rfl⟩
  unfold escapeChar
  rw [if_neg quote, if_neg backslash]
  split
  · exact .inl ⟨'n', by decide, rfl⟩
  split
  · exact .inl ⟨'r', by decide, rfl⟩
  split
  · exact .inl ⟨'t', by decide, rfl⟩
  split
  · exact .inl ⟨'b', by decide, rfl⟩
  split
  · exact .inl ⟨'f', by decide, rfl⟩
  split
  · exact .inr (.inl ⟨_, _, rfl⟩)
  · rename_i visible
    exact .inr (.inr ⟨rfl, quote, backslash, Nat.not_lt.mp visible⟩)

/-- In a string, an escaped character leads back into the string. -/
theorem run_escapeChar (opened : List Bracket) (c : Char) :
    Scan.run ⟨opened, .text⟩ (escapeChar c) = some ⟨opened, .text⟩ := by
  rcases escapeChar_cases c with ⟨letter, -, equal⟩ | ⟨high, low, equal⟩ | ⟨equal, quote, slash, -⟩
  · rw [equal]
    rfl
  · obtain ⟨plainHigh, noHigh⟩ := isPlain_hexDigit high
    obtain ⟨plainLow, noLow⟩ := isPlain_hexDigit low
    rw [equal]
    simp [Scan.run, Scan.step, plainHigh.unquoted, noHigh, plainLow.unquoted, noLow]
  · rw [equal]
    simp [Scan.run, Scan.step, quote, slash]

/-- In a string, escaped characters lead back into the string. -/
theorem run_flatMap_escapeChar (opened : List Bracket) (text : List Char) :
    Scan.run ⟨opened, .text⟩ (text.flatMap escapeChar) = some ⟨opened, .text⟩ := by
  induction text with
  | nil => rfl
  | cons c rest ih =>
    rw [List.flatMap_cons, Scan.run_append, run_escapeChar, Option.bind_some, ih]

/-- No control character is left of an escaped character. -/
theorem visible_of_mem_escapeChar {c other : Char} (listed : other ∈ escapeChar c) :
    0x20 ≤ other.toNat := by
  rcases escapeChar_cases c with
    ⟨letter, known, equal⟩ | ⟨high, low, equal⟩ | ⟨equal, -, -, visible⟩
  · have letters : ∀ letter ∈ "\"\\nrtbf".toList, 0x20 ≤ letter.toNat :=
      forall_mem_of_all (by decide)
    rw [equal, List.mem_pair] at listed
    rcases listed with rfl | rfl
    · decide
    · exact letters other known
  · have digit : ∀ n, 0x20 ≤ (hexDigit n).toNat := fun n => (isPlain_hexDigit n).1.visible
    rw [equal] at listed
    simp only [List.mem_cons, List.not_mem_nil, or_false] at listed
    rcases listed with rfl | rfl | rfl | rfl | rfl | rfl
    · decide
    · decide
    · decide
    · decide
    · exact digit high
    · exact digit low
  · rw [equal] at listed
    rw [List.mem_singleton.mp listed]
    exact visible

/-- A quoted string is code without brackets, whatever is in it. -/
theorem passes_quote (text : String) : Passes [] (quote text) [] where
  reads := by
    have split : (quote text).toList = ['"'] ++ text.toList.flatMap escapeChar ++ ['"'] := by
      simp [quote, Text.onChars, String.toList_append]
    rw [split, Scan.run_append, Scan.run_append]
    have opens : Scan.run ⟨[], .code⟩ ['"'] = some ⟨[], .text⟩ := rfl
    rw [opens, Option.bind_some, run_flatMap_escapeChar]
    rfl
  visible c listed := by
    simp only [quote, Text.onChars, String.toList_append, String.toList_ofList, List.mem_append,
      List.mem_flatMap] at listed
    rcases listed with (opening | ⟨_, -, inside⟩) | closing
    · exact (forall_mem_of_all (by decide) : ∀ c ∈ "\"".toList, 0x20 ≤ c.toNat) c opening
    · exact visible_of_mem_escapeChar inside
    · exact (forall_mem_of_all (by decide) : ∀ c ∈ "\"".toList, 0x20 ≤ c.toNat) c closing

/-- The texts of the items of an array, one by one. -/
theorem writeItems_eq_map (items : List Json) : writeItems items = items.map write := by
  induction items with
  | nil => rfl
  | cons item rest ih => rw [writeItems, ih, List.map_cons]

/-- The texts of the members of an object, one by one. -/
theorem writeMembers_eq_map (members : List (String × Json)) :
    writeMembers members = members.map fun member => quote member.1 ++ ":" ++ write member.2 := by
  induction members with
  | nil => rfl
  | cons member rest ih => rw [writeMembers, ih, List.map_cons]

/-- The text of a value is code that leaves no bracket open. -/
theorem passes_write (value : Json) : Passes [] value.write [] := by
  have comma : ∀ opened, Passes opened "," opened := fun opened =>
    (by decide : Passes [] "," []).within opened
  induction value using Json.induction with
  | null => exact .plain (forall_mem_of_all (by decide))
  | bool value => cases value <;> exact .plain (forall_mem_of_all (by decide))
  | num value => exact .plain fun c listed => Number.isPlain_of_mem_text listed
  | str value => exact passes_quote value
  | arr items ih =>
    have opening : Passes [] "[" [.square] := by decide
    have closing : Passes [.square] "]" [] := by decide
    rw [write, writeItems_eq_map]
    refine (opening.append (.intercalate (comma _) fun text listed => ?_)).append closing
    obtain ⟨item, member, rfl⟩ := List.mem_map.mp listed
    exact (ih item member).within _
  | obj members ih =>
    have opening : Passes [] "\x7b" [.curly] := by decide
    have closing : Passes [.curly] "\x7d" [] := by decide
    have colon : Passes [] ":" [] := by decide
    rw [write, writeMembers_eq_map]
    refine (opening.append (.intercalate (comma _) fun text listed => ?_)).append closing
    obtain ⟨member, inside, rfl⟩ := List.mem_map.mp listed
    exact (((passes_quote member.1).append colon).append (ih member inside)).within _

end Json

end ApiMock
