import ApiMock.Text.Basic
/-!
# Identifiers

Which texts are identifiers of the mock module, and which identifier is read at a place of a text: the
longest one that stands there. So a text that is put there is read as a whole only if it is an
identifier itself (`readsIdentifier_append_iff`), and of any other text no more than a part is read.
-/
namespace ApiMock.Text

/-- An identifier starts with a letter, an underscore or a dollar sign. -/
def identifierStart (c : Char) : Bool := c.isAlpha || c == '_' || c == '$'

/-- An identifier goes on with these and with digits. -/
def identifierPart (c : Char) : Bool := c.isAlphanum || c == '_' || c == '$'

/-- What starts an identifier is no digit. -/
theorem isDigit_of_identifierStart {c : Char} (start : identifierStart c = true) :
    c.isDigit = false := by
  have table : (List.range' 48 10).all (fun code => !identifierStart (Char.ofNat code)) = true := by
    decide
  cases digit : c.isDigit with
  | false => rfl
  | true =>
    have range : '0'.toNat ≤ c.toNat ∧ c.toNat ≤ '9'.toNat := Char.isDigit_iff_toNat.mp digit
    have zero : '0'.toNat = 48 := rfl
    have nine : '9'.toNat = 57 := rfl
    have listed : c.toNat ∈ List.range' 48 10 := List.mem_range'_1.mpr (by omega)
    have none := List.all_eq_true.mp table c.toNat listed
    rw [Char.ofNat_toNat, start] at none
    cases none

/-- A text is an identifier. -/
def IsIdentifier (text : String) : Prop :=
  text.toList.head?.any identifierStart = true ∧ text.toList.all identifierPart = true

instance (text : String) : Decidable (IsIdentifier text) := inferInstanceAs (Decidable (_ ∧ _))

/-- After what leads to it, an identifier stands in a text, and none stands there that is longer. -/
structure ReadsIdentifier (lead text name : String) : Prop where
  /-- What is read is an identifier. -/
  identifier : IsIdentifier name
  /-- It stands in the text. -/
  stands : ∃ rest, text = lead ++ name ++ rest
  /-- It goes as far as can be. -/
  longest : ∀ other rest, IsIdentifier other → text = lead ++ other ++ rest →
    other.length ≤ name.length

/-- At one place, one identifier is read. -/
theorem ReadsIdentifier.unique {lead text name other : String}
    (reads : ReadsIdentifier lead text name) (again : ReadsIdentifier lead text other) :
    name = other := by
  obtain ⟨rest, stands⟩ := reads.stands
  obtain ⟨rest', stands'⟩ := again.stands
  have lengths : name.toList.length = other.toList.length := by
    have atMost := again.longest name rest reads.identifier stands
    have atLeast := reads.longest other rest' again.identifier stands'
    rw [String.length_toList, String.length_toList]
    omega
  have texts : name.toList ++ rest.toList = other.toList ++ rest'.toList := by
    rw [← String.toList_append, ← String.toList_append, String.toList_inj]
    rw [stands, String.append_assoc, String.append_assoc] at stands'
    exact (String.append_right_inj lead).mp stands'
  exact String.toList_inj.mp (List.append_inj_left texts lengths)

/-- An identifier before a character that belongs to none is what is read. -/
theorem readsIdentifier_of_stop {name : String} (identifier : IsIdentifier name) {stop : Char}
    (stops : identifierPart stop = false) (lead : String) (rest : List Char) :
    ReadsIdentifier lead (lead ++ name ++ String.ofList (stop :: rest)) name := by
  refine ⟨identifier, ⟨_, rfl⟩, fun other after longer stands => ?_⟩
  rw [String.append_assoc, String.append_assoc] at stands
  have texts : name.toList ++ stop :: rest = other.toList ++ after.toList := by
    have same := congrArg String.toList ((String.append_right_inj lead).mp stands)
    simpa only [String.toList_append, String.toList_ofList] using same
  rw [← String.length_toList, ← String.length_toList]
  rcases List.append_eq_append_iff.mp texts with ⟨more, whole, left⟩ | ⟨more, whole, -⟩
  · -- A longer identifier would go on with the character that belongs to none.
    cases more with
    | nil => simp [whole]
    | cons c more =>
      obtain ⟨rfl, -⟩ := List.cons.inj left
      have part := List.all_eq_true.mp longer.2 stop (by simp [whole])
      cases stops.symm.trans part
  · simp [whole]

/-- What is put before a character that belongs to no identifier is read as a whole exactly when it is
an identifier. -/
theorem readsIdentifier_append_iff {name : String} {stop : Char}
    (stops : identifierPart stop = false) (lead : String) (rest : List Char) :
    ReadsIdentifier lead (lead ++ name ++ String.ofList (stop :: rest)) name ↔ IsIdentifier name :=
  ⟨ReadsIdentifier.identifier, fun identifier => readsIdentifier_of_stop identifier stops lead rest⟩

end ApiMock.Text
