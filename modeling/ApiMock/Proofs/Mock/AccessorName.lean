import ApiMock.Mock.Compile
import ApiMock.Proofs.Text.Brackets
import ApiMock.Proofs.Text.CamelCase
/-!
# Names of functions

The name of the function for a response is the camel case of `get`, the identifier of the operation, the
status code and `Response`. Whatever stands between them, the first and the last of these are words of
their own, so that the name is what becomes of the identifier and the code, with both around it
(`toList_accessorName`). Digits at the end of a text pass through camel case, also where they continue
digits of the text, so that the code stands in the name as it is (`toList_accessorName_of_digits`). What
is left of the name gives back the identifier as far as camel case keeps it, since a capital tells which
small letter it was.
-/
namespace ApiMock

open Text Unicode

/-! ### What a name is made of -/

/-- The words of a name: `get`, those of the identifier and the code, and `Response`. -/
theorem wordsOf_accessorName (middle : List Char) :
    wordsOf ("get".toList ++ ' ' :: (middle ++ "Response".toList)) =
      "get".toList :: (wordsOf middle ++ ["Response".toList]) := by
  have upper : wordKind? 'R' = some .upper := by decide
  have lower : wordKind? 'e' = some .lower := by decide
  have blank : wordKind? ' ' = none := by decide
  have last : Parted middle "Response".toList := parted_of_capitalized upper lower middle _
  have first : Parted "get".toList (' ' :: (middle ++ "Response".toList)) := fun _ _ =>
    .inr (endsWord_of_separator blank _)
  have words : wordsOf "get".toList = ["get".toList] ∧
      wordsOf "Response".toList = ["Response".toList] := by decide
  rw [first.wordsOf_append, wordsOf_separator blank, last.wordsOf_append, words.1, words.2]
  rfl

/-- A name begins with `get` and ends with `Response`, and between them are the words of the identifier
and the code, capitalized. -/
theorem toList_accessorName (id code : String) :
    (camelCase ("get " ++ id ++ code ++ "Response")).toList =
      "get".toList ++ joinLater (id.toList ++ code.toList) ++ "Response".toList := by
  have text : ("get " ++ id ++ code ++ "Response").toList =
      "get".toList ++ ' ' :: (id.toList ++ code.toList ++ "Response".toList) := by
    simp [String.toList_append]
  have kept : lowerChars "get".toList = "get".toList ∧
      capitalWord "Response".toList = "Response".toList := by decide
  rw [toList_camelCase, text, wordsOf_accessorName, joinCamel_cons, List.flatMap_append,
    List.flatMap_singleton, kept.1, kept.2, ← joinLater, List.append_assoc]

/-- A response of an operation with an identifier has a name, since that is never empty. -/
theorem accessorName?_of_id {response : Response} {id : String} (identified : response.id = some id) :
    response.accessorName? =
      some (camelCase ("get " ++ id ++ response.code ++ "Response")) := by
  have filled : (camelCase ("get " ++ id ++ response.code ++ "Response")).isEmpty = false := by
    rw [Bool.eq_false_iff, Ne, String.isEmpty_iff, ← String.toList_inj, toList_accessorName]
    exact List.cons_ne_nil 'g' _
  rw [Response.accessorName?, identified, Option.bind_some]
  exact if_neg (Bool.eq_false_iff.mp filled)

/-- A name has no marks of ASCII. -/
theorem isNameChar_of_mem_accessorName {response : Response} {name : String}
    (named : response.accessorName? = some name) {c : Char} (within : c ∈ name.toList) :
    IsNameChar c := by
  obtain ⟨id, identified, -⟩ := Option.bind_eq_some_iff.mp named
  rw [accessorName?_of_id identified, Option.some_inj] at named
  rw [← named, toList_accessorName, List.mem_append, List.mem_append] at within
  have fixed : (∀ c ∈ "get".toList, IsNameChar c) ∧ ∀ c ∈ "Response".toList, IsNameChar c :=
    ⟨forall_mem_of_all (by decide), forall_mem_of_all (by decide)⟩
  rcases within with (first | middle) | last
  · exact fixed.1 c first
  · exact isNameChar_of_mem_joinLater middle
  · exact fixed.2 c last

/-- Every response of an operation with an identifier has a named function. The name begins with `get`
and ends with `Response`, whatever the identifier and the code are, and if these are ASCII, it consists
of ASCII letters and digits. -/
theorem accessorName_identifier {response : Response} {id : String}
    (identified : response.id = some id) :
    ∃ name middle, response.accessorName? = some name ∧ name = "get" ++ middle ++ "Response" ∧
      ((∀ c ∈ id.toList, isAscii c = true) → (∀ c ∈ response.code.toList, isAscii c = true) →
        ∀ c ∈ name.toList, c.isAlphanum = true) := by
  have named := accessorName?_of_id identified
  refine ⟨_, String.ofList (joinLater (id.toList ++ response.code.toList)), named, ?_,
    fun idAscii codeAscii c within => isNameChar_of_mem_accessorName named within ?_⟩
  · rw [← String.toList_inj, toList_accessorName]
    simp [String.toList_append]
  · have ascii : ∀ c ∈ id.toList ++ response.code.toList, isAscii c = true := fun c member =>
      (List.mem_append.mp member).elim (idAscii c) (codeAscii c)
    have fixed : (∀ c ∈ "get".toList, isAscii c = true) ∧
        ∀ c ∈ "Response".toList, isAscii c = true :=
      ⟨forall_mem_of_all (by decide), forall_mem_of_all (by decide)⟩
    rw [toList_accessorName, List.mem_append, List.mem_append] at within
    rcases within with (first | middle) | last
    · exact fixed.1 c first
    · obtain ⟨word, listed, inner⟩ := List.mem_flatMap.mp middle
      exact isAscii_of_mem_capitalWord ascii listed inner
    · exact fixed.2 c last

/-- A quote, a call and a comment in the identifier leave nothing but their letters. -/
theorem accessorName_identifier_hostile :
    let response : Response := ⟨"200", some "pets\x60'](); /*", []⟩
    response.id = some "pets\x60'](); /*" ∧
      (∀ c ∈ "pets\x60'](); /*".toList, isAscii c = true) ∧
      (∀ c ∈ response.code.toList, isAscii c = true) ∧
      ∃ name middle, response.accessorName? = some name ∧ name = "get" ++ middle ++ "Response" ∧
        ∀ c ∈ name.toList, c.isAlphanum = true := by
  intro response
  have idAscii : ∀ c ∈ "pets\x60'](); /*".toList, isAscii c = true :=
    forall_mem_of_all (by decide)
  have codeAscii : ∀ c ∈ response.code.toList, isAscii c = true :=
    forall_mem_of_all (by decide)
  have identified : response.id = some "pets\x60'](); /*" := rfl
  obtain ⟨name, middle, named, parts, plain⟩ := accessorName_identifier identified
  exact ⟨identified, idAscii, codeAscii, name, middle, named, parts, plain idAscii codeAscii⟩

/-! ### Distinct names -/

/-- With digits as its code, the name of a response is `get`, the camel case of the identifier with a
capital first, the code as it is and `Response`. -/
theorem toList_accessorName_of_digits (id : String) {code : String}
    (digits : ∀ c ∈ code.toList, c.isDigit = true) :
    (camelCase ("get " ++ id ++ code ++ "Response")).toList =
      "get".toList ++ (capitalizeChars (camelCase id).toList ++ code.toList) ++
        "Response".toList := by
  rw [toList_accessorName, joinLater_append_digits _ digits, joinLater_eq_capitalizeChars,
    toList_camelCase]

/-- An ASCII capital tells which small letter or digit it was. -/
theorem toLower_toUpper_of_small {c : Char} (ascii : isAscii c = true) (small : c.toLower = c) :
    c.toUpper.toLower = c := by
  refine forall_isAscii (fun c => c.toLower = c → c.toUpper.toLower = c) ?_ ascii small
  decide

/-- An ASCII text in camel case is told by the text with a capital first. -/
theorem lowerFirst_capitalizeChars {text : List Char} (ascii : ∀ c ∈ text, isAscii c = true)
    (camel : InCamelCase text) : (capitalizeChars text).modifyHead Char.toLower = text := by
  cases text with
  | nil => rfl
  | cons c rest =>
    have range : isAscii c = true := ascii c List.mem_cons_self
    have small : c.toLower = c := by
      have own : lowercase c = [c] := camel.1.2
      rw [lowercase_of_isAscii range] at own
      exact List.singleton_inj.mp own
    rw [capitalizeChars, uppercase_of_isAscii range, List.singleton_append, List.modifyHead_cons,
      toLower_toUpper_of_small range small]

/-- A response of an operation whose identifier is ASCII in camel case, with a code of three digits. -/
structure HasPlainName (response : Response) (id : String) : Prop where
  /-- The identifier of the operation. -/
  identified : response.id = some id
  /-- The identifier is ASCII. -/
  ascii : ∀ c ∈ id.toList, isAscii c = true
  /-- Camel case leaves the identifier alone. -/
  camel : camelCase id = id
  /-- The code has three characters. -/
  length : response.code.toList.length = 3
  /-- The code is a numeral. -/
  digits : ∀ c ∈ response.code.toList, c.isDigit = true

namespace HasPlainName

variable {response : Response} {id : String} (plain : HasPlainName response id)

include plain

/-- The name of such a response. -/
theorem accessorName?_eq :
    response.accessorName? = some (String.ofList ("get".toList ++
      (capitalizeChars id.toList ++ response.code.toList) ++ "Response".toList)) := by
  rw [accessorName?_of_id plain.identified, Option.some_inj, ← String.toList_inj,
    String.toList_ofList, toList_accessorName_of_digits id plain.digits, plain.camel]

/-- The identifier, told by what the name has in its place. -/
theorem toList_id : (capitalizeChars id.toList).modifyHead Char.toLower = id.toList := by
  refine lowerFirst_capitalizeChars plain.ascii (joinCamel_eq_self_iff.mp ?_)
  rw [← toList_camelCase, plain.camel]

end HasPlainName

/-- Responses that differ in their identifier or in their code have functions of distinct names, also
where the identifier ends in digits that run into the code. -/
theorem accessorName_injective {first second : Response} {firstId secondId : String}
    (plainFirst : HasPlainName first firstId) (plainSecond : HasPlainName second secondId)
    (same : first.accessorName? = second.accessorName?) :
    firstId = secondId ∧ first.code = second.code := by
  rw [plainFirst.accessorName?_eq, plainSecond.accessorName?_eq, Option.some_inj,
    String.ofList_inj, List.append_cancel_right_eq, List.append_cancel_left_eq] at same
  have lengths : first.code.toList.length = second.code.toList.length :=
    plainFirst.length.trans plainSecond.length.symm
  obtain ⟨capitals, codes⟩ := List.append_inj' same lengths
  have ids : firstId.toList = secondId.toList := calc
    firstId.toList = (capitalizeChars firstId.toList).modifyHead Char.toLower :=
      plainFirst.toList_id.symm
    _ = (capitalizeChars secondId.toList).modifyHead Char.toLower := by rw [capitals]
    _ = secondId.toList := plainSecond.toList_id
  exact ⟨String.toList_inj.mp ids, String.toList_inj.mp codes⟩

/-- Digits at the end of the identifier stay apart from the code. -/
theorem accessorName_injective_list12 :
    let first : Response := ⟨"200", some "list12", []⟩
    let second : Response := ⟨"200", some "list12", [("application/json", .ofType "boolean")]⟩
    HasPlainName first "list12" ∧ HasPlainName second "list12" ∧
      first.accessorName? = some "getList12200Response" ∧
      first.accessorName? = second.accessorName? ∧ first.code = second.code := by
  intro first second
  have ascii : ∀ c ∈ "list12".toList, isAscii c = true :=
    forall_mem_of_all (by decide)
  have camel : camelCase "list12" = "list12" := by decide
  have length : "200".toList.length = 3 := by decide
  have digits : ∀ c ∈ "200".toList, c.isDigit = true :=
    forall_mem_of_all (by decide)
  have plainFirst : HasPlainName first "list12" := ⟨rfl, ascii, camel, length, digits⟩
  have plainSecond : HasPlainName second "list12" := ⟨rfl, ascii, camel, length, digits⟩
  have named : first.accessorName? = some "getList12200Response" := by decide
  have same : first.accessorName? = second.accessorName? := rfl
  exact ⟨plainFirst, plainSecond, named, same,
    (accessorName_injective plainFirst plainSecond same).2⟩

end ApiMock
