import ApiMock.Text.Decimal
import ApiMock.Url.Label

/-!
# Hosts of addresses

Which texts are hosts: numeric addresses of both versions, and names whose labels are in order. A
name whose last label is a number has to be a numeric address.
-/
namespace ApiMock.Url

/-- The value of a hexadecimal digit. -/
def hexDigit? (c : Char) : Option Nat :=
  if c.isDigit then some (Text.digitValue c)
  else if 'a' ≤ c.toLower && c.toLower ≤ 'f' then some (c.toLower.toNat - 'a'.toNat + 10)
  else none

/-- The natural that digits of a base write; nothing where one is no digit of the base. -/
def ofBase? (base : Nat) (digits : List Char) : Option Nat :=
  digits.foldl (fun number digit => do
    let number ← number
    let digit ← hexDigit? digit
    if digit < base then some (number * base + digit) else none) (some 0)

/-- The number that a label writes in decimal, or in octal or hexadecimal after a zero or `0x`. -/
def labelNumber? : List Char → Option Nat
  | [] => none
  | '0' :: 'x' :: digits => ofBase? 16 digits
  | '0' :: 'X' :: digits => ofBase? 16 digits
  | '0' :: c :: digits => ofBase? 8 (c :: digits)
  | digits => ofBase? 10 digits

/-- The labels of a name without the empty one that may end it. -/
def dropRoot (labels : List (List Char)) : List (List Char) :=
  if labels.getLast? == some [] then labels.dropLast else labels

/-- Whether the last of the labels of a name is a number. -/
def endsInNumber (labels : List (List Char)) : Bool :=
  match (dropRoot labels).getLast? with
  | some label =>
    (!label.isEmpty && label.all Char.isDigit) || (labelNumber? label).isSome
  | none => false

/-- Whether numbers make an address of version four: all but the last fill one byte each, and the
last fills the bytes that are left. -/
def fillsAddress (numbers : List Nat) : Bool :=
  match numbers.reverse with
  | [] => false
  | last :: before =>
    before.length < 4 && before.all (· < 256) && last < 256 ^ (4 - before.length)

/-- Whether the labels of a name are an address of version four. -/
def isAddress4 (labels : List (List Char)) : Bool :=
  match (dropRoot labels).mapM labelNumber? with
  | some numbers => fillsAddress numbers
  | none => false

/-- Whether a text is one byte in decimal, without leading zeros. -/
def isDecimalByte (text : List Char) : Bool :=
  match Text.digitsNat? text with
  | some number => number < 256 && (text.length == 1 || text.head? != some '0')
  | none => false

/-- Whether a group of an address of version six is one to four hexadecimal digits. -/
def isGroup (group : List Char) : Bool :=
  !group.isEmpty && group.length ≤ 4 && group.all fun c => (hexDigit? c).isSome

/-- Whether a group ends an address of version six with an address of version four. -/
def isDottedGroup (group : List Char) : Bool :=
  let bytes := Text.pieces (· == '.') group
  bytes.length == 4 && bytes.all isDecimalByte

/-- The pieces of an address of version six between its colons, a double colon at either end
counted once. -/
def groups (text : List Char) : Option (List (List Char)) :=
  let all := Text.pieces (· == ':') text
  let front := match all with
    | [] :: [] :: next :: rest => some ([] :: next :: rest)
    | [] :: _ => none
    | all => some all
  front.bind fun all => match all.reverse with
    | [] :: [] :: rest => some ([] :: rest).reverse
    | [] :: _ => none
    | all => some all.reverse

/-- Whether a text is an address of version six: eight groups of which the last two may be dotted,
or fewer with one gap. -/
def isAddress6 (text : List Char) : Bool :=
  match groups text with
  | none => false
  | some all =>
    let gaps := (all.filter List.isEmpty).length
    let written := all.filter (!·.isEmpty)
    let dotted := (written.getLast?.map isDottedGroup).getD false && all.getLast? != some []
    let plain := if dotted then written.dropLast else written
    let count := plain.length + if dotted then 2 else 0
    plain.all isGroup && (if gaps = 0 then count == 8 else gaps == 1 && count < 8)

/-- Whether a bracketed host, after its opening bracket, holds an address of version six. -/
def isBracketed (host : List Char) : Bool :=
  match host.reverse with
  | ']' :: inner => isAddress6 inner.reverse
  | _ => false

/-- The bytes of a host with the percent escapes undone. -/
def percentDecode : List UInt8 → List UInt8
  | 37 :: a :: b :: rest =>
    match hexDigit? (Char.ofNat a.toNat), hexDigit? (Char.ofNat b.toNat) with
    | some high, some low => UInt8.ofNat (high * 16 + low) :: percentDecode rest
    | _, _ => 37 :: percentDecode (a :: b :: rest)
  | byte :: rest => byte :: percentDecode rest
  | [] => []

/-- The text of a host with the percent escapes undone, if it is one. -/
def decodeHost? (host : List Char) : Option (List Char) :=
  let bytes := (String.ofList host).toUTF8.toList
  (String.fromUTF8? ⟨(percentDecode bytes).toArray⟩).map String.toList

/-- Whether a text is the host of a server. -/
def isServerHost (host : List Char) : Bool :=
  match host with
  | '[' :: rest => isBracketed rest
  | _ =>
    match (decodeHost? host).bind nameLabels? with
    | some labels => labels != [[]] && (!endsInNumber labels || isAddress4 labels)
    | none => false

/-- Whether a text is a host of a scheme that knows nothing about servers. -/
def isOpaqueHost (host : List Char) : Bool :=
  match host with
  | '[' :: rest => isBracketed rest
  | _ => !host.any isForbidden

end ApiMock.Url
