import ApiMock.Url.Host

/-!
# Absolute addresses

Whether a text is an address on its own: it starts with a scheme, and where an authority follows,
its credentials, host and port are in order. Schemes of servers always have an authority, and files
may name a host.
-/
namespace ApiMock.Url

/-- Whether a character may follow the first letter of a scheme. -/
def isSchemeChar (c : Char) : Bool := c.isAlphanum || c == '+' || c == '-' || c == '.'

/-- The scheme of an address, in lower case, and what follows its colon. -/
def splitScheme? (text : List Char) : Option (List Char × List Char) :=
  match text with
  | first :: _ =>
    match text.dropWhile isSchemeChar with
    | ':' :: rest =>
      if first.isAlpha then some ((text.takeWhile isSchemeChar).map Char.toLower, rest) else none
    | _ => none
  | [] => none

/-- The schemes of servers. -/
def serverSchemes : List String := ["http", "https", "ws", "wss", "ftp"]

/-- The credentials of an authority, which end with the last `@`, and what follows them. -/
def splitCredentials (authority : List Char) : Option (List Char) × List Char :=
  if authority.contains '@' then
    let address := (authority.reverse.takeWhile (· != '@')).reverse
    (some (authority.take (authority.length - address.length - 1)), address)
  else (none, authority)

/-- The host of an authority, up to the first colon that is not in brackets, and what follows. -/
def splitHost (inBrackets : Bool) : List Char → List Char × List Char
  | [] => ([], [])
  | c :: rest =>
    if c = ':' && !inBrackets then ([], c :: rest)
    else
      let inner := splitHost (if c = '[' then true else if c = ']' then false else inBrackets) rest
      (c :: inner.1, inner.2)

/-- Whether what follows a host is empty or a port, which a backslash may end. -/
def isPort : List Char → Bool
  | [] => true
  | ':' :: rest =>
    let digits := rest.takeWhile (· != '\\')
    digits.isEmpty || (Text.digitsNat? digits).any (· < 2 ^ 16)
  | _ => false

/-- Whether an authority is one of a server: its host is not empty. -/
def isServerAuthority (authority : List Char) : Bool :=
  let (host, port) := splitHost false (splitCredentials authority).2
  isServerHost host && isPort port

/-- Whether credentials allow a host to be empty: there are none, or they consist of a colon, or
they are empty and end the address. -/
def allowEmptyHost (credentials : Option (List Char)) (rest : List Char) : Bool :=
  match credentials with
  | none => true
  | some [] => rest.isEmpty
  | some text => text == [':']

/-- Whether an authority is one of any other scheme, with the rest of the address behind it. An
empty host has no port. -/
def isOpaqueAuthority (authority rest : List Char) : Bool :=
  let (credentials, address) := splitCredentials authority
  let (host, port) := splitHost false address
  isOpaqueHost host && isPort port &&
    (!host.isEmpty || (port.isEmpty && allowEmptyHost credentials rest))

/-- Whether a character ends an authority. -/
def endsAuthority (c : Char) : Bool := c == '/' || c == '?' || c == '#'

/-- Whether a character separates the segments of an address of a server or a file. -/
def isSlash (c : Char) : Bool := c == '/' || c == '\\'

/-- Whether a text is a letter that stands for a drive, with its mark. -/
def isDrive : List Char → Bool
  | [letter, mark] => letter.isAlpha && (mark == ':' || mark == '|')
  | _ => false

/-- Whether what follows the scheme of a file is in order: after two slashes, the host may be
empty, and a drive is none. -/
def isFile : List Char → Bool
  | first :: second :: rest =>
    let host := rest.takeWhile fun c => !(endsAuthority c || isSlash c)
    !(isSlash first && isSlash second) || host.isEmpty || isDrive host || isServerHost host
  | _ => true

/-- Whether a text is an address on its own, surrounding blanks and line breaks within aside. -/
def isAbsolute (text : String) : Bool :=
  let isBlank (c : Char) : Bool := c.toNat ≤ 32
  let isBreak (c : Char) : Bool := c == '\t' || c == '\n' || c == '\r'
  let chars := (Text.trimEndChars isBlank (text.toList.dropWhile isBlank)).filter (!isBreak ·)
  match splitScheme? chars with
  | none => false
  | some (scheme, rest) =>
    if serverSchemes.contains (String.ofList scheme) then
      isServerAuthority ((rest.dropWhile isSlash).takeWhile fun c =>
        !(endsAuthority c || isSlash c))
    else if scheme = "file".toList then isFile rest
    else
      match rest with
      | '/' :: '/' :: address =>
        isOpaqueAuthority (address.takeWhile (!endsAuthority ·))
          (address.dropWhile (!endsAuthority ·))
      | _ => true

end ApiMock.Url
