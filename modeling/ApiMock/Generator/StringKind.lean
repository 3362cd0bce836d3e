import ApiMock.Text.LetterCase

/-!
# Kinds of strings

Which kind of string a schema asks for. Its format decides, and where that says nothing, the
name of the property that holds the string.
-/
namespace ApiMock

/-- The kinds of strings that are made up. -/
inductive StringKind where
  | pastDate
  | uuid
  | email
  | domainName
  | ipv4
  | ipv6
  | imageUrl
  | url
  | fullName
  | slug
  deriving DecidableEq, Repr

namespace StringKind

/-- Whether a property name reads like a point in time: it ends in `_at`, or in `At` after a
small letter or a digit. -/
def isTimestampKey (key : String) : Bool :=
  Text.endsWith (Text.lower key) "_at" ||
    match key.toList.reverse with
    | 't' :: 'A' :: before :: _ => Unicode.isLowercase before || before.isDigit
    | _ => false

/-- The kind of string for a format and a property name. -/
def ofHints (format key : Option String) : StringKind :=
  let format := format.getD ""
  let key := key.getD ""
  let lowerKey := Text.lower key
  if ["date-time", "date", "time"].contains format || isTimestampKey key then .pastDate
  else if format = "uuid" then .uuid
  else if ["idn-email", "email"].contains format || Text.endsWith lowerKey "email" then .email
  else if ["hostname", "idn-hostname"].contains format then .domainName
  else if format = "ipv4" then .ipv4
  else if format = "ipv6" then .ipv6
  else if ["uri", "uri-reference", "iri", "iri-reference", "uri-template"].contains format ||
      Text.endsWith lowerKey "url" then
    if ["photo", "image", "picture"].any (Text.contains lowerKey) then .imageUrl else .url
  else if Text.endsWith lowerKey "name" then .fullName
  else .slug

/-- The call that makes up a string of a kind. -/
def call : StringKind → String
  | pastDate => "faker.date.past()"
  | uuid => "faker.string.uuid()"
  | email => "faker.internet.email()"
  | domainName => "faker.internet.domainName()"
  | ipv4 => "faker.internet.ipv4()"
  | ipv6 => "faker.internet.ipv6()"
  | imageUrl => "faker.image.url()"
  | url => "faker.internet.url()"
  | fullName => "faker.person.fullName()"
  | slug => "faker.lorem.slug(1)"

end StringKind

end ApiMock
