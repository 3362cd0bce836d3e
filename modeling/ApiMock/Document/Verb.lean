import ApiMock.Text.Basic

/-!
# Verbs and methods

The eight verbs that a path item can describe, and the methods that requests carry. A method is
any token of the protocol and is compared letter by letter; the verbs stand for the methods of
their names in capitals.
-/
namespace ApiMock

/-- The verbs of path items. -/
inductive Verb where
  | get
  | post
  | put
  | delete
  | patch
  | options
  | head
  | trace
  deriving DecidableEq, Repr

namespace Verb

/-- All verbs. -/
def all : List Verb := [get, post, put, delete, patch, options, head, trace]

/-- The key of a verb in a path item. -/
def key : Verb → String
  | get => "get"
  | post => "post"
  | put => "put"
  | delete => "delete"
  | patch => "patch"
  | options => "options"
  | head => "head"
  | trace => "trace"

/-- The verb that a key names, in any letter case. -/
def ofKey? (key : String) : Option Verb := all.find? fun verb => verb.key == Text.lowerAscii key

/-- Whether the mocking library handles requests of a verb. -/
def isMockable (verb : Verb) : Bool := verb != trace

end Verb

/-- A request method. -/
structure Method where
  /-- The token of the method. -/
  name : String
  deriving DecidableEq, Repr

namespace Method

/-- Whether a character may occur in a token. -/
def isTokenChar (c : Char) : Bool :=
  c.isAlphanum || "!#$%&'*+-.^_\x60|~".toList.contains c

/-- The method of a token; nothing for a text that is none. -/
def ofToken? (token : String) : Option Method :=
  if !token.isEmpty && token.toList.all isTokenChar then some ⟨token⟩ else none

/-- The method of a verb. -/
def ofVerb (verb : Verb) : Method := ⟨Text.upperAscii verb.key⟩

end Method

end ApiMock
