import ApiMock.Document.Load
import ApiMock.Generator.Expression
import ApiMock.Mock.Compile
import ApiMock.Options.RegistryImport

/-!
# Source text of the mock module

The text of a module that serves a mock: imports, the counters of paths, the handlers and the
functions that make up bodies. Texts of the document and the options are escaped for the place
where they stand.
-/
namespace ApiMock

/-- A character within single quotes. -/
def escapeSingleQuoted (c : Char) : List Char :=
  if c = '\\' then ['\\', '\\']
  else if c = '\'' then ['\\', '\'']
  else if c = '\n' then ['\\', 'n']
  else if c = '\r' then ['\\', 'r']
  else [c]

/-- A text as it stands within single quotes. -/
def singleQuoted (text : String) : String := Text.onChars (List.flatMap escapeSingleQuoted) text

/-- A character within a template literal, dollar signs aside. -/
def escapeTemplateChar (c : Char) : List Char :=
  if c = '\\' then ['\\', '\\'] else if c = '\x60' then ['\\', '\x60'] else [c]

/-- Characters as they stand within a template literal: nothing ends it or opens a
substitution. -/
def templateChars (text : List Char) : List Char :=
  Text.replacePair '$' '\x7b' ['\\', '$', '\x7b'] (text.flatMap escapeTemplateChar)

/-- A text as it stands within a template literal. -/
def templateQuoted (text : String) : String := Text.onChars templateChars text

/-- Characters as they stand within a comment: nothing ends it or breaks the line. -/
def commentChars (text : List Char) : List Char :=
  (Text.replacePair '*' '/' ['*', ' ', '/'] text).map fun c =>
    if c = '\n' ∨ c = '\r' then ' ' else c

/-- A text as it stands within a comment. -/
def commentText (text : String) : String := Text.onChars commentChars text

/-- The arguments that answer a request with a response. -/
def MockResponse.source (response : MockResponse) : String :=
  let status := "ctx.status(" ++ Nat.repr response.status ++ ")"
  if response.hasBody then
    let body := match response.accessor with
      | some name => name ++ "()"
      | none => "null"
    "[" ++ status ++ ", ctx.json(" ++ body ++ ")]"
  else "[" ++ status ++ "]"

/-- The registration of a handler. -/
def Handler.source (handler : Handler) : String :=
  "rest." ++ Text.lowerAscii handler.method.name ++ "(\x60" ++ templateQuoted handler.route ++
    "\x60, (req, res, ctx) => \x7b\n      const resultArray = [" ++
    ", ".intercalate (handler.responses.map MockResponse.source) ++
    "];\n      return res(...resultArray[context.next(req.url.pathname) % " ++
    "resultArray.length]);\n    \x7d),"

/-- The definition of a function that makes up a body. -/
def Accessor.source (accessor : Accessor) : String :=
  "export function " ++ accessor.name ++ "() \x7b return " ++ accessor.body.expression ++ " \x7d;\n"

namespace Mock

/-- The registrations of all handlers. -/
def handlerSource (mock : Mock) : String := "\n    ".intercalate (mock.handlers.map Handler.source)

/-- The definitions of all functions. -/
def accessorSource (mock : Mock) : String := "\n".intercalate (mock.accessors.map Accessor.source)

end Mock

/-- The imports of the module. -/
def importLines (options : Options) : List String :=
  ["import \x7b rest \x7d from 'mswx';", "import \x7b faker \x7d from '@faker-js/faker';"] ++
    (match options.registryImport? with
      | some path =>
        ["import \x7b generateMock \x7d from '@anatine/zod-mock';",
          "import \x7b schemas \x7d from '" ++ singleQuoted path ++ "';"]
      | none => []) ++
    [if options.node then "import \x7b setupServer \x7d from 'msw/node';"
      else "import \x7b setupWorker \x7d from 'msw';"]

/-- The comment at the head of the module. -/
def headerSource (title : String) : String :=
  let source := if title.isEmpty then "" else " from \"" ++ commentText title ++ "\""
  "/**\n * This file is AUTO GENERATED by mockgen" ++ source ++ ".\n" ++
    " * Feel free to commit/edit it as you need.\n */\n/* eslint-disable */\n" ++
    "/* tslint:disable */\n"

/-- The counters of paths. -/
def counterSource (typed : Bool) : String :=
  (if typed then
    "interface MockContext \x7b\n  next(pathname: string): number;\n\x7d\n\n" ++
      "export function createMockContext(): MockContext \x7b\n" ++
      "  const counters: \x7b [pathname: string]: number \x7d = \x7b\x7d;"
  else "export function createMockContext() \x7b\n  const counters = \x7b\x7d;") ++
    "\n  return \x7b\n    next(pathname" ++ (if typed then ": string" else "") ++ ") \x7b\n" ++
    "      const current = counters[pathname] ?? 0;\n" ++
    "      counters[pathname] = current + 1;\n      return current;\n    \x7d,\n  \x7d;\n\x7d\n"

/-- The statement that starts the mock. -/
def startSource (node : Bool) : String :=
  if node then "export const server = setupServer(...handlers);"
  else "export const worker = setupWorker(...handlers);"

/-- The text of the module of a mock. -/
def moduleSource (title baseUrl : String) (options : Options) (mock : Mock) : String :=
  headerSource title ++ String.join ((importLines options).map (· ++ "\n")) ++
    "\nfaker.seed(1);\n\nconst " ++ arrayLengthName ++ " = " ++ Nat.repr options.maxArrayLength ++
    ";\n\n" ++ counterSource options.isTypeScript ++
    "\nrest.config.API_PREFIX = '" ++ singleQuoted baseUrl ++ "';\n\n" ++
    "export function createHandlers(context" ++
    (if options.isTypeScript then ": MockContext" else "") ++ ") \x7b\n  return [\n    " ++
    mock.handlerSource ++ "\n  ];\n\x7d\n\n" ++
    "export const handlers = createHandlers(createMockContext());\n\n" ++
    startSource options.node ++ "\n\n" ++ mock.accessorSource

/-- The text of the mock module of a document. -/
def Specification.source (specification : Specification) (options : Options) : String :=
  moduleSource specification.title specification.baseUrl options
    (Mock.ofOperations options specification.operations)

end ApiMock
