import ApiMock.Json.Basic
import ApiMock.Options.Basic
import ApiMock.Url.Absolute

/-!
# Server address

What all routes of a mock start with: the address of the options or else of the first server of
the document. An address that is neither absolute nor a path is not used.
-/
namespace ApiMock.Document

/-- The address of the first server of a document. -/
def serverUrl? (document : Json) : Option String := do
  let servers ← document.get? "servers"
  let server ← (← servers.items?).head?
  server.getText? "url"

/-- What all routes start with, without slashes at its end. -/
def baseUrl (document : Json) (options : Options) : String :=
  match options.baseUrl.or (serverUrl? document) with
  | none => ""
  | some url =>
    let url := Text.trim url
    if Url.isAbsolute url || url.toList.head? == some '/' then Text.trimSlashes url else ""

end ApiMock.Document
