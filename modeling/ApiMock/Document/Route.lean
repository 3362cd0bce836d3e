import ApiMock.Text.Basic

/-!
# Routes

Paths name parameters in braces and routes name them after a colon. A brace that opens no
parameter stays as it is: a parameter has at least one character and neither a slash nor a closing
brace within.
-/
namespace ApiMock

/-- Whether a text that follows an opening brace completes a parameter. -/
def closesParameter (text : List Char) : Bool :=
  let inside (c : Char) : Bool := c != '}' && c != '/'
  !(text.takeWhile inside).isEmpty && (text.dropWhile inside).head? == some '}'

/-- The route of the rest of a path; `inside` tells whether a parameter is open. -/
def routeFrom (inside : Bool) : List Char → List Char
  | [] => []
  | c :: rest =>
    if inside then
      if c = '}' then routeFrom false rest else c :: routeFrom true rest
    else if c = '{' && closesParameter rest then ':' :: routeFrom true rest
    else c :: routeFrom false rest

/-- The route of a path: parameters in braces become parameters after a colon. -/
def routeOfPath (path : String) : String := Text.onChars (routeFrom false) path

end ApiMock
