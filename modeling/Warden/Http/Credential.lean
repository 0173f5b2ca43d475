import Warden.Http.Cookie
/-!
# The credential of a request

A request presents its access token either as a bearer token in the
`Authorization` header or in the session cookie. The header wins: its first
value, when it reads as plain text, is a scheme and a token split at the
first space, and the scheme must be `bearer` in any ASCII case. Otherwise
the first `Cookie` header that reads as plain text and holds the session
cookie gives it. A credential is never empty.
-/

namespace Warden.Http

/-- The scheme is `bearer`, in any ASCII case. -/
def isBearer (scheme : String) : Bool :=
  scheme.toList.map Char.toLower == "bearer".toList

/-- The bearer token of the `Authorization` header, if it has a non-empty one. -/
def bearerToken (hs : Headers) : Option String := do
  let value ← hs.get? "authorization"
  guard (visible value)
  let (scheme, token) ← Text.splitOnce value ' '
  guard (isBearer scheme)
  let token := Text.trim token
  guard (!token.isEmpty)
  return token

/-- The session cookie's value, from the first `Cookie` header that holds it. -/
def cookieToken (hs : Headers) (cookieName : String) : Option String := do
  let token ← ((hs.getAll "cookie").filter visible).findSome? (findCookie · cookieName)
  guard (!token.isEmpty)
  return token

/-- The credential a request presents: its bearer token, else its session cookie. -/
def credential (hs : Headers) (cookieName : String) : Option String :=
  (bearerToken hs).or (cookieToken hs cookieName)

end Warden.Http
