import Warden.Config.Basic
import Warden.Http.Header
import Warden.Text.Blank
import Warden.Text.Split
/-!
# The session cookie

The service keeps a browser's access token in one cookie. Setting it writes
the name, the value and fixed attributes: the cookie is for every path, is
hidden from scripts, follows the configured same-site rule, lives for the
token's lifetime (never less than zero seconds) and, when so configured, is
sent over secure connections only. Clearing it sets an empty value that
expires at once under the lax rule, so that a browser drops it whatever the
configured rule.

A `Cookie` request header holds pairs `name=value` between semicolons;
`findCookie` gives the value of the first pair with the name, blanks around
the pair removed.
-/

namespace Warden.Http

open Warden.Config

/-- The `Set-Cookie` text for a cookie value, rule and lifetime. It fails when
    the text cannot be sent as a header value. -/
def cookieText (cfg : Config.Cookie) (value : String) (rule : SameSite) (maxAge : Int) :
    Outcome String :=
  let text := cfg.name ++ "=" ++ value ++ "; Path=/; HttpOnly; SameSite=" ++ rule.attribute ++
    "; Max-Age=" ++ toString maxAge ++ (if cfg.secure then "; Secure" else "")
  if validValue text then .ok text else .error (.serverError "无法构造 Cookie")

/-- Sets the session cookie to a value for `maxAge` seconds. -/
def authCookie (cfg : Config.Cookie) (value : String) (maxAge : Int) : Outcome String :=
  cookieText cfg value cfg.sameSite (max maxAge 0)

/-- Clears the session cookie. -/
def clearCookie (cfg : Config.Cookie) : Outcome String :=
  cookieText cfg "" .lax 0

/-- The pieces of a `Cookie` header between semicolons. -/
def cookiePieces (header : String) : List String :=
  (header.toList.splitOn ';').map String.ofList

/-- The value of a piece `name=value` of a `Cookie` header, blanks around
    the piece removed; the name ends at the first `=`. -/
def pairValue (name pair : String) : Option String :=
  match Text.splitOnce (Text.trim pair) '=' with
  | some (k, v) => if k == name then some v else none
  | none => none

/-- The value of the first pair named `name` in a `Cookie` header. -/
def findCookie (header name : String) : Option String :=
  (cookiePieces header).findSome? (pairValue name)

end Warden.Http
