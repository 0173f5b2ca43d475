import Warden.Http.Router
import Warden.Json.Write
import Warden.Text.Split
import Warden.Text.Blank
/-!
# HTTP/1.1 messages as text

A request is a request line `METHOD TARGET VERSION`, header lines
`Name: value`, a blank line, and as many body bytes as `Content-Length`
says (none when it is absent). Lines end with CRLF. `Request.read?` takes one
request off the front of a text and gives back the rest, so that requests
sent one after another are read in turn.

A response is written as a status line with the reason phrase, the content
type and cookies it has, its `Content-Length`, a blank line and the body.
-/

namespace Warden.Http

-- ============================================================ requests

/-- A header line `Name: value`, the value without surrounding blanks. -/
def headerLine? (line : String) : Option (String × String) := do
  let (name, value) ← Text.splitOnce line ':'
  if name.isEmpty || name.any (· == ' ') then none
  return (name, Text.trim value)

/-- The head of a message and what follows its blank line. -/
def splitHead (text : String) : Option (String × String) :=
  match text.splitOn "\r\n\r\n" with
  | head :: rest@(_ :: _) => some (head, "\r\n\r\n".intercalate rest)
  | _ => none

/-- Reads one request off the front of a text, and gives the rest. -/
def Request.read? (text : String) : Option (Request × String) := do
  let (head, after) ← splitHead text
  let lines := head.splitOn "\r\n"
  let (method, target) ← match (lines.headD "").splitOn " " with
    | [m, t, _] => some (m, t)
    | _ => none
  let headers ← (lines.drop 1).mapM headerLine?
  let length := ((Headers.get? headers "content-length").bind String.toNat?).getD 0
  let bytes := after.toUTF8.toList
  if bytes.length < length then none
  let body ← String.fromUTF8? (ByteArray.mk (bytes.take length).toArray)
  let rest ← String.fromUTF8? (ByteArray.mk (bytes.drop length).toArray)
  return ({ method, path := target, headers, body }, rest)

-- ============================================================ responses

/-- The reason phrase of the statuses the service answers with. -/
def reason : Nat → String
  | 200 => "OK"
  | 400 => "Bad Request"
  | 401 => "Unauthorized"
  | 403 => "Forbidden"
  | 404 => "Not Found"
  | 405 => "Method Not Allowed"
  | 415 => "Unsupported Media Type"
  | 422 => "Unprocessable Entity"
  | 500 => "Internal Server Error"
  | _ => ""

/-- The text of a body. -/
def Body.content : Body → String
  | .empty => ""
  | .text t => t
  | .json v => Json.render v

/-- The header lines of a response, content length last. -/
def Response.headerLines (r : Response) : List (String × String) :=
  (r.contentType.map fun c => [("content-type", c)]).getD [] ++
    r.setCookie.map (("set-cookie", ·)) ++ [("content-length", toString r.body.content.utf8ByteSize)]

/-- A response as text. -/
def Response.write (r : Response) : String :=
  let status := toString r.status
  let phrase := reason r.status
  let lines := r.headerLines.map fun (name, value) => name ++ ": " ++ value ++ "\r\n"
  "HTTP/1.1 " ++ status ++ " " ++ phrase ++ "\r\n" ++ String.join lines ++ "\r\n" ++ r.body.content

end Warden.Http
