/-!
# Errors

Every failure of the library is an `Error`: a cause with its message, or a
context line wrapped around another error. What a client learns from an
error is its `ErrorKind`: the kind fixes the HTTP status, the short code and
the public description, and no message text reaches a response body.

A wrapped error has the kind of the error it wraps (`kind_context`), so
context lines never change how a failure is answered.
-/

namespace Warden

-- ============================================================ kinds

/-- How a failure is answered: seven kinds, each with one status and code. -/
inductive ErrorKind where
  | unauthorized
  | forbidden
  | invalidRefreshToken
  | invalidClient
  | accessDenied
  | invalidRequest
  | serverError
  deriving DecidableEq, Repr

namespace ErrorKind

/-- The short code of a kind, as OAuth error responses spell it. -/
def code : ErrorKind → String
  | unauthorized => "unauthorized"
  | forbidden => "forbidden"
  | invalidRefreshToken => "invalid_grant"
  | invalidClient => "invalid_client"
  | accessDenied => "access_denied"
  | invalidRequest => "invalid_request"
  | serverError => "server_error"

/-- The HTTP status of a kind. -/
def status : ErrorKind → Nat
  | unauthorized | invalidClient => 401
  | forbidden | accessDenied => 403
  | invalidRefreshToken | invalidRequest => 400
  | serverError => 500

/-- The fixed text a client is shown for a kind. -/
def publicDescription : ErrorKind → String
  | unauthorized => "missing, malformed or expired credential"
  | forbidden => "insufficient scope or permission"
  | invalidRefreshToken => "invalid refresh token"
  | invalidClient => "token was not issued for this client"
  | accessDenied => "token not found"
  | invalidRequest => "unsupported request"
  | serverError => "internal server error"

end ErrorKind

/-- Whether an HTTP status reports a failure of the server (`5xx`). -/
def isServerErrorStatus (status : Nat) : Bool := 500 ≤ status && status < 600

/-- Who a failure is charged to, for monitoring: the client, whose
    requests are answered `4xx`, or the server, answered `5xx`. -/
inductive ErrorCategory where
  | client
  | server
  deriving DecidableEq, Repr

-- ============================================================ errors

/-- A failure of the library. Each cause carries its message; `context`
    puts a line in front of another error. -/
inductive Error where
  | config (message : String)
  | database (message : String)
  | io (message : String)
  | serialization (message : String)
  | unauthorized (message : String)
  | forbidden (message : String)
  | invalidRefreshToken (message : String)
  | invalidClient (message : String)
  | accessDenied (message : String)
  | invalidRequest (message : String)
  | serverError (message : String)
  | timeout (message : String) (seconds : Nat)
  | context (line : String) (source : Error)
  deriving DecidableEq, Repr

namespace Error

/-- The kind of an error; a context line keeps the kind of what it wraps. -/
def kind : Error → ErrorKind
  | unauthorized _ => .unauthorized
  | forbidden _ => .forbidden
  | invalidRefreshToken _ => .invalidRefreshToken
  | invalidClient _ => .invalidClient
  | accessDenied _ => .accessDenied
  | invalidRequest _ => .invalidRequest
  | config _ | database _ | io _ | serialization _ | serverError _ | timeout _ _ => .serverError
  | context _ e => e.kind

/-- The name of an error's cause. -/
def variant : Error → String
  | config _ => "Config"
  | database _ => "Database"
  | io _ => "Io"
  | serialization _ => "Serialization"
  | unauthorized _ => "Unauthorized"
  | forbidden _ => "Forbidden"
  | invalidRefreshToken _ => "InvalidRefreshToken"
  | invalidClient _ => "InvalidClient"
  | accessDenied _ => "AccessDenied"
  | invalidRequest _ => "InvalidRequest"
  | serverError _ => "ServerError"
  | timeout _ _ => "Timeout"
  | context _ _ => "Context"

/-- The full text of an error: its cause's heading, then the message. -/
def message : Error → String
  | config m => "配置错误: " ++ m
  | database m => "数据库错误: " ++ m
  | io m => "IO错误: " ++ m
  | serialization m => "序列化错误: " ++ m
  | unauthorized m => "未认证: " ++ m
  | forbidden m => "权限不足: " ++ m
  | invalidRefreshToken m => "无效的刷新令牌: " ++ m
  | invalidClient m => "无效的客户端: " ++ m
  | accessDenied m => "访问被拒绝: " ++ m
  | invalidRequest m => "无效的请求: " ++ m
  | serverError m => "内部错误: " ++ m
  | timeout m s => "操作超时: " ++ m ++ " (" ++ toString s ++ "s)"
  | context line e => line ++ ": " ++ e.message

theorem kind_context (line : String) (e : Error) : (context line e).kind = e.kind := rfl

/-- Whose failure an error is, read off its kind's status. -/
def category (e : Error) : ErrorCategory :=
  if isServerErrorStatus e.kind.status then .server else .client

/-- The status and code a response to an error is made of. -/
def toHttpResponseParts (e : Error) : Nat × String := (e.kind.status, e.kind.code)

/-- Any SQL failure of the credential store. -/
def storage : Error := database "数据库操作失败"

end Error

/-- A computation of the library that may fail. -/
abbrev Outcome (α : Type) := Except Error α

end Warden
