import Warden.Config.Basic
import Warden.Toml.Read
/-!
# Reading the configuration file

The configuration file is TOML. Each section is a record of settings: a
table names them, and an array gives them in their order of declaration. A
setting that is missing keeps its default, a key that names no setting is
passed over, and a value of the wrong kind or out of its range makes the file
unreadable. Numbers are whole and must fit the setting's width; a lifetime
may be as long as the largest 64-bit word.

`AppConfig.ofToml` reports every way a file can fail to read with one
message: the file is not a configuration.
-/

namespace Warden.Config

open Warden.Toml

/-- A reading of part of the file, or why it failed. -/
abbrev Decode := Except String

namespace Decode

-- ============================================================ values

/-- A text setting. -/
def text : Value → Decode String
  | .string s => pure s
  | _ => throw "expected a string"

/-- A yes-or-no setting. -/
def flag : Value → Decode Bool
  | .boolean b => pure b
  | _ => throw "expected a boolean"

/-- A whole number below `bound`. -/
def below (bound : Nat) : Value → Decode Nat
  | .integer i =>
    if 0 ≤ i ∧ i.toNat < bound then pure i.toNat else throw "integer out of range"
  | _ => throw "expected an integer"

/-- A 16-bit setting. -/
def word16 (v : Value) : Decode UInt16 := do return (← below (Nat.pow 2 16) v).toUInt16

/-- A 32-bit setting. -/
def word32 (v : Value) : Decode UInt32 := do return (← below (Nat.pow 2 32) v).toUInt32

/-- A 64-bit setting. -/
def word64 (v : Value) : Decode UInt64 := do return (← below (Nat.pow 2 64) v).toUInt64

/-- The items of a list setting. -/
def items : Value → Decode (List Value)
  | .array vs _ => pure vs
  | _ => throw "expected an array"

/-- A list of texts. -/
def texts (v : Value) : Decode (List String) := do (← items v).mapM text

/-- One of a fixed set of choices, written by name, or as a table whose one
    key names it and whose value is empty. -/
def choice (choices : List (String × α)) : Value → Decode α
  | .string s => match choices.lookup s with
    | some a => pure a
    | none => throw ("unknown variant " ++ s)
  | .table _ [(s, v)] =>
    match choices.lookup s, v with
    | some a, .table _ [] => pure a
    | some a, .array [] _ => pure a
    | some _, _ => throw "expected an empty table"
    | none, _ => throw ("unknown variant " ++ s)
  | _ => throw "expected a string or a table"

-- ============================================================ records

/-- The settings of a record: a table gives them by name, an array by the
    place of each name in `names`. -/
def fields (names : List String) : Value → Decode (String → Option Value)
  | .table _ es => pure fun k => es.lookup k
  | .array vs _ => pure fun k => (names.idxOf? k).bind (vs[·]?)
  | _ => throw "expected a table"

/-- A setting that keeps its default when it is missing. -/
def setting (get : String → Option Value) (name : String) (read : Value → Decode α)
    (default : α) : Decode α :=
  match get name with
  | none => pure default
  | some v => read v

/-- A setting that must be given. -/
def required (get : String → Option Value) (name : String) (read : Value → Decode α) :
    Decode α :=
  match get name with
  | none => throw ("missing field " ++ name)
  | some v => read v

/-- The listening address. -/
def server (v : Value) : Decode Server := do
  let get ← fields ["host", "port"] v
  let d : Server := {}
  return { host := ← setting get "host" text d.host
           port := ← setting get "port" word16 d.port }

/-- The database settings. -/
def database (v : Value) : Decode Database := do
  let get ← fields ["url", "max_connections", "connect_timeout"] v
  let d : Database := {}
  return { url := ← setting get "url" text d.url
           maxConnections := ← setting get "max_connections" word32 d.maxConnections
           connectTimeout := ← setting get "connect_timeout" word64 d.connectTimeout }

/-- The session cookie. -/
def cookie (v : Value) : Decode Cookie := do
  let get ← fields ["name", "secure", "same_site"] v
  let d : Cookie := {}
  return { name := ← setting get "name" text d.name
           secure := ← setting get "secure" flag d.secure
           sameSite := ← setting get "same_site"
             (choice [("strict", .strict), ("lax", .lax), ("none", .none)]) d.sameSite }

/-- A trusted client: both of its settings must be given. -/
def trustedClient (v : Value) : Decode TrustedClient := do
  let get ← fields ["client_id", "access_token_ttl_secs"] v
  return { clientId := ← required get "client_id" text
           accessTtl := ← required get "access_token_ttl_secs" word64 }

/-- The token lifetimes. -/
def lifetimes (v : Value) : Decode Lifetimes := do
  let get ← fields ["access_token_ttl_secs", "refresh_token_ttl_secs", "auth_code_ttl_secs",
    "trusted_clients"] v
  let d : Lifetimes := {}
  return { accessTtl := ← setting get "access_token_ttl_secs" word64 d.accessTtl
           refreshTtl := ← setting get "refresh_token_ttl_secs" word64 d.refreshTtl
           authCodeTtl := ← setting get "auth_code_ttl_secs" word64 d.authCodeTtl
           trustedClients := ← setting get "trusted_clients"
             (fun v => do (← items v).mapM trustedClient) d.trustedClients }

/-- The token settings. -/
def auth (v : Value) : Decode Auth := do
  let get ← fields ["crypto_secret", "issuer", "builtin_client_id", "amr", "cookie", "token",
    "lock_mode", "operation_timeout_secs", "signing_key_bits"] v
  let d : Auth := {}
  return { cryptoSecret := ← setting get "crypto_secret" text d.cryptoSecret
           issuer := ← setting get "issuer" text d.issuer
           builtinClientId := ← setting get "builtin_client_id" text d.builtinClientId
           amr := ← setting get "amr" texts d.amr
           cookie := ← setting get "cookie" cookie d.cookie
           token := ← setting get "token" lifetimes d.token
           lockMode := ← setting get "lock_mode"
             (choice [("global", .global), ("per_subject", .perSubject)]) d.lockMode
           operationTimeout := ← setting get "operation_timeout_secs" word64 d.operationTimeout
           signingKeyBits := ← setting get "signing_key_bits" word64 d.signingKeyBits }

/-- A section holding one setting. -/
def single (name : String) (read : Value → Decode α) (default : α) (v : Value) : Decode α := do
  setting (← fields [name] v) name read default

/-- A whole configuration. -/
def appConfig (v : Value) : Decode AppConfig := do
  let get ← fields ["server", "database", "auth", "rbac", "logging"] v
  let d : AppConfig := {}
  return { server := ← setting get "server" server d.server
           database := ← setting get "database" database d.database
           auth := ← setting get "auth" auth d.auth
           rbacPath := ← setting get "rbac" (single "path" text d.rbacPath) d.rbacPath
           logLevel := ← setting get "logging" (single "level" text d.logLevel) d.logLevel }

end Decode

/-- The configuration a TOML file describes. -/
def AppConfig.ofToml (text : String) : Outcome AppConfig :=
  match Toml.read text >>= fun es => Decode.appConfig (.table .header es) with
  | .ok c => .ok c
  | .error _ => .error (.config "TOML解析失败")

end Warden.Config
