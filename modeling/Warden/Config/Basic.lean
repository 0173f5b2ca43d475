import Warden.Error
/-!
# Service configuration

The settings the service starts from: where it listens, which database it
uses, how it issues and checks tokens, where the role document lives and how
much it logs. Every setting has a default, so an empty configuration is a
complete one; `AppConfig.violation?` then says whether the settings can run a
service, and names the first one that cannot.

Three settings may come from the environment instead, so that a secret need
not stand in a file: `Overrides.ofLookup` reads them and `AppConfig.override`
puts each one that is present in place, an empty value included.
-/

namespace Warden.Config

/-- The longest lifetime a token may be given: ten years, in seconds. -/
def maxTtl : Nat := 10 * 365 * 24 * 60 * 60

-- ============================================================ settings

/-- Where the service listens. -/
structure Server where
  host : String := "0.0.0.0"
  port : UInt16 := 8080
  deriving Repr

/-- The database and its connection pool. -/
structure Database where
  url : String := "sqlite://./data/identity.db"
  maxConnections : UInt32 := 10
  connectTimeout : UInt64 := 30
  deriving Repr

/-- Whether a browser sends the session cookie with requests from other sites. -/
inductive SameSite where
  | strict
  | lax
  | none
  deriving DecidableEq, Repr

/-- The rule as a cookie attribute writes it. -/
def SameSite.attribute : SameSite → String
  | .strict => "Strict"
  | .lax => "Lax"
  | .none => "None"

/-- How the session cookie is named and sent. -/
structure Cookie where
  name : String := "auth"
  secure : Bool := true
  sameSite : SameSite := .strict
  deriving Repr

/-- A client whose access tokens live longer than the default. -/
structure TrustedClient where
  clientId : String
  accessTtl : UInt64
  deriving DecidableEq, Repr

/-- Token lifetimes, in seconds. -/
structure Lifetimes where
  accessTtl : UInt64 := 5 * 60
  refreshTtl : UInt64 := 5 * 60 * 60
  authCodeTtl : UInt64 := 5 * 60
  trustedClients : List TrustedClient := [⟨"builtin", 30 * 24 * 60 * 60⟩]
  deriving Repr

/-- Which writes exclude each other: all of them, or those of one subject. -/
inductive LockMode where
  | global
  | perSubject
  deriving DecidableEq, Repr

/-- How tokens are issued and checked. -/
structure Auth where
  cryptoSecret : String := ""
  issuer : String := "http://localhost:8080"
  builtinClientId : String := "builtin"
  amr : List String := ["intra42"]
  cookie : Cookie := {}
  token : Lifetimes := {}
  lockMode : LockMode := .global
  operationTimeout : UInt64 := 10
  signingKeyBits : UInt64 := 2048
  deriving Repr

/-- All settings of the service. -/
structure AppConfig where
  server : Server := {}
  database : Database := {}
  auth : Auth := {}
  rbacPath : String := "config/rbac.yaml"
  logLevel : String := "info"
  deriving Repr

-- ============================================================ the database

/-- Some suffix of a text starts with `p`. -/
def hasInfix (p : List Char) : List Char → Bool
  | [] => p.isEmpty
  | c :: cs => p.isPrefixOf (c :: cs) || hasInfix p cs

/-- The database lives in memory only. -/
def Database.isMemory (d : Database) : Bool :=
  hasInfix ":memory:".toList d.url.toList

/-- The database is an SQLite one. -/
def Database.isSqlite (d : Database) : Bool :=
  "sqlite:".toList.isPrefixOf d.url.toList

-- ============================================================ validation

/-- The three token lifetimes that every configuration bounds. -/
inductive Lifetime where
  | access
  | refresh
  | authCode
  deriving DecidableEq, Repr

/-- The setting's name, as the configuration file spells it. -/
def Lifetime.key : Lifetime → String
  | .access => "access_token_ttl_secs"
  | .refresh => "refresh_token_ttl_secs"
  | .authCode => "auth_code_ttl_secs"

/-- The lifetime's value in a set of lifetimes. -/
def Lifetimes.get (t : Lifetimes) : Lifetime → UInt64
  | .access => t.accessTtl
  | .refresh => t.refreshTtl
  | .authCode => t.authCodeTtl

/-- A setting that no service can run with. -/
inductive Violation where
  | portZero
  | databaseUrlEmpty
  | noConnections
  | secretEmpty
  | builtinClientEmpty
  | cookieNameEmpty
  | timeoutZero
  | keyTooSmall (bits : Nat)
  | lifetimeZero (l : Lifetime)
  | lifetimeTooLong (l : Lifetime)
  | trustedClientUnnamed
  | trustedClientLifetime (clientId : String)
  | rbacPathEmpty
  deriving DecidableEq, Repr

/-- What the service reports for a setting it cannot run with. -/
def Violation.message : Violation → String
  | .portZero => "无效的服务器端口: 0"
  | .databaseUrlEmpty => "数据库URL不能为空"
  | .noConnections => "数据库最大连接数必须大于0"
  | .secretEmpty => "auth.crypto_secret 不能为空"
  | .builtinClientEmpty => "auth.builtin_client_id 不能为空"
  | .cookieNameEmpty => "auth.cookie.name 不能为空"
  | .timeoutZero => "auth.operation_timeout_secs 必须大于0"
  | .keyTooSmall bits => "auth.signing_key_bits 不能小于2048: " ++ toString bits
  | .lifetimeZero l => "auth.token." ++ l.key ++ " 必须大于0"
  | .lifetimeTooLong l => "auth.token." ++ l.key ++ " 超出上限"
  | .trustedClientUnnamed => "auth.token.trusted_clients 中的 client_id 不能为空"
  | .trustedClientLifetime id => "可信客户端 " ++ id ++ " 的有效期无效"
  | .rbacPathEmpty => "rbac.path 不能为空"

/-- The first of a list of checks that fails. -/
def firstViolation : List (Bool × Violation) → Option Violation
  | [] => none
  | (ok, v) :: rest => if ok then firstViolation rest else some v

/-- A lifetime must be positive and at most ten years. -/
def Lifetimes.checks (t : Lifetimes) : List (Bool × Violation) :=
  ([Lifetime.access, .refresh, .authCode].flatMap fun l =>
    [(t.get l != 0, .lifetimeZero l), (decide ((t.get l).toNat ≤ maxTtl), .lifetimeTooLong l)]) ++
  t.trustedClients.flatMap fun c =>
    [(!c.clientId.isEmpty, .trustedClientUnnamed),
     (c.accessTtl != 0 && c.accessTtl.toNat ≤ maxTtl, .trustedClientLifetime c.clientId)]

/-- Every check of a configuration, in the order they are made. -/
def AppConfig.checks (c : AppConfig) : List (Bool × Violation) :=
  [(c.server.port != 0, .portZero),
   (!c.database.url.isEmpty, .databaseUrlEmpty),
   (c.database.maxConnections != 0, .noConnections),
   (!c.auth.cryptoSecret.isEmpty, .secretEmpty),
   (!c.auth.builtinClientId.isEmpty, .builtinClientEmpty),
   (!c.auth.cookie.name.isEmpty, .cookieNameEmpty),
   (c.auth.operationTimeout != 0, .timeoutZero),
   (2048 ≤ c.auth.signingKeyBits.toNat, .keyTooSmall c.auth.signingKeyBits.toNat)] ++
  c.auth.token.checks ++
  [(!c.rbacPath.isEmpty, .rbacPathEmpty)]

/-- The first setting that no service can run with, if there is one. -/
def AppConfig.violation? (c : AppConfig) : Option Violation :=
  firstViolation c.checks

/-- A configuration that a service can run with, or the first reason it cannot. -/
def AppConfig.validate (c : AppConfig) : Outcome Unit :=
  match c.violation? with
  | none => .ok ()
  | some v => .error (.config v.message)

-- ============================================================ the environment

/-- Settings given by the environment; each one present replaces the file's. -/
structure Overrides where
  cryptoSecret : Option String := none
  databaseUrl : Option String := none
  rbacPath : Option String := none

/-- The environment variables that may replace settings. -/
def Overrides.ofLookup (lookup : String → Option String) : Overrides :=
  { cryptoSecret := lookup "IDENTITY_CRYPTO_SECRET"
    databaseUrl := lookup "DATABASE_URL"
    rbacPath := lookup "IDENTITY_RBAC_PATH" }

/-- Puts every setting the environment gives in place of the file's. -/
def AppConfig.override (c : AppConfig) (o : Overrides) : AppConfig :=
  { c with
    auth := { c.auth with cryptoSecret := o.cryptoSecret.getD c.auth.cryptoSecret }
    database := { c.database with url := o.databaseUrl.getD c.database.url }
    rbacPath := o.rbacPath.getD c.rbacPath }

end Warden.Config
