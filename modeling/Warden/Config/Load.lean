import Warden.Config.Decode
/-!
# Starting from a configuration file

The service is started with at most one option, the configuration file
(`-c PATH`, `--config PATH` or `--config=PATH`). Without it the file is
`config/config.ENV.toml`, where `ENV` is the environment variable
`RUST_ENV`, or `dev` when that is unset.

A configuration is loaded in three steps, each of which may stop the
service: the file is read as a configuration, the environment replaces the
settings it names (`Overrides`), and the result must pass
`AppConfig.validate`. A file that is missing or unreadable stops the service
before any of them.
-/

namespace Warden.Config

/-- What the command line asks for. -/
inductive Invocation where
  /-- start the service, with the configuration file if one is named -/
  | start (file : Option String)
  /-- print the usage -/
  | help
  /-- print the version -/
  | version
  deriving DecidableEq, Repr

namespace Invocation

/-- Reads the arguments; the text of a refusal says what was wrong. -/
def parse : List String → Except String Invocation
  | [] => .ok (.start none)
  | ["-h"] | ["--help"] => .ok .help
  | ["-V"] | ["--version"] => .ok .version
  | ["-c", file] | ["--config", file] => .ok (.start (some file))
  | [arg] =>
    if arg.startsWith "--config=" then .ok (.start (some (String.ofList (arg.toList.drop 9))))
    else .error ("unexpected argument " ++ arg)
  | arg :: _ => .error ("unexpected argument " ++ arg)

end Invocation

/-- The configuration file when none is named, for the value of `RUST_ENV`. -/
def defaultFile (env : Option String) : String :=
  "config/config." ++ env.getD "dev" ++ ".toml"

/-- A configuration file that does not exist. -/
def missingFile (file : String) : Error := .config ("配置文件不存在: " ++ file)

/-- A configuration file that cannot be read. -/
def unreadableFile (file : String) : Error := .config ("读取配置文件失败: " ++ file)

/-- A role file that cannot be opened. -/
def unreadableRoles (file : String) : Error :=
  .context ("无法打开角色定义文件: " ++ file) (.io "文件操作失败")

/-- The environment variables a configuration reads (`Overrides.ofLookup`). -/
def environmentNames : List String := ["IDENTITY_CRYPTO_SECRET", "DATABASE_URL", "IDENTITY_RBAC_PATH"]

/-- The configuration a file's text gives once the environment has replaced
    what it names, if a service can run with it. -/
def AppConfig.load (text : String) (lookup : String → Option String) : Outcome AppConfig := do
  let c := (← AppConfig.ofToml text).override (Overrides.ofLookup lookup)
  c.validate
  return c

end Warden.Config
