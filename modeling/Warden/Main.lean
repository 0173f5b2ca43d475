import Warden.Config.Load
import Warden.Http.Wire
import Warden.Service.Context
/-!
# The command line

`warden [-c PATH | --config PATH | --config=PATH]` loads the configuration
(the named file, or `config/config.ENV.toml`), lets the environment replace
the settings it names, validates it, loads the role definitions from the
configured path, and then answers the HTTP/1.1 requests it reads on standard
input, one after another, writing each response to standard output. The
credential store lives in memory for the run.

A failure to start is written to standard error and ends the run with
status 1; a command line that cannot be read ends it with status 2.
-/

open Warden

/-- How the command line is used. -/
def usage : String :=
  "usage: warden [-c PATH | --config PATH | --config=PATH]"

/-- The text of a file, or why it cannot be had. -/
def readConfigFile (file : String) : IO (Outcome String) := do
  try
    return .ok (← IO.FS.readFile file)
  catch
    | .noFileOrDirectory .. => return .error (Config.missingFile file)
    | _ => return .error (Config.unreadableFile file)

/-- The text of the role definitions. -/
def readRoleFile (file : String) : IO (Outcome String) := do
  try
    return .ok (← IO.FS.readFile file)
  catch _ =>
    return .error (Config.unreadableRoles file)

/-- The service a configuration file describes, with the environment's say. -/
def startService (file : String) : IO (Outcome Service.Context) := do
  let env ← Config.environmentNames.mapM fun k => return (k, ← IO.getEnv k)
  let lookup := fun k => (env.lookup k).join
  match ← readConfigFile file with
  | .error e => return .error e
  | .ok text =>
    match Config.AppConfig.load text lookup with
    | .error e => return .error e
    | .ok config =>
      match ← readRoleFile config.rbacPath with
      | .error e => return .error e
      | .ok roles => return (Rbac.Graph.ofYaml roles).map (Service.Context.ofConfig config)

/-- All of standard input. -/
partial def readAll (stream : IO.FS.Stream) (acc : String) : IO String := do
  let line ← stream.getLine
  if line.isEmpty then return acc else readAll stream (acc ++ line)

/-- Answers the requests of a text in turn. -/
partial def serve (ctx : Service.Context) (text : String) (ledger : Service.Ledger) : IO Unit := do
  match Http.Request.read? text with
  | none => return
  | some (req, rest) =>
    let now : Token.Instant := (← IO.monoMsNow : Nat)
    -- requests are answered one at a time, so no write waits for the lock
    let (r, ledger) := (Http.route ctx req now 0).run.run ledger
    match r with
    | .ok response => IO.print response.write
    | .error e => IO.print (Http.Response.ofError e).write
    (← IO.getStdout).flush
    serve ctx rest ledger

def main (args : List String) : IO UInt32 := do
  match Config.Invocation.parse args with
  | .error msg =>
    IO.eprintln msg
    IO.eprintln usage
    return 2
  | .ok .help =>
    IO.println usage
    return 0
  | .ok .version =>
    IO.println "warden 0.1.0"
    return 0
  | .ok (.start file?) =>
    let file := file?.getD (Config.defaultFile (← IO.getEnv "RUST_ENV"))
    match ← startService file with
    | .error e =>
      IO.eprintln ("Error: " ++ e.message)
      return 1
    | .ok ctx =>
      serve ctx (← readAll (← IO.getStdin) "") {}
      return 0
