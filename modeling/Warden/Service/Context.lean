import Warden.Config.Basic
import Warden.Config.Decode
import Warden.Token.Policy
import Warden.Token.Reference
import Warden.Rbac.Graph
/-!
# What the service is built from

The parts of the service that never change while it runs: its settings,
the token lifetimes they give, the cipher that seals references under the
configured secret, and the role graph. A service is loaded from the text
of its settings and of its role definitions, in that order; either failing
to read stops it.
-/

namespace Warden.Service

open Warden.Token

/-- The fixed parts of a running service. -/
structure Context where
  config : Config.AppConfig
  policy : Policy
  cipher : Cipher
  roles : Rbac.Graph

/-- The service that a configuration and a role graph describe. -/
def Context.ofConfig (c : Config.AppConfig) (g : Rbac.Graph) : Context :=
  { config := c
    policy := Policy.ofLifetimes c.auth.token
    cipher := Cipher.ofSecret c.auth.cryptoSecret
    roles := g }

/-- The service that the settings text and the role definitions describe. -/
def Context.load (settings roleText : String) : Outcome Context := do
  let c ← Config.AppConfig.ofToml settings
  let g ← Rbac.Graph.ofYaml roleText
  return Context.ofConfig c g

/-- The client id of the service's own front end. -/
def Context.builtinClient (ctx : Context) : String := ctx.config.auth.builtinClientId

end Warden.Service
