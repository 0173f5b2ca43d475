import Warden.Text.Blank
import Warden.Text.Base64Url
import Warden.Crypto.Bytes
import Warden.Crypto.Sha256
import Warden.Crypto.Aes
import Warden.Crypto.Gcm
import Warden.Crypto.Der
import Warden.Crypto.Pem
import Warden.Crypto.Rsa
import Warden.Error
import Warden.Rbac.Permission
import Warden.Token.Scope
import Warden.Text.Integer
import Warden.Token.Reference
import Warden.Token.Request
import Warden.Yaml.Node
import Warden.Yaml.Token
import Warden.Yaml.Scan
import Warden.Yaml.Parse
import Warden.Rbac.Role
import Warden.Yaml.Decode
import Warden.Rbac.Document
import Warden.Rbac.Graph
import Warden.Toml.Value
import Warden.Toml.Read
import Warden.Config.Basic
import Warden.Config.Decode
import Warden.Token.Policy
import Warden.Http.Header
import Warden.Text.Split
import Warden.Http.Cookie
import Warden.Http.Credential
import Warden.User.Basic
import Warden.User.Info
import Warden.Token.Exchange
import Warden.Number.Binary64
import Warden.Number.Shortest
import Warden.Json.Value
import Warden.Json.Write
import Warden.Json.Read
import Warden.Store.Basic
import Warden.Service.Ledger
import Warden.Service.Lock
import Warden.Service.Issue
import Warden.Service.Revoke
import Warden.Service.Gate
import Warden.Service.Profile
import Warden.Service.Context
import Warden.Service.FirstParty
import Warden.Http.Body
import Warden.Http.MediaType
import Warden.Http.Router
import Warden.Http.Wire
import Warden.Config.Load
import Warden.Main
import Warden.Token.Signing
import Warden.Proofs.Rbac.Matching
import Warden.Proofs.Service.Exec
import Warden.Proofs.Service.Run
import Warden.Proofs.Service.Pairing
import Warden.Proofs.Service.Rotation
import Warden.Proofs.Crypto.Gcm
import Warden.Proofs.Token.Reference
import Warden.Proofs.Service.Gate
import Warden.Proofs.Rbac.Walk
import Warden.Proofs.Rbac.Resolution
import Warden.Proofs.Rbac.Cycles
import Warden.Proofs.Rbac.Loading
import Warden.Proofs.Service.Grant
import Warden.Proofs.Service.Partition
import Warden.Proofs.Http.Guard
import Warden.Proofs.Service.Outcome
import Warden.Proofs.Service.Codes
import Warden.Proofs.Text.Integer
import Warden.Proofs.Text.Split
import Warden.Proofs.Service.Session
import Warden.Proofs.Token.Lifetimes
import Warden.Proofs.Http.Cookie
import Warden.Proofs.Config.Validation
import Warden.Proofs.Service.Profile
import Warden.Proofs.Http.Credential
import Warden.Proofs.Rbac.Termination
import Warden.Proofs.Http.Refusal
import Warden.Proofs.Service.Lock
