import Warden.User.Basic
import Warden.Token.Scope
/-!
# Claims about a user

What a client learns about a user depends on the scopes it was granted:
`openid` gives the subject, `email` the address (always marked verified), and
`profile` the names, the picture and the locale. Other scopes add nothing,
and a scope granted twice adds nothing more.

`UserInfo.project` builds the claims by going through the granted scopes in
order; `grant_grant` shows that a repeated scope changes nothing.
-/

namespace Warden

/-- Claims about a user; a claim that no granted scope allows is absent. -/
structure UserInfo where
  sub : Option String := none
  email : Option String := none
  emailVerified : Option Bool := none
  preferredUsername : Option String := none
  name : Option String := none
  familyName : Option String := none
  givenName : Option String := none
  nickname : Option String := none
  locale : Option String := none
  picture : Option String := none
  deriving DecidableEq, Repr

namespace UserInfo

/-- The locale every profile is given. -/
def defaultLocale : String := "en"

/-- The claims after one more granted scope. -/
def grant (u : User) (subject : String) (info : UserInfo) (scope : String) : UserInfo :=
  if scope == Token.Scope.openid then { info with sub := some subject }
  else if scope == Token.Scope.email then
    { info with email := some u.email, emailVerified := some true }
  else if scope == Token.Scope.profile then
    { info with
      preferredUsername := some u.username
      name := some u.usualFullName
      familyName := some u.lastName
      nickname := some u.username
      givenName := some u.givenName
      locale := some defaultLocale
      picture := u.picture }
  else info

/-- The claims about a user that the granted scopes allow. -/
def project (u : User) (subject : String) (granted : List String) : UserInfo :=
  granted.foldl (grant u subject) {}

/-- Some claim of the profile is present. -/
def hasProfileClaims (info : UserInfo) : Bool :=
  info.preferredUsername.isSome || info.name.isSome || info.familyName.isSome ||
    info.givenName.isSome || info.nickname.isSome || info.locale.isSome || info.picture.isSome

-- ============================================================ repeats

/-- Granting a scope twice is granting it once. -/
theorem grant_grant (u : User) (subject : String) (info : UserInfo) (s : String) :
    grant u subject (grant u subject info s) s = grant u subject info s := by
  by_cases h1 : s = Token.Scope.openid
  · simp [grant, h1]
  by_cases h2 : s = Token.Scope.email
  · simp [grant, h2, Token.Scope.email, Token.Scope.openid]
  by_cases h3 : s = Token.Scope.profile
  · simp [grant, h3, Token.Scope.email, Token.Scope.openid, Token.Scope.profile]
  simp [grant, h1, h2, h3]

end UserInfo

end Warden
