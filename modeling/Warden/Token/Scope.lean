import Warden.Error
/-!
# Scopes

A scope names a part of what a token grants. First-party sessions get the
five scopes `FIRST_PARTY` in a fixed order. A route accepts a token when the
token holds at least one of the route's scopes (`intersects`); a route that
lists no scope accepts none this way.
-/

namespace Warden.Token.Scope

def openid : String := "openid"
def profile : String := "profile"
def email : String := "email"
def offlineAccess : String := "offline_access"
def security : String := "security"

/-- The scopes of a first-party session, in the order they are granted. -/
def firstParty : List String := [openid, offlineAccess, profile, email, security]

/-- The audience that stands for every audience. -/
def anyAudience : String := "*"

/-- Some acceptable scope is granted. -/
def intersects (granted acceptable : List String) : Bool :=
  acceptable.any fun wanted => granted.contains wanted

theorem intersects_iff (granted acceptable : List String) :
    intersects granted acceptable = true ↔ ∃ s ∈ acceptable, s ∈ granted := by
  simp [intersects]

/-- Passes when some acceptable scope is granted; otherwise the refusal
    names the acceptable scopes. -/
def check (granted acceptable : List String) : Outcome Unit :=
  if intersects granted acceptable then .ok ()
  else .error (.forbidden ("missing one of the required scopes: " ++ ", ".intercalate acceptable))

end Warden.Token.Scope
