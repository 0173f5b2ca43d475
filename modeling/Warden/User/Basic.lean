/-!
# Users

A user of the service, as the user store keeps one: a unique username, an
email address, the names used to address them and the roles they hold. A
user may prefer a first name to their legal one (`User.givenName`), and may
have a picture.
-/

namespace Warden

/-- A user of the service. -/
structure User where
  id : Int
  username : String
  email : String
  firstName : String
  lastName : String
  usualFirstName : Option String
  usualFullName : String
  picture : Option String
  roles : List String
  deriving DecidableEq, Repr

/-- The first name a user goes by: the one they prefer, when they gave one,
    even an empty one. -/
def User.givenName (u : User) : String :=
  u.usualFirstName.getD u.firstName

end Warden
