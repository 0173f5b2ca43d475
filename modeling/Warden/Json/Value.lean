import Warden.Number.Binary64
/-!
# JSON values

A JSON value as the service reads and writes it. Numbers are whole numbers
that fit 64 bits, of either sign, or finite doubles; a whole number outside
that range is read as a double. Objects keep their members in order; reading
sorts the members by key and keeps the last of two with one key, so that an
object read from text has each key once, in order.
-/

namespace Warden.Json

open Warden.Number

/-- A JSON value. -/
inductive Value where
  | null
  | bool (b : Bool)
  | int (i : Int)
  | float (x : Binary64)
  | string (s : String)
  | array (items : List Value)
  | object (members : List (String × Value))
  deriving Repr, Inhabited

namespace Value

/-- A list of texts. -/
def strings (xs : List String) : Value := .array (xs.map .string)

/-- The value of a member of an object. -/
def get? (v : Value) (key : String) : Option Value :=
  match v with
  | .object ms => ms.lookup key
  | _ => none

/-- An object without the members of one key. -/
def erase (v : Value) (key : String) : Value :=
  match v with
  | .object ms => .object (ms.filter (·.1 != key))
  | v => v

end Value

/-- Puts a member into members sorted by key, in place of one with its key. -/
def insertSorted (k : String) (v : Value) : List (String × Value) → List (String × Value)
  | [] => [(k, v)]
  | (k', v') :: rest =>
    if k < k' then (k, v) :: (k', v') :: rest
    else if k = k' then (k, v) :: rest
    else (k', v') :: insertSorted k v rest

end Warden.Json
