import Warden.Json.Value
/-!
# Reading JSON

A reader of JSON text with two ways to fail (`Fault`): the text is not JSON,
or it is JSON of a shape other than the one asked for. A request body that
is not JSON is a bad request, while one of the wrong shape cannot be
processed, so the two must stay apart, and the first fault met while reading
from left to right decides which.

Numbers follow the 64-bit rule: a whole number is kept exactly when it fits
64 bits (a negative one when it fits a signed word), and otherwise becomes a
double (`Binary64.ofDecimal?`), with a significand of at most 64 bits whose
further digits only count towards the exponent. A number too large for a
double is not JSON. Strings may hold escapes; a surrogate escape must be the
first half of a pair that follows at once. Arrays and objects nest at most
127 deep.

`Json.read` gives a whole value, members of each object sorted by key, the
last of two members with one key kept. `Json.readRecord` reads a record of
text fields: an object with every field once (members it does not know are
skipped, though they must be JSON), or an array of the field values in order.
-/

namespace Warden.Json

open Warden.Number

/-- Why a text is not the JSON asked for. -/
inductive Fault where
  /-- The text is not JSON, or it ends too early. -/
  | malformed (what : String)
  /-- The text is JSON, but not of the shape asked for. -/
  | wrongShape (what : String)
  deriving Repr

/-- Reading from the characters that remain. -/
abbrev Reader := StateT (List Char) (Except Fault)

namespace Reader

-- ============================================================ characters

/-- The next character, if any. -/
def peek : Reader (Option Char) := return (← get).head?

/-- Passes one character. -/
def bump : Reader Unit := modify (·.drop 1)

/-- Stops at text that is not JSON. -/
def fail (what : String) : Reader α := throw (.malformed what)

/-- Stops at JSON of the wrong shape. -/
def mismatch (what : String) : Reader α := throw (.wrongShape what)

/-- JSON's four blank characters. -/
def isSpace (c : Char) : Bool := c == ' ' || c == '\n' || c == '\t' || c == '\r'

/-- Passes blanks. -/
def skipSpace : Reader Unit := modify (·.dropWhile isSpace)

/-- A decimal digit. -/
def isDigit (c : Char) : Bool := '0' ≤ c && c ≤ '9'

/-- The value of a decimal digit. -/
def digitValue (c : Char) : Nat := c.toNat - 48

/-- Passes the rest of a name such as `null` after its first letter. -/
def ident (rest : List Char) : Reader Unit := do
  for c in rest do
    match ← peek with
    | none => fail "the text ends inside a name"
    | some d => if d == c then bump else fail "expected a name"

-- ============================================================ strings

/-- The value of a hex digit. -/
def hexValue? (c : Char) : Option Nat :=
  if '0' ≤ c ∧ c ≤ '9' then some (c.toNat - 48)
  else if 'a' ≤ c ∧ c ≤ 'f' then some (c.toNat - 87)
  else if 'A' ≤ c ∧ c ≤ 'F' then some (c.toNat - 55)
  else none

/-- Four hex digits of a `\u` escape. -/
def hex4 : Reader Nat := do
  let mut n := 0
  for _ in [0, 1, 2, 3] do
    match ← peek with
    | none => fail "the text ends inside an escape"
    | some c =>
      match hexValue? c with
      | some d => bump; n := n * 16 + d
      | none => fail "invalid escape"
  return n

/-- Expects the given character next. -/
def expectChar (c : Char) (what : String) : Reader Unit := do
  match ← peek with
  | some d => if d == c then bump else fail what
  | none => fail "the text ends inside a string"

/-- The character a `\u` escape stands for; a surrogate must be the first of
    a pair written as two escapes. -/
def unicodeEscape : Reader Char := do
  let n ← hex4
  if 0xDC00 ≤ n ∧ n ≤ 0xDFFF then fail "lone surrogate"
  else if n < 0xD800 ∨ 0xDBFF < n then return Char.ofNat n
  else
    expectChar '\\' "unexpected end of a surrogate pair"
    expectChar 'u' "unexpected end of a surrogate pair"
    let m ← hex4
    if m < 0xDC00 ∨ 0xDFFF < m then fail "lone surrogate"
    else return Char.ofNat ((n - 0xD800) * 0x400 + (m - 0xDC00) + 0x10000)

/-- The character an escape stands for, after its backslash. -/
def escape : Reader Char := do
  match ← peek with
  | none => fail "the text ends inside a string"
  | some c =>
    bump
    match c with
    | '"' => return '"'
    | '\\' => return '\\'
    | '/' => return '/'
    | 'b' => return Char.ofNat 8
    | 'f' => return Char.ofNat 12
    | 'n' => return '\n'
    | 'r' => return '\r'
    | 't' => return '\t'
    | 'u' => unicodeEscape
    | _ => fail "invalid escape"

/-- Passes an escape without reading what it stands for: any four hex digits
    follow a `u`. -/
def skipEscape : Reader Unit := do
  match ← peek with
  | none => fail "the text ends inside a string"
  | some c =>
    bump
    if "\"\\/bfnrt".toList.contains c then pure ()
    else if c == 'u' then discard hex4
    else fail "invalid escape"

/-- The rest of a string after its opening quote. Each round passes at least
    one character, so `fuel` above the length of the text suffices. -/
def stringRest : Nat → List Char → Reader String
  | 0, _ => fail "the text ends inside a string"
  | fuel + 1, acc => do
    match ← peek with
    | none => fail "the text ends inside a string"
    | some '"' => bump; return String.ofList acc.reverse
    | some '\\' => bump; stringRest fuel ((← escape) :: acc)
    | some c =>
      if c.toNat < 0x20 then fail "control character in a string"
      else bump; stringRest fuel (c :: acc)

/-- Passes the rest of a string after its opening quote. -/
def skipStringRest : Nat → Reader Unit
  | 0 => fail "the text ends inside a string"
  | fuel + 1 => do
    match ← peek with
    | none => fail "the text ends inside a string"
    | some '"' => bump
    | some '\\' => bump; skipEscape; skipStringRest fuel
    | some c =>
      if c.toNat < 0x20 then fail "control character in a string"
      else bump; skipStringRest fuel

/-- The fuel that a reading of the remaining text needs. -/
def budget : Reader Nat := return (← get).length + 1

/-- A string, at its opening quote. -/
def string : Reader String := do
  bump
  stringRest (← budget) []

-- ============================================================ numbers

/-- The largest 64-bit word. -/
def wordMax : Nat := Nat.pow 2 64 - 1

/-- The digits that come next. -/
def digits : Reader (List Char) := do
  let cs ← get
  set (cs.dropWhile isDigit)
  return cs.takeWhile isDigit

/-- Adds digits to a significand while it stays a 64-bit word; the digits
    that do not fit are counted. -/
def absorb : Nat → List Char → Nat × Nat
  | sig, [] => (sig, 0)
  | sig, d :: ds =>
    if sig * 10 + digitValue d ≤ wordMax then absorb (sig * 10 + digitValue d) ds
    else (sig, ds.length + 1)

/-- The double with the given sign and magnitude `sig · 10^exp`. -/
def fromParts (positive : Bool) (sig : Nat) (exp : Int) : Reader Value :=
  match Binary64.ofDecimal? sig exp with
  | none => fail "number out of range"
  | some f => return .float (if positive then f else f.negate)

/-- The exponent of a number, at its `e`. -/
def exponentPart (positive : Bool) (sig : Nat) (start : Int) : Reader Value := do
  bump
  let up ← match ← peek with
    | some '+' => bump; pure true
    | some '-' => bump; pure false
    | _ => pure true
  match ← peek with
  | none => fail "the text ends inside a number"
  | some c =>
    if !isDigit c then fail "invalid number"
    else
      let ds ← digits
      let exp := ds.foldl (fun n d => n * 10 + digitValue d) 0
      if exp > Nat.pow 2 31 - 1 then
        -- an exponent past the 32-bit range: zero or too large
        if sig != 0 && up then fail "number out of range"
        else return .float (if positive then Binary64.zero else Binary64.zero.negate)
      else fromParts positive sig (if up then start + exp else start - exp)

/-- The fraction of a number, at its point. -/
def fractionPart (positive : Bool) (sig : Nat) (start : Int) : Reader Value := do
  bump
  let ds ← digits
  if ds.isEmpty then
    match ← peek with
    | none => fail "the text ends inside a number"
    | some _ => fail "invalid number"
  else
    let (sig', rest) := absorb sig ds
    let exp := start - (ds.length - rest : Nat)
    match ← peek with
    | some 'e' | some 'E' => exponentPart positive sig' exp
    | _ => fromParts positive sig' exp

/-- A number after its sign. -/
def number (positive : Bool) : Reader Value := do
  match ← peek with
  | none => fail "the text ends inside a number"
  | some c =>
    if c == '0' then
      bump
      match ← peek with
      | some d => if isDigit d then fail "invalid number" else rest 0 0 false
      | none => rest 0 0 false
    else if isDigit c then
      let ds ← digits
      let (sig, extra) := absorb 0 ds
      rest sig extra (extra != 0)
    else fail "invalid number"
where
  /-- What follows the whole part: a fraction, an exponent, or the end. -/
  rest (sig extra : Nat) (long : Bool) : Reader Value := do
    match ← peek with
    | some '.' => fractionPart positive sig extra
    | some 'e' | some 'E' => exponentPart positive sig extra
    | _ =>
      if long then fromParts positive sig extra
      else if positive then return .int sig
      else if sig == 0 then return .float Binary64.zero.negate
      else if sig ≤ Nat.pow 2 63 then return .int (-(sig : Int))
      else match Binary64.ofNat? sig with
        | some f => return .float f.negate
        | none => fail "number out of range"

/-- Passes a number without reading its value, at its first digit. -/
def skipNumber : Reader Unit := do
  match ← peek with
  | none => fail "the text ends inside a number"
  | some c =>
    if c == '0' then
      bump
      if let some d ← peek then
        if isDigit d then fail "invalid number"
    else if isDigit c then discard digits
    else fail "invalid number"
  if (← peek) == some '.' then
    bump
    if (← digits).isEmpty then fail "invalid number"
  if (← peek) == some 'e' || (← peek) == some 'E' then
    bump
    if (← peek) == some '+' || (← peek) == some '-' then bump
    match ← peek with
    | some c => if isDigit c then discard digits else fail "invalid number"
    | none => fail "the text ends inside a number"

-- ============================================================ values

mutual

/-- A value; `depth` counts the nestings still allowed. -/
def value : Nat → Nat → Reader Value
  | _, 0 => fail "the text ends inside a value"
  | depth, fuel + 1 => do
    skipSpace
    match ← peek with
    | none => fail "the text ends inside a value"
    | some 'n' => bump; ident "ull".toList; return .null
    | some 't' => bump; ident "rue".toList; return .bool true
    | some 'f' => bump; ident "alse".toList; return .bool false
    | some '-' => bump; number false
    | some '"' => return .string (← string)
    | some '[' =>
      if depth ≤ 1 then fail "recursion limit exceeded"
      else bump; arrayRest (depth - 1) fuel [] true
    | some '{' =>
      if depth ≤ 1 then fail "recursion limit exceeded"
      else bump; objectRest (depth - 1) fuel [] true
    | some c => if isDigit c then number true else fail "expected a value"

/-- The rest of an array, its items so far reversed. -/
def arrayRest : Nat → Nat → List Value → Bool → Reader Value
  | _, 0, _, _ => fail "the text ends inside an array"
  | depth, fuel + 1, acc, first => do
    skipSpace
    match ← peek with
    | none => fail "the text ends inside an array"
    | some ']' => bump; return .array acc.reverse
    | some ',' =>
      if first then fail "expected a value"
      else
        bump
        skipSpace
        match ← peek with
        | some ']' => fail "trailing comma"
        | _ => arrayRest depth fuel ((← value depth fuel) :: acc) false
    | some _ =>
      if first then arrayRest depth fuel ((← value depth fuel) :: acc) false
      else fail "expected a comma or the end of the array"

/-- The rest of an object, its members so far sorted. -/
def objectRest : Nat → Nat → List (String × Value) → Bool → Reader Value
  | _, 0, _, _ => fail "the text ends inside an object"
  | depth, fuel + 1, acc, first => do
    skipSpace
    match ← peek with
    | none => fail "the text ends inside an object"
    | some '}' => bump; return .object acc
    | some c =>
      if c == ',' && !first then
        bump
        skipSpace
      else if !first then fail "expected a comma or the end of the object"
      match ← peek with
      | some '"' =>
        let k ← string
        skipSpace
        match ← peek with
        | some ':' => bump
        | some _ => fail "expected a colon"
        | none => fail "the text ends inside an object"
        let v ← value depth fuel
        objectRest depth fuel (insertSorted k v acc) false
      | some '}' => fail "trailing comma"
      | some _ => fail "key must be a string"
      | none => fail "the text ends inside an object"

end

/-- Passes any value, nested to any depth, checking that it is JSON. -/
def skipValue : Nat → Reader Unit
  | 0 => fail "the text ends inside a value"
  | fuel + 1 => do
    skipSpace
    match ← peek with
    | none => fail "the text ends inside a value"
    | some 'n' => bump; ident "ull".toList
    | some 't' => bump; ident "rue".toList
    | some 'f' => bump; ident "alse".toList
    | some '-' => bump; skipNumber
    | some '"' => bump; skipStringRest (← budget)
    | some '[' => bump; skipItems fuel true
    | some '{' => bump; skipMembers fuel true
    | some c => if isDigit c then skipNumber else fail "expected a value"
where
  /-- Passes the rest of an array. -/
  skipItems : Nat → Bool → Reader Unit
    | 0, _ => fail "the text ends inside an array"
    | fuel + 1, first => do
      skipSpace
      match ← peek with
      | none => fail "the text ends inside an array"
      | some ']' => bump
      | some c =>
        if c == ',' && !first then bump
        else if !first then fail "expected a comma or the end of the array"
        skipValue fuel
        skipItems fuel false
  /-- Passes the rest of an object. -/
  skipMembers : Nat → Bool → Reader Unit
    | 0, _ => fail "the text ends inside an object"
    | fuel + 1, first => do
      skipSpace
      match ← peek with
      | none => fail "the text ends inside an object"
      | some '}' => bump
      | some c =>
        if c == ',' && !first then
          bump
          skipSpace
        else if !first then fail "expected a comma or the end of the object"
        match ← peek with
        | some '"' => bump; skipStringRest (← budget)
        | some _ => fail "key must be a string"
        | none => fail "the text ends inside an object"
        skipSpace
        match ← peek with
        | some ':' => bump
        | some _ => fail "expected a colon"
        | none => fail "the text ends inside an object"
        skipValue fuel
        skipMembers fuel false

/-- Nothing but blanks remain. -/
def finish : Reader Unit := do
  skipSpace
  if (← peek).isSome then fail "trailing characters"

-- ============================================================ records

/-- Refuses a value where a text was asked for: the value is read as far as
    its kind shows, and any fault of its text comes first. -/
def notText : Reader α := do
  match ← peek with
  | some 'n' => bump; ident "ull".toList; mismatch "invalid type: null"
  | some 't' => bump; ident "rue".toList; mismatch "invalid type: boolean"
  | some 'f' => bump; ident "alse".toList; mismatch "invalid type: boolean"
  | some '-' => bump; discard (number false); mismatch "invalid type: number"
  | some '"' => discard string; mismatch "invalid type: string"
  | some '[' => mismatch "invalid type: sequence"
  | some '{' => mismatch "invalid type: map"
  | some c =>
    if isDigit c then do discard (number true); mismatch "invalid type: number"
    else fail "expected a value"
  | none => fail "expected a value"

/-- A text value. -/
def text : Reader String := do
  skipSpace
  match ← peek with
  | none => fail "the text ends inside a value"
  | some '"' => string
  | some _ => notText

/-- The fields of a record given as an array, in order. -/
def recordItems : List String → Bool → Reader (List (String × String))
  | [], _ => return []
  | f :: fs, first => do
    skipSpace
    match ← peek with
    | none => fail "the text ends inside an array"
    | some ']' => mismatch "invalid length"
    | some c =>
      if c == ',' && !first then
        bump
        skipSpace
        match ← peek with
        | some ']' => fail "trailing comma"
        | none => fail "the text ends inside a value"
        | some _ => pure ()
      else if !first then fail "expected a comma or the end of the array"
      let v ← text
      return (f, v) :: (← recordItems fs false)

/-- The rest of a record given as an object: each known field at most once,
    other members skipped. -/
def recordMembers (fields : List String) :
    Nat → List (String × String) → Bool → Reader (List (String × String))
  | 0, _, _ => fail "the text ends inside an object"
  | fuel + 1, acc, first => do
    skipSpace
    match ← peek with
    | none => fail "the text ends inside an object"
    | some '}' => return acc
    | some c =>
      if c == ',' && !first then
        bump
        skipSpace
      else if !first then fail "expected a comma or the end of the object"
      match ← peek with
      | some '"' => pure ()
      | some '}' => fail "trailing comma"
      | some _ => fail "key must be a string"
      | none => fail "the text ends inside a value"
      let k ← string
      let known := fields.contains k
      if known && (acc.lookup k).isSome then mismatch ("duplicate field " ++ k)
      skipSpace
      match ← peek with
      | some ':' => bump
      | some _ => fail "expected a colon"
      | none => fail "the text ends inside an object"
      if known then
        let v ← text
        recordMembers fields fuel (acc ++ [(k, v)]) false
      else
        skipValue (← budget)
        recordMembers fields fuel acc false

/-- A record of text fields: an object or an array of its field values. -/
def record (fields : List String) : Reader (List (String × String)) := do
  skipSpace
  match ← peek with
  | none => fail "the text ends inside a value"
  | some '[' =>
    bump
    let r ← recordItems fields true
    skipSpace
    match ← peek with
    | some ']' => bump; return r
    | some ',' =>
      bump
      skipSpace
      if (← peek) == some ']' then fail "trailing comma" else fail "trailing characters"
    | some _ => fail "trailing characters"
    | none => fail "the text ends inside an array"
  | some '{' =>
    bump
    let got ← recordMembers fields (← budget) [] true
    for f in fields do
      if (got.lookup f).isNone then mismatch ("missing field " ++ f)
    bump
    return fields.filterMap fun f => (got.lookup f).map (f, ·)
  | some _ => notText

end Reader

/-- The JSON value a text holds. -/
def read (text : String) : Except Fault Value :=
  (do let v ← Reader.value 128 (text.length + 2); Reader.finish; return v).run' text.toList

/-- The text fields of a record that a text holds. -/
def readRecord (fields : List String) (text : String) : Except Fault (List (String × String)) :=
  (do let r ← Reader.record fields; Reader.finish; return r).run' text.toList

end Warden.Json
