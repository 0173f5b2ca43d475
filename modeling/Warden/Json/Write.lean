import Warden.Json.Value
import Warden.Number.Shortest
/-!
# Writing JSON

JSON text with no spaces. A string is quoted with `"` and `\` escaped, the
control characters below U+0020 written as `\b`, `\f`, `\n`, `\r`, `\t` or
`\u00XX` with lower-case hex digits, and every other character as itself.
Doubles take their shortest decimal text (`Binary64.render`) in the layout
`numberLayout`, and a value that is not a number is written `null`.
-/

namespace Warden.Json

/-- Doubles are written positionally when the first digit's exponent is from
    −5 to 15, otherwise with a signed exponent of at least two digits:
    `1e+16`, `1.5e-07`, `1e+100`. -/
def numberLayout : Number.Binary64.Layout :=
  { plainFrom := -5, plainBelow := 16, signedExponent := true, exponentWidth := 2 }

/-- A hex digit, lower case. -/
def hexDigit (n : Nat) : Char :=
  if n < 10 then Char.ofNat (48 + n) else Char.ofNat (87 + n)

/-- The escaped form of one character inside a string. -/
def escapeChar (c : Char) : String :=
  if c == '"' then "\\\""
  else if c == '\\' then "\\\\"
  else if c == '\n' then "\\n"
  else if c == '\r' then "\\r"
  else if c == '\t' then "\\t"
  else if c.toNat == 8 then "\\b"
  else if c.toNat == 12 then "\\f"
  else if c.toNat < 0x20 then
    String.ofList ['\\', 'u', '0', '0', hexDigit (c.toNat / 16), hexDigit (c.toNat % 16)]
  else String.singleton c

/-- A string as a JSON string literal. -/
def quote (s : String) : String :=
  "\"" ++ String.join (s.toList.map escapeChar) ++ "\""

mutual

/-- The JSON text of a value. -/
def render : Value → String
  | .null => "null"
  | .bool b => if b then "true" else "false"
  | .int i => toString i
  | .float x => if x.isFinite then x.render numberLayout else "null"
  | .string s => quote s
  | .array items => "[" ++ renderItems items ++ "]"
  | .object ms => "\x7b" ++ renderMembers ms ++ "\x7d"

/-- Array items, separated by commas. -/
def renderItems : List Value → String
  | [] => ""
  | [v] => render v
  | v :: rest => render v ++ "," ++ renderItems rest

/-- Object members, separated by commas. -/
def renderMembers : List (String × Value) → String
  | [] => ""
  | [(k, v)] => quote k ++ ":" ++ render v
  | (k, v) :: rest => quote k ++ ":" ++ render v ++ "," ++ renderMembers rest

end

end Warden.Json
