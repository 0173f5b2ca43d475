import Warden.Text.Base64Url
import Warden.Text.Blank
/-!
# PEM

A PEM text armours DER bytes: a line `-----BEGIN LABEL-----`, the bytes in
standard base64 (`+` and `/`, padded with `=` to whole groups of four)
over lines of at most 64 characters, and a line `-----END LABEL-----` with
the same label. The label says what the bytes are.

Standard base64 differs from the URL-safe alphabet only in two characters
and in padding, so `Pem.decode?` reads the body as URL-safe text after
checking the padding; the strict rules of that reader (no stray bits in a
last short group) hold here too.
-/

namespace Warden.Crypto

/-- Armoured bytes and their label. -/
structure Pem where
  label : String
  contents : List UInt8
  deriving DecidableEq, Repr

namespace Pem

/-- The characters of standard base64, with the URL-safe ones for `+`, `/`. -/
def urlSafe? : Char → Option Char
  | '+' => some '-'
  | '/' => some '_'
  | '-' => none
  | '_' => none
  | c => some c

/-- Standard base64 with padding: whole groups of four, at most two `=` at
    the end. -/
def base64? (s : List Char) : Option (List UInt8) :=
  let body := s.reverse.dropWhile (· == '=') |>.reverse
  let pad := s.length - body.length
  if s.length % 4 != 0 || pad > 2 then none
  else do
    let chars ← body.mapM urlSafe?
    Text.Base64Url.decodeChars? chars

/-- The label of a boundary line `-----KIND LABEL-----`. -/
def boundary? (kind line : String) : Option String :=
  let dashes := "-----"
  let head := dashes ++ kind ++ " "
  if line.startsWith head && line.endsWith dashes && line.length ≥ head.length + dashes.length then
    some (String.ofList ((line.toList.drop head.length).take
      (line.length - head.length - dashes.length)))
  else none

/-- The lines of a text, without a carriage return before each line end. -/
def lines (text : String) : List String :=
  (text.splitOn "\n").map fun l => if l.endsWith "\r" then String.ofList l.toList.dropLast else l

/-- Reads a PEM text. -/
def decode? (text : String) : Option Pem := do
  let ls := lines (Text.trim text)
  let first ← ls.head?
  let last ← ls.getLast?
  let label ← boundary? "BEGIN" first
  let closing ← boundary? "END" last
  if closing != label || ls.length < 2 then none
  let body := (ls.drop 1).dropLast
  if body.any (·.length > 64) then none
  let contents ← base64? (body.flatMap String.toList)
  return ⟨label, contents⟩

end Pem

end Warden.Crypto
