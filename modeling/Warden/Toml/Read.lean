import Warden.Toml.Value
/-!
# Reading TOML

A reader for TOML 1.1 documents: comments, bare, quoted and dotted keys,
`[table]` and `[[array of tables]]` headers, basic and literal strings (one
line or several, with the escapes `\e` and `\xHH`), integers (decimal with
`_` between digits, `0x`, `0o`, `0b`), floats, booleans, date-times (seconds
optional), arrays and inline tables (over several lines, a trailing comma
allowed).

What a document may not do, and this reader refuses:

* give a key twice, or open a table twice with a header;
* open with a header a table that dotted keys or an inline table made, or
  extend an inline table or a written array;
* write an integer with leading zeros, or one outside the 128-bit range of
  signed and unsigned numbers together;
* write a finite float that rounds to infinity;
* put a line break inside a one-line string, or a control character inside
  a string or a comment;
* write a date the calendar lacks, or a time or offset past its clock.

Reading is bounded by fuel computed from the text's length.
-/

namespace Warden.Toml

/-- Reading part of a document from the characters left. -/
abbrev Reader := StateT (List Char) (Except String)

namespace Reader

def peek : Reader (Option Char) := return (← get).head?

def skip (n : Nat) : Reader Unit := modify (·.drop n)

def startsWith (p : String) : Reader Bool := return p.toList.isPrefixOf (← get)

def expect (p : String) : Reader Unit := do
  unless ← startsWith p do throw ("expected " ++ p)
  skip p.length

def isBlank (c : Char) : Bool := c == ' ' || c == '\t'

def skipBlanks : Reader Unit := modify (·.dropWhile isBlank)

/-- A character that may not stand in a string or comment. -/
def isControl (c : Char) : Bool := (c.toNat < 0x20 && c != '\t') || c.toNat == 0x7F

/-- Passes a comment up to its line break; a carriage return may stand only
    right before that line break. -/
def skipComment : Reader Unit := do
  if (← peek) == some '#' then
    let body := (← get).takeWhile (· != '\n')
    let atBreak := ((← get).drop body.length).head? == some '\n'
    let inner := body.drop 1
    let inner := if atBreak && inner.getLast? == some '\r' then inner.dropLast else inner
    if inner.any isControl then throw "control character in a comment"
    skip body.length

/-- Ends a line: blanks, perhaps a comment, then a line break or the end. -/
def lineEnd : Reader Unit := do
  skipBlanks
  skipComment
  match ← get with
  | [] => pure ()
  | '\n' :: _ => skip 1
  | '\r' :: '\n' :: _ => skip 2
  | _ => throw "expected the end of the line"

/-- Skips blanks, comments and line breaks, as between array items. -/
def skipSpace : Nat → Reader Unit
  | 0 => pure ()
  | fuel + 1 => do
    skipBlanks
    skipComment
    match ← get with
    | '\n' :: _ => skip 1; skipSpace fuel
    | '\r' :: '\n' :: _ => skip 2; skipSpace fuel
    | _ => pure ()

-- ============================================================ strings

def hexValue? (c : Char) : Option Nat :=
  if '0' ≤ c ∧ c ≤ '9' then some (c.toNat - 48)
  else if 'a' ≤ c ∧ c ≤ 'f' then some (c.toNat - 87)
  else if 'A' ≤ c ∧ c ≤ 'F' then some (c.toNat - 55)
  else none

/-- The character of a `\u` or `\U` escape with `k` hex digits. -/
def unicodeEscape (k : Nat) : Reader Char := do
  let ds := (← get).take k
  if ds.length < k then throw "short unicode escape"
  let some n := ds.foldl (fun acc c => acc.bind fun n => (hexValue? c).map (16 * n + ·)) (some 0)
    | throw "bad unicode escape"
  unless n < 0xD800 ∨ (0xDFFF < n ∧ n < 0x110000) do throw "escape of no scalar value"
  skip k
  return Char.ofNat n

/-- The character of an escape; the cursor stands after the backslash. -/
def escapeChar : Reader Char := do
  match ← peek with
  | some 'b' => skip 1; return Char.ofNat 8
  | some 'e' => skip 1; return Char.ofNat 27
  | some 'x' => skip 1; unicodeEscape 2
  | some 't' => skip 1; return '\t'
  | some 'n' => skip 1; return '\n'
  | some 'f' => skip 1; return Char.ofNat 12
  | some 'r' => skip 1; return '\r'
  | some '"' => skip 1; return '"'
  | some '\\' => skip 1; return '\\'
  | some 'u' => skip 1; unicodeEscape 4
  | some 'U' => skip 1; unicodeEscape 8
  | _ => throw "bad escape"

/-- A basic string on one line, after its opening quote. -/
def basicRest : Nat → String → Reader String
  | 0, _ => throw "unterminated string"
  | fuel + 1, acc => do
    match ← peek with
    | none => throw "unterminated string"
    | some '"' => skip 1; return acc
    | some '\\' => skip 1; basicRest fuel (acc.push (← escapeChar))
    | some c =>
      if isControl c then throw "control character in a string"
      skip 1
      basicRest fuel (acc.push c)

/-- A literal string on one line, after its opening quote. -/
def literalRest : Nat → String → Reader String
  | 0, _ => throw "unterminated string"
  | fuel + 1, acc => do
    match ← peek with
    | none => throw "unterminated string"
    | some '\'' => skip 1; return acc
    | some c =>
      if isControl c then throw "control character in a string"
      skip 1
      literalRest fuel (acc.push c)

/-- A string of several lines, after its opening delimiter; `basic` strings
    know escapes and line-ending backslashes. Line breaks are kept as
    written, `\r\n` included. -/
def multiRest (basic : Bool) : Nat → String → Reader String
  | 0, _ => throw "unterminated string"
  | fuel + 1, acc => do
    let q := if basic then '"' else '\''
    match ← get with
    | [] => throw "unterminated string"
    | c :: rest =>
      if c == q && rest.take 2 == [q, q] then
        -- up to two more quotes belong to the text
        let extra := ((rest.drop 2).takeWhile (· == q)).length
        if extra > 2 then throw "too many quotes"
        skip (3 + extra)
        return acc ++ String.ofList (List.replicate extra q)
      else if basic && c == '\\' then
        let after := rest.dropWhile isBlank
        match after with
        | '\n' :: _ | '\r' :: '\n' :: _ =>
          set after
          skipSpaceOnly
          multiRest basic fuel acc
        | _ =>
          skip 1
          multiRest basic fuel (acc.push (← escapeChar))
      else if c == '\r' && rest.head? == some '\n' then
        skip 2
        multiRest basic fuel (acc ++ "\r\n")
      else if c == '\n' then
        skip 1
        multiRest basic fuel (acc.push '\n')
      else if isControl c then throw "control character in a string"
      else
        skip 1
        multiRest basic fuel (acc.push c)
where
  skipSpaceOnly : Reader Unit :=
    modify (·.dropWhile fun c => isBlank c || c == '\n' || c == '\r')

/-- A string value or quoted key. -/
def string (fuel : Nat) (multi : Bool) : Reader String := do
  if multi && (← startsWith "\"\"\"") then
    skip 3
    if ← startsWith "\r\n" then skip 2 else if ← startsWith "\n" then skip 1
    multiRest true fuel ""
  else if multi && (← startsWith "'''") then
    skip 3
    if ← startsWith "\r\n" then skip 2 else if ← startsWith "\n" then skip 1
    multiRest false fuel ""
  else if ← startsWith "\"" then
    skip 1
    basicRest fuel ""
  else
    skip 1
    literalRest fuel ""

-- ============================================================ keys

def isBareKeyChar (c : Char) : Bool :=
  ('a' ≤ c ∧ c ≤ 'z') || ('A' ≤ c ∧ c ≤ 'Z') || ('0' ≤ c ∧ c ≤ '9') || c == '_' || c == '-'

def simpleKey (fuel : Nat) : Reader String := do
  match ← peek with
  | some '"' | some '\'' => string fuel false
  | some c =>
    if isBareKeyChar c then
      let k := (← get).takeWhile isBareKeyChar
      skip k.length
      return String.ofList k
    else throw "expected a key"
  | none => throw "expected a key"

/-- A key of one or more parts joined by dots. -/
def key (fuel : Nat) : Reader (List String) := do
  let first ← simpleKey fuel
  let rec more : Nat → List String → Reader (List String)
    | 0, acc => return acc
    | f + 1, acc => do
      skipBlanks
      if (← peek) == some '.' then
        skip 1
        skipBlanks
        more f (acc ++ [← simpleKey fuel])
      else return acc
  more fuel [first]

-- ============================================================ numbers and dates

/-- Digits of a class with single underscores between them. -/
def digitsOk (isDigit : Char → Bool) (cs : List Char) : Bool :=
  match cs.head?, cs.getLast? with
  | some a, some b =>
    isDigit a && isDigit b && cs.all (fun c => isDigit c || c == '_') &&
      !(cs.zip cs.tail).any fun (x, y) => x == '_' && y == '_'
  | _, _ => false

def isDec (c : Char) : Bool := '0' ≤ c ∧ c ≤ '9'

/-- The value of digits in a base, underscores skipped. -/
def digitsValue (base : Nat) (cs : List Char) : Nat :=
  (cs.filter (· != '_')).foldl (fun n c => base * n + (hexValue? c).getD 0) 0

/-- A decimal integer part: `0`, or digits with no leading zero. -/
def decimalOk (cs : List Char) : Bool :=
  digitsOk isDec cs && (cs.head? != some '0' || cs.length == 1)

/-- An integer, or `none`. -/
def integer? (cs : List Char) : Option Int :=
  match cs with
  | '0' :: 'x' :: ds => if digitsOk (fun c => (hexValue? c).isSome) ds then some (digitsValue 16 ds) else none
  | '0' :: 'o' :: ds => if digitsOk (fun c => '0' ≤ c ∧ c ≤ '7') ds then some (digitsValue 8 ds) else none
  | '0' :: 'b' :: ds => if digitsOk (fun c => c == '0' || c == '1') ds then some (digitsValue 2 ds) else none
  | '+' :: ds => if decimalOk ds then some (digitsValue 10 ds) else none
  | '-' :: ds => if decimalOk ds then some (-(digitsValue 10 ds : Int)) else none
  | ds => if decimalOk ds then some (digitsValue 10 ds) else none

/-- A float: an integer part, then a fraction, an exponent or both; or
    `inf` or `nan` with an optional sign. -/
def floatOk (cs : List Char) : Bool :=
  let body := match cs with
    | '+' :: r | '-' :: r => r
    | r => r
  if body == "inf".toList || body == "nan".toList then true
  else
    let intPart := body.takeWhile fun c => isDec c || c == '_'
    let rest := body.drop intPart.length
    let (frac, rest) := match rest with
      | '.' :: r =>
        let f := r.takeWhile fun c => isDec c || c == '_'
        (some f, r.drop f.length)
      | r => (none, r)
    let expo := match rest with
      | 'e' :: r | 'E' :: r =>
        some (match r with | '+' :: s | '-' :: s => s | s => s)
      | [] => none
      | _ => some []
    decimalOk intPart && (frac.isSome || expo.isSome) &&
      (frac.all (digitsOk isDec)) && (expo.all (digitsOk isDec)) &&
      (match rest with | [] => true | 'e' :: _ | 'E' :: _ => true | _ => false)

/-- Digits at fixed places with separators, as in `1979-05-27`. -/
def shapeOk (shape : List Char) (cs : List Char) : Bool :=
  cs.length == shape.length &&
    (cs.zip shape).all fun (c, s) => if s == 'd' then isDec c else c == s

/-- The value of the decimal digits at some places of a text. -/
def field (cs : List Char) (start len : Nat) : Nat :=
  digitsValue 10 ((cs.drop start).take len)

/-- The days of a month of the Gregorian calendar. -/
def daysInMonth (year month : Nat) : Nat :=
  if month == 2 then
    if year % 4 == 0 && (year % 100 != 0 || year % 400 == 0) then 29 else 28
  else if month == 4 || month == 6 || month == 9 || month == 11 then 30
  else 31

/-- A date `yyyy-mm-dd` that the calendar has. -/
def dateOk (cs : List Char) : Bool :=
  let month := field cs 5 2
  let day := field cs 8 2
  shapeOk "dddd-dd-dd".toList cs && 1 ≤ month && month ≤ 12 &&
    1 ≤ day && day ≤ daysInMonth (field cs 0 4) month

/-- A time of day `hh:mm`, or `hh:mm:ss` (a leap second allowed) with an
    optional fraction. -/
def timeOk (cs : List Char) : Bool :=
  shapeOk "dd:dd".toList (cs.take 5) && field cs 0 2 ≤ 23 && field cs 3 2 ≤ 59 &&
    match cs.drop 5 with
    | [] => true
    | ':' :: sec =>
      shapeOk "dd".toList (sec.take 2) && field sec 0 2 ≤ 60 &&
        match sec.drop 2 with
        | [] => true
        | '.' :: f => !f.isEmpty && f.all isDec
        | _ => false
    | _ => false

/-- The time before an offset `Z`, `+hh:mm` or `-hh:mm`, and whether the
    offset is one: at most 23 hours and 59 minutes. -/
def offsetSplit (cs : List Char) : List Char × Bool :=
  match cs.reverse with
  | 'Z' :: r | 'z' :: r => (r.reverse, true)
  | m2 :: m1 :: ':' :: h2 :: h1 :: s :: r =>
    if (s == '+' || s == '-') && [m2, m1, h2, h1].all isDec then
      (r.reverse, field [h1, h2] 0 2 ≤ 23 && field [m1, m2] 0 2 ≤ 59)
    else (cs, true)
  | _ => (cs, true)

/-- A date, a time, or both joined by `T`, `t` or a space, with an
    optional offset. -/
def datetimeOk (cs : List Char) : Bool :=
  if shapeOk "dddd-dd-dd".toList (cs.take 10) then
    dateOk (cs.take 10) &&
    match cs.drop 10 with
    | [] => true
    | sep :: t =>
      let (time, offsetOk) := offsetSplit t
      (sep == 'T' || sep == 't' || sep == ' ') && timeOk time && offsetOk
  else timeOk cs

/-- Integers are read as 128-bit numbers, signed or unsigned: from
    `-integerBound` to `2 · integerBound - 1`. A field narrows them further. -/
def integerBound : Int := 170141183460469231731687303715884105728

/-- The least magnitude that rounds to infinity as a double: halfway between
    the largest double and `2^1024`, where the tie goes to the even side. -/
def infinityThreshold : Nat :=
  Nat.pow 2 1024 - Nat.pow 2 970

/-- The number of decimal digits of a positive natural. -/
def decimalLength (n : Nat) : Nat := (toString n).length

/-- A float written with digits rounds to infinity: `inf` is written as such,
    so a finite spelling that reaches it is refused. -/
def floatOverflows (tok : List Char) : Bool :=
  let body := match tok with
    | '+' :: r | '-' :: r => r
    | r => r
  if body == "inf".toList || body == "nan".toList then false
  else
    let mantissa := body.takeWhile fun c => c != 'e' && c != 'E'
    let intPart := mantissa.takeWhile (· != '.')
    let fracPart := (mantissa.drop (intPart.length + 1))
    let expo : Int := match body.drop (mantissa.length + 1) with
      | '-' :: ds => -(digitsValue 10 ds : Int)
      | '+' :: ds => digitsValue 10 ds
      | ds => digitsValue 10 ds
    let sig := digitsValue 10 (intPart ++ fracPart)
    let e := expo - (fracPart.filter (· != '_')).length
    if sig == 0 then false
    else
      let top : Int := decimalLength sig + e
      if top > 310 then true
      else if top < 300 then false
      else if 0 ≤ e then sig * Nat.pow 10 e.toNat ≥ infinityThreshold
      else sig ≥ infinityThreshold * Nat.pow 10 e.natAbs

def tokenChar (c : Char) : Bool :=
  isBareKeyChar c || c == '+' || c == '.' || c == ':'

/-- A number, boolean or date-time. -/
def scalar : Reader Value := do
  let cs ← get
  let tok := cs.takeWhile tokenChar
  -- a date may be followed by a space and a time
  let tok :=
    if shapeOk "dddd-dd-dd".toList tok then
      match cs.drop tok.length with
      | ' ' :: a :: b :: ':' :: _ =>
        if isDec a && isDec b then
          tok ++ ' ' :: ((cs.drop (tok.length + 1)).takeWhile tokenChar)
        else tok
      | _ => tok
    else tok
  if tok.isEmpty then throw "expected a value"
  skip tok.length
  if tok == "true".toList then return .boolean true
  if tok == "false".toList then return .boolean false
  match integer? tok with
  | some i =>
    if -integerBound ≤ i ∧ i < 2 * integerBound then return .integer i
    else throw "integer out of range"
  | none =>
    if floatOk tok then
      if floatOverflows tok then throw "float out of range"
      return .float (String.ofList tok)
    else if datetimeOk tok then return .datetime (String.ofList tok)
    else throw "invalid value"

-- ============================================================ values

mutual

/-- A value. -/
def value : Nat → Reader Value
  | 0 => throw "nesting too deep"
  | fuel + 1 => do
    match ← peek with
    | some '"' | some '\'' => return .string (← string (fuel + 1) true)
    | some '[' => skip 1; arrayRest fuel []
    | some '{' => skip 1; inlineRest fuel []
    | _ => scalar

/-- The rest of an array after its items `acc`. -/
def arrayRest : Nat → List Value → Reader Value
  | 0, _ => throw "array too long"
  | fuel + 1, acc => do
    skipSpace (fuel + 1)
    if (← peek) == some ']' then
      skip 1
      return .array acc false
    let v ← value fuel
    skipSpace (fuel + 1)
    match ← peek with
    | some ',' => skip 1; arrayRest fuel (acc ++ [v])
    | some ']' => skip 1; return .array (acc ++ [v]) false
    | _ => throw "expected a comma or the end of the array"

/-- The rest of an inline table after its entries `acc`, at the place of
    the next entry or of the closing brace. Entries may stand on lines of
    their own, with comments, and the last may be followed by a comma. -/
def inlineRest : Nat → Entries → Reader Value
  | 0, _ => throw "inline table too long"
  | fuel + 1, acc => do
    skipSpace (fuel + 1)
    if (← peek) == some '}' then
      skip 1
      return .table .inline acc
    let k ← key (fuel + 1)
    skipBlanks
    expect "="
    skipBlanks
    let v ← value fuel
    let acc ← match update ⟨0, .dotted⟩ (fun old => match old with
        | none => .ok v
        | some _ => .error "duplicate key") 0 acc k with
      | .ok es => pure es
      | .error e => throw e
    skipSpace (fuel + 1)
    match ← peek with
    | some ',' => skip 1; inlineRest fuel acc
    | some '}' => skip 1; return .table .inline acc
    | _ => throw "expected a comma or the end of the inline table"

end

-- ============================================================ the document

/-- A value written by `=` closes what it holds: inline tables and arrays. -/
def assign (v : Value) : Option Value → Except String Value
  | none => .ok v
  | some _ => .error "duplicate key"

/-- The table a `[header]` opens. -/
def openTable : Option Value → Except String Value
  | none => .ok (.table .header [])
  | some (.table .implicit es) => .ok (.table .header es)
  | some _ => .error "a table opened twice"

/-- The table a `[[header]]` adds to its array. -/
def addTable : Option Value → Except String Value
  | none => .ok (.array [.table .header []] true)
  | some (.array items true) => .ok (.array (items ++ [.table .header []]) true)
  | some _ => .error "no array of tables"

/-- The lines of a document, with the root table's entries and the path of
    the table that headers opened last. -/
def lines : Nat → Entries → List String → Reader Entries
  | 0, root, _ => return root
  | fuel + 1, root, current => do
    skipBlanks
    skipComment
    match ← get with
    | [] => return root
    | '\n' :: _ => skip 1; lines fuel root current
    | '\r' :: '\n' :: _ => skip 2; lines fuel root current
    | '[' :: '[' :: _ =>
      skip 2
      skipBlanks
      let path ← key (fuel + 1)
      skipBlanks
      expect "]]"
      lineEnd
      let root ← match update ⟨0, .implicit⟩ addTable 0 root path with
        | .ok r => pure r
        | .error e => throw e
      lines fuel root path
    | '[' :: _ =>
      skip 1
      skipBlanks
      let path ← key (fuel + 1)
      skipBlanks
      expect "]"
      lineEnd
      let root ← match update ⟨0, .implicit⟩ openTable 0 root path with
        | .ok r => pure r
        | .error e => throw e
      lines fuel root path
    | _ =>
      let k ← key (fuel + 1)
      skipBlanks
      expect "="
      skipBlanks
      let v ← value (fuel + 1)
      lineEnd
      let root ← match update ⟨current.length, .dotted⟩ (assign v) 0 root (current ++ k) with
        | .ok r => pure r
        | .error e => throw e
      lines fuel root current

end Reader

/-- The root table of a TOML document. -/
def read (text : String) : Except String Entries :=
  let cs := text.toList
  let cs := if cs.head? == some '\uFEFF' then cs.drop 1 else cs
  (Reader.lines (cs.length + 2) [] []).run' cs

end Warden.Toml
