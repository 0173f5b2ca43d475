import Warden.Yaml.Token
/-!
# Scanning YAML

The scanner reads a YAML text character by character and cuts it into
tokens. Most tokens are marked by their first character, but three things
need more care.

* **Block structure.** The scanner keeps a stack of indentation columns.
  A block collection that opens at a deeper column pushes that column and
  emits its start token. A line that starts left of the current column pops
  columns and emits a block end for each.
* **Simple keys.** A key written without `?` is only known to be a key when
  the `:` after it is found. So the scanner remembers, for each flow level,
  where such a key may have started. When the `:` comes, it inserts the
  `key` token (and a mapping start, if one is needed) at that place.
  A possible key must end on its own line within 1024 characters. If it
  stands at the mapping's column in block context, it is required, and not
  finding its `:` is an error.
* **Tabs.** A tab counts as white space inside a line. Where a new token
  could start a key (at the start of a line, after `-`, `?` or a key's `:`),
  a tab cannot stand for indentation, so a tab found there is an error.

The text must hold only printable characters, tab and the line breaks. The
line breaks are line feed, carriage return (alone or before a line feed),
next line (U+0085), line separator (U+2028) and paragraph separator
(U+2029). The first three read as a line feed inside a scalar and the last
two as themselves; only a line feed folds into a space.

Every loop is bounded by the length of the text, so scanning always ends.
-/

namespace Warden.Yaml

/-- A place in the text: bytes read, line and column. -/
structure Mark where
  index : Nat
  line : Nat
  column : Nat
  deriving Inhabited

/-- Where a simple key may have started on a flow level: whether one may,
    whether it must, the number its `key` token will take, and its place. -/
structure SimpleKey where
  possible : Bool
  required : Bool
  tokenNumber : Nat
  mark : Mark
  deriving Inhabited

/-- The scanner's state. `indent` is the column of the innermost block
    collection (`-1` at top level) and `indents` the enclosing ones;
    `simpleKeys` holds one entry per flow level, innermost first. -/
structure Scanner where
  input : List Char
  mark : Mark
  tokens : Array Token
  indent : Int
  indents : List Int
  simpleKeyAllowed : Bool
  simpleKeys : List SimpleKey
  flowLevel : Nat
  finished : Bool

/-- Scanning, which stops at the first error. -/
abbrev ScanM := StateT Scanner (Except String)

namespace Scanner

/-- The five line breaks. -/
def isBreak (c : Char) : Bool :=
  c == '\n' || c == '\r' || c == '\u0085' || c == '\u2028' || c == '\u2029'

/-- A space or a tab. -/
def isBlank (c : Char) : Bool := c == ' ' || c == '\t'

/-- A blank, a line break or the end of the text. -/
def blankZ : Option Char → Bool
  | some c => isBlank c || isBreak c
  | none => true

/-- A line break or the end of the text. -/
def breakZ : Option Char → Bool
  | some c => isBreak c
  | none => true

/-- A character of an anchor, a directive name or a tag handle. -/
def isWord (c : Char) : Bool := c.isAlphanum || c == '_' || c == '-'

/-- The value of a hexadecimal digit. -/
def hexValue (c : Char) : Option Nat :=
  if c.isDigit then some (c.toNat - '0'.toNat)
  else if 'a' ≤ c && c ≤ 'f' then some (c.toNat - 'a'.toNat + 10)
  else if 'A' ≤ c && c ≤ 'F' then some (c.toNat - 'A'.toNat + 10)
  else none

/-- Whether the text may hold this character. -/
def allowed (c : Char) : Bool :=
  let v := c.toNat
  v == 0x09 || v == 0x0A || v == 0x0D || (0x20 ≤ v && v ≤ 0x7E) || v == 0x85 ||
    (0xA0 ≤ v && v ≤ 0xD7FF) || (0xE000 ≤ v && v ≤ 0xFFFD) || 0x10000 ≤ v

/-- Three `c` followed by a blank, a line break or the end: a document
    marker when it starts a line. -/
def marker (c : Char) : List Char → Bool
  | a :: b :: d :: rest => a == c && b == c && d == c && blankZ rest.head?
  | _ => false

/-- The character under the cursor. -/
def cur : ScanM (Option Char) := return (← get).input.head?

/-- The character after the one under the cursor. -/
def next : ScanM (Option Char) := return (← get).input[1]?

/-- Moves past one character of a line. -/
def skip : ScanM Unit := modify fun s =>
  match s.input with
  | c :: rest =>
    { s with input := rest,
             mark := { s.mark with index := s.mark.index + c.utf8Size, column := s.mark.column + 1 } }
  | [] => s

/-- Moves past a line break, a carriage return and line feed counting as one. -/
def skipLine : ScanM Unit := modify fun s =>
  match s.input with
  | '\r' :: '\n' :: rest => { s with input := rest, mark := ⟨s.mark.index + 2, s.mark.line + 1, 0⟩ }
  | c :: rest =>
    if isBreak c then { s with input := rest, mark := ⟨s.mark.index + c.utf8Size, s.mark.line + 1, 0⟩ }
    else s
  | [] => s

/-- Moves past a line break and gives it as a scalar holds it. -/
def readLine : ScanM String := do
  let b := match (← get).input with
    | c :: _ => if c == '\u2028' || c == '\u2029' then c.toString else if isBreak c then "\n" else ""
    | [] => ""
  skipLine
  return b

/-- Moves past the characters of a line that satisfy `p`, giving them. -/
def readWhile (p : Char → Bool) : ScanM String := do
  let s ← get
  let taken := s.input.takeWhile fun c => p c && !isBreak c
  set { s with input := s.input.drop taken.length,
               mark := { s.mark with index := taken.foldl (fun n (c : Char) => n + c.utf8Size) s.mark.index,
                                     column := s.mark.column + taken.length } }
  return String.ofList taken

/-- Moves past the characters of a line that satisfy `p`. -/
def skipWhile (p : Char → Bool) : ScanM Unit := do
  let _ ← readWhile p

/-- Adds a token at the end. -/
def push (t : Token) : ScanM Unit := modify fun s => { s with tokens := s.tokens.push t }

/-- Puts a token at position `i`, after the `i` tokens before it. -/
def insertAt (i : Nat) (t : Token) : ScanM Unit := modify fun s =>
  { s with tokens := s.tokens.insertIdxIfInBounds i t }

/-- Sets whether a simple key may start next. -/
def allowKey (b : Bool) : ScanM Unit := modify fun s => { s with simpleKeyAllowed := b }

/-- No simple key. -/
def noKey : SimpleKey := ⟨false, false, 0, ⟨0, 0, 0⟩⟩

/-- Forgets the possible simple key of the current flow level; a required
    one that never found its `:` is an error. -/
def removeSimpleKey : ScanM Unit := do
  match (← get).simpleKeys with
  | k :: rest =>
    if k.possible && k.required then throw "could not find expected ':'"
    modify fun s => { s with simpleKeys := { k with possible := false } :: rest }
  | [] => pure ()

/-- Notes that a simple key may start here. -/
def saveSimpleKey : ScanM Unit := do
  let s ← get
  if s.simpleKeyAllowed then
    let k : SimpleKey :=
      { possible := true,
        required := s.flowLevel == 0 && s.indent == (s.mark.column : Int),
        tokenNumber := s.tokens.size,
        mark := s.mark }
    removeSimpleKey
    modify fun s => { s with simpleKeys := k :: s.simpleKeys.drop 1 }

/-- Forgets possible simple keys that can no longer be keys: those on an
    earlier line or more than 1024 bytes back. -/
def staleSimpleKeys : ScanM Unit := do
  let s ← get
  let keys ← s.simpleKeys.mapM fun (k : SimpleKey) =>
    if k.possible && (k.mark.line < s.mark.line || k.mark.index + 1024 < s.mark.index) then
      if k.required then (throw "could not find expected ':'" : Except String SimpleKey)
      else pure { k with possible := false }
    else pure k
  set { s with simpleKeys := keys }

/-- Closes the block collections whose column is right of `column`. -/
def unrollFrom (column : Int) : Int → List Int → Array Token → Int × List Int × Array Token
  | indent, i :: is, ts =>
    if indent > column then unrollFrom column i is (ts.push .blockEnd) else (indent, i :: is, ts)
  | indent, [], ts => (indent, [], ts)

/-- Closes the block collections right of `column` (block context only). -/
def unrollIndent (column : Int) : ScanM Unit := modify fun s =>
  if s.flowLevel == 0 then
    let (indent, indents, tokens) := unrollFrom column s.indent s.indents s.tokens
    { s with indent, indents, tokens }
  else s

/-- Opens a block collection at `column` if it is right of the current one
    (block context only), putting its start token at `number` or at the end. -/
def rollIndent (column : Int) (number : Option Nat) (t : Token) : ScanM Unit := do
  let s ← get
  if s.flowLevel == 0 && s.indent < column then
    set { s with indents := s.indent :: s.indents, indent := column }
    match number with
    | some n => insertAt n t
    | none => push t

/-- Moves past white space, comments and line breaks up to the next token.
    A byte order mark at the start of a line is skipped too. -/
def toNextToken : Nat → ScanM Unit
  | 0 => pure ()
  | fuel + 1 => do
    let s ← get
    if s.mark.column == 0 && s.input.head? == some '\ufeff' then skip
    let s ← get
    let tabs := s.flowLevel > 0 || !s.simpleKeyAllowed
    skipWhile fun c => c == ' ' || (tabs && c == '\t')
    if (← cur) == some '#' then skipWhile fun _ => true
    match ← cur with
    | some c =>
      if isBreak c then
        skipLine
        if (← get).flowLevel == 0 then allowKey true
        toNextToken fuel
    | none => pure ()

/-! ## Directives -/

/-- A version number: one to nine digits. -/
def versionNumber : ScanM Nat := do
  let ds ← readWhile Char.isDigit
  if ds.isEmpty then throw "did not find expected version number"
  if ds.length > 9 then throw "found extremely long version number"
  return ds.foldl (fun n c => 10 * n + (c.toNat - '0'.toNat)) 0

/-- A tag handle: `!`, `!!` or `!word!`. Outside a directive a lone `!word`
    is given back too, as the start of a tag. -/
def tagHandle (directive : Bool) : ScanM String := do
  unless (← cur) == some '!' do throw "did not find expected '!'"
  skip
  let word ← readWhile isWord
  if (← cur) == some '!' then
    skip
    return "!" ++ word ++ "!"
  if directive && !word.isEmpty then throw "did not find expected '!'"
  return "!" ++ word

/-- A character a tag may hold; brackets and commas only in a verbatim tag
    or a directive's prefix. -/
def uriChar (brackets : Bool) (c : Char) : Bool :=
  isWord c || ";/?:@&=+$.%!~*'()".contains c || (brackets && ",[]".contains c)

/-- One escaped octet `%hh`. -/
def uriOctet : ScanM Nat := do
  match (← get).input with
  | '%' :: a :: b :: _ =>
    match hexValue a, hexValue b with
    | some x, some y => skip; skip; skip; return 16 * x + y
    | _, _ => throw "did not find URI escaped octet"
  | _ => throw "did not find URI escaped octet"

/-- An escaped character: the octets of one UTF-8 encoded character. -/
def uriEscape : ScanM Unit := do
  let lead ← uriOctet
  let width :=
    if lead &&& 0x80 == 0 then 1 else if lead &&& 0xE0 == 0xC0 then 2
    else if lead &&& 0xF0 == 0xE0 then 3 else if lead &&& 0xF8 == 0xF0 then 4 else 0
  if width == 0 then throw "found an incorrect leading UTF-8 octet"
  for _ in [1:width] do
    let o ← uriOctet
    if o &&& 0xC0 != 0x80 then throw "found an incorrect trailing UTF-8 octet"

/-- The characters of a tag, counting escapes as one. -/
def uriLoop (brackets : Bool) : Nat → String → Nat → ScanM (String × Nat)
  | 0, acc, n => pure (acc, n)
  | fuel + 1, acc, n => do
    match ← cur with
    | some c =>
      if uriChar brackets c then
        if c == '%' then
          uriEscape
          uriLoop brackets fuel (acc.push c) (n + 1)
        else
          skip
          uriLoop brackets fuel (acc.push c) (n + 1)
      else pure (acc, n)
    | none => pure (acc, n)

/-- The rest of a tag after its handle `head`, which counts towards the
    tag not being empty. -/
def tagUri (brackets : Bool) (head : String) (fuel : Nat) : ScanM String := do
  let (rest, n) ← uriLoop brackets fuel "" 0
  if head.length + n == 0 then throw "did not find expected tag URI"
  return (head.drop 1).toString ++ rest

/-- A directive: `%YAML major.minor` or `%TAG handle prefix`, then the rest
    of its line. -/
def directive (fuel : Nat) : ScanM Token := do
  skip
  let name ← readWhile isWord
  if name.isEmpty then throw "could not find expected directive name"
  unless blankZ (← cur) do throw "found unexpected non-alphabetical character"
  let t ← if name == "YAML" then do
      skipWhile isBlank
      let major ← versionNumber
      unless (← cur) == some '.' do throw "did not find expected digit or '.' character"
      skip
      let minor ← versionNumber
      pure (Token.versionDirective major minor)
    else if name == "TAG" then do
      skipWhile isBlank
      let handle ← tagHandle true
      unless ((← cur).map isBlank).getD false do throw "did not find expected whitespace"
      skipWhile isBlank
      let pfx ← tagUri true "" fuel
      unless blankZ (← cur) do throw "did not find expected whitespace or line break"
      pure (Token.tagDirective handle pfx)
    else throw "found unknown directive name"
  skipWhile isBlank
  if (← cur) == some '#' then skipWhile fun _ => true
  unless breakZ (← cur) do throw "did not find expected comment or line break"
  skipLine
  return t

/-! ## Anchors and tags -/

/-- An anchor or an alias: a name of word characters, followed by a blank,
    a line break, the end or one of ``?:,]}%@` ``. -/
def anchorName : ScanM String := do
  skip
  let name ← readWhile isWord
  let c ← cur
  if name.isEmpty || !(blankZ c || (c.map fun c => "?:,]\x7d%@`".contains c).getD false) then
    throw "did not find expected alphabetic or numeric character"
  return name

/-- A tag: `!<uri>`, `!handle!suffix`, `!suffix` or `!`. -/
def tag (fuel : Nat) : ScanM Token := do
  let (handle, suffix) ← if (← next) == some '<' then do
      skip; skip
      let suffix ← tagUri true "" fuel
      unless (← cur) == some '>' do throw "did not find the expected '>'"
      skip
      pure ("", suffix)
    else do
      let handle ← tagHandle false
      if handle.length > 1 && handle.back == '!' then
        pure (handle, ← tagUri false "" fuel)
      else
        let suffix ← tagUri false handle fuel
        pure (if suffix.isEmpty then ("", "!") else ("!", suffix))
  let c ← cur
  unless blankZ c || ((← get).flowLevel > 0 && c == some ',') do
    throw "did not find expected whitespace or line break"
  return .tag handle suffix

/-! ## Block scalars -/

/-- Moves past spaces of indentation: all of them while the indentation is
    still to be found (`indent` zero), else up to column `indent`. -/
def indentSpaces (indent : Int) : Nat → ScanM Unit
  | 0 => pure ()
  | fuel + 1 => do
    let s ← get
    if (indent == 0 || (s.mark.column : Int) < indent) && s.input.head? == some ' ' then
      skip
      indentSpaces indent fuel

/-- Moves past the indentation and empty lines before a line of a block
    scalar, collecting their line breaks. With `indent` zero the indentation
    is found here: the deepest column these lines reach, at least one more
    than the enclosing collection's `parent` and at least one. A tab where
    indentation is expected is an error. -/
def blockBreaks (parent : Int) : Nat → Int → Nat → String → ScanM (Int × String)
  | 0, indent, _, breaks => pure (indent, breaks)
  | fuel + 1, indent, maxIndent, breaks => do
    indentSpaces indent fuel
    let s ← get
    let col := s.mark.column
    let maxIndent := max maxIndent col
    if (indent == 0 || (col : Int) < indent) && s.input.head? == some '\t' then
      throw "found a tab character where an indentation space is expected"
    if (s.input.head?.map isBreak).getD false then
      let b ← readLine
      blockBreaks parent fuel indent maxIndent (breaks ++ b)
    else if indent == 0 then
      pure (max (max (maxIndent : Int) (parent + 1)) 1, breaks)
    else pure (indent, breaks)

/-- The lines of a block scalar at column `indent`. `acc` is the text so
    far; the line break that ended the last line and the empty lines after
    it are held back, since chomping decides what becomes of them at the
    end. A folded scalar joins two lines with a space when neither starts
    with a blank and no empty line stands between them. -/
def blockLines (literal : Bool) (indent parent : Int) :
    Nat → String → String → String → Bool → ScanM (String × String × String)
  | 0, acc, lb, tb, _ => pure (acc, lb, tb)
  | fuel + 1, acc, lb, tb, leadingBlank => do
    let s ← get
    if (s.mark.column : Int) == indent && !s.input.isEmpty then
      let blank := (s.input.head?.map isBlank).getD false
      let acc :=
        if !literal && lb.startsWith "\n" && !leadingBlank && !blank then
          (if tb.isEmpty then acc.push ' ' else acc)
        else acc ++ lb
      let line ← readWhile fun _ => true
      let lb ← readLine
      let (_, tb') ← blockBreaks parent fuel indent 0 ""
      blockLines literal indent parent fuel (acc ++ tb ++ line) lb tb' blank
    else pure (acc, lb, tb)

/-- A literal (`|`) or folded (`>`) block scalar: its header (chomping
    `+` or `-` and an indentation digit from 1 to 9, in either order, then
    only a comment), and its lines. Chomping `-` drops the final line
    break, none keeps one, `+` keeps all trailing ones. -/
def blockScalar (literal : Bool) (fuel : Nat) : ScanM Token := do
  skip
  let mut chomping : Int := 0
  let mut increment : Nat := 0
  match ← cur with
  | some c =>
    if c == '+' || c == '-' then
      chomping := if c == '+' then 1 else -1
      skip
      match ← cur with
      | some d =>
        if d.isDigit then
          if d == '0' then throw "found an indentation indicator equal to 0"
          increment := d.toNat - '0'.toNat
          skip
      | none => pure ()
    else if c.isDigit then
      if c == '0' then throw "found an indentation indicator equal to 0"
      increment := c.toNat - '0'.toNat
      skip
      match ← cur with
      | some d =>
        if d == '+' || d == '-' then
          chomping := if d == '+' then 1 else -1
          skip
      | none => pure ()
  | none => pure ()
  skipWhile isBlank
  if (← cur) == some '#' then skipWhile fun _ => true
  unless breakZ (← cur) do throw "did not find expected comment or line break"
  skipLine
  let parent := (← get).indent
  let given : Int := if increment == 0 then 0 else if parent ≥ 0 then parent + increment else increment
  let (indent, tb) ← blockBreaks parent fuel given 0 ""
  let (acc, lb, tb) ← blockLines literal indent parent fuel "" "" tb false
  let acc := if chomping != -1 then acc ++ lb else acc
  let acc := if chomping == 1 then acc ++ tb else acc
  return .scalar acc (if literal then .literal else .folded)

/-! ## Quoted scalars -/

/-- What an escape `\c` stands for, when it is a single character. -/
def escape (c : Char) : Option Char :=
  match c with
  | '0' => some '\x00' | 'a' => some '\x07' | 'b' => some '\x08'
  | 't' => some '\t' | '\t' => some '\t' | 'n' => some '\n'
  | 'v' => some '\x0b' | 'f' => some '\x0c' | 'r' => some '\r'
  | 'e' => some '\x1b' | ' ' => some ' ' | '"' => some '"'
  | '/' => some '/' | '\\' => some '\\'
  | 'N' => some '\u0085' | '_' => some '\u00a0'
  | 'L' => some ' ' | 'P' => some ' '
  | _ => none

/-- The number of hexadecimal digits after `\x`, `\u` and `\U`. -/
def escapeWidth (c : Char) : Nat :=
  match c with
  | 'x' => 2 | 'u' => 4 | 'U' => 8 | _ => 0

/-- The characters of a quoted scalar up to a blank, a line break or the
    closing quote. An escaped line break ends the run too, and is reported
    so the line break itself is not kept. -/
def quotedRun (single : Bool) : Nat → String → ScanM (String × Bool)
  | 0, acc => pure (acc, false)
  | fuel + 1, acc => do
    match (← get).input with
    | [] => pure (acc, false)
    | c :: rest =>
      if isBlank c || isBreak c then pure (acc, false)
      else if single && c == '\'' && rest.head? == some '\'' then
        skip; skip
        quotedRun single fuel (acc.push '\'')
      else if c == (if single then '\'' else '"') then pure (acc, false)
      else if !single && c == '\\' && (rest.head?.map isBreak).getD false then
        skip
        skipLine
        pure (acc, true)
      else if !single && c == '\\' then
        let e := rest.head?.getD '\x00'
        match escape e with
        | some ch =>
          skip; skip
          quotedRun single fuel (acc.push ch)
        | none =>
          let width := escapeWidth e
          if width == 0 then throw "found unknown escape character"
          skip; skip
          let digits := (← get).input.take width
          let values := digits.filterMap hexValue
          if digits.length != width || values.length != width then
            throw "did not find expected hexdecimal number"
          let v := values.foldl (fun n d => 16 * n + d) 0
          if (0xD800 ≤ v && v ≤ 0xDFFF) || 0x10FFFF < v then
            throw "found invalid Unicode character escape code"
          for _ in [0:width] do skip
          quotedRun single fuel (acc.push (Char.ofNat v))
      else
        skip
        quotedRun single fuel (acc.push c)

/-- The blanks and line breaks between two runs of a scalar: the blanks
    before the first line break, that line break, and the line breaks
    after it (blanks after a line break are dropped). -/
def gap (indent : Option Int) : Nat → Bool → String → String → String → ScanM (Bool × String × String × String)
  | 0, lead, ws, lb, tb => pure (lead, ws, lb, tb)
  | fuel + 1, lead, ws, lb, tb => do
    let s ← get
    match s.input with
    | c :: _ =>
      if isBlank c then
        if let some i := indent then
          if lead && (s.mark.column : Int) < i && c == '\t' then
            throw "found a tab character that violates indentation"
        skip
        if lead then gap indent fuel lead ws lb tb else gap indent fuel lead (ws.push c) lb tb
      else if isBreak c then
        let b ← readLine
        if lead then gap indent fuel lead ws lb (tb ++ b) else gap indent fuel true "" b tb
      else pure (lead, ws, lb, tb)
    | [] => pure (lead, ws, lb, tb)

/-- What a gap becomes in the scalar: its blanks when it holds no line
    break; else a space when it is a single line feed, or the line breaks
    after the first when that is a line feed, or all of them. -/
def joinGap (lead : Bool) (ws lb tb : String) : String :=
  if lead then
    if lb.startsWith "\n" then (if tb.isEmpty then " " else tb) else lb ++ tb
  else ws

/-- The runs and gaps of a quoted scalar up to its closing quote. A line
    may not start with a document marker, and the text may not end. -/
def quotedLoop (single : Bool) : Nat → String → ScanM String
  | 0, acc => pure acc
  | fuel + 1, acc => do
    let s ← get
    if s.mark.column == 0 && (marker '-' s.input || marker '.' s.input) then
      throw "found unexpected document indicator"
    if s.input.isEmpty then throw "found unexpected end of stream"
    let (acc, lead) ← quotedRun single fuel acc
    if (← cur) == some (if single then '\'' else '"') then return acc
    let (lead, ws, lb, tb) ← gap none fuel lead "" "" ""
    quotedLoop single fuel (acc ++ joinGap lead ws lb tb)

/-- A single- or double-quoted scalar. -/
def quoted (single : Bool) (fuel : Nat) : ScanM Token := do
  skip
  let text ← quotedLoop single fuel ""
  skip
  return .scalar text (if single then .singleQuoted else .doubleQuoted)

/-! ## Plain scalars -/

/-- The characters of a plain scalar up to a blank or a line break, an
    `: ` or, in a flow collection, a flow indicator. The gap before the run
    joins the scalar when the run holds a character. -/
def plainRun : Nat → String → Bool → String → String → String →
    ScanM (String × Bool × String × String × String)
  | 0, acc, lead, ws, lb, tb => pure (acc, lead, ws, lb, tb)
  | fuel + 1, acc, lead, ws, lb, tb => do
    let s ← get
    match s.input with
    | [] => pure (acc, lead, ws, lb, tb)
    | c :: rest =>
      let c1 := rest.head?
      let flow := s.flowLevel > 0
      if isBlank c || isBreak c then pure (acc, lead, ws, lb, tb)
      else if flow && c == ':' && (c1.map fun d => ",?[]\x7b\x7d".contains d).getD false then
        throw "found unexpected ':'"
      else if (c == ':' && blankZ c1) || (flow && ",[]\x7b\x7d".contains c) then
        pure (acc, lead, ws, lb, tb)
      else
        let acc := if lead || !ws.isEmpty then acc ++ joinGap lead ws lb tb else acc
        skip
        plainRun fuel (acc.push c) false "" "" ""

/-- The runs and gaps of a plain scalar. It ends before a comment, a
    document marker at the start of a line, or, in block context, a line
    indented no further than the enclosing collection. -/
def plainLoop (indent : Int) : Nat → String → Bool → String → String → String → ScanM (String × Bool)
  | 0, acc, lead, _, _, _ => pure (acc, lead)
  | fuel + 1, acc, lead, ws, lb, tb => do
    let s ← get
    if s.mark.column == 0 && (marker '-' s.input || marker '.' s.input) then return (acc, lead)
    if s.input.head? == some '#' then return (acc, lead)
    let (acc, lead, ws, lb, tb) ← plainRun fuel acc lead ws lb tb
    unless ((← cur).map fun c => isBlank c || isBreak c).getD false do return (acc, lead)
    let (lead, ws, lb, tb) ← gap (some indent) fuel lead ws lb tb
    let s ← get
    if s.flowLevel == 0 && (s.mark.column : Int) < indent then return (acc, lead)
    plainLoop indent fuel acc lead ws lb tb

/-- A plain scalar. One that ran over a line break leaves the scanner at
    the start of a line, where a simple key may start. -/
def plain (fuel : Nat) : ScanM Token := do
  let indent := (← get).indent + 1
  let (text, lead) ← plainLoop indent fuel "" false "" "" ""
  if lead then allowKey true
  return .scalar text .plain

/-! ## Tokens -/

/-- The end of the text: every open block collection is closed. -/
def fetchStreamEnd : ScanM Unit := do
  modify fun s =>
    if s.mark.column != 0 then { s with mark := { s.mark with column := 0, line := s.mark.line + 1 } }
    else s
  unrollIndent (-1)
  removeSimpleKey
  modify fun s => { s with simpleKeyAllowed := false, finished := true }
  push .streamEnd

/-- A directive or a document marker, which close every block collection. -/
def fetchTopLevel (scanToken : ScanM Token) : ScanM Unit := do
  unrollIndent (-1)
  removeSimpleKey
  allowKey false
  push (← scanToken)

/-- `[` or `{`. -/
def fetchFlowStart (t : Token) : ScanM Unit := do
  saveSimpleKey
  modify fun s => { s with simpleKeys := noKey :: s.simpleKeys, flowLevel := s.flowLevel + 1 }
  allowKey true
  skip
  push t

/-- `]` or `}`. -/
def fetchFlowEnd (t : Token) : ScanM Unit := do
  removeSimpleKey
  modify fun s =>
    if s.flowLevel > 0 then { s with flowLevel := s.flowLevel - 1, simpleKeys := s.simpleKeys.drop 1 }
    else s
  allowKey false
  skip
  push t

/-- `,` in a flow collection. -/
def fetchFlowEntry : ScanM Unit := do
  removeSimpleKey
  allowKey true
  skip
  push .flowEntry

/-- `-` of a block sequence entry, which opens a block sequence at its
    column if none is open there. -/
def fetchBlockEntry : ScanM Unit := do
  let s ← get
  if s.flowLevel == 0 then
    unless s.simpleKeyAllowed do throw "block sequence entries are not allowed in this context"
    rollIndent s.mark.column none .blockSequenceStart
  removeSimpleKey
  allowKey true
  skip
  push .blockEntry

/-- `?` of an explicit key. -/
def fetchKey : ScanM Unit := do
  let s ← get
  if s.flowLevel == 0 then
    unless s.simpleKeyAllowed do throw "mapping keys are not allowed in this context"
    rollIndent s.mark.column none .blockMappingStart
  removeSimpleKey
  allowKey ((← get).flowLevel == 0)
  skip
  push .key

/-- `:` of a value. After a possible simple key the `key` token goes in
    before it; otherwise the value follows an explicit key or none. -/
def fetchValue : ScanM Unit := do
  let s ← get
  match s.simpleKeys with
  | k :: _ =>
    if k.possible then
      insertAt k.tokenNumber .key
      rollIndent k.mark.column (some k.tokenNumber) .blockMappingStart
      modify fun s => { s with simpleKeys := { k with possible := false } :: s.simpleKeys.drop 1 }
      allowKey false
    else
      if s.flowLevel == 0 then
        unless s.simpleKeyAllowed do throw "mapping values are not allowed in this context"
        rollIndent s.mark.column none .blockMappingStart
      allowKey (s.flowLevel == 0)
  | [] => pure ()
  skip
  push .value

/-- A token that may be a simple key: an anchor, alias, tag or flow scalar. -/
def fetchKeyable (scanToken : ScanM Token) : ScanM Unit := do
  saveSimpleKey
  allowKey false
  push (← scanToken)

/-- Whether a plain scalar may start here: not at a blank or an indicator,
    except `-` before a non-blank, and, in block context, `?` and `:` before
    a non-blank. -/
def plainStart (flow : Bool) (c : Char) (c1 : Option Char) : Bool :=
  !(blankZ (some c) || "-?:,[]\x7b\x7d#&*!|>'\"%@`".contains c) ||
    (c == '-' && !(c1.map isBlank).getD false) ||
    (!flow && (c == '?' || c == ':') && !blankZ c1)

/-- The next token, and the block ends before it. -/
def fetchNext (fuel : Nat) : ScanM Unit := do
  toNextToken fuel
  staleSimpleKeys
  unrollIndent (← get).mark.column
  let s ← get
  let flow := s.flowLevel > 0
  let atStart := s.mark.column == 0
  match s.input with
  | [] => fetchStreamEnd
  | c :: rest =>
    let c1 := rest.head?
    if atStart && c == '%' then fetchTopLevel (directive fuel)
    else if atStart && marker '-' s.input then
      fetchTopLevel (do skip; skip; skip; pure .documentStart)
    else if atStart && marker '.' s.input then
      fetchTopLevel (do skip; skip; skip; pure .documentEnd)
    else if c == '[' then fetchFlowStart .flowSequenceStart
    else if c == '{' then fetchFlowStart .flowMappingStart
    else if c == ']' then fetchFlowEnd .flowSequenceEnd
    else if c == '}' then fetchFlowEnd .flowMappingEnd
    else if c == ',' then fetchFlowEntry
    else if c == '-' && blankZ c1 then fetchBlockEntry
    else if c == '?' && (flow || blankZ c1) then fetchKey
    else if c == ':' && (flow || blankZ c1) then fetchValue
    else if c == '*' then fetchKeyable (return .alias (← anchorName))
    else if c == '&' then fetchKeyable (return .anchor (← anchorName))
    else if c == '!' then fetchKeyable (tag fuel)
    else if (c == '|' || c == '>') && !flow then do
      removeSimpleKey
      allowKey true
      push (← blockScalar (c == '|') fuel)
    else if c == '\'' || c == '"' then fetchKeyable (quoted (c == '\'') fuel)
    else if plainStart flow c c1 then do
      saveSimpleKey
      allowKey false
      push (← plain fuel)
    else throw "found character that cannot start any token"

/-- Tokens up to the end of the text. -/
def fetchAll (budget : Nat) : Nat → ScanM Unit
  | 0 => pure ()
  | fuel + 1 => do
    if (← get).finished then return
    fetchNext budget
    fetchAll budget fuel

end Scanner

/-- The tokens of a YAML text. A byte order mark may open the text. -/
def scan (text : String) : Except String (Array Token) := do
  let cs := match text.toList with
    | '\ufeff' :: rest => rest
    | cs => cs
  if !cs.all Scanner.allowed then throw "control characters are not allowed"
  let budget := cs.length + 2
  let start : Scanner :=
    { input := cs, mark := ⟨0, 0, 0⟩, tokens := #[.streamStart], indent := -1, indents := [],
      simpleKeyAllowed := true, simpleKeys := [Scanner.noKey], flowLevel := 0, finished := false }
  let ((), s) ← (Scanner.fetchAll budget budget).run start
  return s.tokens

end Warden.Yaml
