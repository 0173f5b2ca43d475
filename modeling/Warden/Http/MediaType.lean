/-!
# Media types

A `Content-Type` value names a media type: `type/subtype`, optionally a
structured-syntax suffix after the last `+` of the subtype, and optionally
parameters after `;`. Names are tokens and compare without case.

`MediaType.parse?` accepts exactly the texts of this grammar:

* the type is a non-empty run of token characters ending at `/`;
* the subtype is a run of token characters; a `+` that is not its first
  character marks the suffix;
* a `;` after a non-empty subtype starts the parameters, each
  `name=value` with the name a non-empty token, the value a token (possibly
  empty at the end) or a quoted string, separated by `;`; a parameter may
  start with spaces, and a quoted value may be followed by spaces.

A request body is JSON when its media type is `application/json` or has the
suffix `json` under `application` (`MediaType.isJson`).
-/

namespace Warden.Http

/-- Characters of a token: letters, digits and ``!#$%&'*+-.^_`|~``. -/
def isTokenChar (c : Char) : Bool :=
  c.isAlphanum || "!#$%&*+-.^_|~".toList.contains c || c.toNat == 39 || c.toNat == 96

/-- Characters allowed inside a quoted parameter value. -/
def isQuotedChar (c : Char) : Bool := 31 < c.toNat && c.toNat != 127

/-- Where a reader of parameters stands. -/
inductive ParamPhase where
  /-- before a parameter's name -/
  | start
  /-- inside a name -/
  | name
  /-- just after `=` -/
  | valueStart
  /-- inside an unquoted value -/
  | value
  /-- just after an opening quote -/
  | quotedStart
  /-- inside a quoted value -/
  | quoted
  /-- after a closing quote -/
  | afterQuote
  deriving DecidableEq, Repr

/-- The parameters that follow a `;` are well formed. -/
def paramsWellFormed : ParamPhase → List Char → Bool
  | .start, [] => true
  | .start, c :: cs =>
    if c == ' ' then paramsWellFormed .start cs else isTokenChar c && paramsWellFormed .name cs
  | .name, [] => false
  | .name, c :: cs =>
    if c == '=' then paramsWellFormed .valueStart cs
    else isTokenChar c && paramsWellFormed .name cs
  | .valueStart, [] => true
  | .valueStart, c :: cs =>
    if c == '"' then paramsWellFormed .quotedStart cs
    else isTokenChar c && paramsWellFormed .value cs
  | .value, [] => true
  | .value, c :: cs =>
    if c == ';' then paramsWellFormed .start cs
    else isTokenChar c && paramsWellFormed .value cs
  | .quotedStart, [] => false
  -- a quote right after the opening one is text, not the end
  | .quotedStart, c :: cs => isQuotedChar c && paramsWellFormed .quoted cs
  | .quoted, [] => false
  | .quoted, c :: cs =>
    if c == '"' then paramsWellFormed .afterQuote cs
    else isQuotedChar c && paramsWellFormed .quoted cs
  | .afterQuote, [] => true
  | .afterQuote, c :: cs =>
    if c == ';' then paramsWellFormed .start cs
    else c == ' ' && paramsWellFormed .afterQuote cs

/-- A media type, its names in lower case. -/
structure MediaType where
  type : String
  subtype : String
  suffix : Option String
  deriving DecidableEq, Repr

namespace MediaType

/-- The lower-case text of characters. -/
def lower (cs : List Char) : String := String.ofList (cs.map Char.toLower)

/-- Splits a subtype at its last `+` that is not its first character. -/
def splitSuffix (sub : List Char) : String × Option String :=
  match (List.range sub.length).reverse.find? fun i => i != 0 && sub[i]? == some '+' with
  | some i => (lower (sub.take i), some (lower (sub.drop (i + 1))))
  | none => (lower sub, none)

/-- Reads a media type. -/
def parse? (s : String) : Option MediaType :=
  if s == "*/*" then some ⟨"*", "*", none⟩
  else
    let cs := s.toList
    let top := cs.takeWhile isTokenChar
    match cs.drop top.length with
    | '/' :: rest =>
      if top.isEmpty then none
      else
        let sub := rest.takeWhile isTokenChar
        let (subtype, suffix) := splitSuffix sub
        let made : MediaType := ⟨lower top, subtype, suffix⟩
        match rest.drop sub.length with
        | [] => some made
        | ';' :: ps => if !sub.isEmpty && paramsWellFormed .start ps then some made else none
        | _ => none
    | _ => none

/-- The media type is JSON: `application/json`, or `application/…+json`. -/
def isJson (m : MediaType) : Bool :=
  m.type == "application" && (m.subtype == "json" || m.suffix == some "json")

end MediaType

end Warden.Http
