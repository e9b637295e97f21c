/-
  ResourceCatalog/Url/Address.lean
  ================================
  **Web addresses.**

  An address is read as browsers read one: white space around it and line breaks
  in it are passed over, any number of slashes of either kind may follow the
  scheme, dot segments are resolved, and what has no place in a path, a query or
  a fragment is percent-encoded.  Only the two schemes of the web are read.  A
  name and password in front of the host are no part of the address.
-/
import ResourceCatalog.Text.Space
import ResourceCatalog.Url.Host

namespace ResourceCatalog.Url

/-- The two schemes of the web. -/
inductive Scheme where
  | http
  | https
deriving DecidableEq, Repr

def Scheme.name : Scheme → String
  | http => "http"
  | https => "https"

def Scheme.defaultPort : Scheme → Nat
  | http => 80
  | https => 443

/-- A web address.  The port is there unless it is the scheme's own, and a slash
    leads each segment of the path. -/
structure Address where
  scheme : Scheme
  host : String
  port : Option Nat
  path : List String
  query : Option String
  fragment : Option String
deriving DecidableEq, Repr

namespace Address

/-! ### Escapes -/

/-- A character as the percent-encoded bytes of its UTF-8 form. -/
def escape (c : Char) : List Char :=
  (String.utf8EncodeChar c).flatMap
    (fun b => ['%', Char.ofNat (Text.capitalDigit (b.toNat / 16)),
      Char.ofNat (Text.capitalDigit (b.toNat % 16))])

/-- Escape the characters of a class. -/
def escapeAll (escaped : Char → Bool) (cs : List Char) : List Char :=
  cs.flatMap (fun c => if escaped c then escape c else [c])

/-- Controls and all beyond ASCII. -/
def isControl (c : Char) : Bool := c.toNat ≤ 0x1F || 0x7F ≤ c.toNat

def escapedInFragment (c : Char) : Bool := isControl c || " \"<>`".toList.contains c

def escapedInQuery (c : Char) : Bool := isControl c || " \"#<>'".toList.contains c

def escapedInPath (c : Char) : Bool := isControl c || " \"#<>?`\x7b\x7d".toList.contains c

/-! ### Reading -/

def isSlash (c : Char) : Bool := c = '/' || c = '\\'

def isBlankOrControl (c : Char) : Bool := c.toNat ≤ 0x20

/-- Without blanks and controls around it, and without tabs and line breaks in it. -/
def cleaned (cs : List Char) : List Char :=
  (Text.dropEndWhile isBlankOrControl (cs.dropWhile isBlankOrControl)).filter
    (fun c => !(c = '\t' || c = '\n' || c = '\r'))

/-- The scheme, and what follows its colon. -/
def readScheme? (cs : List Char) : Option (Scheme × List Char) :=
  match cs.dropWhile (· ≠ ':') with
  | ':' :: rest =>
    match String.ofList ((cs.takeWhile (· ≠ ':')).map Text.lower) with
    | "http" => some (.http, rest)
    | "https" => some (.https, rest)
    | _ => none
  | _ => none

/-- The host and port behind a name and password, if there are any. -/
def behindCredentials (cs : List Char) : List Char :=
  (Text.pieces '@' cs).getLastD []

/-- The host, and the port behind its colon; a colon in brackets is the host's. -/
def cutPort (inBrackets : Bool) : List Char → List Char × Option (List Char)
  | [] => ([], none)
  | c :: cs =>
    if c = ':' ∧ inBrackets = false then ([], some cs)
    else
      let inside := if c = '[' then true else if c = ']' then false else inBrackets
      let (host, port) := cutPort inside cs
      (c :: host, port)

/-- A port: none when it is not given or is the scheme's own. -/
def readPort? (scheme : Scheme) : Option (List Char) → Option (Option Nat)
  | none => some none
  | some [] => some none
  | some cs =>
    if cs.all Text.isDigit then
      match Text.valueIn? 10 cs with
      | some n =>
        if 65535 < n then none else if n = scheme.defaultPort then some none else some (some n)
      | none => none
    else none

/-- The pieces between slashes of either kind. -/
def segments (cs : List Char) : List (List Char) :=
  Text.pieces '/' (cs.map (fun c => if c = '\\' then '/' else c))

/-- Small letters, and full stops in place of their escapes. -/
def undotted : List Char → List Char
  | '%' :: '2' :: 'e' :: rest => '.' :: undotted rest
  | '%' :: '2' :: 'E' :: rest => '.' :: undotted rest
  | c :: rest => c :: undotted rest
  | [] => []

def isSingleDot (cs : List Char) : Bool := undotted cs = ['.']

def isDoubleDot (cs : List Char) : Bool := undotted cs = ['.', '.']

/-- Resolve dot segments, with the segments passed in reverse. -/
def resolve : List (List Char) → List (List Char) → List (List Char)
  | [], passed => passed.reverse
  | s :: rest, passed =>
    let passed := if isDoubleDot s then passed.drop 1 else passed
    if isSingleDot s || isDoubleDot s then
      if rest.isEmpty then resolve rest ([] :: passed) else resolve rest passed
    else resolve rest (s :: passed)

/-- The segments of a path. -/
def readPath (cs : List Char) : List String :=
  let cs := match cs with
    | c :: rest => if isSlash c then rest else c :: rest
    | [] => []
  (resolve ((segments cs).map (escapeAll escapedInPath)) []).map String.ofList

/-- What stands behind a mark, up to its end, if the mark is there. -/
def behindMark (mark : Char) : List Char → Option (List Char)
  | c :: rest => if c = mark then some rest else none
  | [] => none

/-- Read a web address; none when it has no scheme of the web or no host. -/
def ofString? (s : String) : Option Address := do
  let (scheme, rest) ← readScheme? (cleaned s.toList)
  let rest := rest.dropWhile isSlash
  let inAuthority := fun c => !(isSlash c || c = '?' || c = '#')
  let (hostText, portText) := cutPort false (behindCredentials (rest.takeWhile inAuthority))
  let host ← Host.ofChars? hostText
  let port ← readPort? scheme portText
  let rest := rest.dropWhile inAuthority
  let pathText := rest.takeWhile (fun c => !(c = '?' || c = '#'))
  let rest := rest.dropWhile (fun c => !(c = '?' || c = '#'))
  let query := (behindMark '?' rest).map (·.takeWhile (· ≠ '#'))
  let fragment := behindMark '#' (rest.dropWhile (· ≠ '#'))
  return { scheme, host := String.ofList host, port, path := readPath pathText,
           query := query.map (fun q => String.ofList (escapeAll escapedInQuery q)),
           fragment := fragment.map (fun f => String.ofList (escapeAll escapedInFragment f)) }

/-! ### Writing -/

/-- Put pairs behind the query.  A query that stays empty is left out. -/
def withPairs (pairs : List (String × String)) (a : Address) : Address :=
  let more := Text.Form.write pairs
  let query := match a.query with
    | none => more
    | some q => if q = "" then more else if pairs.isEmpty then q else q ++ "&" ++ more
  { a with query := if query = "" then none else some query }

/-- What a request is sent to: all but the fragment. -/
def target (a : Address) : String :=
  a.scheme.name ++ "://" ++ a.host
    ++ (match a.port with
        | some n => ":" ++ toString n
        | none => "")
    ++ "".intercalate (a.path.map ("/" ++ ·))
    ++ (match a.query with
        | some q => "?" ++ q
        | none => "")

/-- The whole address. -/
def text (a : Address) : String :=
  a.target ++ (match a.fragment with
    | some f => "#" ++ f
    | none => "")

end Address

end ResourceCatalog.Url
