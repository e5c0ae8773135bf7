import Switchboard.Agent.Url
/-!
# Reading URLs

URLs from text, the way browsers read them: blanks at the ends and line ends anywhere are
dropped, backslashes are slashes where the scheme is known, steps up in a path are taken at once,
and what cannot stand in a part is percent-encoded. What is no URL by itself can still lead from
one to another.

* `Url.read` — a URL from text.
* `Url.resolve` — the URL that a text leads to from another.
-/

namespace Switchboard.Agent.Url

/-! ## Parts -/

/-- The text without blanks and controls at its ends, and without tabs and line ends. -/
def cleaned (cs : List Char) : List Char :=
  let isBlank (c : Char) : Bool := c.toNat ≤ 32
  (((cs.dropWhile isBlank).reverse.dropWhile isBlank).reverse).filter fun c =>
    c != '\t' && c != '\n' && c != '\r'

/-- May the character stand in a scheme? -/
def isInScheme (c : Char) : Bool := c.isAlphanum || "+-.".toList.contains c

/-- The scheme in lower case, and the text behind its colon. -/
def splitScheme (cs : List Char) : Option (List Char × List Char) :=
  let scheme := cs.takeWhile isInScheme
  match scheme, cs.drop scheme.length with
  | c :: _, ':' :: rest => if c.isAlpha then some (scheme.map Char.toLower, rest) else none
  | _, _ => none

/-- The text up to a character of a class, and the text from it on. -/
def splitAt (stop : Char → Bool) (cs : List Char) : List Char × List Char :=
  (cs.takeWhile (!stop ·), cs.dropWhile (!stop ·))

/-- Does the character separate segments? -/
def isSlash (kind : Scheme.Kind) (c : Char) : Bool :=
  c == '/' || (c == '\\' && kind.takesBackslashes)

/-- Does the character end a path? -/
def endsPath (c : Char) : Bool := c == '?' || c == '#'

/-! ## Paths, queries and fragments -/

/-- The segments of a path as it is written, encoded. -/
def segmentsOf (kind : Scheme.Kind) (cs : List Char) : List (List Char) :=
  (cs.splitOnP (isSlash kind)).map (Text.percentEncoded isSpecialInPath)

/-- The first segment that is no step, if it is a drive, with a colon as its mark. -/
def markDrive (segments : List (List Char)) : List (List Char) :=
  let steps := segments.takeWhile fun s => isStepUp s || isStay s
  match segments.drop steps.length with
  | [letter, '|'] :: rest =>
    if letter.isAlpha then steps ++ [letter, ':'] :: rest else segments
  | _ => segments

/-- The path to a file: what is empty at its front does not count. -/
def withoutEmptyFront : List (List Char) → List (List Char)
  | [] :: segment :: rest => withoutEmptyFront (segment :: rest)
  | path => path

/-- The path of a text behind a host; its first slash may be missing. -/
def pathOf (kind : Scheme.Kind) (cs : List Char) : Path :=
  let segments := segmentsOf kind (if cs.head?.any (isSlash kind) then cs.drop 1 else cs)
  match kind with
  | .web _ => .steps (walk [] segments)
  | .file => .steps (withoutEmptyFront (walk [] (markDrive segments)))
  | .other => .steps (if cs.isEmpty then [] else walk [] segments)

/-- A query as it is written, encoded. -/
def queryOf (kind : Scheme.Kind) (cs : List Char) : List Char :=
  match kind with
  | .other => Text.percentEncoded isSpecialInAnyQuery cs
  | _ => Text.percentEncoded isSpecialInQuery cs

/-- A URL with the query and the fragment of a text that is empty or starts with one of them. -/
def withRest (url : Url) (cs : List Char) : Url :=
  let (query, fragment) := splitAt (· == '#') cs
  { url with
    query := query.tail?.map (queryOf (Scheme.kind url.scheme))
    fragment := fragment.tail?.map (Text.percentEncoded isSpecialInFragment) }

/-! ## Hosts and ports -/

/-- The name and password of a user, encoded; a colon between them only if there is a password. -/
def credentialsOf (cs : List Char) : List Char :=
  let (user, password) := splitAt (· == ':') cs
  let encoded := Text.percentEncoded isSpecialInCredentials
  encoded user ++
    match password with
    | [] | [_] => []
    | colon :: password => colon :: encoded password

/-- The text in front of the last at sign, if there is one, and the text behind it. -/
def splitUser (cs : List Char) : Option (List Char) × List Char :=
  let host := (cs.reverse.takeWhile (· ≠ '@')).reverse
  if host.length = cs.length then (none, cs)
  else (some (cs.take (cs.length - host.length - 1)), host)

/-- The host as it is written, up to a colon that is not between brackets, and what follows. -/
def splitHost (isInside : Bool) : List Char → List Char × List Char
  | [] => ([], [])
  | c :: rest =>
    if c = ':' ∧ !isInside then ([], c :: rest)
    else
      let isInside := c = '[' || (isInside && c != ']')
      let (host, more) := splitHost isInside rest
      (c :: host, more)

/-- A port: nothing, or a number of 16 bits; the standard one goes without saying. -/
def portOf (kind : Scheme.Kind) (cs : List Char) : Option (Option Nat) :=
  if cs.isEmpty then some none
  else
    match Host.digitsOf 10 cs with
    | some n =>
      if Text.maxWord16 < n then none
      else some (if some n = kind.port? then none else some n)
    | none => none

/-- A URL without a path, and what follows its host and port, from the text behind two slashes. -/
def readAuthority (scheme cs : List Char) : Option (Url × List Char) := do
  let kind := Scheme.kind scheme
  let (authority, rest) := splitAt (fun c => isSlash kind c || endsPath c) cs
  let (user, place) := splitUser authority
  let (host, port) := splitHost false place
  let (port, more) := splitAt (· == '\\') port
  let credentials := credentialsOf (user.getD [])
  let isNameless := host.isEmpty
  if isNameless && (kind != .other || !port.isEmpty || !credentials.isEmpty
      || (user == some [] && !rest.isEmpty)) then none
  let host ← if kind = .other then Host.readAny host else Host.read host
  let port ← portOf kind (port.drop 1)
  return ({ scheme, credentials, host, port, path := .steps [] }, more ++ rest)

/-- The URL of a text behind two slashes. -/
def readHosted (scheme cs : List Char) : Option Url := do
  let (url, rest) ← readAuthority scheme cs
  let (path, rest) := splitAt endsPath rest
  return { url with path := pathOf (Scheme.kind scheme) path }.withRest rest

/-! ## Files -/

/-- The host of a file; on this machine it is left empty. -/
def fileHost (cs : List Char) : Option Host :=
  if cs.isEmpty then some (.name [])
  else (Host.read cs).map fun h => if h = .name "localhost".toList then .name [] else h

/-- The URL of a file, from the text behind the colon. A drive has no host. -/
def readFile (cs : List Char) : Option Url :=
  let slash := isSlash .file
  let (host, rest) :=
    match cs with
    | a :: b :: rest =>
      if slash a && slash b then
        let (host, more) := splitAt (fun c => slash c || endsPath c) rest
        if isDrive host then ([], rest) else (host, more)
      else ([], cs)
    | _ => ([], cs)
  let (path, rest) := splitAt endsPath rest
  (fileHost host).map fun host =>
    let path := pathOf .file path
    let isOnDrive :=
      match path with
      | .steps (segment :: _) => isDrive segment
      | _ => false
    { scheme := "file".toList, host := some (if isOnDrive then .name [] else host), path
      : Url }.withRest rest

/-! ## URLs -/

def readOther (scheme : List Char) (cs : List Char) : Option Url :=
  match cs with
  | '/' :: '/' :: rest => readHosted scheme rest
  | cs =>
    let (path, rest) := splitAt endsPath cs
    let path :=
      if path.head? = some '/' then pathOf .other path
      else .plain (Text.percentEncoded Host.isControl path)
    some ({ scheme, path : Url }.withRest rest)

/-- The URL of a scheme and the text behind its colon. -/
def readScheme (scheme cs : List Char) : Option Url :=
  match Scheme.kind scheme with
  | .web port => readHosted scheme (cs.dropWhile (isSlash (.web port)))
  | .file => readFile cs
  | .other => readOther scheme cs

def read (s : String) : Option Url := do
  let (scheme, rest) ← splitScheme (cleaned s.toList)
  readScheme scheme rest

/-! ## From one URL to another -/

def Path.segments : Path → List (List Char)
  | .steps segments => segments
  | .plain _ => []

/-- The URL that a text without a scheme leads to from a URL of the web. -/
def resolveFrom (base : Url) (cs : List Char) : Option Url :=
  let kind := Scheme.kind base.scheme
  let slash := isSlash kind
  let base := { base with fragment := none }
  match cs with
  | [] => some base
  | '#' :: _ => some { base.withRest cs with query := base.query }
  | '?' :: _ => some (base.withRest cs)
  | a :: rest =>
    if slash a then
      match rest with
      | b :: more =>
        if a = '/' ∧ b = '/' then readHosted base.scheme more
        else if slash b then readHosted base.scheme (more.dropWhile slash)
        else
          let (path, rest) := splitAt endsPath rest
          some ({ base with path := pathOf kind path }.withRest rest)
      | [] => some ({ base with path := pathOf kind [] }.withRest [])
    else
      let (path, rest) := splitAt endsPath cs
      let path := walk base.path.segments.dropLast (segmentsOf kind path)
      some ({ base with path := .steps path }.withRest rest)

/-- The URL that a text leads to from a URL of the web. -/
def resolve (base : Url) (s : String) : Option Url :=
  let cs := cleaned s.toList
  match splitScheme cs with
  | none => resolveFrom base cs
  | some (scheme, rest) =>
    let slashes := rest.takeWhile (isSlash (Scheme.kind scheme))
    if scheme = base.scheme ∧ slashes.length < 2 then resolveFrom base rest
    else readScheme scheme rest

end Switchboard.Agent.Url
