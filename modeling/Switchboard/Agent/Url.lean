import Switchboard.Agent.Host
/-!
# URLs of the agent

URLs that HTTP requests are sent to, and those of other schemes, which are only ever shown. Every
part is held as it is written, with what cannot stand in it percent-encoded.

* `Scheme.kind` — what readers know of a scheme.
* `Url.Path` — a path of segments, or a text without any.
* `Url` — scheme, host, port, path, query and fragment; `Url.text` — all of it as text.
* `Url.withPairs` — more pairs of name and value at the end of the query.
* `Url.target` — the part that a request names.
-/

namespace Switchboard.Agent

/-! ## Schemes -/

namespace Scheme

/-- What readers know of a scheme. -/
inductive Kind
  /-- Its URLs name a domain, and a port unless it is the standard one. -/
  | web (port : Nat)
  | file
  | other
  deriving DecidableEq, Repr, Inhabited

/-- The schemes of the web, with their standard ports. -/
def ports : List (List Char × Nat) :=
  [("http".toList, 80), ("https".toList, 443), ("ws".toList, 80), ("wss".toList, 443),
    ("ftp".toList, 21)]

def kind (scheme : List Char) : Kind :=
  if scheme = "file".toList then .file
  else
    match ports.lookup scheme with
    | some port => .web port
    | none => .other

/-- Is a backslash a slash? -/
def Kind.takesBackslashes : Kind → Bool
  | .other => false
  | _ => true

def Kind.port? : Kind → Option Nat
  | .web port => some port
  | _ => none

end Scheme

/-- The path of a URL. -/
inductive Url.Path
  /-- Segments, each with a slash in front. -/
  | steps (segments : List (List Char))
  /-- A text that nothing can be relative to. -/
  | plain (cs : List Char)
  deriving DecidableEq, Repr, Inhabited

/-- A URL. -/
structure Url where
  /-- The scheme, in small letters. -/
  scheme : List Char
  credentials : List Char := []
  /-- The host behind two slashes; it may be left out, or be empty. -/
  host : Option Host := none
  /-- The port, unless it is the one that goes with the scheme. -/
  port : Option Nat := none
  path : Url.Path
  query : Option (List Char) := none
  /-- What follows the number sign; no request names it. -/
  fragment : Option (List Char) := none
  deriving DecidableEq, Repr, Inhabited

namespace Url

/-! ## What may stand where -/

def isSpecialInPath (c : Char) : Bool :=
  Host.isControl c || " \"#<>?`\x7b\x7d".toList.contains c

def isSpecialInAnyQuery (c : Char) : Bool := Host.isControl c || " \"#<>".toList.contains c

/-- May the character not stand for itself in a query of a known scheme? -/
def isSpecialInQuery (c : Char) : Bool := isSpecialInAnyQuery c || c == '\''

def isSpecialInFragment (c : Char) : Bool := Host.isControl c || " \"<>`".toList.contains c

/-- May the character not stand for itself in the name or password of a user? -/
def isSpecialInCredentials (c : Char) : Bool :=
  isSpecialInPath c || "/:;=@[\\]^|".toList.contains c

/-- May the character not stand for itself in a name or value of a query's pair? -/
def isSpecialInPair (c : Char) : Bool := !(c.isAlphanum || "*-._".toList.contains c)

/-! ## Paths -/

/-- A segment with its written dots read back, as far as steps are concerned. -/
def dotsOf : List Char → List Char
  | '%' :: '2' :: 'e' :: rest => '.' :: dotsOf rest
  | '%' :: '2' :: 'E' :: rest => '.' :: dotsOf rest
  | c :: rest => c :: dotsOf rest
  | [] => []

/-- Is the segment a step nowhere? -/
def isStay (segment : List Char) : Bool := dotsOf segment == ['.']

def isStepUp (segment : List Char) : Bool := dotsOf segment == ['.', '.']

/-- Does the segment name a drive? -/
def isDrive : List Char → Bool
  | [letter, mark] => letter.isAlpha && (mark == ':' || mark == '|')
  | _ => false

/-- Is the segment one that no step leads up from: a drive, and whatever a backslash sets off
from one? -/
def isSummit : List Char → Bool
  | letter :: mark :: '\\' :: _ => isDrive [letter, mark]
  | segment => isDrive segment

/-- The path one step up. -/
def stepUp (path : List (List Char)) : List (List Char) :=
  if path.getLast?.any isSummit then path else path.dropLast

/-- The path that segments lead to from a path; a step at the end leaves an empty segment. -/
def walk (path : List (List Char)) : List (List Char) → List (List Char)
  | [] => path
  | segment :: rest =>
    let path :=
      if isStepUp segment then stepUp path
      else if isStay segment then path
      else path ++ [segment]
    if rest.isEmpty && (isStepUp segment || isStay segment) then path ++ [[]] else walk path rest

/-! ## Queries -/

/-- A name or a value of a pair; a blank is written as a plus sign. -/
def pairText (s : String) : List Char :=
  s.toList.flatMap fun c =>
    if c = ' ' then ['+'] else Text.percentEncoded isSpecialInPair [c]

def pairOf (p : String × String) : List Char := pairText p.1 ++ '=' :: pairText p.2

/-- A query with more pairs at its end. -/
def addPairs (query : Option (List Char)) (pairs : List (String × String)) :
    Option (List Char) :=
  pairs.foldl (fun query p =>
    match query with
    | some (c :: cs) => some (c :: cs ++ '&' :: pairOf p)
    | _ => some (pairOf p)) query

/-- The URL with more pairs at the end of its query. -/
def withPairs (url : Url) (pairs : List (String × String)) : Url :=
  { url with query := addPairs url.query pairs }

/-! ## Writing -/

def Path.text : Path → List Char
  | .steps segments => segments.flatMap fun s => '/' :: s
  | .plain cs => cs

/-- The query with its question mark. -/
def queryText : Option (List Char) → List Char
  | none => []
  | some query => '?' :: query

/-- What a request names: the path and the query. -/
def target (url : Url) : String := String.ofList (url.path.text ++ queryText url.query)

/-- The credentials with their at sign. -/
def credentialsText (credentials : List Char) : String :=
  if credentials.isEmpty then "" else String.ofList credentials ++ "@"

/-- What is between the scheme and the path. A path whose text would be taken for a host is kept
apart from the scheme. -/
def authorityText (url : Url) : String :=
  match url.host, url.path with
  | some host, _ =>
    "//" ++ credentialsText url.credentials ++ host.text ++
      match url.port with
      | none => ""
      | some n => ":" ++ toString n
  | none, .steps ([] :: _ :: _) => "/."
  | none, _ => ""

def text (url : Url) : String :=
  String.ofList url.scheme ++ ":" ++ url.authorityText ++ url.target ++
    match url.fragment with
    | none => ""
    | some f => String.ofList ('#' :: f)

/-! ## What requests need -/

def namesHost (url : Url) : Bool := url.host.any (· != .name [])

/-- Can requests be sent to URLs of this scheme? -/
def isHttp (url : Url) : Bool :=
  url.scheme == "http".toList || url.scheme == "https".toList

/-- The name of the user and the password, if there is one. -/
def userAndPassword (url : Url) : List Char × Option (List Char) :=
  (url.credentials.takeWhile (· ≠ ':'),
    (url.credentials.dropWhile (· ≠ ':')).tail?)

/-- The URL without credentials, which a request names elsewhere; those that are no text stay. -/
def withoutCredentials (url : Url) : Url :=
  let isText (cs : List Char) : Bool := (Text.textOf? (Text.percentDecoded cs)).isSome
  let (user, password) := url.userAndPassword
  if isText user && (!user.isEmpty || password.any isText) then { url with credentials := [] }
  else url

end Url

end Switchboard.Agent
