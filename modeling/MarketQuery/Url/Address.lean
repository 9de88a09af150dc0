import MarketQuery.Url.Host
import MarketQuery.Url.Path

/-!
Web addresses. An address is read in full, with no other address to complete it: scheme, user and
password, host, port number, path, query and fragment.
-/
namespace MarketQuery

structure Url where
  scheme : String
  /-- The name of a user, as it is written. -/
  username : String
  password : String
  /-- A host without characters is written, but is no host. -/
  host : Option Host
  portNumber : Option Nat
  path : String
  query : Option String
  fragment : Option String

namespace Url

/-- What stands before and after the last `@`. -/
def cutCredentials (s : List Char) : List Char × List Char :=
  let host := (s.reverse.takeWhile (· ≠ '@')).reverse
  (s.take (s.length - host.length - 1), host)

/-- The written forms of a name and of a password, which the first colon parts. -/
def readCredentials (s : List Char) : String × String :=
  let written := fun part => String.ofList (Percent.encode inCredentials part)
  (written (s.takeWhile (· ≠ ':')), written ((s.dropWhile (· ≠ ':')).drop 1))

/-- A name and a password in front of a host. -/
def credentialsText (username password : String) : String :=
  if username = "" && password = "" then ""
  else username ++ (if password = "" then "" else ":" ++ password) ++ "@"

/-- A host ends at the first colon outside brackets. -/
def cutHost (inBrackets : Bool) : List Char → List Char × List Char
  | [] => ([], [])
  | c :: rest =>
    if c = ':' ∧ ¬inBrackets then ([], c :: rest)
    else
      let cut := cutHost (if c = '[' then true else if c = ']' then false else inBrackets) rest
      (c :: cut.1, cut.2)

/-- The port number after a host, and what follows it, which must be nothing or a backslash. The
usual number of the scheme counts as none. -/
def readPortNumber (scheme : String) (s : List Char) :
    Except UrlError (Option Nat × List Char) :=
  match s with
  | ':' :: numeral =>
    let digits := numeral.takeWhile Char.isDigit
    let rest := numeral.drop digits.length
    let n := (Decimal.natural? digits).getD 0
    if 65535 < n || rest.head?.any (· ≠ '\\') then .error .badPortNumber
    else if digits = [] || usualPortNumber? scheme = some n then .ok (none, rest)
    else .ok (some n, rest)
  | rest => .ok (none, rest)

structure Authority where
  username : String
  password : String
  host : Host
  portNumber : Option Nat
  /-- What is left of the text. -/
  rest : List Char

/-- Reads an authority. Only the schemes of the web need a host. -/
def Authority.parse (scheme : String) (s : List Char) : Except UrlError Authority := do
  let web := Family.ofScheme scheme = .web
  let (user, rest) := cutCredentials s
  let (username, password) := readCredentials user
  let (host, tail) := cutHost false rest
  if host = [] && (web || tail ≠ [] || credentialsText username password ≠ "") then
    .error .emptyHost
  else do
    let host ← if web then Host.parse host else Host.parseAsIs host
    let (portNumber, rest) ← readPortNumber scheme tail
    .ok { username, password, host, portNumber, rest }

/-- Splits off the query and the fragment. -/
def cutTail (family : Family) (s : List Char) : List Char × Option String × Option String :=
  let body := s.takeWhile fun c => c ≠ '?' ∧ c ≠ '#'
  let rest := counted (s.drop body.length)
  let query := (rest.takeWhile (· ≠ '#')).drop 1
  let fragment := (rest.dropWhile (· ≠ '#')).drop 1
  let set := if family = .other then inQuery else inLenientQuery
  (body,
    if rest.head? = some '?' then some (String.ofList (Percent.encode set query)) else none,
    if rest.contains '#' then some (String.ofList (Percent.encode inFragment fragment)) else none)

/-- Reads what follows the two slashes of an address with an authority. -/
def afterSlashes (scheme : String) (s : List Char) : Except UrlError Url := do
  let family := Family.ofScheme scheme
  let text := s.takeWhile fun c => !family.isTerminator c
  let rest := s.drop text.length
  if text = ['@'] && rest ≠ [] then .error .emptyHost
  else do
    let authority ← Authority.parse scheme text
    let (body, query, fragment) := cutTail family (authority.rest ++ rest)
    let path :=
      if body = [] && family = .other then "" else (absolutePath family body).text family
    .ok
      { scheme, path, query, fragment
        username := authority.username
        password := authority.password
        host := some authority.host
        portNumber := authority.portNumber }

/-- The host of a file. The own machine is none. -/
def fileHost (s : List Char) : Except UrlError Host :=
  if s = [] then .ok (.name "")
  else do
    let host ← Host.parse s
    match host with
    | .name "localhost" => .ok (.name "")
    | host => .ok host

/-- The text after a slash. -/
def afterSlash? (s : List Char) : Option (List Char) :=
  match s.dropWhile isIgnored with
  | [] => none
  | c :: rest => if Family.file.isSlash c then some rest else none

/-- The host of a file and the text of its path. Two slashes lead to a host, unless a drive follows
them, and a slash parts a host from the path. -/
def cutFileHost (s : List Char) : Except UrlError (Host × List Char) :=
  match (afterSlash? s).bind afterSlash? with
  | none => .ok (.name "", (afterSlash? s).getD s)
  | some rest =>
    let text := rest.takeWhile fun c => !Family.file.isTerminator c
    if isDrive (counted text) then .ok (.name "", rest)
    else do
      let left := rest.drop text.length
      match ← fileHost (counted text) with
      | .name "" => .ok (.name "", left)
      | host => .ok (host, (afterSlash? left).getD left)

/-- Reads the address of a file after its scheme. Tabs and line breaks are still there, since they
part a drive from what follows it. -/
def file (s : List Char) : Except UrlError Url := do
  let (host, rest) ← cutFileHost s
  let (body, query, fragment) := cutTail .file rest
  let path := PathReader.ofText .file body
  .ok
    { query, fragment
      scheme := "file"
      username := ""
      password := ""
      host := some (if path.onDrive then .name "" else host)
      portNumber := none
      path := path.text .file }

/-- Reads an address without authority after its scheme. -/
def withoutHost (scheme : String) (s : List Char) : Url :=
  let (body, query, fragment) := cutTail .other s
  { scheme, query, fragment
    username := ""
    password := ""
    host := none
    portNumber := none
    path := match body with
      | '/' :: rest => (PathReader.ofText .other rest).text .other
      | _ => String.ofList (Percent.encode isControl body) }

/-- Control characters and spaces do not count at the ends. -/
def trimmed (s : List Char) : List Char :=
  let edge := fun (c : Char) => decide (c ≤ ' ')
  ((s.dropWhile edge).reverse.dropWhile edge).reverse

def parse (text : String) : Except UrlError Url :=
  let text := trimmed text.toList
  match cutScheme? (counted text) with
  | none => .error .relative
  | some (scheme, rest) =>
    match Family.ofScheme scheme, rest with
    | .file, _ => file ((text.dropWhile (· ≠ ':')).drop 1)
    | .web, _ => afterSlashes scheme (rest.dropWhile Family.web.isSlash)
    | .other, '/' :: '/' :: rest => afterSlashes scheme rest
    | .other, _ => .ok (withoutHost scheme rest)

def hostText (u : Url) : String :=
  match u.host with
  | none => ""
  | some host => host.text

/-- The path and the query. -/
def target (u : Url) : String :=
  u.path ++ (match u.query with
    | some query => "?" ++ query
    | none => "")

/-- A path that starts like an authority is kept apart from the scheme. -/
def authorityText (u : Url) : String :=
  match u.host with
  | some host =>
    "//" ++ credentialsText u.username u.password ++ host.text ++ (match u.portNumber with
      | some n => ":" ++ Decimal.natText n
      | none => "")
  | none => if u.path.startsWith "//" then "/." else ""

def text (u : Url) : String :=
  u.scheme ++ ":" ++ u.authorityText ++ u.target ++ (match u.fragment with
    | some fragment => "#" ++ fragment
    | none => "")

/-- Name and password can be read, so that they need not stand in the address. -/
def hasPlainCredentials (u : Url) : Bool :=
  let read := fun (part : String) => Percent.decodeText? part.toList
  (read u.username).isSome && (u.username ≠ "" || (u.password ≠ "" && (read u.password).isSome))

/-- The address as it may be shown to others. -/
def withoutCredentials (u : Url) : Url :=
  if u.hasPlainCredentials then { u with username := "", password := "" } else u

/-- The address names a host that can be asked for a page. -/
def isFetchable (u : Url) : Bool :=
  (u.scheme == "http" || u.scheme == "https") && u.hostText ≠ "" &&
    !(u.hostText.toList.any fun c => "\"\x60\x7b\x7d".toList.contains c) &&
    u.text.utf8ByteSize ≤ 65534

end Url

end MarketQuery
