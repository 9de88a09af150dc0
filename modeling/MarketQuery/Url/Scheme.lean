/-!
Schemes of addresses and the characters that matter to their reading. The schemes of the web are
read leniently: a backslash is a slash, and the usual port number need not be given.
-/
namespace MarketQuery.Url

/-- How an address is read. -/
inductive Family where
  | web
  | file
  | other
  deriving DecidableEq

def Family.ofScheme (scheme : String) : Family :=
  if scheme = "file" then .file
  else if ["http", "https", "ws", "wss", "ftp"].contains scheme then .web
  else .other

/-- The usual port number of a scheme. -/
def usualPortNumber? : String → Option Nat
  | "http" | "ws" => some 80
  | "https" | "wss" => some 443
  | "ftp" => some 21
  | _ => none

def isSchemeChar (c : Char) : Bool :=
  c.isAlphanum || c == '+' || c == '-' || c == '.'

/-- The scheme in lower case, and what follows its colon. -/
def cutScheme? (s : List Char) : Option (String × List Char) :=
  let scheme := s.takeWhile isSchemeChar
  match scheme.head?.any Char.isAlpha, s.dropWhile isSchemeChar with
  | true, ':' :: rest => some (String.ofList (scheme.map Char.toLower), rest)
  | _, _ => none

/-- Tabs and line breaks count nowhere. -/
def isIgnored (c : Char) : Bool := c == '\t' || c == '\n' || c == '\r'

def counted (s : List Char) : List Char := s.filter fun c => !isIgnored c

def Family.isSlash (family : Family) (c : Char) : Bool :=
  c == '/' || (c == '\\' && family != .other)

/-- What follows the two slashes of an authority ends here. -/
def Family.isTerminator (family : Family) (c : Char) : Bool :=
  family.isSlash c || c == '?' || c == '#'

def isControl (c : Char) : Bool := c.toNat < 0x20 || c.toNat == 0x7F
def inFragment (c : Char) : Bool := isControl c || " \"<>\x60".toList.contains c
def inPath (c : Char) : Bool := inFragment c || "#?\x7b\x7d".toList.contains c
def inCredentials (c : Char) : Bool := inPath c || "/:;=@[\\]^|".toList.contains c
def inQuery (c : Char) : Bool := isControl c || " \"#<>".toList.contains c
def inLenientQuery (c : Char) : Bool := inQuery c || c == '\''

end MarketQuery.Url
