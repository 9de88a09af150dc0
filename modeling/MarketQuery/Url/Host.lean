import MarketQuery.Decimal.Numeral
import MarketQuery.Text.Hex
import MarketQuery.Text.Search
import MarketQuery.Url.Name
import MarketQuery.Url.Percent

/-!
Hosts of web addresses: names, and addresses of either internet protocol. A name is kept in its
ASCII form, and one whose last label is a number must be an IPv4 address.
-/
namespace MarketQuery

/-- Why a text is no address. -/
inductive UrlError where
  | relative
  | emptyHost
  | badPortNumber
  | badIpv4
  | badIpv6
  | badDomain
  | badHostCharacter

def UrlError.message : UrlError → String
  | relative => "relative URL without a base"
  | emptyHost => "empty host"
  | badPortNumber => "invalid port number"
  | badIpv4 => "invalid IPv4 address"
  | badIpv6 => "invalid IPv6 address"
  | badDomain => "invalid international domain name"
  | badHostCharacter => "invalid domain character"

inductive Host where
  | name (text : String)
  | ipv4 (address : Nat)
  /-- Eight groups of 16 bits. -/
  | ipv6 (groups : List Nat)

namespace Host

open Text (hexValue? hexNumber? hexDigits cutAt)

/-- A part of an address: decimal, octal after a zero, or hexadecimal after `0x`. -/
def ipv4Part? (s : List Char) : Option Nat :=
  match s with
  | [] => none
  | '0' :: 'x' :: rest | '0' :: 'X' :: rest => hexNumber? rest
  | ['0'] => some 0
  | '0' :: rest =>
    if rest.all fun c => '0' ≤ c ∧ c ≤ '7' then
      some (rest.foldl (fun n c => 8 * n + Decimal.digitValue c) 0)
    else none
  | s => Decimal.natural? s

/-- All parts but the last are bytes. The last one fills what is left of the 32 bits. -/
def joinParts? (parts : List Nat) : Option Nat :=
  match parts.getLast? with
  | none => none
  | some last =>
    let bytes := parts.dropLast
    if bytes.all (· < 256) && last < Nat.pow 256 (4 - bytes.length) then
      some (bytes.zipIdx.foldl (fun sum b => sum + b.1 * Nat.pow 256 (3 - b.2)) last)
    else none

/-- The labels of a name; one dot at the end is allowed. -/
def labels (s : List Char) : List (List Char) :=
  let parts := s.splitOn '.'
  if parts.getLast? = some [] then parts.dropLast else parts

def ipv4? (s : List Char) : Option Nat := do
  let parts ← (labels s).mapM ipv4Part?
  if parts.length ≤ 4 then joinParts? parts else none

def endsInNumber (s : List Char) : Bool :=
  match (labels s).getLast? with
  | none => false
  | some last => (last ≠ [] && last.all Char.isDigit) || (ipv4Part? last).isSome

/-- A byte in decimal, without leading zeros. -/
def byte? (s : List Char) : Option Nat :=
  if s.head? = some '0' ∧ s ≠ ['0'] then none
  else (Decimal.natural? s).filter (· < 256)

/-- Four bytes between dots are two groups. -/
def dottedGroups? (s : List Char) : Option (List Nat) :=
  match (s.splitOn '.').mapM byte? with
  | some [a, b, c, d] => some [256 * a + b, 256 * c + d]
  | _ => none

def group? (s : List Char) : Option Nat :=
  if 1 ≤ s.length ∧ s.length ≤ 4 then hexNumber? s else none

/-- Groups between colons. The last ones may be given by bytes. -/
def groups? : List (List Char) → Option (List Nat)
  | [] => some []
  | [last] => if last.contains '.' then dottedGroups? last else (group? last).map ([·])
  | part :: rest => do
    let g ← group? part
    let gs ← groups? rest
    some (g :: gs)

/-- Two colons stand for the groups that are missing, at least one. -/
def ipv6? (s : List Char) : Option (List Nat) :=
  match cutAt [':', ':'] s with
  | none => (groups? (s.splitOn ':')).filter (·.length = 8)
  | some (before, after) => do
    let left ← if before = [] then some [] else (before.splitOn ':').mapM group?
    let right ← if after = [] then some [] else groups? (after.splitOn ':')
    if left.length + right.length ≤ 7 then
      some (left ++ List.replicate (8 - left.length - right.length) 0 ++ right)
    else none

/-- Where the first of the longest runs of zeros starts, and its length. -/
def zeroRun (groups : List Nat) : Nat × Nat :=
  let runs := (List.range groups.length).map fun i =>
    (i, ((groups.drop i).takeWhile (· = 0)).length)
  runs.foldl (fun best r => if best.2 < r.2 then r else best) (0, 0)

def groupsText (groups : List Nat) : String :=
  ":".intercalate (groups.map fun g => String.ofList (hexDigits g))

/-- A run of two or more zeros is written as two colons. -/
def ipv6Text (groups : List Nat) : String :=
  let run := zeroRun groups
  if 2 ≤ run.2 then
    groupsText (groups.take run.1) ++ "::" ++ groupsText (groups.drop (run.1 + run.2))
  else groupsText groups

/-- The host between two brackets. -/
def bracketed (s : List Char) : Except UrlError Host :=
  if s.getLast? = some ']' then
    match ipv6? (s.drop 1).dropLast with
    | some groups => .ok (.ipv6 groups)
    | none => .error .badIpv6
  else .error .badIpv6

/-- The host of an address of the web. -/
def parse (s : List Char) : Except UrlError Host :=
  if s.head? = some '[' then bracketed s
  else
    match (Percent.decodeText? s).bind Url.asciiName? with
    | none => .error .badDomain
    | some [] => .error .emptyHost
    | some ascii =>
      if endsInNumber ascii then
        match ipv4? ascii with
        | some address => .ok (.ipv4 address)
        | none => .error .badIpv4
      else .ok (.name (String.ofList ascii))

/-- The host of any other address, which is kept as it is. -/
def parseAsIs (s : List Char) : Except UrlError Host :=
  if s.head? = some '[' then bracketed s
  else if s.any fun c => c.toNat = 0 || " #/:<>?@[\\]^|\t\n\r".toList.contains c then
    .error .badHostCharacter
  else .ok (.name (String.ofList (Percent.encode (fun c => c.toNat < 0x20 || c.toNat == 0x7F) s)))

def text : Host → String
  | name s => s
  | ipv4 address =>
    ".".intercalate ([3, 2, 1, 0].map fun i => Decimal.natText (address / Nat.pow 256 i % 256))
  | ipv6 groups => "[" ++ ipv6Text groups ++ "]"

end Host

end MarketQuery
