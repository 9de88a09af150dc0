import MarketQuery.Text.CaseTable

/-!
Upper and lower case of whole texts by the full Unicode mappings. Only the lower case of a capital
sigma depends on its surroundings: at the end of a word it is `ς`.
-/
namespace MarketQuery.Text

/-- The mapping by the first run that holds the code point. -/
def shifted (runs : List CaseRun) (n : Nat) : Nat :=
  match runs.find? fun r => r.first ≤ n && n ≤ r.last && (n - r.first) % r.step == 0 with
  | some r => (n + r.shift).toNat
  | none => n

def mapCase (expansions : List (Nat × List Nat)) (runs : List CaseRun) (c : Char) : List Char :=
  match expansions.lookup c.toNat with
  | some points => points.map Char.ofNat
  | none => [Char.ofNat (shifted runs c.toNat)]

def upperChar (c : Char) : List Char :=
  mapCase upperExpansions upperRuns c

def lowerChar (c : Char) : List Char :=
  mapCase lowerExpansions lowerRuns c

/-- The first character that does not leave case alone has case. -/
def casedNext (s : List Char) : Bool :=
  match s.dropWhile fun c => inRanges caseIgnorable c.toNat with
  | [] => false
  | c :: _ => inRanges cased c.toNat

/-- A capital sigma closes a word when a cased character stands before it and none after it. -/
def lowerAfter (before : List Char) : List Char → List Char
  | [] => []
  | c :: rest =>
    (if c = 'Σ' then [if casedNext before && !casedNext rest then 'ς' else 'σ']
     else lowerChar c) ++ lowerAfter (c :: before) rest

def upper (s : String) : String :=
  String.ofList (s.toList.flatMap upperChar)

def lower (s : String) : String :=
  String.ofList (lowerAfter [] s.toList)

end MarketQuery.Text
