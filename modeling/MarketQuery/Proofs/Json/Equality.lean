import MarketQuery.Json.Value

/-!
Equality of JSON values is decided by comparing them, item by item and member by member. A reading
of a text can then be checked against the value that it is said to have.
-/
namespace MarketQuery

deriving instance DecidableEq for Number

namespace Json

mutual

def same : Json → Json → Bool
  | null, null => true
  | bool b, bool c => b = c
  | number m, number n => m = n
  | string s, string t => s = t
  | array items, array others => sameItems items others
  | object fields, object others => sameFields fields others
  | _, _ => false

def sameItems : List Json → List Json → Bool
  | [], [] => true
  | v :: rest, w :: others => same v w && sameItems rest others
  | _, _ => false

def sameFields : List (String × Json) → List (String × Json) → Bool
  | [], [] => true
  | (key, v) :: rest, (other, w) :: others => key = other && same v w && sameFields rest others
  | _, _ => false

end

mutual

theorem same_iff : (v w : Json) → (same v w = true ↔ v = w)
  | null, w => by cases w <;> simp [same]
  | bool b, w => by cases w <;> simp [same]
  | number n, w => by cases w <;> simp [same]
  | string s, w => by cases w <;> simp [same]
  | array items, w => by cases w <;> simp [same, sameItems_iff items]
  | object fields, w => by cases w <;> simp [same, sameFields_iff fields]

theorem sameItems_iff : (items others : List Json) →
    (sameItems items others = true ↔ items = others)
  | [], others => by cases others <;> simp [sameItems]
  | v :: rest, others => by cases others <;> simp [sameItems, same_iff v, sameItems_iff rest]

theorem sameFields_iff : (fields others : List (String × Json)) →
    (sameFields fields others = true ↔ fields = others)
  | [], others => by cases others <;> simp [sameFields]
  | (key, v) :: rest, others => by
    cases others with
    | nil => simp [sameFields]
    | cons other others => simp [sameFields, same_iff v, sameFields_iff rest, Prod.ext_iff]

end

instance : DecidableEq Json := fun v w => decidable_of_iff _ (same_iff v w)

end Json

end MarketQuery
