/-!
# Canonical JSON values

`src/stateback/domain/jsonutil.py`: the values stored as evidence, error details, intent
arguments and audit data.  Floats have no representation.  `JsonObject` requires non-empty,
unique, sorted keys; the functions modelled here build objects only through
`jsonObjectFromPlain`, which sorts.

A text is a sequence of Unicode scalar values.  A Python `str` with a lone surrogate, which
`canonical_json_bytes` cannot encode, has no representation here; `Lib/CodePoints` has one.
-/

namespace Stateback.Domain

inductive JsonValue where
  | null
  | bool (b : Bool)
  | int (i : Int)
  | str (s : String)
  | array (items : List JsonValue)
  | object (items : List (String × JsonValue))
deriving Repr

namespace JsonValue

mutual

def decEq : (a b : JsonValue) → Decidable (a = b)
  | .null, b => match b with
    | .null => isTrue rfl
    | .bool _ | .int _ | .str _ | .array _ | .object _ => isFalse nofun
  | .bool x, b => match b with
    | .bool y => decidable_of_iff (x = y) (by simp)
    | .null | .int _ | .str _ | .array _ | .object _ => isFalse nofun
  | .int x, b => match b with
    | .int y => decidable_of_iff (x = y) (by simp)
    | .null | .bool _ | .str _ | .array _ | .object _ => isFalse nofun
  | .str x, b => match b with
    | .str y => decidable_of_iff (x = y) (by simp)
    | .null | .bool _ | .int _ | .array _ | .object _ => isFalse nofun
  | .array x, b => match b with
    | .array y =>
      have := decEqItems x y
      decidable_of_iff (x = y) (by simp)
    | .null | .bool _ | .int _ | .str _ | .object _ => isFalse nofun
  | .object x, b => match b with
    | .object y =>
      have := decEqFields x y
      decidable_of_iff (x = y) (by simp)
    | .null | .bool _ | .int _ | .str _ | .array _ => isFalse nofun

def decEqItems : (a b : List JsonValue) → Decidable (a = b)
  | [], b => match b with
    | [] => isTrue rfl
    | _ :: _ => isFalse nofun
  | x :: xs, b => match b with
    | [] => isFalse nofun
    | y :: ys =>
      have := decEq x y
      have := decEqItems xs ys
      decidable_of_iff (x = y ∧ xs = ys) (by simp)

def decEqFields : (a b : List (String × JsonValue)) → Decidable (a = b)
  | [], b => match b with
    | [] => isTrue rfl
    | _ :: _ => isFalse nofun
  | (k, x) :: xs, b => match b with
    | [] => isFalse nofun
    | (l, y) :: ys =>
      have := decEq x y
      have := decEqFields xs ys
      decidable_of_iff ((k = l ∧ x = y) ∧ xs = ys) (by simp)

end

instance : DecidableEq JsonValue := decEq

end JsonValue

/-- Key order of `sorted(items, key=lambda pair: pair[0])`: code points, stable. -/
def insertByKey (pair : String × JsonValue) :
    List (String × JsonValue) → List (String × JsonValue)
  | [] => [pair]
  | head :: tail =>
    if pair.1 ≤ head.1 then pair :: head :: tail else head :: insertByKey pair tail

def sortByKey (items : List (String × JsonValue)) : List (String × JsonValue) :=
  items.foldr insertByKey []

/-- `json_from_plain` of a mapping whose values are already canonical. -/
def jsonObjectFromPlain (items : List (String × JsonValue)) : JsonValue :=
  .object (sortByKey items)

example : jsonObjectFromPlain [("kind", .str "k"), ("attempt_id", .str "a")] =
    .object [("attempt_id", .str "a"), ("kind", .str "k")] := by decide

end Stateback.Domain
