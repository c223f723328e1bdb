import Stateback.Domain.Json
/-!
# Plain values

`domain/jsonutil.py`: the Python objects that JSON is read into, and the conversions between them
and canonical values.  A dict keeps its order of insertion; a canonical object is sorted.  As in
canonical values, a text holds no lone surrogate.
-/

namespace Stateback.Domain

structure ContractValidationError where
  reasonCode : String
  message : String
deriving DecidableEq, Repr

inductive PlainKey where
  | str (s : String)
  | other (typeName : String)
deriving DecidableEq, Repr

inductive PlainValue where
  | none
  | bool (b : Bool)
  | int (i : Int)
  | float (text : String)
  | str (s : String)
  | list (items : List PlainValue)
  | dict (items : List (PlainKey × PlainValue))
  | other (typeName : String)
deriving Repr

/-- `JsonObject.__post_init__`. -/
def jsonObject (items : List (String × JsonValue)) : Except ContractValidationError JsonValue :=
  if items.any fun pair => pair.1 == "" then
    .error ⟨"empty_string", "JSON object keys must be non-empty"⟩
  else if ¬ (items.map Prod.fst).Nodup then
    .error ⟨"duplicate_key", "JSON object keys must be unique"⟩
  else if sortByKey items ≠ items then
    .error ⟨"unsorted_keys", "JSON object keys must be sorted by Unicode code point"⟩
  else .ok (.object items)

mutual

def jsonFromPlain : PlainValue → Except ContractValidationError JsonValue
  | .none => .ok .null
  | .bool b => .ok (.bool b)
  | .int i => .ok (.int i)
  | .str s => .ok (.str s)
  | .float _ => .error ⟨"non_canonical_number", "floats are not allowed in canonical JSON"⟩
  | .list items => do
    let items ← jsonItemsFromPlain items
    pure (.array items)
  | .dict items => do
    let pairs ← jsonPairsFromPlain items
    jsonObject (sortByKey pairs)
  | .other typeName => .error ⟨"invalid_type", "unsupported JSON value type " ++ typeName⟩

def jsonItemsFromPlain : List PlainValue → Except ContractValidationError (List JsonValue)
  | [] => .ok []
  | item :: rest => do
    let item ← jsonFromPlain item
    let rest ← jsonItemsFromPlain rest
    pure (item :: rest)

def jsonPairsFromPlain :
    List (PlainKey × PlainValue) → Except ContractValidationError (List (String × JsonValue))
  | [] => .ok []
  | (.other _, _) :: _ => .error ⟨"invalid_type", "JSON object keys must be strings"⟩
  | (.str key, item) :: rest => do
    let item ← jsonFromPlain item
    let rest ← jsonPairsFromPlain rest
    pure ((key, item) :: rest)

end

mutual

def jsonToPlain : JsonValue → PlainValue
  | .null => .none
  | .bool b => .bool b
  | .int i => .int i
  | .str s => .str s
  | .array items => .list (jsonItemsToPlain items)
  | .object items => .dict (jsonPairsToPlain items)

def jsonItemsToPlain : List JsonValue → List PlainValue
  | [] => []
  | item :: rest => jsonToPlain item :: jsonItemsToPlain rest

def jsonPairsToPlain : List (String × JsonValue) → List (PlainKey × PlainValue)
  | [] => []
  | (key, item) :: rest => (.str key, jsonToPlain item) :: jsonPairsToPlain rest

end

end Stateback.Domain
