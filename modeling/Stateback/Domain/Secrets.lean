import Mathlib.Data.List.Infix
import Stateback.Domain.Json
/-!
# Secret-shaped data

`domain/secrets.py`: keys and values that may not be stored.  Lower-casing follows Unicode tables
and is a parameter.
-/

namespace Stateback.Domain

/-- What `str.isspace` accepts. -/
def isSpace (c : Char) : Bool :=
  c ∈ ['\t', '\n', '\x0b', '\x0c', '\r', '\x1c', '\x1d', '\x1e', '\x1f', ' ', '\x85', '\u00a0',
    '\u1680', '\u2028', '\u2029', '\u202f', '\u205f', '\u3000'] ||
  ('\u2000' ≤ c && c ≤ '\u200a')

def strip (s : String) : String :=
  String.ofList ((s.toList.dropWhile isSpace).reverse.dropWhile isSpace).reverse

/-- `fragment in s`. -/
def containsText (fragment s : String) : Bool := decide (fragment.toList <:+: s.toList)

def forbiddenKeyFragments : List String :=
  ["password", "secret", "token", "private_key", "access_key", "api_key", "authorization",
    "credential", "cookie"]

variable (lower : String → String)

def normalizeKey (key : String) : String :=
  String.ofList ((lower key).toList.map fun c => if c = '-' then '_' else c)

def keyIsForbidden (key : String) : Bool :=
  forbiddenKeyFragments.any fun fragment => containsText fragment (normalizeKey lower key)

def valueIsForbidden (value : String) : Bool :=
  "bearer ".toList.isPrefixOf (lower (strip value)).toList ||
    containsText "-----begin " (lower (strip value))

mutual

/-- Whether `reject_secrets_in_json` lets the value pass. -/
def secretFree : JsonValue → Bool
  | .array items => secretFreeItems items
  | .object items => secretFreeFields items
  | .str value => !valueIsForbidden lower value
  | .null | .bool _ | .int _ => true

def secretFreeItems : List JsonValue → Bool
  | [] => true
  | item :: rest => secretFree item && secretFreeItems rest

def secretFreeFields : List (String × JsonValue) → Bool
  | [] => true
  | (key, item) :: rest => !keyIsForbidden lower key && secretFree item && secretFreeFields rest

end

theorem keyIsForbidden_congr {lower lower' : String → String} {key : String}
    (same : lower key = lower' key) : keyIsForbidden lower key = keyIsForbidden lower' key := by
  unfold keyIsForbidden normalizeKey
  rw [same]

theorem secretFreeFields_iff {lower : String → String} {items : List (String × JsonValue)} :
    secretFreeFields lower items = true ↔
      ∀ pair ∈ items, keyIsForbidden lower pair.1 = false ∧ secretFree lower pair.2 = true := by
  induction items with
  | nil => simp [secretFreeFields]
  | cons pair rest ih =>
    rw [secretFreeFields, Bool.and_eq_true, Bool.and_eq_true, ih, List.forall_mem_cons]
    simp

/-! ## ASCII -/

def isAscii (s : String) : Bool := s.toList.all fun c => decide (c.toNat < 128)

def asciiLower (s : String) : String := String.ofList (s.toList.map Char.toLower)

/-- Of an ASCII text `str.lower` changes the capitals and nothing else. -/
def LowersAscii (lower : String → String) : Prop := ∀ s, isAscii s = true → lower s = asciiLower s

theorem asciiLower_lowers : LowersAscii asciiLower := fun _ _ => rfl

end Stateback.Domain
