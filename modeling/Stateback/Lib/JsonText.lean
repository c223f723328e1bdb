import Mathlib.Data.List.Sort
import Stateback.Lib.Decimals
/-!
# JSON as text

A compact printer and a recursive-descent scanner.  Strings are code points, so that a lone
surrogate, which an escape can name, is a value like any other.  The scanner has two limits of its
own: on the digits of an integer, and on nesting.
-/

namespace JsonText

open CodePoints Decimals

inductive Value where
  | null
  | bool (b : Bool)
  | int (i : Int)
  | float (written : Text)
  | str (s : Text)
  | list (items : List Value)
  | dict (items : List (Text × Value))
deriving Repr

/-! ## Printing -/

def hexDigit (n : Nat) : Nat := if n < 10 then 48 + n else 87 + n

/-- `\uXXXX`. -/
def unicodeEscape (c : Nat) : Text :=
  [92, 117, hexDigit (c / 4096 % 16), hexDigit (c / 256 % 16), hexDigit (c / 16 % 16),
    hexDigit (c % 16)]

/-- The letter of the short escape of a character that has one. -/
def shortEscape? (c : Nat) : Option Nat :=
  if c = 34 then some 34
  else if c = 92 then some 92
  else if c = 10 then some 110
  else if c = 13 then some 114
  else if c = 9 then some 116
  else if c = 12 then some 102
  else if c = 8 then some 98
  else none

/-- How a character is written where only control characters are escaped. -/
def escape (c : Nat) : Text :=
  match shortEscape? c with
  | some letter => [92, letter]
  | none => if c < 32 then unicodeEscape c else [c]

/-- How a character is written where everything outside printable ASCII is escaped. -/
def asciiEscape (c : Nat) : Text :=
  match shortEscape? c with
  | some letter => [92, letter]
  | none =>
    if 32 ≤ c ∧ c < 127 then [c]
    else if c < 0x10000 then unicodeEscape c
    else
      unicodeEscape (0xD800 + (c - 0x10000) / 1024) ++ unicodeEscape (0xDC00 + (c - 0x10000) % 1024)

def printString (esc : Nat → Text) (s : Text) : Text := 34 :: (s.flatMap esc ++ [34])

def printInt (i : Int) : Text :=
  if i < 0 then 45 :: decimal i.natAbs else decimal i.natAbs

def nullText : Text := [110, 117, 108, 108]
def trueText : Text := [116, 114, 117, 101]
def falseText : Text := [102, 97, 108, 115, 101]

mutual

def print (esc : Nat → Text) : Value → Text
  | .null => nullText
  | .bool b => if b then trueText else falseText
  | .int i => printInt i
  | .float written => written
  | .str s => printString esc s
  | .list [] => [91, 93]
  | .list (item :: rest) => 91 :: (print esc item ++ printItems esc rest)
  | .dict [] => [123, 125]
  | .dict ((key, item) :: rest) =>
    123 :: (printString esc key ++ 58 :: (print esc item ++ printPairs esc rest))

/-- The items after the first, and the end. -/
def printItems (esc : Nat → Text) : List Value → Text
  | [] => [93]
  | item :: rest => 44 :: (print esc item ++ printItems esc rest)

def printPairs (esc : Nat → Text) : List (Text × Value) → Text
  | [] => [125]
  | (key, item) :: rest =>
    44 :: (printString esc key ++ 58 :: (print esc item ++ printPairs esc rest))

end

mutual

/-- The value with the keys of every object in order. -/
def sortKeys : Value → Value
  | .list items => .list (sortItems items)
  | .dict items => .dict ((sortPairs items).insertionSort fun a b => precedes a.1 b.1 = true)
  | .null => .null
  | .bool b => .bool b
  | .int i => .int i
  | .float written => .float written
  | .str s => .str s

def sortItems : List Value → List Value
  | [] => []
  | item :: rest => sortKeys item :: sortItems rest

def sortPairs : List (Text × Value) → List (Text × Value)
  | [] => []
  | (key, item) :: rest => (key, sortKeys item) :: sortPairs rest

end

mutual

/-- No integer has more digits than the limit. -/
def withinDigits (limit : Nat) : Value → Bool
  | .int i => decide ((decimal i.natAbs).length ≤ limit)
  | .list items => itemsWithinDigits limit items
  | .dict items => pairsWithinDigits limit items
  | .null | .bool _ | .float _ | .str _ => true

def itemsWithinDigits (limit : Nat) : List Value → Bool
  | [] => true
  | item :: rest => withinDigits limit item && itemsWithinDigits limit rest

def pairsWithinDigits (limit : Nat) : List (Text × Value) → Bool
  | [] => true
  | (_, item) :: rest => withinDigits limit item && pairsWithinDigits limit rest

end

/-- `json.dumps` with sorted keys and compact separators, where every integer can be converted. -/
def dumps (esc : Nat → Text) (limit : Nat) (value : Value) : Option Text :=
  if withinDigits limit value then some (print esc (sortKeys value)) else none

/-! ## Scanning -/

/-- A syntax error, an integer of too many digits, or too deep a nesting. -/
inductive Failure where
  | decode
  | digits
  | depth
deriving DecidableEq, Repr

structure Limits where
  digits : Nat
  depth : Nat

/-- What was read, and the text after it. -/
abbrev Scan (α : Type) := Except Failure (α × Text)

def isSpace (c : Nat) : Bool := decide (c = 32 ∨ c = 9 ∨ c = 10 ∨ c = 13)

def skip (t : Text) : Text := t.dropWhile isSpace

def hexValue? (c : Nat) : Option Nat :=
  if 48 ≤ c ∧ c ≤ 57 then some (c - 48)
  else if 97 ≤ c ∧ c ≤ 102 then some (c - 87)
  else if 65 ≤ c ∧ c ≤ 70 then some (c - 55)
  else none

def hexValue4? (a b c d : Nat) : Option Nat := do
  let a ← hexValue? a
  let b ← hexValue? b
  let c ← hexValue? c
  let d ← hexValue? d
  pure (a * 4096 + b * 256 + c * 16 + d)

/-- The character that a letter after a backslash stands for. -/
def unescape? (letter : Nat) : Option Nat :=
  if letter = 34 then some 34
  else if letter = 92 then some 92
  else if letter = 47 then some 47
  else if letter = 98 then some 8
  else if letter = 102 then some 12
  else if letter = 110 then some 10
  else if letter = 114 then some 13
  else if letter = 116 then some 9
  else none

/-- A code point of a string, and whether a `\u` named it. -/
structure Piece where
  code : Nat
  named : Bool
deriving DecidableEq, Repr

def Scan.cons {α : Type} (head : α) : Scan (List α) → Scan (List α)
  | .error e => .error e
  | .ok (tail, rest) => .ok (head :: tail, rest)

/-- The pieces of a string, up to its closing quote. -/
def scanPieces : Text → Scan (List Piece)
  | [] => .error .decode
  | c :: rest =>
    if c = 34 then .ok ([], rest)
    else if c = 92 then
      match rest with
      | [] => .error .decode
      | letter :: rest =>
        if letter = 117 then
          match rest with
          | a :: b :: c :: d :: rest =>
            match hexValue4? a b c d with
            | some code => (scanPieces rest).cons ⟨code, true⟩
            | none => .error .decode
          | _ => .error .decode
        else
          match unescape? letter with
          | some code => (scanPieces rest).cons ⟨code, false⟩
          | none => .error .decode
    else if c < 32 then .error .decode
    else (scanPieces rest).cons ⟨c, false⟩

def isHigh (c : Nat) : Bool := decide (0xD800 ≤ c ∧ c ≤ 0xDBFF)
def isLow (c : Nat) : Bool := decide (0xDC00 ≤ c ∧ c ≤ 0xDFFF)

/-- Two named surrogates that make a pair are one code point. -/
def joinPieces : List Piece → Text
  | [] => []
  | [piece] => [piece.code]
  | high :: low :: rest =>
    if high.named ∧ isHigh high.code ∧ low.named ∧ isLow low.code then
      (0x10000 + (high.code - 0xD800) * 1024 + (low.code - 0xDC00)) :: joinPieces rest
    else high.code :: joinPieces (low :: rest)

def scanString (t : Text) : Scan Text :=
  match scanPieces t with
  | .error e => .error e
  | .ok (pieces, rest) => .ok (joinPieces pieces, rest)

def fraction : Text → Text
  | 46 :: rest => if rest.takeWhile isDigit = [] then [] else 46 :: rest.takeWhile isDigit
  | _ => []

def exponentSign : Text → Text
  | sign :: _ => if sign = 43 ∨ sign = 45 then [sign] else []
  | [] => []

def exponent : Text → Text
  | [] => []
  | e :: rest =>
    if (e = 101 ∨ e = 69) ∧ (rest.drop (exponentSign rest).length).takeWhile isDigit ≠ [] then
      e :: (exponentSign rest ++ (rest.drop (exponentSign rest).length).takeWhile isDigit)
    else []

/-- The digits before any fraction: a zero, or as many as there are. -/
def wholePart : Text → Text
  | [] => []
  | c :: rest => if c = 48 then [48] else (c :: rest).takeWhile isDigit

def scanUnsigned (limit : Nat) (sign : Text) (t : Text) : Scan Value :=
  let whole := wholePart t
  let rest := t.drop whole.length
  let decimals := fraction rest
  let rest' := rest.drop decimals.length
  let power := exponent rest'
  if whole = [] then .error .decode
  else if decimals = [] ∧ power = [] then
    if limit < whole.length then .error .digits
    else .ok (.int (if sign = [] then value whole else -value whole), rest)
  else .ok (.float (sign ++ whole ++ decimals ++ power), rest'.drop power.length)

def scanNumber (limit : Nat) (t : Text) : Scan Value :=
  match t with
  | 45 :: rest => scanUnsigned limit [45] rest
  | _ => scanUnsigned limit [] t

def nanText : Text := [78, 97, 78]
def infinityText : Text := [73, 110, 102, 105, 110, 105, 116, 121]

def constants : List (Text × Value) :=
  [(nullText, .null), (trueText, .bool true), (falseText, .bool false), (nanText, .float nanText),
    (infinityText, .float infinityText), (45 :: infinityText, .float (45 :: infinityText))]

def scanConstant (t : Text) : Option (Text × Value) :=
  constants.find? fun constant => constant.1.isPrefixOf t

/-- The items of an array from its first one on; every turn of the loop takes one off the text, so
the text is fuel enough. -/
def scanItems (scan : Text → Scan Value) : Nat → Text → Scan (List Value)
  | 0, _ => .error .decode
  | fuel + 1, t =>
    match scan t with
    | .error e => .error e
    | .ok (item, rest) =>
      match skip rest with
      | [] => .error .decode
      | c :: rest =>
        if c = 93 then .ok ([item], rest)
        else if c = 44 then (scanItems scan fuel (skip rest)).cons item
        else .error .decode

/-- One key, its colon and its value. -/
def scanPair (scan : Text → Scan Value) (t : Text) : Scan (Text × Value) :=
  match t with
  | [] => .error .decode
  | quote :: rest =>
    if quote = 34 then
      match scanString rest with
      | .error e => .error e
      | .ok (key, rest) =>
        match skip rest with
        | [] => .error .decode
        | colon :: rest =>
          if colon = 58 then
            match scan (skip rest) with
            | .error e => .error e
            | .ok (item, rest) => .ok ((key, item), rest)
          else .error .decode
    else .error .decode

def scanPairs (scan : Text → Scan Value) : Nat → Text → Scan (List (Text × Value))
  | 0, _ => .error .decode
  | fuel + 1, t =>
    match scanPair scan t with
    | .error e => .error e
    | .ok (pair, rest) =>
      match skip rest with
      | [] => .error .decode
      | c :: rest =>
        if c = 125 then .ok ([pair], rest)
        else if c = 44 then (scanPairs scan fuel (skip rest)).cons pair
        else .error .decode

def scanArray (scan : Text → Scan Value) (t : Text) : Scan Value :=
  match skip t with
  | [] => .error .decode
  | c :: rest =>
    if c = 93 then .ok (.list [], rest)
    else
      match scanItems scan (c :: rest).length (c :: rest) with
      | .error e => .error e
      | .ok (items, rest) => .ok (.list items, rest)

/-- A key written again has its last value, in its first place. -/
def put (items : List (Text × Value)) (pair : Text × Value) : List (Text × Value) :=
  if pair.1 ∈ items.map Prod.fst then
    items.map fun item => if item.1 = pair.1 then pair else item
  else items ++ [pair]

def scanObject (scan : Text → Scan Value) (t : Text) : Scan Value :=
  match skip t with
  | [] => .error .decode
  | c :: rest =>
    if c = 125 then .ok (.dict [], rest)
    else
      match scanPairs scan (c :: rest).length (c :: rest) with
      | .error e => .error e
      | .ok (items, rest) => .ok (.dict (items.foldl put []), rest)

/-- One value; `inside` scans what is nested in it, where nesting is still allowed. -/
def scanWith (limit : Nat) (inside : Option (Text → Scan Value)) (t : Text) : Scan Value :=
  match t with
  | [] => .error .decode
  | c :: rest =>
    if c = 34 then
      match scanString rest with
      | .error e => .error e
      | .ok (s, rest) => .ok (.str s, rest)
    else if c = 123 then
      match inside with
      | none => .error .depth
      | some scan => scanObject scan rest
    else if c = 91 then
      match inside with
      | none => .error .depth
      | some scan => scanArray scan rest
    else
      match scanConstant t with
      | some constant => .ok (constant.2, t.drop constant.1.length)
      | none => scanNumber limit t

def scanOnce (limit : Nat) : Nat → Text → Scan Value
  | 0 => scanWith limit none
  | depth + 1 => scanWith limit (some (scanOnce limit depth))

def byteOrderMark : Nat := 0xFEFF

/-- `json.loads` of a string. -/
def loads (limits : Limits) (t : Text) : Except Failure Value :=
  if t.head? = some byteOrderMark then .error .decode
  else
    match scanOnce limits.digits limits.depth (skip t) with
    | .error e => .error e
    | .ok (value, rest) => if skip rest = [] then .ok value else .error .decode

end JsonText
