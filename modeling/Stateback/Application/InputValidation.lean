import Mathlib.Algebra.GroupWithZero.Nat
import Stateback.Domain.Plain
/-!
# Bounded input

`application/input_validation.py`: untrusted input is walked with an explicit stack, counting nodes
and depth, before it is read.  The walk accepts exactly the values within all limits, and its own
work and memory are bounded on every input.
-/

namespace Stateback.Application

open Stateback.Domain

def maxJsonDepth : Nat := 32
def maxJsonNodes : Nat := 10000
def maxCollectionItems : Nat := 1000
def maxStringCharacters : Nat := 65536

def tooLarge (message : String) : ContractValidationError := ⟨"input_too_large", message⟩

/-- What one turn of the loop pushes, and the error that ends it. -/
structure Pushed where
  items : List PlainValue
  raised : Option ContractValidationError

def keyTooLong : PlainKey → Bool
  | .str key => decide (maxStringCharacters < key.length)
  | .other _ => false

/-- The inner loop over a dict. -/
def pushPairs : List (PlainKey × PlainValue) → Pushed
  | [] => ⟨[], none⟩
  | (key, item) :: rest =>
    if keyTooLong key then ⟨[], some (tooLarge "JSON key exceeds the supported length")⟩
    else ⟨item :: (pushPairs rest).items, (pushPairs rest).raised⟩

def pushed : PlainValue → Pushed
  | .str s =>
    if maxStringCharacters < s.length then
      ⟨[], some (tooLarge "JSON string exceeds the supported length")⟩
    else ⟨[], none⟩
  | .list items =>
    if maxCollectionItems < items.length then
      ⟨[], some (tooLarge "JSON array exceeds the supported length")⟩
    else ⟨items, none⟩
  | .dict items =>
    if maxCollectionItems < items.length then
      ⟨[], some (tooLarge "JSON object exceeds the supported length")⟩
    else pushPairs items
  | .none | .bool _ | .int _ | .float _ | .other _ => ⟨[], none⟩

/-- How the loop ended, how many nodes it popped, and the most entries its stack ever held. -/
structure Walk where
  outcome : Except ContractValidationError Unit
  visited : Nat
  pending : Nat

/-- The loop, with the nodes it may still accept; the top of the stack comes first. -/
def walk : Nat → List (PlainValue × Nat) → Walk
  | _, [] => ⟨.ok (), 0, 0⟩
  | 0, entry :: stack =>
    ⟨.error (tooLarge "JSON input exceeds the supported shape"), 1, (entry :: stack).length⟩
  | budget + 1, (current, depth) :: stack =>
    if maxJsonDepth < depth then
      ⟨.error (tooLarge "JSON input exceeds the supported shape"), 1, stack.length + 1⟩
    else
      match (pushed current).raised with
      | some e =>
        ⟨.error e, 1, max (stack.length + 1) (stack.length + (pushed current).items.length)⟩
      | none =>
        let rest := walk budget
          ((pushed current).items.reverse.map (fun item => (item, depth + 1)) ++ stack)
        ⟨rest.outcome, rest.visited + 1, max (stack.length + 1) rest.pending⟩

def walkOf (value : PlainValue) : Walk := walk maxJsonNodes [(value, 0)]

def boundedJsonFromPlain (value : PlainValue) : Except ContractValidationError JsonValue := do
  (walkOf value).outcome
  jsonFromPlain value

/-! ## Shapes -/

mutual

/-- The values in a value, with itself. -/
def nodes : PlainValue → Nat
  | .list items => 1 + itemNodes items
  | .dict items => 1 + pairNodes items
  | .none | .bool _ | .int _ | .float _ | .str _ | .other _ => 1

def itemNodes : List PlainValue → Nat
  | [] => 0
  | item :: rest => nodes item + itemNodes rest

def pairNodes : List (PlainKey × PlainValue) → Nat
  | [] => 0
  | (_, item) :: rest => nodes item + pairNodes rest

end

mutual

/-- How far below the value its deepest part is. -/
def depthOf : PlainValue → Nat
  | .list items => itemsDepth items
  | .dict items => pairsDepth items
  | .none | .bool _ | .int _ | .float _ | .str _ | .other _ => 0

def itemsDepth : List PlainValue → Nat
  | [] => 0
  | item :: rest => max (1 + depthOf item) (itemsDepth rest)

def pairsDepth : List (PlainKey × PlainValue) → Nat
  | [] => 0
  | (_, item) :: rest => max (1 + depthOf item) (pairsDepth rest)

end

mutual

/-- Every collection, string and key is within its limit. -/
def Small : PlainValue → Prop
  | .list items => items.length ≤ maxCollectionItems ∧ ItemsSmall items
  | .dict items => items.length ≤ maxCollectionItems ∧ PairsSmall items
  | .str s => s.length ≤ maxStringCharacters
  | .none | .bool _ | .int _ | .float _ | .other _ => True

def ItemsSmall : List PlainValue → Prop
  | [] => True
  | item :: rest => Small item ∧ ItemsSmall rest

def PairsSmall : List (PlainKey × PlainValue) → Prop
  | [] => True
  | (key, item) :: rest => keyTooLong key = false ∧ Small item ∧ PairsSmall rest

end

def stackNodes (stack : List (PlainValue × Nat)) : Nat := (stack.map fun entry => nodes entry.1).sum

/-! ## One turn -/

theorem itemNodes_eq : ∀ items, itemNodes items = (items.map nodes).sum
  | [] => rfl
  | item :: rest => by rw [itemNodes, List.map_cons, List.sum_cons, itemNodes_eq rest]

theorem pairNodes_eq : ∀ items, pairNodes items = ((items.map Prod.snd).map nodes).sum
  | [] => rfl
  | (key, item) :: rest => by
    rw [pairNodes, List.map_cons, List.map_cons, List.sum_cons, pairNodes_eq rest]

theorem itemsDepth_le {n : Nat} :
    ∀ {items}, itemsDepth items ≤ n ↔ ∀ item ∈ items, 1 + depthOf item ≤ n
  | [] => by simp [itemsDepth]
  | item :: rest => by
    rw [itemsDepth, Nat.max_le, itemsDepth_le, List.forall_mem_cons]

theorem pairsDepth_le {n : Nat} :
    ∀ {items}, pairsDepth items ≤ n ↔ ∀ item ∈ items.map Prod.snd, 1 + depthOf item ≤ n
  | [] => by simp [pairsDepth]
  | (key, item) :: rest => by
    rw [pairsDepth, Nat.max_le, pairsDepth_le, List.map_cons, List.forall_mem_cons]

theorem itemsSmall_iff : ∀ {items}, ItemsSmall items ↔ ∀ item ∈ items, Small item
  | [] => by simp [ItemsSmall]
  | item :: rest => by simp [ItemsSmall, itemsSmall_iff]

/-- Pairs whose keys are short are all pushed; the others are not small. -/
theorem pushPairs_spec : ∀ items,
    ((pushPairs items).raised = none → (pushPairs items).items = items.map Prod.snd ∧
      (PairsSmall items ↔ ∀ item ∈ items.map Prod.snd, Small item)) ∧
      ((pushPairs items).raised ≠ none → ¬ PairsSmall items)
  | [] => by simp [pushPairs, PairsSmall]
  | (key, item) :: rest => by
    have ih := pushPairs_spec rest
    rw [pushPairs]
    cases short : keyTooLong key with
    | true => simp [PairsSmall, short]
    | false =>
      simp only [Bool.false_eq_true, if_false, PairsSmall, short, true_and, List.map_cons,
        List.forall_mem_cons]
      constructor
      · intro passed
        obtain ⟨all, small⟩ := ih.1 passed
        exact ⟨by rw [all], by rw [small]⟩
      · intro failed small
        exact ih.2 failed small.2

/-- A turn that raises nothing splits the value's shape among the items pushed. -/
theorem pushed_none {value : PlainValue} (passed : (pushed value).raised = none) :
    nodes value = 1 + ((pushed value).items.map nodes).sum ∧
      (∀ n, depthOf value ≤ n ↔ ∀ item ∈ (pushed value).items, 1 + depthOf item ≤ n) ∧
      (Small value ↔ ∀ item ∈ (pushed value).items, Small item) := by
  cases value with
  | none | bool _ | int _ | float _ | other _ => simp [pushed, nodes, depthOf, Small]
  | str s =>
    rw [pushed] at passed ⊢
    split at passed
    case isTrue long => cases passed
    case isFalse short =>
      rw [if_neg short]
      simp [nodes, depthOf, Small, Nat.le_of_not_lt short]
  | list items =>
    rw [pushed] at passed ⊢
    split at passed
    case isTrue long => cases passed
    case isFalse short =>
      rw [if_neg short]
      refine ⟨?_, fun n => ?_, ?_⟩
      · rw [nodes, itemNodes_eq]
      · rw [depthOf, itemsDepth_le]
      · rw [Small, itemsSmall_iff, and_iff_right (Nat.le_of_not_lt short)]
  | dict items =>
    rw [pushed] at passed ⊢
    split at passed
    case isTrue long => cases passed
    case isFalse short =>
      rw [if_neg short]
      obtain ⟨all, small⟩ := (pushPairs_spec items).1 passed
      rw [all]
      refine ⟨?_, fun n => ?_, ?_⟩
      · rw [nodes, pairNodes_eq]
      · rw [depthOf, pairsDepth_le]
      · rw [Small, small, and_iff_right (Nat.le_of_not_lt short)]

theorem pushed_some {value : PlainValue} (failed : (pushed value).raised ≠ none) :
    ¬ Small value := by
  cases value with
  | none | bool _ | int _ | float _ | other _ => simp [pushed] at failed
  | str s =>
    rw [pushed] at failed
    split at failed
    case isTrue long => simp [Small, long]
    case isFalse short => simp at failed
  | list items =>
    rw [pushed] at failed
    split at failed
    case isTrue long => exact fun small => absurd small.1 (Nat.not_le.mpr long)
    case isFalse short => simp at failed
  | dict items =>
    rw [pushed] at failed
    split at failed
    case isTrue long => exact fun small => absurd small.1 (Nat.not_le.mpr long)
    case isFalse short => exact fun small => (pushPairs_spec items).2 failed small.2

/-- No turn pushes more than a collection may hold. -/
theorem pushed_length (value : PlainValue) :
    (pushed value).items.length ≤ maxCollectionItems := by
  have pairs : ∀ items, (pushPairs items).items.length ≤ items.length := by
    intro items
    induction items with
    | nil => simp [pushPairs]
    | cons pair rest ih =>
      rw [pushPairs]
      split <;> simp [ih]
  cases value with
  | none | bool _ | int _ | float _ | other _ => simp [pushed]
  | str s =>
    rw [pushed]
    split <;> simp
  | list items =>
    rw [pushed]
    split
    · simp
    · simpa using (by omega : items.length ≤ maxCollectionItems)
  | dict items =>
    rw [pushed]
    split
    · simp
    · have := pairs items
      omega

/-! ## The loop -/

theorem stackNodes_cons {value : PlainValue} {depth : Nat} {stack : List (PlainValue × Nat)} :
    stackNodes ((value, depth) :: stack) = nodes value + stackNodes stack := by
  simp [stackNodes]

theorem stackNodes_pushed {items : List PlainValue} {depth : Nat}
    {stack : List (PlainValue × Nat)} :
    stackNodes (items.reverse.map (fun item => (item, depth)) ++ stack) =
      (items.map nodes).sum + stackNodes stack := by
  simp [stackNodes, Function.comp_def, List.map_reverse, List.sum_reverse]

theorem nodes_pos (value : PlainValue) : 1 ≤ nodes value := by
  cases value <;> simp [nodes]

/-- The loop ends well exactly when everything on the stack is within the limits. -/
theorem walk_ok_iff (budget : Nat) (stack : List (PlainValue × Nat)) :
    (walk budget stack).outcome = .ok () ↔
      stackNodes stack ≤ budget ∧
        ∀ entry ∈ stack, entry.2 + depthOf entry.1 ≤ maxJsonDepth ∧ Small entry.1 := by
  induction budget generalizing stack with
  | zero =>
    cases stack with
    | nil => simp [walk, stackNodes]
    | cons entry stack =>
      have positive := nodes_pos entry.1
      rw [stackNodes_cons]
      simp only [walk, reduceCtorEq, false_iff, not_and]
      omega
  | succ budget ih =>
    cases stack with
    | nil => simp [walk, stackNodes]
    | cons entry stack =>
      obtain ⟨current, depth⟩ := entry
      rw [stackNodes_cons, List.forall_mem_cons, walk]
      split
      case isTrue deep =>
        simp only [reduceCtorEq, false_iff, not_and]
        omega
      case isFalse shallow =>
        cases turn : (pushed current).raised with
        | some e =>
          have large := @pushed_some current (by simp [turn])
          simp only [reduceCtorEq, false_iff, not_and]
          exact fun _ within => absurd within.2 large
        | none =>
          obtain ⟨count, depths, small⟩ := pushed_none turn
          have deeper : depth + depthOf current ≤ maxJsonDepth ↔
              ∀ item ∈ (pushed current).items, depth + 1 + depthOf item ≤ maxJsonDepth := by
            have shift : depth + depthOf current ≤ maxJsonDepth ↔
                depthOf current ≤ maxJsonDepth - depth := by omega
            rw [shift, depths]
            exact forall₂_congr fun item _ => by omega
          have entries : (∀ entry ∈ (pushed current).items.reverse.map
                (fun item => (item, depth + 1)),
              entry.2 + depthOf entry.1 ≤ maxJsonDepth ∧ Small entry.1) ↔
              (∀ item ∈ (pushed current).items, depth + 1 + depthOf item ≤ maxJsonDepth) ∧
                ∀ item ∈ (pushed current).items, Small item := by
            rw [List.forall_mem_map]
            simp only [List.mem_reverse, forall_and]
          have counts : ((pushed current).items.map nodes).sum + stackNodes stack ≤ budget ↔
              1 + ((pushed current).items.map nodes).sum + stackNodes stack ≤ budget + 1 := by
            omega
          rw [ih, stackNodes_pushed, List.forall_mem_append, entries, count, deeper, small, counts]

/-- Every turn takes one entry off and puts at most a collection's worth on. -/
theorem walk_bounds (budget : Nat) (stack : List (PlainValue × Nat)) :
    (walk budget stack).visited ≤ budget + 1 ∧
      (walk budget stack).pending ≤ stack.length + budget * (maxCollectionItems - 1) := by
  induction budget generalizing stack with
  | zero =>
    cases stack with
    | nil => simp [walk]
    | cons entry stack => simp [walk]
  | succ budget ih =>
    cases stack with
    | nil => simp [walk]
    | cons entry stack =>
      obtain ⟨current, depth⟩ := entry
      have few := pushed_length current
      have turn : (budget + 1) * (maxCollectionItems - 1) =
          budget * (maxCollectionItems - 1) + (maxCollectionItems - 1) := Nat.succ_mul _ _
      have positive : 1 ≤ maxCollectionItems := by decide
      rw [walk, List.length_cons, turn]
      split
      case isTrue deep =>
        simp only
        omega
      case isFalse shallow =>
        cases (pushed current).raised with
        | some e =>
          simp only
          omega
        | none =>
          obtain ⟨visits, entries⟩ := ih
            ((pushed current).items.reverse.map (fun item => (item, depth + 1)) ++ stack)
          rw [List.length_append, List.length_map, List.length_reverse] at entries
          simp only
          omega

/-- On what is read at all, the bounded reader agrees with the plain one within the limits and
raises beyond them; on every input its loop is bounded. -/
theorem bounded_agrees (value : PlainValue) :
    (∀ json, jsonFromPlain value = .ok json →
        ((∃ result, boundedJsonFromPlain value = .ok result) ↔
          nodes value ≤ maxJsonNodes ∧ depthOf value ≤ maxJsonDepth ∧ Small value)) ∧
      (∀ result, boundedJsonFromPlain value = .ok result → jsonFromPlain value = .ok result) ∧
      (walkOf value).visited ≤ maxJsonNodes + 1 ∧
      (walkOf value).pending ≤ maxJsonNodes * maxCollectionItems := by
  have shape : (walkOf value).outcome = .ok () ↔
      nodes value ≤ maxJsonNodes ∧ depthOf value ≤ maxJsonDepth ∧ Small value := by
    rw [walkOf, walk_ok_iff]
    simp [stackNodes]
  have reads : ∀ result, boundedJsonFromPlain value = .ok result ↔
      (walkOf value).outcome = .ok () ∧ jsonFromPlain value = .ok result := by
    intro result
    unfold boundedJsonFromPlain
    cases (walkOf value).outcome with
    | error e => simp [bind, Except.bind]
    | ok _ => simp [bind, Except.bind]
  obtain ⟨visits, entries⟩ := walk_bounds maxJsonNodes [(value, 0)]
  rw [List.length_singleton] at entries
  refine ⟨fun json read => ?_, fun result accepted => ((reads result).mp accepted).2, visits,
    Nat.le_trans entries (by decide)⟩
  rw [← shape]
  constructor
  · rintro ⟨result, accepted⟩
    exact ((reads result).mp accepted).1
  · exact fun within => ⟨json, (reads json).mpr ⟨within, read⟩⟩

theorem bounded_agrees_issue :
    ∃ result, boundedJsonFromPlain (.dict [(.str "title", .str "t"), (.str "labels", .list [])]) =
      .ok result :=
  ((bounded_agrees (.dict [(.str "title", .str "t"), (.str "labels", .list [])])).1
    (.object [("labels", .array []), ("title", .str "t")]) rfl).mpr
      ⟨by decide, by decide, by
        simp only [Small, PairsSmall, ItemsSmall]
        decide⟩

end Stateback.Application
