import Stateback.Lib.JsonSizes
/-!
# What the limits of the scanner change

Reading under limits gives what reading under higher ones gives, or meets one of them; limits of the
size of the text are never met.
-/

namespace JsonText

open CodePoints Decimals

/-! ## Under a limit -/

def Met {α : Type} (r : Except Failure α) : Prop := r = .error .digits ∨ r = .error .depth

/-- The first is the second, or met a limit. -/
def Agrees {α : Type} (r r' : Except Failure α) : Prop := Met r ∨ r = r'

theorem Agrees.cons {α : Type} {head : α} {r r' : Scan (List α)} (agrees : Agrees r r') :
    Agrees (r.cons head) (r'.cons head) := by
  rcases agrees with (digits | depth) | same
  · rw [digits]
    exact .inl (.inl rfl)
  · rw [depth]
    exact .inl (.inr rfl)
  · rw [same]
    exact .inr rfl

theorem scanUnsigned_agrees {limit limit' : Nat} (le : limit ≤ limit') (sign t : Text) :
    Agrees (scanUnsigned limit sign t) (scanUnsigned limit' sign t) := by
  unfold scanUnsigned
  simp only
  by_cases long : limit < (wholePart t).length
  · split
    · exact .inr rfl
    split
    · exact .inl (.inl rfl)
    · exact .inr rfl
  · right
    rw [if_neg long, if_neg (Nat.not_lt.mpr (Nat.le_trans (Nat.not_lt.mp long) le))]

theorem scanNumber_agrees {limit limit' : Nat} (le : limit ≤ limit') (t : Text) :
    Agrees (scanNumber limit t) (scanNumber limit' t) := by
  unfold scanNumber
  split
  · exact scanUnsigned_agrees le _ _
  · exact scanUnsigned_agrees le _ _

section
variable {scan scan' : Text → Scan Value} (agrees : ∀ t, Agrees (scan t) (scan' t))
include agrees

theorem scanItems_agrees (fuel : Nat) (t : Text) :
    Agrees (scanItems scan fuel t) (scanItems scan' fuel t) := by
  induction fuel generalizing t with
  | zero => exact .inr rfl
  | succ fuel ih =>
    rw [scanItems, scanItems]
    rcases agrees t with (digits | depth) | same
    · rw [digits]
      exact .inl (.inl rfl)
    · rw [depth]
      exact .inl (.inr rfl)
    · rw [same]
      cases scan' t with
      | error e => exact .inr rfl
      | ok read =>
        obtain ⟨item, rest⟩ := read
        simp only
        cases skip rest with
        | nil => exact .inr rfl
        | cons c rest =>
          simp only
          split
          · exact .inr rfl
          split
          · exact (ih _).cons
          · exact .inr rfl

theorem scanPair_agrees (t : Text) : Agrees (scanPair scan t) (scanPair scan' t) := by
  unfold scanPair
  cases t with
  | nil => exact .inr rfl
  | cons quote rest =>
    simp only
    split
    case isFalse => exact .inr rfl
    case isTrue =>
      cases scanString rest with
      | error e => exact .inr rfl
      | ok read =>
        obtain ⟨key, rest⟩ := read
        simp only
        cases skip rest with
        | nil => exact .inr rfl
        | cons colon rest =>
          simp only
          split
          case isFalse => exact .inr rfl
          case isTrue =>
            rcases agrees (skip rest) with (digits | depth) | same
            · rw [digits]
              exact .inl (.inl rfl)
            · rw [depth]
              exact .inl (.inr rfl)
            · rw [same]
              exact .inr rfl

theorem scanPairs_agrees (fuel : Nat) (t : Text) :
    Agrees (scanPairs scan fuel t) (scanPairs scan' fuel t) := by
  induction fuel generalizing t with
  | zero => exact .inr rfl
  | succ fuel ih =>
    rw [scanPairs, scanPairs]
    rcases scanPair_agrees agrees t with (digits | depth) | same
    · rw [digits]
      exact .inl (.inl rfl)
    · rw [depth]
      exact .inl (.inr rfl)
    · rw [same]
      cases scanPair scan' t with
      | error e => exact .inr rfl
      | ok read =>
        obtain ⟨pair, rest⟩ := read
        simp only
        cases skip rest with
        | nil => exact .inr rfl
        | cons c rest =>
          simp only
          split
          · exact .inr rfl
          split
          · exact (ih _).cons
          · exact .inr rfl

theorem scanArray_agrees (t : Text) : Agrees (scanArray scan t) (scanArray scan' t) := by
  unfold scanArray
  cases skip t with
  | nil => exact .inr rfl
  | cons c rest =>
    simp only
    split
    case isTrue => exact .inr rfl
    case isFalse =>
      rcases scanItems_agrees agrees (c :: rest).length (c :: rest) with (digits | depth) | same
      · rw [digits]
        exact .inl (.inl rfl)
      · rw [depth]
        exact .inl (.inr rfl)
      · rw [same]
        exact .inr rfl

theorem scanObject_agrees (t : Text) : Agrees (scanObject scan t) (scanObject scan' t) := by
  unfold scanObject
  cases skip t with
  | nil => exact .inr rfl
  | cons c rest =>
    simp only
    split
    case isTrue => exact .inr rfl
    case isFalse =>
      rcases scanPairs_agrees agrees (c :: rest).length (c :: rest) with (digits | depth) | same
      · rw [digits]
        exact .inl (.inl rfl)
      · rw [depth]
        exact .inl (.inr rfl)
      · rw [same]
        exact .inr rfl

end

theorem scanWith_agrees {limit limit' : Nat} (le : limit ≤ limit')
    {inside inside' : Option (Text → Scan Value)}
    (agrees : ∀ scan ∈ inside, ∃ scan' ∈ inside', ∀ t, Agrees (scan t) (scan' t)) (t : Text) :
    Agrees (scanWith limit inside t) (scanWith limit' inside' t) := by
  unfold scanWith
  cases t with
  | nil => exact .inr rfl
  | cons c rest =>
    simp only
    split
    · exact .inr rfl
    split
    · cases inside with
      | none => exact .inl (.inr rfl)
      | some scan =>
        obtain ⟨scan', there, agrees⟩ := agrees scan rfl
        rw [there]
        exact scanObject_agrees agrees rest
    split
    · cases inside with
      | none => exact .inl (.inr rfl)
      | some scan =>
        obtain ⟨scan', there, agrees⟩ := agrees scan rfl
        rw [there]
        exact scanArray_agrees agrees rest
    cases scanConstant (c :: rest) with
    | some constant => exact .inr rfl
    | none => exact scanNumber_agrees le _

/-- Under higher limits the reading is the same, or the lower ones were met. -/
theorem scanOnce_agrees {limit limit' depth depth' : Nat} (le : limit ≤ limit')
    (le' : depth ≤ depth') (t : Text) :
    Agrees (scanOnce limit depth t) (scanOnce limit' depth' t) := by
  induction depth generalizing depth' t with
  | zero =>
    rw [scanOnce_eq, scanOnce_eq]
    exact scanWith_agrees le (by simp [nested]) t
  | succ depth ih =>
    obtain ⟨lower, rfl⟩ : ∃ lower, depth' = lower + 1 := ⟨depth' - 1, by omega⟩
    refine scanWith_agrees le ?_ t
    intro scan same
    cases same
    exact ⟨_, rfl, fun t => ih (by omega) t⟩

theorem loads_agrees {limits limits' : Limits} (le : limits.digits ≤ limits'.digits)
    (le' : limits.depth ≤ limits'.depth) (t : Text) :
    Agrees (loads limits t) (loads limits' t) := by
  unfold loads
  split
  · exact .inr rfl
  rcases scanOnce_agrees le le' (skip t) with (digits | depth) | same
  · rw [digits]
    exact .inl (.inl rfl)
  · rw [depth]
    exact .inl (.inr rfl)
  · rw [same]
    exact .inr rfl

/-! ## Limits that are never met -/

section
variable {limit room : Nat} {scan : Text → Scan Value}
  (sound : ∀ t v rest, scan t = .ok (v, rest) → Sound limit t v rest)
  (unmet : ∀ t e, size t ≤ room → scan t = .error e → e = .decode)
include sound unmet

theorem scanItems_unmet {fuel : Nat} {t : Text} {e : Failure} (small : size t ≤ room)
    (failed : scanItems scan fuel t = .error e) : e = .decode := by
  induction fuel generalizing t with
  | zero => cases failed; rfl
  | succ fuel ih =>
    rw [scanItems] at failed
    cases scanned : scan t with
    | error e' =>
      rw [scanned] at failed
      cases failed
      exact unmet t e small scanned
    | ok found =>
      obtain ⟨item, after⟩ := found
      have left := (sound t item after scanned).size_le
      have spaces := size_skip after
      rw [scanned] at failed
      simp only at failed
      cases skipped : skip after with
      | nil => rw [skipped] at failed; cases failed; rfl
      | cons c after' =>
        rw [skipped, size_cons] at spaces
        rw [skipped] at failed
        simp only at failed
        split at failed
        case isTrue => cases failed
        case isFalse =>
          split at failed
          case isFalse => cases failed; rfl
          case isTrue =>
            have spaces' := size_skip after'
            exact ih (by omega) (cons_error failed)

omit sound in
theorem scanPair_unmet {t : Text} {e : Failure} (small : size t ≤ room)
    (failed : scanPair scan t = .error e) : e = .decode := by
  unfold scanPair at failed
  cases t with
  | nil => cases failed; rfl
  | cons quote after =>
    rw [size_cons] at small
    simp only at failed
    split at failed
    case isFalse => cases failed; rfl
    case isTrue =>
      cases scanned : scanString after with
      | error e' =>
        rw [scanned] at failed
        cases failed
        exact scanString_unmet scanned
      | ok found =>
        obtain ⟨key, after'⟩ := found
        have keySize := scanString_size scanned
        have spaces := size_skip after'
        rw [scanned] at failed
        simp only at failed
        cases skipped : skip after' with
        | nil => rw [skipped] at failed; cases failed; rfl
        | cons colon after'' =>
          rw [skipped, size_cons] at spaces
          rw [skipped] at failed
          simp only at failed
          split at failed
          case isFalse => cases failed; rfl
          case isTrue =>
            have spaces' := size_skip after''
            have one := width_pos quote
            cases scanned' : scan (skip after'') with
            | error e' =>
              rw [scanned'] at failed
              cases failed
              exact unmet _ e (by omega) scanned'
            | ok found' => rw [scanned'] at failed; cases failed

theorem scanPairs_unmet {fuel : Nat} {t : Text} {e : Failure} (small : size t ≤ room)
    (failed : scanPairs scan fuel t = .error e) : e = .decode := by
  induction fuel generalizing t with
  | zero => cases failed; rfl
  | succ fuel ih =>
    rw [scanPairs] at failed
    cases scanned : scanPair scan t with
    | error e' =>
      rw [scanned] at failed
      cases failed
      exact scanPair_unmet unmet small scanned
    | ok found =>
      obtain ⟨⟨key, item⟩, after⟩ := found
      have left := (scanPair_sound sound scanned).1
      have spaces := size_skip after
      rw [scanned] at failed
      simp only at failed
      cases skipped : skip after with
      | nil => rw [skipped] at failed; cases failed; rfl
      | cons c after' =>
        rw [skipped, size_cons] at spaces
        rw [skipped] at failed
        simp only at failed
        split at failed
        case isTrue => cases failed
        case isFalse =>
          split at failed
          case isFalse => cases failed; rfl
          case isTrue =>
            have spaces' := size_skip after'
            exact ih (by omega) (cons_error failed)

theorem scanArray_unmet {t : Text} {e : Failure} (small : size t ≤ room)
    (failed : scanArray scan t = .error e) : e = .decode := by
  have spaces := size_skip t
  unfold scanArray at failed
  cases skipped : skip t with
  | nil => rw [skipped] at failed; cases failed; rfl
  | cons c after =>
    rw [skipped] at failed spaces
    simp only at failed
    split at failed
    case isTrue => cases failed
    case isFalse =>
      cases scanned : scanItems scan (c :: after).length (c :: after) with
      | error e' =>
        rw [scanned] at failed
        cases failed
        exact scanItems_unmet sound unmet (by omega) scanned
      | ok found => rw [scanned] at failed; cases failed

theorem scanObject_unmet {t : Text} {e : Failure} (small : size t ≤ room)
    (failed : scanObject scan t = .error e) : e = .decode := by
  have spaces := size_skip t
  unfold scanObject at failed
  cases skipped : skip t with
  | nil => rw [skipped] at failed; cases failed; rfl
  | cons c after =>
    rw [skipped] at failed spaces
    simp only at failed
    split at failed
    case isTrue => cases failed
    case isFalse =>
      cases scanned : scanPairs scan (c :: after).length (c :: after) with
      | error e' =>
        rw [scanned] at failed
        cases failed
        exact scanPairs_unmet sound unmet (by omega) scanned
      | ok found => rw [scanned] at failed; cases failed

end

/-- A text within both limits only fails by its syntax: every nesting takes a bracket off it. -/
theorem scanOnce_unmet {limit depth : Nat} : ∀ t e, size t ≤ depth → size t ≤ limit →
    scanOnce limit depth t = .error e → e = .decode := by
  induction depth with
  | zero =>
    intro t e small _ failed
    cases t with
    | nil => cases failed; rfl
    | cons c rest =>
      have one := width_pos c
      rw [size_cons] at small
      omega
  | succ depth ih =>
    intro t e small small' failed
    rw [scanOnce, scanWith.eq_def] at failed
    cases t with
    | nil => cases failed; rfl
    | cons c after =>
      have one := width_pos c
      have parts := size_cons c after
      have unmet : ∀ t e, size t ≤ size after → scanOnce limit depth t = .error e → e = .decode :=
        fun t e le => ih t e (by omega) (by omega)
      simp only at failed
      split at failed
      case isTrue =>
        cases scanned : scanString after with
        | error e' =>
          rw [scanned] at failed
          cases failed
          exact scanString_unmet scanned
        | ok found => rw [scanned] at failed; cases failed
      split at failed
      · exact scanObject_unmet (scanOnce_sound limit depth) unmet (Nat.le_refl _) failed
      split at failed
      · exact scanArray_unmet (scanOnce_sound limit depth) unmet (Nat.le_refl _) failed
      cases named : scanConstant (c :: after) with
      | some constant => rw [named] at failed; cases failed
      | none =>
        rw [named] at failed
        have number : scanNumber limit (c :: after) = .error e := failed
        unfold scanNumber at number
        split at number
        case h_1 rest same =>
          cases same
          exact scanUnsigned_unmet (by omega) number
        case h_2 => exact scanUnsigned_unmet small' number

/-- Limits that no reading of the text meets. -/
def ample (t : Text) : Limits := ⟨size t, size t⟩

theorem loads_ample {limits : Limits} {t : Text} (digits : size t ≤ limits.digits)
    (depth : size t ≤ limits.depth) : ¬ Met (loads limits t) := by
  have spaces := size_skip t
  have decoded : ∀ e, loads limits t = .error e → e = .decode := by
    intro e failed
    unfold loads at failed
    split at failed
    case isTrue => cases failed; rfl
    case isFalse =>
      cases scanned : scanOnce limits.digits limits.depth (skip t) with
      | error e' =>
        rw [scanned] at failed
        cases failed
        exact scanOnce_unmet _ e (by omega) (by omega) scanned
      | ok found =>
        obtain ⟨v, rest⟩ := found
        rw [scanned] at failed
        simp only at failed
        split at failed
        · cases failed
        · cases failed; rfl
  rintro (met | met)
  · exact absurd (decoded _ met) (by decide)
  · exact absurd (decoded _ met) (by decide)

/-- No limit is met just where lifting the limits changes nothing. -/
theorem unmet_iff {limits : Limits} {t : Text} :
    ¬ Met (loads limits t) ↔ loads limits t = loads (ample t) t := by
  constructor
  · intro unmet
    have here := @loads_agrees limits ⟨limits.digits + size t, limits.depth + size t⟩
      (Nat.le_add_right _ _) (Nat.le_add_right _ _) t
    have there := @loads_agrees (ample t) ⟨limits.digits + size t, limits.depth + size t⟩
      (Nat.le_add_left _ _) (Nat.le_add_left _ _) t
    rcases here with met | same
    · exact absurd met unmet
    rcases there with met | same'
    · exact absurd met (loads_ample (Nat.le_refl _) (Nat.le_refl _))
    · rw [same, same']
  · intro same
    rw [same]
    exact loads_ample (Nat.le_refl _) (Nat.le_refl _)

/-! ## Texts that meet them -/

theorem skip_replicate {c : Nat} (solid : isSpace c = false) (n : Nat) :
    skip (List.replicate n c) = List.replicate n c := by
  cases n with
  | zero => rfl
  | succ n => exact skip_cons solid

/-- A numeral of too many digits. -/
theorem loads_digits {limits : Limits} {n : Nat} (long : limits.digits < n) :
    loads limits (List.replicate n 49) = .error .digits := by
  obtain ⟨m, rfl⟩ : ∃ m, n = m + 1 := ⟨n - 1, by omega⟩
  have digits : (List.replicate (m + 1) 49).all isDigit := by
    rw [List.all_replicate]
    rfl
  have whole : wholePart (List.replicate (m + 1) 49) = List.replicate (m + 1) 49 := by
    have taken := takeWhile_digits digits (show Stops [] by simp [Stops])
    rw [List.append_nil] at taken
    rw [List.replicate_succ] at taken ⊢
    rw [wholePart, if_neg (by decide), taken]
  have number : scanNumber limits.digits (List.replicate (m + 1) 49) = .error .digits := by
    rw [List.replicate_succ, scanNumber, ← List.replicate_succ]
    · unfold scanUnsigned
      simp only [whole, List.length_replicate, List.drop_replicate, Nat.sub_self,
        List.replicate_zero]
      simp [fraction, exponent, long]
    · intro rest same
      cases same
  have notConstant : scanConstant (49 :: List.replicate m 49) = none := by
    simp [scanConstant, constants, nullText, trueText, falseText, nanText, infinityText,
      List.isPrefixOf]
  rw [loads, if_neg (by simp [byteOrderMark, List.replicate_succ]), skip_replicate (by decide),
    scanOnce_eq]
  rw [List.replicate_succ] at number ⊢
  rw [scanWith_number (by decide) (by decide) (by decide) notConstant, number]

/-- Too deep a nesting. -/
theorem loads_nested {limits : Limits} {n : Nat} (deep : limits.depth < n) :
    loads limits (List.replicate n 91) = .error .depth := by
  have scanned : ∀ depth n, depth < n →
      scanOnce limits.digits depth (List.replicate n 91) = .error .depth := by
    intro depth
    induction depth with
    | zero =>
      intro n some
      obtain ⟨m, rfl⟩ : ∃ m, n = m + 1 := ⟨n - 1, by omega⟩
      rfl
    | succ depth ih =>
      intro n deeper
      obtain ⟨m, rfl⟩ : ∃ m, n = m + 2 := ⟨n - 2, by omega⟩
      have inner := ih (m + 1) (by omega)
      rw [List.replicate_succ] at inner
      rw [List.replicate_succ, scanOnce, scanWith, if_neg (by decide), if_neg (by decide),
        if_pos rfl]
      simp only [List.replicate_succ, scanArray, skip_cons (show isSpace 91 = false by decide),
        if_neg (show ¬ 91 = 93 by decide), List.length_cons, scanItems, inner]
  obtain ⟨m, rfl⟩ : ∃ m, n = m + 1 := ⟨n - 1, by omega⟩
  rw [loads, if_neg (by simp [byteOrderMark, List.replicate_succ]), skip_replicate (by decide),
    scanned _ _ deep]

end JsonText
