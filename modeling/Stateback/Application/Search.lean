import Stateback.Application.Actions
import Stateback.Domain.Wire
import Stateback.Lib.Base64
import Stateback.Lib.Cut
import Stateback.Lib.Pages
/-!
# Searching operations

`OperationRepository.search` and `ApplicationService.search_operations`: operations are listed by
creation time descending, then id ascending; a cursor names the last operation of a page.

Rows are taken as the operations they hold, and ids in the order of their text, which is the order
of the database for canonical UUIDs.
-/

namespace Stateback.Domain

def OperationState.value : OperationState → String
  | .pendingPolicy => "PENDING_POLICY"
  | .awaitingApproval => "AWAITING_APPROVAL"
  | .ready => "READY"
  | .executing => "EXECUTING"
  | .verifying => "VERIFYING"
  | .unknown => "UNKNOWN"
  | .succeeded => "SUCCEEDED"
  | .failed => "FAILED"
  | .denied => "DENIED"
  | .cancelled => "CANCELLED"
  | .compensating => "COMPENSATING"
  | .compensationUnknown => "COMPENSATION_UNKNOWN"
  | .compensated => "COMPENSATED"
  | .compensationFailed => "COMPENSATION_FAILED"
  | .manualIntervention => "MANUAL_INTERVENTION"

def OperationState.all : List OperationState :=
  [.pendingPolicy, .awaitingApproval, .ready, .executing, .verifying, .unknown, .succeeded, .failed,
    .denied, .cancelled, .compensating, .compensationUnknown, .compensated, .compensationFailed,
    .manualIntervention]

/-- `OperationState(value)`. -/
def OperationState.ofValue? (value : String) : Option OperationState :=
  OperationState.all.find? fun state => decide (state.value = value)

end Stateback.Domain

namespace Stateback.Application

open Domain Invariants CodePoints Decimals Calendar Pages

inductive SearchError where
  | authorizationError (message : String)
  | applicationServiceError (code : String)
  | valueError (message : String)
deriving DecidableEq, Repr

/-! ## The repository -/

structure OperationQuery where
  states : Option (List OperationState)
  provider : Option String
  createdFrom : Option Int
  createdTo : Option Int
  cursorCreatedAt : Option Int
  cursorOperationId : Option OpaqueId
  limit : Nat

structure OperationQueryResult where
  operations : List Operation
  hasMore : Bool
  cursorFound : Bool

/-- `_query_filters`. -/
def queryFilters (query : OperationQuery) (row : Operation) : Bool :=
  (query.states.all fun states => decide (row.state ∈ states)) &&
  (query.provider.all fun provider => decide (row.intent.effect.provider = provider)) &&
  (query.createdFrom.all fun lower => decide (lower ≤ row.createdAt.value)) &&
  (query.createdTo.all fun upper => decide (row.createdAt.value ≤ upper))

/-- `order_by(created_at.desc(), operation_id)`. -/
def listingOrder (a b : Operation) : Prop :=
  b.createdAt.value < a.createdAt.value ∨
    a.createdAt.value = b.createdAt.value ∧ a.operationId.value ≤ b.operationId.value

instance : DecidableRel listingOrder := fun _ _ => inferInstanceAs (Decidable (_ ∨ _))

/-- The rows after a position in that order. -/
def afterCursor (createdAt : Int) (operationId : OpaqueId) (row : Operation) : Bool :=
  decide (row.createdAt.value < createdAt ∨
    row.createdAt.value = createdAt ∧ operationId.value < row.operationId.value)

/-- The page of the rows that a filter keeps. -/
def pageOf (rows : List Operation) (keep : Operation → Bool) (limit : Nat) (cursorFound : Bool) :
    OperationQueryResult :=
  let found := ((rows.filter keep).insertionSort listingOrder).take (limit + 1)
  ⟨found.take limit, decide (limit < found.length), cursorFound⟩

/-- `OperationRepository.search`. -/
def search (rows : List Operation) (query : OperationQuery) :
    Except SearchError OperationQueryResult :=
  match query.cursorCreatedAt, query.cursorOperationId with
  | none, none => .ok (pageOf rows (queryFilters query) query.limit true)
  | some createdAt, some operationId =>
    .ok (pageOf rows (fun row => queryFilters query row && afterCursor createdAt operationId row)
      query.limit
      (rows.any fun row => queryFilters query row &&
        decide (row.createdAt.value = createdAt ∧ row.operationId = operationId)))
  | _, _ => .error (.valueError "cursor fields must be supplied together")

/-! ## ISO 8601 -/

/-- A reading of a clock as an instant, and whether it named its offset. -/
structure Parsed where
  instant : Int
  aware : Bool
deriving DecidableEq, Repr

/-- `YYYY-MM-DD*HH:MM:SS.ffffff+HH:MM`, with any separator between date and time. -/
def isoPattern (t : Text) : Bool :=
  decide (t.length = 32 ∧ t[4]? = some 45 ∧ t[7]? = some 45 ∧ t[13]? = some 58 ∧ t[16]? = some 58 ∧
    (t[19]? = some 46 ∨ t[19]? = some 44) ∧ (t[26]? = some 43 ∨ t[26]? = some 45) ∧
    t[29]? = some 58) &&
  ((slice 0 4 t).all isDigit && (slice 5 2 t).all isDigit && (slice 8 2 t).all isDigit &&
    (slice 11 2 t).all isDigit && (slice 14 2 t).all isDigit && (slice 17 2 t).all isDigit &&
    (slice 20 6 t).all isDigit && (slice 27 2 t).all isDigit && (slice 30 2 t).all isDigit)

def isoMoment (t : Text) : Moment :=
  ⟨⟨value (slice 0 4 t), value (slice 5 2 t), value (slice 8 2 t)⟩, value (slice 11 2 t),
    value (slice 14 2 t), value (slice 17 2 t), value (slice 20 6 t)⟩

/-- The offset east of UTC, in minutes. -/
def isoOffset (t : Text) : Int :=
  let minutes : Int := value (slice 27 2 t) * 60 + value (slice 30 2 t)
  if t[26]? = some 45 then -minutes else minutes

/-- `datetime.fromisoformat`; `other` reads the other ISO 8601 formats. -/
def fromisoformat (other : Text → Option Parsed) (t : Text) : Option Parsed :=
  if isoPattern t then
    if (isoMoment t).valid ∧ -1440 < isoOffset t ∧ isoOffset t < 1440 then
      some ⟨(isoMoment t).micros - isoOffset t * 60000000, true⟩
    else none
  else other t

/-- `replace("Z", "+00:00")`. -/
def replaceZ (t : Text) : Text :=
  t.flatMap fun c => if c = 90 then [43, 48, 48, 58, 48, 48] else [c]

/-- `_parse_utc`. -/
def parseUtc (other : Text → Option Parsed) (value : Text) (code : String) :
    Except SearchError Int :=
  match fromisoformat other (replaceZ value) with
  | none => .error (.applicationServiceError code)
  | some parsed =>
    if parsed.aware then .ok parsed.instant else .error (.applicationServiceError code)

/-! ## Cursors -/

/-- `_cursor`. -/
def cursor (operation : Operation) : Text :=
  Base64.unpad (Base64.urlEncode
    (write (operation.createdAt.toWire ++ 124 :: text operation.operationId.value)))

/-- `_decode_cursor`, with every failure caught. -/
def decodeCursor? (other : Text → Option Parsed) (value : Text) : Option (Parsed × OpaqueId) := do
  let bytes ← Base64.urlDecode (Base64.pad value)
  let decoded ← decode bytes
  let parts ← Cut.cut 124 decoded
  let createdAt ← fromisoformat other (replaceZ parts.1)
  let operationId ← OpaqueId.parse parts.2
  pure (createdAt, operationId)

def decodeCursor (other : Text → Option Parsed) (value : Text) :
    Except SearchError (Parsed × OpaqueId) :=
  match decodeCursor? other value with
  | some position => .ok position
  | none => .error (.applicationServiceError "invalid_cursor")

theorem isoPattern_momentText (m : Moment) :
    isoPattern (momentText m ++ [43, 48, 48, 58, 48, 48]) := by
  have marks : (momentText m ++ [43, 48, 48, 58, 48, 48]).length = 32 ∧
      (momentText m ++ [43, 48, 48, 58, 48, 48])[4]? = some 45 ∧
      (momentText m ++ [43, 48, 48, 58, 48, 48])[7]? = some 45 ∧
      (momentText m ++ [43, 48, 48, 58, 48, 48])[13]? = some 58 ∧
      (momentText m ++ [43, 48, 48, 58, 48, 48])[16]? = some 58 ∧
      (momentText m ++ [43, 48, 48, 58, 48, 48])[19]? = some 46 ∧
      (momentText m ++ [43, 48, 48, 58, 48, 48])[26]? = some 43 ∧
      (momentText m ++ [43, 48, 48, 58, 48, 48])[29]? = some 58 := by
    simp [momentText, fixed_length]
  have offset : slice 27 2 (momentText m ++ [43, 48, 48, 58, 48, 48]) = [48, 48] ∧
      slice 30 2 (momentText m ++ [43, 48, 48, 58, 48, 48]) = [48, 48] := by
    simp [slice, momentText, fixed_length, List.drop_append, List.drop_eq_nil_of_le]
  have zeros : ([48, 48] : Text).all isDigit := by decide
  obtain ⟨year, month, day, hour, minute, second, micro⟩ :=
    slices_momentText m [43, 48, 48, 58, 48, 48]
  obtain ⟨length, dash, dash', colon, colon', point, plus, colon''⟩ := marks
  refine Bool.and_eq_true_iff.mpr
    ⟨decide_eq_true ⟨length, dash, dash', colon, colon', .inl point, .inl plus, colon''⟩, ?_⟩
  simp only [year, month, day, hour, minute, second, micro, offset, fixed_digits, zeros,
    Bool.and_self]

theorem fromisoformat_momentText {other : Text → Option Parsed} {m : Moment} (valid : m.valid) :
    fromisoformat other (momentText m ++ [43, 48, 48, 58, 48, 48]) = some ⟨m.micros, true⟩ := by
  obtain ⟨date, clock⟩ := Bool.and_eq_true_iff.mp valid
  obtain ⟨_, years, month, months, _, days⟩ := of_decide_eq_true date
  obtain ⟨hours, minutes, seconds, micros⟩ := of_decide_eq_true clock
  have last := monthLength_le m.date.year (m.date.month - 1)
  obtain ⟨year, month, day, hour, minute, second, micro⟩ :=
    slices_momentText m [43, 48, 48, 58, 48, 48]
  have moment : isoMoment (momentText m ++ [43, 48, 48, 58, 48, 48]) = m := by
    rw [isoMoment, year, month, day, hour, minute, second, micro,
      value_fixed (show m.date.year < 10 ^ 4 by omega),
      value_fixed (show m.date.month < 10 ^ 2 by omega),
      value_fixed (show m.date.day < 10 ^ 2 by omega),
      value_fixed (show m.hour < 10 ^ 2 by omega), value_fixed (show m.minute < 10 ^ 2 by omega),
      value_fixed (show m.second < 10 ^ 2 by omega),
      value_fixed (show m.microsecond < 10 ^ 6 by omega)]
  have offset : isoOffset (momentText m ++ [43, 48, 48, 58, 48, 48]) = 0 := by
    have fields : slice 27 2 (momentText m ++ [43, 48, 48, 58, 48, 48]) = [48, 48] ∧
        slice 30 2 (momentText m ++ [43, 48, 48, 58, 48, 48]) = [48, 48] := by
      simp [slice, momentText, fixed_length, List.drop_append, List.drop_eq_nil_of_le]
    rw [isoOffset, fields.1, fields.2]
    simp [value]
  rw [fromisoformat, if_pos (isoPattern_momentText m), moment, offset,
    if_pos ⟨valid, by decide, by decide⟩]
  simp

theorem replaceZ_toWire (t : UtcTimestamp) :
    replaceZ t.toWire = momentText t.moment ++ [43, 48, 48, 58, 48, 48] := by
  have kept : ∀ written : Text, (∀ c ∈ written, c ≠ 90) → replaceZ written = written := by
    intro written free
    induction written with
    | nil => rfl
    | cons c rest ih =>
      rw [List.forall_mem_cons] at free
      have tail := ih free.2
      unfold replaceZ at tail ⊢
      rw [List.flatMap_cons, if_neg free.1, tail]
      rfl
  have free : ∀ c ∈ momentText t.moment, c ≠ 90 := by
    intro c member same
    have chars := momentText_chars _ c member
    rw [same] at chars
    exact absurd chars (by decide)
  have split : replaceZ t.toWire = replaceZ (momentText t.moment) ++ replaceZ [90] := by
    simp only [replaceZ, UtcTimestamp.toWire, List.flatMap_append]
  rw [split, kept _ free]
  rfl

/-- A cursor gives back its position. -/
theorem decodeCursor_cursor {other : Text → Option Parsed} {operation : Operation}
    (formed : operation.operationId.wellFormed) (inside : operation.createdAt.inCalendar) :
    decodeCursor other (cursor operation) =
      .ok (⟨operation.createdAt.value, true⟩, operation.operationId) := by
  obtain ⟨positive, early⟩ := of_decide_eq_true inside
  obtain ⟨valid, micros⟩ :=
    momentOf_spec (show operation.createdAt.value.toNat < endOfTime by omega)
  have scalars : (operation.createdAt.toWire ++ 124 :: text operation.operationId.value).all
      isScalar := by
    rw [List.all_append, List.all_cons, text_scalar, Bool.and_eq_true]
    refine ⟨?_, by decide⟩
    rw [UtcTimestamp.toWire, List.all_append, Bool.and_eq_true]
    refine ⟨?_, by decide⟩
    rw [List.all_eq_true]
    intro c member
    rcases momentText_chars _ c member with digit | mark | mark | mark | mark
    · obtain ⟨_, upper⟩ := of_decide_eq_true digit
      exact decide_eq_true (by omega)
    all_goals
      rw [mark]
      decide
  have bar : (124 : Nat) ∉ operation.createdAt.toWire := by
    intro member
    rw [UtcTimestamp.toWire, List.mem_append] at member
    rcases member with written | mark
    · exact absurd (momentText_chars _ 124 written) (by decide)
    · exact absurd mark (by decide)
  have created : fromisoformat other (replaceZ operation.createdAt.toWire) =
      some ⟨operation.createdAt.value, true⟩ := by
    rw [replaceZ_toWire, UtcTimestamp.moment, fromisoformat_momentText valid, micros,
      Int.toNat_of_nonneg positive]
  have position : decodeCursor? other (cursor operation) =
      some (⟨operation.createdAt.value, true⟩, operation.operationId) := by
    unfold decodeCursor? cursor
    rw [Base64.urlDecode_urlEncode]
    simp only [bind, Option.bind, pure]
    rw [decode_write scalars]
    simp only [Cut.cut_append bar, created, OpaqueId.parse_text formed]
  rw [decodeCursor, position]

/-! ## The service -/

structure AuthenticatedIdentity where
  principal : PrincipalRef
  roles : List Role

def AuthenticatedIdentity.require (identity : AuthenticatedIdentity) (allowed : List Role) :
    Except SearchError Unit :=
  if identity.roles.any fun role => decide (role ∈ allowed) then .ok ()
  else .error (.authorizationError "insufficient_role")

structure OperationSearch where
  state : Option String
  attention : Bool
  provider : Option String
  createdFrom : Option Text
  createdTo : Option Text
  cursor : Option Text
  limit : Nat

structure OperationPage where
  operations : List Operation
  nextCursor : Option Text

def attentionStates : List OperationState :=
  [.awaitingApproval, .unknown, .manualIntervention, .compensationUnknown, .compensationFailed]

/-- What `search_operations` reads of a search before its cursor. -/
def searchFilters (other : Text → Option Parsed) (query : OperationSearch) :
    Except SearchError OperationQuery := do
  if query.attention ∧ query.state ≠ none then
    .error (.applicationServiceError "invalid_filter_combination")
  let states ← match query.state with
    | none => pure (if query.attention then some attentionStates else none)
    | some value =>
      match OperationState.ofValue? value with
      | some state => pure (some [state])
      | none => .error (.applicationServiceError "invalid_state")
  let lower ← match query.createdFrom with
    | none => pure none
    | some value => (parseUtc other value "invalid_created_from").map some
  let upper ← match query.createdTo with
    | none => pure none
    | some value => (parseUtc other value "invalid_created_to").map some
  pure ⟨states, query.provider, lower, upper, none, none, query.limit⟩

def cursorPosition (other : Text → Option Parsed) :
    Option Text → Except SearchError (Option (Parsed × OpaqueId))
  | none => .ok none
  | some value => (decodeCursor other value).map some

def OperationQuery.at (query : OperationQuery) (position : Option (Parsed × OpaqueId)) :
    OperationQuery :=
  { query with
    cursorCreatedAt := position.map fun position => position.1.instant
    cursorOperationId := position.map Prod.snd }

def searchOperations (other : Text → Option Parsed) (rows : List Operation)
    (identity : AuthenticatedIdentity) (query : OperationSearch) :
    Except SearchError OperationPage := do
  identity.require [.operator]
  let filters ← searchFilters other query
  let position ← cursorPosition other query.cursor
  let result ← search rows (filters.at position)
  if result.cursorFound then
    pure ⟨result.operations,
      if result.hasMore then result.operations.getLast?.map cursor else none⟩
  else .error (.applicationServiceError "invalid_cursor")

/-! ## Following the cursors -/

/-- The pages of one search, from whichever cursor. -/
def fetchPage (other : Text → Option Parsed) (rows : List Operation)
    (identity : AuthenticatedIdentity) (query : OperationSearch) (start : Option Text) :
    Option (Page Operation Text) :=
  match searchOperations other rows identity { query with cursor := start } with
  | .ok page => some ⟨page.operations, page.nextCursor⟩
  | .error _ => none

/-- The newest first, and among equals the least id. -/
def comesBefore (a b : Operation) : Prop :=
  b.createdAt.value < a.createdAt.value ∨
    a.createdAt.value = b.createdAt.value ∧ a.operationId.value < b.operationId.value

instance : DecidableRel comesBefore := fun _ _ => inferInstanceAs (Decidable (_ ∨ _))

def listing (rows : List Operation) (filters : OperationQuery) : List Operation :=
  (rows.filter (queryFilters filters)).insertionSort listingOrder

instance : Std.Total listingOrder where
  total a b := by
    unfold listingOrder
    rcases Int.lt_trichotomy a.createdAt.value b.createdAt.value with earlier | same | later
    · exact .inr (.inl earlier)
    · rcases String.le_total a.operationId.value b.operationId.value with least | least
      · exact .inl (.inr ⟨same, least⟩)
      · exact .inr (.inr ⟨same.symm, least⟩)
    · exact .inl (.inl later)

instance : IsTrans Operation listingOrder where
  trans a b c := by
    unfold listingOrder
    rintro (later | ⟨same, least⟩) (later' | ⟨same', least'⟩)
    · exact .inl (by omega)
    · exact .inl (by omega)
    · exact .inl (by omega)
    · exact .inr ⟨same.trans same', String.le_trans least least'⟩

theorem comesBefore_irrefl (a : Operation) : ¬ comesBefore a a := by
  rintro (later | ⟨_, least⟩)
  · exact absurd later (Int.lt_irrefl _)
  · exact String.lt_irrefl _ least

theorem comesBefore_asymm (a b : Operation) : comesBefore a b → ¬ comesBefore b a := by
  rintro (later | ⟨same, least⟩) (later' | ⟨same', least'⟩)
  · omega
  · omega
  · omega
  · exact String.lt_asymm least least'

section

variable {rows : List Operation} {filters : OperationQuery}

theorem mem_listing {row : Operation} :
    row ∈ listing rows filters ↔ row ∈ rows ∧ queryFilters filters row := by
  rw [listing, List.mem_insertionSort, List.mem_filter]

theorem row_unique (keys : (rows.map Operation.operationId).Nodup) {a b : Operation}
    (left : a ∈ rows) (right : b ∈ rows) (same : a.operationId = b.operationId) : a = b :=
  List.inj_on_of_nodup_map keys left right same

theorem listing_ordered (keys : (rows.map Operation.operationId).Nodup) :
    (listing rows filters).Pairwise comesBefore := by
  have distinct : (listing rows filters).Pairwise fun a b => a.operationId ≠ b.operationId := by
    have sorted := ((List.perm_insertionSort listingOrder (rows.filter (queryFilters filters))).map
      Operation.operationId).nodup_iff.mpr (keys.sublist (List.filter_sublist.map _))
    exact List.pairwise_map.mp sorted
  have ordered := List.pairwise_insertionSort listingOrder (rows.filter (queryFilters filters))
  refine (ordered.and distinct).imp fun {a b} both => ?_
  rcases both.1 with later | ⟨same, least⟩
  · exact .inl later
  · refine .inr ⟨same, String.not_le.mp fun least' => both.2 ?_⟩
    exact OpaqueId.ext_value (String.le_antisymm least least')

theorem afterCursor_eq (item other : Operation) :
    afterCursor item.createdAt.value item.operationId other = decide (comesBefore item other) :=
  decide_eq_decide.mpr (or_congr_right (and_congr_left' eq_comm))

theorem pageOf_eq {keep : Operation → Bool} {limit : Nat} {cursorFound : Bool}
    {rest : List Operation} (found : (rows.filter keep).insertionSort listingOrder = rest) :
    pageOf rows keep limit cursorFound =
      ⟨rest.take limit, decide (limit < rest.length), cursorFound⟩ := by
  unfold pageOf
  simp only [found, List.take_take, List.length_take, Nat.min_eq_left (Nat.le_succ limit)]
  congr 1
  rw [decide_eq_decide]
  omega

/-- The rows that follow a listed one are those the cursor's query finds. -/
theorem rest_found (keys : (rows.map Operation.operationId).Nodup) {done rest : List Operation}
    {item : Operation} (split : listing rows filters = done ++ item :: rest) :
    (rows.filter fun row => queryFilters filters row &&
      afterCursor item.createdAt.value item.operationId row).insertionSort listingOrder = rest := by
  have both : (fun row => queryFilters filters row &&
      afterCursor item.createdAt.value item.operationId row) = fun row =>
        afterCursor item.createdAt.value item.operationId row && queryFilters filters row :=
    funext fun row => Bool.and_comm _ _
  have antisymm : ∀ a ∈ rows.filter (queryFilters filters),
      ∀ b ∈ rows.filter (queryFilters filters), listingOrder a b → listingOrder b a → a = b := by
    intro a left b right le ge
    refine row_unique keys (List.mem_filter.mp left).1 (List.mem_filter.mp right).1 ?_
    unfold listingOrder at le ge
    rcases le with later | ⟨_, least⟩
    · omega
    · rcases ge with later | ⟨_, least'⟩
      · omega
      · exact OpaqueId.ext_value (String.le_antisymm least least')
  have ordered := @listing_ordered rows filters keys
  rw [split] at ordered
  rw [both, ← List.filter_filter, insertionSort_filter _ antisymm]
  have listed : (rows.filter (queryFilters filters)).insertionSort listingOrder =
      done ++ item :: rest := split
  rw [listed, funext (afterCursor_eq item)]
  exact filter_after comesBefore_irrefl comesBefore_asymm ordered

/-- The ids and times of the rows are those that their constructors accept. -/
def Formed (rows : List Operation) : Prop :=
  ∀ row ∈ rows, row.operationId.wellFormed ∧ row.createdAt.inCalendar

theorem searchFilters_limit {other : Text → Option Parsed} {query : OperationSearch}
    (read : searchFilters other query = .ok filters) : filters.limit = query.limit := by
  unfold searchFilters at read
  simp only [bind, Except.bind, pure, Except.pure] at read
  repeat' split at read
  all_goals cases read
  all_goals rfl

/-- A query that finds its cursor makes a page of what it finds. -/
theorem fetchPage_found {other : Text → Option Parsed} {identity : AuthenticatedIdentity}
    {query : OperationSearch} {start : Option Text} {position : Option (Parsed × OpaqueId)}
    {found : List Operation} {more : Bool} (operator : .operator ∈ identity.roles)
    (read : searchFilters other query = .ok filters)
    (decoded : cursorPosition other start = .ok position)
    (result : search rows (filters.at position) = .ok ⟨found, more, true⟩) :
    fetchPage other rows identity query start =
      some ⟨found, if more then found.getLast?.map cursor else none⟩ := by
  have allowed : identity.require [.operator] = .ok () := by
    rw [AuthenticatedIdentity.require, if_pos]
    exact List.any_eq_true.mpr ⟨.operator, operator, by decide⟩
  have filters' : searchFilters other { query with cursor := start } = .ok filters := read
  unfold fetchPage searchOperations
  simp only [bind, Except.bind, pure, Except.pure, allowed, filters', decoded, result, if_true]

/-- A page is the rest of the listing, cut at the limit. -/
theorem fetchPage_cuts {other : Text → Option Parsed} {identity : AuthenticatedIdentity}
    {query : OperationSearch} (keys : (rows.map Operation.operationId).Nodup)
    (formed : Formed rows) (operator : .operator ∈ identity.roles)
    (read : searchFilters other query = .ok filters) (done rest : List Operation)
    (split : listing rows filters = done ++ rest) :
    fetchPage other rows identity query (done.getLast?.map cursor) =
      some (cutAt cursor query.limit rest) := by
  have limit := searchFilters_limit read
  have cut : cutAt cursor query.limit rest = ⟨rest.take query.limit,
      if decide (query.limit < rest.length) then (rest.take query.limit).getLast?.map cursor
      else none⟩ := by
    simp only [cutAt, decide_eq_true_eq]
  rw [cut]
  rcases List.eq_nil_or_concat done with none | ⟨before, item, last⟩
  · subst none
    refine fetchPage_found operator read rfl ?_
    rw [search, ← limit]
    exact congrArg Except.ok (pageOf_eq split)
  · subst last
    rw [List.concat_eq_append, List.append_assoc, List.singleton_append] at split
    have listed : item ∈ listing rows filters := by
      rw [split]
      simp
    obtain ⟨stored, matching⟩ := mem_listing.mp listed
    have decoded := @decodeCursor_cursor other item (formed item stored).1 (formed item stored).2
    have position : cursorPosition other ((before.concat item).getLast?.map cursor) =
        .ok (some (⟨item.createdAt.value, true⟩, item.operationId)) := by
      rw [List.concat_eq_append, List.getLast?_concat, Option.map_some, cursorPosition, decoded]
      rfl
    have here : (rows.any fun row => queryFilters filters row &&
        decide (row.createdAt.value = item.createdAt.value ∧ row.operationId = item.operationId)) =
        true := by
      refine List.any_eq_true.mpr ⟨item, stored, ?_⟩
      rw [matching, Bool.true_and]
      exact decide_eq_true ⟨rfl, rfl⟩
    refine fetchPage_found operator read position ?_
    rw [← limit]
    have page := @pageOf_eq rows _ filters.limit (rows.any fun row => queryFilters filters row &&
      decide (row.createdAt.value = item.createdAt.value ∧ row.operationId = item.operationId)) _
      (rest_found keys split)
    exact (congrArg Except.ok page).trans (by rw [here])

end

/-- Following the cursors of a search lists every operation that matches it exactly once, the newest
first and among equals the least id; and a cursor gives back its position. -/
theorem search_enumerates {other : Text → Option Parsed}
    (operations : KeyedTable.Table Operation.operationId)
    (formed : Formed operations.rows) {identity : AuthenticatedIdentity}
    (operator : .operator ∈ identity.roles) {query : OperationSearch} (positive : 1 ≤ query.limit)
    {filters : OperationQuery} (read : searchFilters other query = .ok filters) :
    (∃ pages, Follows (fetchPage other operations.rows identity query) none pages) ∧
      (∀ pages, Follows (fetchPage other operations.rows identity query) none pages →
        pages.flatten.Pairwise comesBefore ∧ pages.flatten.Nodup ∧
          ∀ row, row ∈ pages.flatten ↔ row ∈ operations.rows ∧ queryFilters filters row) ∧
      ∀ row ∈ operations.rows, decodeCursor other (cursor row) =
        .ok (⟨row.createdAt.value, true⟩, row.operationId) := by
  obtain ⟨pages, followed, flat⟩ := follows_all positive
    (fetchPage_cuts operations.nodup formed operator read) _ [] _ rfl rfl
  have ordered := @listing_ordered _ filters operations.nodup
  refine ⟨⟨pages, followed⟩, fun pages' followed' => ?_,
    fun row stored => decodeCursor_cursor (formed row stored).1 (formed row stored).2⟩
  rw [followed'.unique followed, flat]
  refine ⟨ordered, ordered.imp fun {a b} before same => ?_, fun row => mem_listing⟩
  exact comesBefore_irrefl b (same ▸ before)

/-- Two operations created at once, a page apart. -/
def twinOperations : KeyedTable.Table Operation.operationId where
  rows := [
    { sampleOperation with operationId := ⟨"00000000-0000-4000-8000-000000000002"⟩ },
    { sampleOperation with operationId := ⟨"00000000-0000-4000-8000-000000000001"⟩ }]
  nodup := by decide

def onePerPage : OperationSearch := ⟨none, false, some "mail", none, none, none, 1⟩

theorem search_enumerates_twins :
    ∃ pages, Follows (fetchPage (fun _ => none) twinOperations.rows
      ⟨sampleOperation.intent.requester, [.operator]⟩ onePerPage) none pages :=
  (search_enumerates twinOperations (by
    unfold Formed
    decide +kernel) (by decide) (by decide) rfl).1

end Stateback.Application
