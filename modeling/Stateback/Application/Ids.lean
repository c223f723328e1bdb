import Stateback.Domain.Secrets
import Stateback.Domain.Wire
import Stateback.Lib.Cut
/-!
# Request identities

`application/ids.py`: the ids of a submission come from the principal and the request key, joined
with colons.  A type contains no colon; a principal id may, so where one id continues another after
a colon, their callers meet at some key.
-/

namespace Stateback.Domain

/-- `PrincipalRef.__post_init__`. -/
def PrincipalRef.accepted (principal : PrincipalRef) : Bool :=
  strip principal.id == principal.id

end Stateback.Domain

namespace Stateback.Application

open Stateback.Domain

def isAscii (s : String) : Bool := s.toList.all fun c => decide (c.toNat < 128)

/-- What `ApplicationService.submit` asks of a request key. -/
def keyAccepted (key : String) : Bool := key ≠ "" && decide (key.length ≤ 200) && isAscii key

def requestIdentity (principal : PrincipalRef) (idempotencyKey : String) : String :=
  "sb:v1:request:" ++ principal.type.value ++ ":" ++ principal.id ++ ":" ++ idempotencyKey

structure SubmitIds where
  operationId : OpaqueId
  createdAuditEventId : OpaqueId
  policyDecisionId : OpaqueId
  policyAuditEventId : OpaqueId
  policyTransitionAuditEventId : OpaqueId
  allowOutboxEventId : OpaqueId
  approvalId : OpaqueId
  approvalAuditEventId : OpaqueId
deriving DecidableEq, Repr

section

variable (uuid5 : String → OpaqueId)

/-- `_id`. -/
def idFor (identity purpose : String) : OpaqueId := uuid5 (identity ++ ":" ++ purpose)

def submitIds (identity : String) : SubmitIds where
  operationId := idFor uuid5 identity "operation"
  createdAuditEventId := idFor uuid5 identity "operation-created-audit"
  policyDecisionId := idFor uuid5 identity "policy-decision"
  policyAuditEventId := idFor uuid5 identity "policy-audit"
  policyTransitionAuditEventId := idFor uuid5 identity "policy-transition-audit"
  allowOutboxEventId := idFor uuid5 identity "policy-allow-outbox"
  approvalId := idFor uuid5 identity "approval"
  approvalAuditEventId := idFor uuid5 identity "approval-audit"

/-- Whatever keys the two callers choose, a common identity or operation id comes from the same
caller and the same key. -/
def Separates (principal other : PrincipalRef) : Prop :=
  ∀ key otherKey, keyAccepted key = true → keyAccepted otherKey = true →
    requestIdentity principal key = requestIdentity other otherKey ∨
      (submitIds uuid5 (requestIdentity principal key)).operationId =
        (submitIds uuid5 (requestIdentity other otherKey)).operationId →
    principal.type = other.type ∧ principal.id = other.id ∧ key = otherKey

end

/-- The id goes on after a colon with what a request key may start with. -/
def Continues (id longer : String) : Prop :=
  ∃ rest, longer = id ++ ":" ++ rest ∧ isAscii rest = true ∧ rest.length ≤ 198

/-! ## Joined texts -/

/-- Where two joins at a separator agree, they agree in both parts or one first part goes on. -/
theorem append_sep_eq {α : Type} {sep : α} {first last first' last' : List α}
    (same : first ++ sep :: last = first' ++ sep :: last') :
    (first = first' ∧ last = last') ∨
      (∃ rest, first' = first ++ sep :: rest ∧ last = rest ++ sep :: last') ∨
        ∃ rest, first = first' ++ sep :: rest ∧ last' = rest ++ sep :: last := by
  rcases List.append_eq_append_iff.mp same with ⟨more, rfl, tails⟩ | ⟨more, rfl, tails⟩
  · cases more with
    | nil =>
      simp only [List.nil_append, List.cons.injEq, true_and] at tails
      simp [tails]
    | cons head rest =>
      simp only [List.cons_append, List.cons.injEq] at tails
      obtain ⟨rfl, tails⟩ := tails
      exact .inr (.inl ⟨rest, rfl, tails⟩)
  · cases more with
    | nil =>
      simp only [List.nil_append, List.cons.injEq, true_and] at tails
      simp [tails]
    | cons head rest =>
      simp only [List.cons_append, List.cons.injEq] at tails
      obtain ⟨rfl, tails⟩ := tails
      exact .inr (.inr ⟨rest, rfl, tails⟩)

theorem toList_joined {start type id key : String} :
    (start ++ type ++ ":" ++ id ++ ":" ++ key).toList =
      start.toList ++ (type.toList ++ ':' :: (id.toList ++ ':' :: key.toList)) := by
  simp

theorem value_plain (type : PrincipalType) : ':' ∉ type.value.toList := by
  cases type <;> decide

theorem value_inj {type other : PrincipalType} (same : type.value = other.value) :
    type = other := by
  cases type <;> cases other <;> first | rfl | (revert same; decide)

variable {uuid5 : String → OpaqueId} {principal other : PrincipalRef} {key otherKey : String}

/-- Identities agree in the type, and in what follows it. -/
theorem requestIdentity_eq_iff :
    requestIdentity principal key = requestIdentity other otherKey ↔
      principal.type = other.type ∧
        principal.id.toList ++ ':' :: key.toList = other.id.toList ++ ':' :: otherKey.toList := by
  have shape : ∀ (p : PrincipalRef) (k : String), (requestIdentity p k).toList =
      "sb:v1:request:".toList ++
        (p.type.value.toList ++ ':' :: (p.id.toList ++ ':' :: k.toList)) :=
    fun _ _ => toList_joined
  rw [← String.toList_inj, shape, shape, List.append_right_inj]
  constructor
  · intro same
    have cuts := congrArg (Cut.cut ':') same
    rw [Cut.cut_append (value_plain _), Cut.cut_append (value_plain _)] at cuts
    simp only [Option.some.injEq, Prod.mk.injEq] at cuts
    exact ⟨value_inj (String.toList_inj.mp cuts.1), cuts.2⟩
  · rintro ⟨type, rest⟩
    rw [type, rest]

theorem operationId_eq_iff (injective : Function.Injective uuid5) {identity identity' : String} :
    (submitIds uuid5 identity).operationId = (submitIds uuid5 identity').operationId ↔
      identity = identity' := by
  constructor
  · intro same
    have joined := String.toList_inj.mpr (injective same)
    simp only [String.toList_append] at joined
    exact String.toList_inj.mp (List.append_cancel_right (List.append_cancel_right joined))
  · rintro rfl
    rfl

theorem isAscii_append {s t : String} : isAscii (s ++ t) = (isAscii s && isAscii t) := by
  simp [isAscii]

theorem keyAccepted_iff :
    keyAccepted key = true ↔ key ≠ "" ∧ key.length ≤ 200 ∧ isAscii key = true := by
  simp [keyAccepted, and_assoc]

/-- Two callers of which one id continues the other share an identity. -/
theorem meets_of_continues (type : principal.type = other.type)
    (continues : Continues principal.id other.id) :
    ∃ key otherKey, keyAccepted key = true ∧ keyAccepted otherKey = true ∧
      requestIdentity principal key = requestIdentity other otherKey ∧
        principal.id ≠ other.id := by
  obtain ⟨rest, longer, ascii, short⟩ := continues
  refine ⟨rest ++ ":k", "k", ?_, by decide, ?_, ?_⟩
  · rw [keyAccepted_iff]
    refine ⟨?_, ?_, ?_⟩
    · intro empty
      have := congrArg String.length empty
      simp [String.length_append] at this
    · rw [String.length_append]
      have : ":k".length = 2 := rfl
      omega
    · rw [isAscii_append, ascii]
      rfl
  · rw [requestIdentity_eq_iff]
    refine ⟨type, ?_⟩
    simp [longer]
  · intro same
    have lengths := congrArg String.length (same.trans longer)
    have colon : ":".length = 1 := rfl
    rw [String.length_append, String.length_append] at lengths
    omega

/-- A key that goes on another caller's id shows that the id goes on. -/
theorem continues_of_joined {rest : List Char} (accepted : keyAccepted key = true)
    (chosen : keyAccepted otherKey = true)
    (longer : other.id.toList = principal.id.toList ++ ':' :: rest)
    (split : key.toList = rest ++ ':' :: otherKey.toList) : Continues principal.id other.id := by
  have keyShape : key = String.ofList rest ++ ":" ++ otherKey := by
    rw [← String.toList_inj, split]
    simp
  obtain ⟨-, short, ascii⟩ := keyAccepted_iff.mp accepted
  obtain ⟨filled, -, -⟩ := keyAccepted_iff.mp chosen
  refine ⟨String.ofList rest, ?_, ?_, ?_⟩
  · rw [← String.toList_inj, longer]
    simp
  · rw [keyShape, isAscii_append, isAscii_append] at ascii
    simp only [Bool.and_eq_true] at ascii
    exact ascii.1.1
  · have nonempty : otherKey.length ≠ 0 := fun zero => filled (by simpa using zero)
    have colon : ":".length = 1 := rfl
    rw [keyShape, String.length_append, String.length_append] at short
    omega

/-- Callers are kept apart exactly when they differ in type or neither id continues the other. -/
theorem separates_iff (injective : Function.Injective uuid5) :
    Separates uuid5 principal other ↔
      ¬ (principal.type = other.type ∧
        (Continues principal.id other.id ∨ Continues other.id principal.id)) := by
  constructor
  · rintro separates ⟨type, continues | continues⟩
    · obtain ⟨key, otherKey, accepted, chosen, same, differ⟩ := meets_of_continues type continues
      exact differ (separates key otherKey accepted chosen (.inl same)).2.1
    · obtain ⟨otherKey, key, chosen, accepted, same, differ⟩ :=
        meets_of_continues type.symm continues
      exact differ (separates key otherKey accepted chosen (.inl same.symm)).2.1.symm
  · intro apart key otherKey accepted chosen meet
    rw [operationId_eq_iff injective, or_self, requestIdentity_eq_iff] at meet
    obtain ⟨type, joined⟩ := meet
    rcases append_sep_eq joined with ⟨ids, keys⟩ | ⟨rest, longer, split⟩ | ⟨rest, longer, split⟩
    · exact ⟨type, String.toList_inj.mp ids, String.toList_inj.mp keys⟩
    · exact absurd ⟨type, .inl (continues_of_joined accepted chosen longer split)⟩ apart
    · exact absurd ⟨type, .inr (continues_of_joined chosen accepted longer split)⟩ apart

/-- Ids of one length continue in no way. -/
theorem separates_alice_carol :
    Separates (fun name => ⟨name⟩) ⟨.agent, "alice", none⟩ ⟨.agent, "carol", none⟩ := by
  apply (separates_iff fun _ _ same => by simpa using same).mpr
  rintro ⟨-, continues | continues⟩ <;>
  · obtain ⟨rest, longer, -, -⟩ := continues
    have lengths := congrArg String.length longer
    dsimp only at lengths
    rw [String.length_append, String.length_append] at lengths
    have alice : "alice".length = 5 := rfl
    have carol : "carol".length = 5 := rfl
    have colon : ":".length = 1 := rfl
    omega

/-- The agent `team:ops` with key `1` derives the ids of the agent `team` with key `ops:1`. -/
theorem team_meets_ops :
    PrincipalRef.accepted ⟨.agent, "team", none⟩ = true ∧
      PrincipalRef.accepted ⟨.agent, "team:ops", none⟩ = true ∧
      keyAccepted "ops:1" = true ∧ keyAccepted "1" = true ∧
      requestIdentity ⟨.agent, "team", none⟩ "ops:1" =
        requestIdentity ⟨.agent, "team:ops", none⟩ "1" ∧
      ¬ Separates (fun name => ⟨name⟩) ⟨.agent, "team", none⟩ ⟨.agent, "team:ops", none⟩ := by
  have same : requestIdentity ⟨.agent, "team", none⟩ "ops:1" =
      requestIdentity ⟨.agent, "team:ops", none⟩ "1" := by decide
  refine ⟨by decide, by decide, by decide, by decide, same, fun separates => ?_⟩
  have ids := (separates "ops:1" "1" (by decide) (by decide) (.inl same)).2.1
  exact absurd ids (by decide)

end Stateback.Application
