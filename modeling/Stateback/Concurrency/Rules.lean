import Stateback.Lib.Interleaving
import Stateback.Recovery.Recover
/-!
# Rules for services under a contract

One rule for each way a service goes on: reading the journal, asking the clock, raising.  Then
the reads that several services share.
-/

namespace Stateback.Concurrency

open Domain Persistence Transitions Providers Stateback.Runtime Recovery Process

variable {C : Contract Store} {given : (query : Query) → Answer query → Prop} {α β : Type}
  {Q : Except Raised α → Store → Prop} {last : Store}

theorem assures_load (sound : C.Sound) {read : Store → β} {next : β → Service α}
    (rest : ∀ s, C.inv s → C.rely last s → Assures C given Q (next (read s)) s) :
    Assures C given Q (Service.load read >>= next) last := by
  refine assures_commit (fun s b s' inv seen ran => ?_) fun s e _ _ ran => by cases ran
  cases ran
  exact ⟨sound.read inv, fun _ _ => rest s inv seen⟩

theorem assures_now {next : UtcTimestamp → Service α}
    (rest : ∀ s now, C.inv s → C.rely last s → Assures C given Q (next now) s) :
    Assures C given Q (Service.now >>= next) last :=
  assures_question fun s now inv seen _ => rest s now inv seen

theorem assures_lift {value : Except Raised β} {next : β → Service α}
    (error : ∀ e, value = .error e → Q (.error e) last)
    (rest : ∀ b, value = .ok b → Assures C given Q (next b) last) :
    Assures C given Q (Service.lift value >>= next) last := by
  cases value with
  | ok b => exact rest b rfl
  | error e => exact error e rfl

theorem assures_require {value : Option β} {e : Raised} {next : β → Service α}
    (error : Q (.error e) last) (rest : ∀ b, value = some b → Assures C given Q (next b) last) :
    Assures C given Q (Prog.require value e >>= next) last := by
  cases value with
  | some b => exact rest b rfl
  | none => exact error

theorem assures_loadOperation (sound : C.Sound) {operationId : OpaqueId}
    {next : Operation → Service α} (error : ∀ e s, C.inv s → Q (.error e) s)
    (rest : ∀ s op, C.inv s → C.rely last s → s.operation? operationId = some op →
      Assures C given Q (next op) s) :
    Assures C given Q (loadOperation operationId >>= next) last := by
  refine assures_commit (fun s op s' inv seen ran => ?_) fun s e inv _ _ => error e s inv
  split at ran
  next loaded found =>
    cases ran
    exact ⟨sound.read inv, fun _ _ => rest s op inv seen found⟩
  · cases ran

/-! ## Shared reads -/

theorem assures_loadPolicy (sound : C.Sound) {op : Operation}
    {next : Option PolicyDecision → Service α}
    (missing : ∀ s, C.inv s → C.rely last s → Assures C given Q (next none) s)
    (found : ∀ s policy, C.inv s → C.rely last s →
      op.currentPolicyDecisionId.bind s.policyDecision? = some policy →
        Assures C given Q (next (some policy)) s) (inv : C.inv last) :
    Assures C given Q (loadPolicy op >>= next) last := by
  have := sound.preorder
  unfold loadPolicy
  cases named : op.currentPolicyDecisionId with
  | none => exact missing last inv (refl_of C.rely last)
  | some policyDecisionId =>
    refine assures_load sound fun s inv seen => ?_
    cases at_ : s.policyDecision? policyDecisionId with
    | none => exact missing s inv seen
    | some policy => exact found s policy inv seen (by rw [named, Option.bind_some, at_])

theorem assures_attemptForRequest (sound : C.Sound) {op : Operation}
    {request : VerificationRequest} :
    Assures C given (Returning Anything) (attemptForRequest op request) last := by
  have latest : ∀ s, Assures C given (Returning Anything) (latestAttempt op) s := by
    intro s
    unfold latestAttempt
    split
    · trivial
    · exact assures_load sound fun _ _ _ => trivial
  unfold attemptForRequest
  cases request.targetAttemptId with
  | none => exact latest last
  | some attemptId =>
    refine assures_load sound fun s _ _ => ?_
    cases s.attempt? attemptId with
    | none => exact latest s
    | some => trivial

theorem assures_verificationEvidence {provider : String} {ended : CallEnd VerificationEvidence}
    {P : VerificationEvidence → Store → Prop}
    (returned : ∀ evidence, ended = .returned evidence → P evidence last)
    (raised : ∀ typeName s observedAt, ended = .raisedOther typeName →
      P ⟨(evidenceForUnclassifiedException typeName observedAt provider).1,
        (evidenceForUnclassifiedException typeName observedAt provider).2.2,
        some (evidenceForUnclassifiedException typeName observedAt provider).2.1⟩ s) :
    Assures C given (Returning P) (verificationEvidence provider ended) last := by
  cases ended with
  | returned evidence => exact returned evidence rfl
  | raisedUnsupportedEffect => trivial
  | raisedContractValidation => trivial
  | raisedOther typeName => exact assures_now fun s observedAt _ _ => raised _ s observedAt rfl

end Stateback.Concurrency
