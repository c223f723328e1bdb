import Stateback.Concurrency.Bystanders
import Stateback.Messaging.Worker
import Stateback.Recovery.Operator
/-!
# Recoveries and deliveries next to provider calls

`recover_operation` cannot tell a crashed worker from a slow one: on an EXECUTING operation whose
latest attempt is STARTED it hands the attempt over to verification.  Everything else that the
recovery service and the work handler do leaves the attempts of others alone, so a track that
`recover_operation` and `execute_operation` follow is followed by every delivery.
-/

namespace Stateback.Concurrency

open Domain Persistence Transitions Providers Stateback.Runtime Process Transaction
open KeyedTable KeyedTable.Table Invariants Recovery Messaging

variable {uuid5 : String → OpaqueId} {s s' last : Store} {registry : CapabilityRegistry}
  {α β : Type}

/-! ## Recoveries -/

/-- Marking an operation UNKNOWN without evidence abandons the attempt that is under way for it,
and no other. -/
theorem flightCommits_unknown {command : OperationCommand} {result : TransitionResult}
    (kind : command.kind = .executionUnknown) (without : command.body.completedAttempt? = none)
    (ran : applyOperation command s = .ok (result, s')) :
    FlightCommits .free (.submit (.operation command)) s s' .free := by
  obtain ⟨loaded, made, -⟩ | ⟨_, same, -⟩ | ⟨_, same, -⟩ := applyOperation_cases ran
  · by_cases named : ∃ attemptId, loaded.latestAttemptId = some attemptId ∧ Underway attemptId s
    · obtain ⟨attemptId, latest, under⟩ := named
      refine .abandons ⟨under, command, loaded, rfl, kind, without, made.found, latest⟩
        fun other apart under => under.moved made fun _ is => apart ?_
      exact Option.some.inj (is.symm.trans latest)
    · exact .keeps fun attemptId under => under.moved made fun _ latest =>
        named ⟨attemptId, latest, under⟩
  · exact .keeps (keepsFlights_same (by rw [same]) (by rw [same]))
  · exact .keeps (keepsFlights_same (by rw [same]) (by rw [same]))

theorem remains_unknownWithoutCompleting {command : RecoverCommand} {op : Operation}
    {actor : PrincipalRef} :
    Remains uuid5 (unknownWithoutCompleting command op actor) .free last := by
  unfold unknownWithoutCompleting
  split
  · rfl
  refine follows_now flightTrack_calm journalContract_sound fun s occurredAt _ _ => ?_
  refine follows_commit (fun s₁ result s₂ _ _ ran => ?_) fun _ _ _ _ _ => rfl
  refine ⟨guar_transition ran, fun _ _ _ => ⟨.free, flightCommits_unknown rfl rfl ran, ?_⟩⟩
  split <;> rfl

theorem remains_loadOperation {operationId : OpaqueId} {next : Operation → Service α}
    (rest : ∀ s op, Reachable uuid5 s → Seen s op → Remains uuid5 (next op) .free s) :
    Remains uuid5 (loadOperation operationId >>= next) .free last :=
  follows_loadOperation flightTrack_calm journalContract_sound (fun _ _ => rfl)
    fun s op inv _ found => rest s op inv (seen_of_found found)

theorem remains_recoverOperation (command : RecoverCommand) :
    Remains uuid5 (recoverOperation registry command) .free last := by
  refine remains_loadOperation fun s op _ seen => ?_
  cases op.state with
  | executing =>
    refine remains_latestAttempt (fun _ => rfl) (fun s attempt _ state => ?_)
      fun s attempt later state settles => ?_
    · dsimp only
      rw [state]
      exact remains_unknownWithoutCompleting
    · dsimp only
      rw [state]
      refine follows_lift (fun _ _ => rfl) fun evidence _ => ?_
      exact remains_applyExecutionKind (seen.later later) settles
  | _ => rfl

/-! ## Deliveries -/

section Worked

variable {Phase : Type} {C : Contract Store} {T : Track Phase Purpose Store Query Answer}
  {free : Phase}

/-- Whatever the others do, the program ends in the phase it started in. -/
abbrev Rests (C : Contract Store) (T : Track Phase Purpose Store Query Answer) (free : Phase)
    (program : Service α) (last : Store) : Prop :=
  Follows C T (fun _ phase _ => phase = free) program free last

abbrev Travels (C : Contract Store) (T : Track Phase Purpose Store Query Answer) (free : Phase)
    (program : Service α) (last : Store) : Prop :=
  Follows C T (fun _ _ _ => True) program free last

/-- What the track asks of the runtime. -/
structure Worked (uuid5 : String → OpaqueId) (registry : CapabilityRegistry) (C : Contract Store)
    (T : Track Phase Purpose Store Query Answer) (free : Phase) : Prop where
  sound : C.Sound
  calm : Calm T
  aside : ∀ {label s s'}, C.inv s → SetsAside uuid5 s s' →
    C.guar s s' ∧ T.commits free label s s' free
  begins : ∀ {query}, NoExecute query → T.begins free query free
  returns : ∀ {query answer}, NoExecute query → T.returns free query answer free
  recover : ∀ command last, Rests C T free (recoverOperation registry command) last
  execute : ∀ command turns last, Travels C T free (executeOperation registry command turns) last

theorem travels_of_rests {program : Service α} (rests : Rests C T free program last) :
    Travels C T free program last :=
  rests.mono fun _ _ _ _ => trivial

/-- One program after another, each of which ends in the phase it started in. -/
theorem rests_andThen {p : Service α} {f : α → Service β} (first : Rests C T free p last)
    (rest : ∀ a s, Rests C T free (f a) s) : Rests C T free (p >>= f) last := by
  refine Follows.bind (first.mono fun outcome phase' s same => ?_)
  subst same
  cases outcome with
  | ok a => exact rest a s
  | error => rfl

theorem travels_of_ends {p : Service α} {f : α → Service β} (travels : Travels C T free p last)
    (ends : ∀ a, ∃ outcome, f a = .finish outcome) : Travels C T free (p >>= f) last := by
  refine Follows.bind (travels.mono fun outcome _ _ _ => ?_)
  cases outcome with
  | ok a =>
    obtain ⟨outcome, same⟩ := ends a
    change Follows _ _ _ (f a) _ _
    rw [same]
    trivial
  | error => trivial

theorem travels_map {p : Service α} {f : α → β} (travels : Travels C T free p last) :
    Travels C T free (f <$> p) last :=
  travels_of_ends travels fun _ => ⟨_, rfl⟩

variable (worked : Worked uuid5 registry C T free)

include worked

theorem StandsBy.rests {program : Service α} (standsBy : StandsBy uuid5 program) :
    Rests C T free program last :=
  standsBy.follows worked.aside worked.begins worked.returns

theorem Worked.recoverUnknownOperation (command : RecoveryCommand) :
    Rests C T free (recoverUnknownOperation registry command) last := by
  refine follows_load worked.calm worked.sound fun s inv later => ?_
  cases s.operation? command.operationId with
  | none => rfl
  | some op =>
    dsimp only
    cases op.state with
    | executing => exact rests_andThen (worked.recover _ s) fun _ _ => rfl
    | verifying => exact standsBy_runVerifyingCycle.rests worked
    | unknown => exact standsBy_recoverUnknown.rests worked
    | _ => rfl

theorem Worked.scanRecoverable (command : ScanCommand) :
    Rests C T free (scanRecoverable registry command) last := by
  have listed : ∀ operations s,
      Rests C T free (Recovery.recoverListed registry command operations) s := by
    intro operations
    induction operations with
    | nil => exact fun _ => rfl
    | cons op rest ih =>
      intro s
      refine rests_andThen (worked.recoverUnknownOperation _) fun result s => ?_
      exact rests_andThen (ih s) fun _ _ => rfl
  have group : ∀ state s, Rests C T free (Recovery.scanGroup registry command state) s :=
    fun state s => follows_load worked.calm worked.sound fun s _ _ => listed _ s
  refine rests_andThen (group _ last) fun executing s₁ => ?_
  refine rests_andThen (group _ s₁) fun verifying s₂ => ?_
  exact rests_andThen (group _ s₂) fun _ _ => rfl

theorem Worked.dispatchWork {turns : Nat} {message : Delivery} {op : Operation} :
    Travels C T free (WorkHandler.dispatch registry uuid5 turns message op) last := by
  have compensates : Travels C T free (dispatchCompensation registry uuid5 turns message op)
      last :=
    travels_of_ends (travels_of_rests ((standsBy_executeCompensation turns _).rests worked))
      fun _ => ⟨_, rfl⟩
  unfold WorkHandler.dispatch
  cases message.command with
  | execute =>
    dsimp only [Messaging.dispatchExecute]
    cases op.state with
    | ready => exact travels_of_ends (worked.execute _ turns last) fun _ => ⟨_, rfl⟩
    | executing =>
      exact travels_of_ends (travels_of_rests (worked.recover _ last)) fun _ => ⟨_, rfl⟩
    | _ => trivial
  | verify =>
    dsimp only [dispatchVerify]
    cases op.state with
    | executing | unknown | verifying =>
      exact travels_of_ends (travels_of_rests (worked.recoverUnknownOperation _)) fun _ => ⟨_, rfl⟩
    | compensating | compensationUnknown => exact compensates
    | _ => trivial
  | compensate =>
    dsimp only [dispatchCompensate]
    cases op.state with
    | compensating | compensationUnknown | compensationFailed | compensated => exact compensates
    | _ => trivial

theorem Worked.handleDecoded {turns : Nat} {message : Delivery}
    {maxDeliveries deliveryCount : Int} :
    Travels C T free
      (WorkHandler.handleDecoded registry uuid5 turns message maxDeliveries deliveryCount)
      last := by
  have caught : ∀ e phase s, Travels C T phase (if isInfrastructure e then
      pure (some (retryOrTerm maxDeliveries deliveryCount)) else Prog.raise e) s := by
    intro e phase s
    split <;> trivial
  have dispatches : ∀ op s, Travels C T free (do
      let dispatched ← (WorkHandler.dispatch registry uuid5 turns message op).handled
      settleDispatched maxDeliveries deliveryCount dispatched) s := by
    intro op s
    have dispatched : Travels C T free (WorkHandler.dispatch registry uuid5 turns message op) s :=
      worked.dispatchWork
    refine Follows.bind (Follows.handled (dispatched.mono fun outcome phase s _ => ?_))
    cases outcome with
    | error e => exact caught e phase s
    | ok disposition => cases disposition <;> trivial
  refine Follows.bind (Follows.handled fun s inv _ => ⟨fun op s' ran => ?_,
    fun e _ => caught e free s⟩)
  have same : s' = s := by
    dsimp only at ran
    split at ran <;> cases ran
    rfl
  rw [same]
  exact ⟨worked.sound.read inv, fun _ _ _ => ⟨free, worked.calm.reads, dispatches op s⟩⟩

end Worked

/-- The flights of `Flights`. -/
theorem flights_worked : Worked uuid5 registry (journalContract uuid5) flightTrack .free where
  sound := journalContract_sound
  calm := flightTrack_calm
  aside _ aside := ⟨aside.journaled, .keeps aside.flights⟩
  begins := .calm
  returns := .calm
  recover command _ := remains_recoverOperation command
  execute command turns _ := flies_executeOperation command turns

end Stateback.Concurrency
