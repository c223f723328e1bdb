import Stateback.Concurrency.Discipline
import Stateback.Lib.Tokens
/-!
# Rules for services on a track

The rules of `Rules` for services whose process carries a phase.  Reads, the clock and
verification calls leave the phase alone on every track that is `Calm`.
-/

namespace Stateback.Concurrency

open Domain Persistence Transitions Providers Stateback.Runtime Recovery Process Transaction
open Invariants

variable {uuid5 : String → OpaqueId} {C : Contract Store} {Phase α β : Type}
  {T : Track Phase Purpose Store Query Answer} {Q : Except Raised α → Phase → Store → Prop}
  {phase : Phase} {last : Store}

/-! ## The contract -/

/-- Everybody's commits are actions of the journal. -/
def journalContract (uuid5 : String → OpaqueId) : Contract Store where
  inv := Reachable uuid5
  rely := Later
  guar s s' := ∃ actions, run uuid5 s actions = s'

theorem journalContract_sound : (journalContract uuid5).Sound where
  preorder := { refl := .refl, trans := fun _ _ _ => .trans }
  read _ := ⟨[], rfl⟩
  kept := by
    rintro s _ ⟨earlier, rfl⟩ ⟨actions, rfl⟩
    exact ⟨⟨earlier ++ actions, run_append ..⟩, .run uuid5 _ actions⟩

theorem guar_transition {s s' : Store} {command : TransitionCommand} {result : TransitionResult}
    (ran : apply command s = .ok (result, s')) : (journalContract uuid5).guar s s' :=
  ⟨[.transition command], act_transition ran⟩

theorem guar_operation {s s' : Store} {command : OperationCommand} {result : TransitionResult}
    (ran : applyOperation command s = .ok (result, s')) : (journalContract uuid5).guar s s' :=
  guar_transition (show apply (.operation command) s = _ from ran)

theorem guar_body {s s' : Store} {action : JournalAction}
    (ran : action.body uuid5 s = .ok ((), s')) : (journalContract uuid5).guar s s' :=
  ⟨[action], congrArg Prod.fst (execute_ok.mpr ran)⟩

/-! ## Rules -/

/-- The calls that change something at the provider. -/
def mutates : Query → Bool
  | .execute .. | .compensate .. => true
  | .now | .verify .. => false

/-- What changes nothing leaves the phase alone. -/
structure Calm (T : Track Phase Purpose Store Query Answer) : Prop where
  reads : ∀ {phase label s}, T.commits phase label s s phase
  begins : ∀ {phase query}, mutates query = false → T.begins phase query phase
  returns : ∀ {phase query answer}, mutates query = false → T.returns phase query answer phase

theorem follows_load (calm : Calm T) (sound : C.Sound) {read : Store → β} {next : β → Service α}
    (rest : ∀ s, C.inv s → C.rely last s → Follows C T Q (next (read s)) phase s) :
    Follows C T Q (Service.load read >>= next) phase last := by
  refine follows_commit (fun s b s' inv seen ran => ?_) fun s e _ _ ran => by cases ran
  cases ran
  exact ⟨sound.read inv, fun _ _ _ => ⟨phase, calm.reads, rest s inv seen⟩⟩

theorem follows_ask (calm : Calm T) (sound : C.Sound) {query : Query}
    {next : Answer query → Service α} (harmless : mutates query = false)
    (rest : ∀ s answer, C.inv s → C.rely last s → Follows C T Q (next answer) phase s) :
    Follows C T Q (Prog.question query >>= next) phase last :=
  follows_question (calm.begins harmless)
    (fun s answer inv seen => ⟨phase, calm.returns harmless, rest s answer inv seen⟩) sound

theorem follows_now (calm : Calm T) (sound : C.Sound) {next : UtcTimestamp → Service α}
    (rest : ∀ s now, C.inv s → C.rely last s → Follows C T Q (next now) phase s) :
    Follows C T Q (Service.now >>= next) phase last :=
  follows_ask calm sound rfl rest

theorem follows_lift {value : Except Raised β} {next : β → Service α}
    (error : ∀ e, value = .error e → Q (.error e) phase last)
    (rest : ∀ b, value = .ok b → Follows C T Q (next b) phase last) :
    Follows C T Q (Service.lift value >>= next) phase last := by
  cases value with
  | ok b => exact rest b rfl
  | error e => exact error e rfl

theorem follows_require {value : Option β} {e : Raised} {next : β → Service α}
    (error : Q (.error e) phase last)
    (rest : ∀ b, value = some b → Follows C T Q (next b) phase last) :
    Follows C T Q (Prog.require value e >>= next) phase last := by
  cases value with
  | some b => exact rest b rfl
  | none => exact error

theorem follows_loadOperation (calm : Calm T) (sound : C.Sound) {operationId : OpaqueId}
    {next : Operation → Service α} (error : ∀ e s, Q (.error e) phase s)
    (rest : ∀ s op, C.inv s → C.rely last s → s.operation? operationId = some op →
      Follows C T Q (next op) phase s) :
    Follows C T Q (loadOperation operationId >>= next) phase last := by
  refine follows_commit (fun s op s' inv seen ran => ?_) fun s e _ _ _ => error e s
  split at ran
  next loaded found =>
    cases ran
    exact ⟨sound.read inv, fun _ _ _ => ⟨phase, calm.reads, rest s op inv seen found⟩⟩
  · cases ran

end Stateback.Concurrency
