import Stateback.Concurrency.Claims
import Stateback.Concurrency.Recovering
/-!
# One provider call at a time

Deliveries, recoveries and scans next to each other, with provider calls that take as long as they
like.  The calls of one operation follow each other as long as no recovery abandons an attempt whose
worker is still about to call, or waits for the provider.
-/

namespace Stateback.Concurrency

open Domain Persistence Transitions Providers Stateback.Runtime Process Transaction
open KeyedTable KeyedTable.Table Invariants Recovery Messaging Function

variable {uuid5 : String → OpaqueId} {s s' last : Store} {registry : CapabilityRegistry}

/-! ## Calls -/

inductive WorkCall where
  | deliver (message : Delivery) (maxDeliveries deliveryCount : Int) (turns : Nat)
  | recover (command : RecoverCommand)
  | recoverUnknown (command : RecoveryCommand)
  | scan (command : ScanCommand)

def WorkCall.service (registry : CapabilityRegistry) (uuid5 : String → OpaqueId) :
    WorkCall → Service Unit
  | deliver message maxDeliveries deliveryCount turns =>
    (fun _ => ()) <$> WorkHandler.handleDecoded registry uuid5 turns message maxDeliveries
      deliveryCount
  | recover command => (fun _ => ()) <$> recoverOperation registry command
  | recoverUnknown command => (fun _ => ()) <$> recoverUnknownOperation registry command
  | scan command => (fun _ => ()) <$> scanRecoverable registry command

/-- Every call follows a track that its parts follow. -/
theorem Worked.workCall {Phase : Type} {C : Contract Store}
    {T : Track Phase Purpose Store Query Answer} {free : Phase}
    (worked : Worked uuid5 registry C T free) (call : WorkCall) :
    Travels C T free (call.service registry uuid5) last := by
  cases call with
  | deliver => exact travels_map worked.handleDecoded
  | recover => exact travels_map (travels_of_rests (worked.recover _ last))
  | recoverUnknown => exact travels_map (travels_of_rests (worked.recoverUnknownOperation _))
  | scan => exact travels_map (travels_of_rests (worked.scanRecoverable _))

abbrev WorkEvent := Event WorkCall Unit Purpose Store Persistence.Raised Query Answer

abbrev WorkConfig := Config Unit Purpose Store Persistence.Raised Query Answer

/-! ## What is said of a run -/

/-- An earlier attempt of the same operation. -/
def Precedes (attemptId later : OpaqueId) (s : Store) : Prop :=
  ∃ row row', s.attempt? attemptId = some row ∧ s.attempt? later = some row' ∧
    row.operationId = row'.operationId ∧ row.attemptNumber < row'.attemptNumber

/-- When a call begins, the calls for the earlier attempts of the operation have returned, or their
processes have crashed. -/
def Serial (t : List WorkEvent) (s : Store) : Prop :=
  ∀ u pid' context' request' v, t = u ++ .began pid' (.execute context' request') :: v →
    ∀ pid context request, .began pid (.execute context request) ∈ t →
      Precedes context.attemptId context'.attemptId s →
        (∃ answer, .returned pid (.execute context request) answer ∈ u) ∨ .crashed pid ∈ u

/-- Nobody abandons an attempt before the process that claimed it has its answer or has crashed. -/
def Patient (t : List WorkEvent) : Prop :=
  ∀ u pid label before after v attemptId, t = u ++ .committed pid label before after :: v →
    Abandons attemptId label before → ∀ owner label' before' after',
      .committed owner label' before' after' ∈ u → ClaimApplied attemptId before' after' →
        (∃ context request answer, context.attemptId = attemptId ∧
          .returned owner (.execute context request) answer ∈ u) ∨ .crashed owner ∈ u

/-! ## Attempts of processes -/

/-- The attempt a process has claimed. -/
def Flight.attempt? : Flight → Option OpaqueId
  | .free => none
  | .claimed attemptId | .called attemptId => some attemptId
  | .calling context _ => some context.attemptId

/-- The attempt a process has claimed and has no answer for. -/
def Flight.open? : Flight → Option OpaqueId
  | .free | .called _ => none
  | .claimed attemptId => some attemptId
  | .calling context _ => some context.attemptId

theorem Flight.attempt?_of_open {phase : Flight} {attemptId : OpaqueId}
    (open_ : phase.open? = some attemptId) : phase.attempt? = some attemptId := by
  cases phase with
  | free | called => cases open_
  | claimed | calling => exact open_

theorem Flight.called_of_closed {phase : Flight} {attemptId : OpaqueId}
    (owns : phase.attempt? = some attemptId) (closed : phase.open? ≠ some attemptId) :
    phase = .called attemptId := by
  cases phase with
  | free => cases owns
  | claimed | calling => exact absurd owns closed
  | called => exact congrArg _ (Option.some.inj owns)

/-- An attempt that was there before has kept its operation and its number. -/
theorem attempt?_earlier {attemptId : OpaqueId} {row : ExecutionAttempt} (moved : Later s s')
    (known : s.attempt? attemptId ≠ none) (found : s'.attempt? attemptId = some row) :
    ∃ old, s.attempt? attemptId = some old ∧ row.operationId = old.operationId ∧
      row.attemptNumber = old.attemptNumber := by
  obtain ⟨old, at_⟩ := Option.ne_none_iff_exists'.mp known
  obtain ⟨row', there, -, owner, number⟩ := moved.numbers.find? (·.1) at_
  obtain rfl := Option.some.inj (there.symm.trans found)
  exact ⟨old, at_, owner, number⟩

theorem Precedes.earlier {attemptId later : OpaqueId} (precedes : Precedes attemptId later s')
    (moved : Later s s') (known : s.attempt? attemptId ≠ none) (known' : s.attempt? later ≠ none) :
    Precedes attemptId later s := by
  obtain ⟨row, row', found, found', same, lower⟩ := precedes
  obtain ⟨old, at_, owner, number⟩ := attempt?_earlier moved known found
  obtain ⟨old', at_', owner', number'⟩ := attempt?_earlier moved known' found'
  refine ⟨old, old', at_, at_', ?_, ?_⟩
  · rw [← owner, same, owner']
  · rw [← number, ← number']
    exact lower

theorem not_precedes_self {attemptId : OpaqueId} : ¬ Precedes attemptId attemptId s := by
  rintro ⟨row, row', found, found', -, lower⟩
  obtain rfl := Option.some.inj (found.symm.trans found')
  exact absurd lower (lt_irrefl _)

/-- A claim finds its operation READY and numbers its attempt after those that are there. -/
theorem ClaimApplied.ready {attemptId : OpaqueId} (applied : ClaimApplied attemptId s s') :
    ∃ row operation, s'.attempt? attemptId = some row ∧
      s.operation? row.operationId = some operation ∧ operation.state = .ready ∧
      row.attemptNumber = (s.listAttempts row.operationId).length + 1 := by
  obtain ⟨command, op, descriptor, resourceIds, startedAt, started, result, ran, outcome, rfl, -, -,
    found⟩ := applied
  obtain ⟨answer, done, same⟩ := map_ok.mp ran
  obtain ⟨rfl, rfl⟩ := Prod.mk.inj same
  obtain ⟨loaded, made, -⟩ | ⟨_, -, -, -, -, refused, -⟩ | ⟨_, -, -, refused, -⟩ :=
    applyOperation_cases done
  · exact ⟨_, loaded, found, made.found, (Option.some.inj made.source).symm, rfl⟩
  · rw [outcome] at refused
    cases refused
  · rw [outcome] at refused
    cases refused

theorem attemptNumber_le {attemptId : OpaqueId} {row : ExecutionAttempt}
    (reachable : Reachable uuid5 s) (found : s.attempt? attemptId = some row) :
    row.attemptNumber ≤ (s.listAttempts row.operationId).length := by
  have listed : row ∈ s.listAttempts row.operationId := by
    rw [Store.listAttempts, List.mem_insertionSort]
    exact mem_select.mpr ⟨(find?_some found).1, decide_eq_true rfl⟩
  have number : row.attemptNumber ∈ (s.listAttempts row.operationId).map (·.attemptNumber) :=
    List.mem_map_of_mem listed
  rw [attemptNumbers_exact reachable, List.mem_range'_1] at number
  have counted : (s.listAttempts row.operationId).length = (s.attemptsOf row.operationId).length :=
    List.length_insertionSort ..
  omega

/-- A claimed attempt comes after every attempt that is there already. -/
theorem ClaimApplied.not_precedes {attemptId later : OpaqueId}
    (applied : ClaimApplied attemptId s s') (reachable : Reachable uuid5 s) (moved : Later s s')
    (known : s.attempt? later ≠ none) : ¬ Precedes attemptId later s' := by
  rintro ⟨first, second, found, found', same, lower⟩
  obtain ⟨row, operation, at_, -, -, number⟩ := applied.ready
  obtain rfl := Option.some.inj (found.symm.trans at_)
  obtain ⟨old, was, owner, kept⟩ := attempt?_earlier moved known found'
  have bound := attemptNumber_le reachable was
  rw [← owner, ← same, ← kept] at bound
  omega

/-- No earlier attempt of the operation is under way when an attempt is claimed. -/
theorem ClaimApplied.not_underway {attemptId earlier : OpaqueId}
    (applied : ClaimApplied attemptId s s') (moved : Later s s') (known : s.attempt? earlier ≠ none)
    (precedes : Precedes earlier attemptId s') : ¬ Underway earlier s := by
  rintro ⟨row, executing, at_, -, there, state, -⟩
  obtain ⟨claimed, operation, found, loaded, ready, -⟩ := applied.ready
  obtain ⟨first, second, found', found'', same, -⟩ := precedes
  obtain rfl := Option.some.inj (found''.symm.trans found)
  obtain ⟨old, was, owner, -⟩ := attempt?_earlier moved known found'
  obtain rfl := Option.some.inj (was.symm.trans at_)
  rw [← owner, same, loaded] at there
  obtain rfl := Option.some.inj there
  rw [ready] at state
  cases state

/-! ## The invariant -/

/-- What the events say of the phases, and the phases of the journal. -/
structure InFlight (t : List WorkEvent) (s : Store) (phases : Pid → Flight) : Prop where
  known : ∀ {pid attemptId}, (phases pid).attempt? = some attemptId → s.attempt? attemptId ≠ none
  owner : ∀ {pid pid' attemptId}, (phases pid).attempt? = some attemptId →
    (phases pid').attempt? = some attemptId → pid = pid'
  claim : ∀ {pid attemptId}, (phases pid).attempt? = some attemptId →
    ∃ label before after, .committed pid label before after ∈ t ∧
      ClaimApplied attemptId before after
  under : ∀ {pid attemptId}, (phases pid).open? = some attemptId → .crashed pid ∉ t →
    Underway attemptId s
  calls : ∀ {pid context request}, .began pid (.execute context request) ∈ t →
    phases pid = .calling context request ∨ phases pid = .called context.attemptId ∧
      ∃ answer, .returned pid (.execute context request) answer ∈ t
  answers : ∀ {pid context request answer}, .returned pid (.execute context request) answer ∈ t →
    phases pid = .called context.attemptId
  ordered : ∀ {pid pid' attemptId later}, (phases pid).attempt? = some attemptId →
    (phases pid').attempt? = some later → Precedes attemptId later s →
      phases pid = .called attemptId ∨ .crashed pid ∈ t
  serial : Serial t s

section Steps

variable {t : List WorkEvent} {phases : Pid → Flight} {e : WorkEvent}

theorem InFlight.attempt?_of_began (inFlight : InFlight t s phases) {pid : Pid}
    {context : ProviderExecutionContext} {request : ProviderExecutionRequest}
    (began : .began pid (.execute context request) ∈ t) :
    (phases pid).attempt? = some context.attemptId := by
  obtain calling | ⟨called, -⟩ := inFlight.calls began
  · rw [calling]; rfl
  · rw [called]; rfl

/-- An event that is about no call and no claim. -/
def Plainly (e : WorkEvent) : Prop :=
  (∀ pid context request, e ≠ .began pid (.execute context request)) ∧
    ∀ pid context request answer, e ≠ .returned pid (.execute context request) answer

/-- A step that changes no phase: the attempts of the others stay under way. -/
theorem InFlight.quiet (inFlight : InFlight t s phases) (moved : Later s s')
    (plainly : Plainly e)
    (under : ∀ {pid attemptId}, (phases pid).open? = some attemptId → .crashed pid ∉ t ++ [e] →
      Underway attemptId s → Underway attemptId s') : InFlight (t ++ [e]) s' phases := by
  have known : ∀ {pid attemptId}, (phases pid).attempt? = some attemptId →
      s'.attempt? attemptId ≠ none := fun owns => attempt?_stays moved (inFlight.known owns)
  have began : ∀ {pid context request}, .began pid (.execute context request) ∈ t ++ [e] →
      .began pid (.execute context request) ∈ t := by
    intro pid context request member
    rcases List.mem_append.mp member with old | new
    · exact old
    · exact absurd (List.mem_singleton.mp new).symm (plainly.1 _ _ _)
  refine ⟨known, inFlight.owner, ?_, ?_, ?_, ?_, ?_, ?_⟩
  · intro pid attemptId owns
    obtain ⟨label, before, after, member, applied⟩ := inFlight.claim owns
    exact ⟨label, before, after, List.mem_append_left _ member, applied⟩
  · intro pid attemptId open_ alive
    exact under open_ alive (inFlight.under open_ fun crashed =>
      alive (List.mem_append_left _ crashed))
  · intro pid context request member
    obtain calling | ⟨called, answer, returned⟩ := inFlight.calls (began member)
    · exact .inl calling
    · exact .inr ⟨called, answer, List.mem_append_left _ returned⟩
  · intro pid context request answer member
    rcases List.mem_append.mp member with old | new
    · exact inFlight.answers old
    · exact absurd (List.mem_singleton.mp new).symm (plainly.2 _ _ _ _)
  · intro pid pid' attemptId later owns owns' precedes
    obtain called | crashed := inFlight.ordered owns owns'
      (precedes.earlier moved (inFlight.known owns) (inFlight.known owns'))
    · exact .inl called
    · exact .inr (List.mem_append_left _ crashed)
  · intro u pid' context' request' v split pid context request member precedes
    obtain ⟨-, -, here⟩ | ⟨v', -, split⟩ := append_singleton_split split
    · exact absurd here (plainly.1 _ _ _)
    · have began' : .began pid' (.execute context' request') ∈ t := by rw [split]; simp
      refine inFlight.serial u pid' context' request' v' split pid context request (began member)
        (precedes.earlier moved ?_ ?_)
      · exact inFlight.known (inFlight.attempt?_of_began (began member))
      · exact inFlight.known (inFlight.attempt?_of_began began')

/-- What does not tell the new phase from the old one. -/
theorem on_update {β : Type} (f : Flight → β) {pid : Pid} {phase : Flight}
    (same : f phase = f (phases pid)) (other : Pid) :
    f (update phases pid phase other) = f (phases other) := by
  by_cases mine : other = pid
  · rw [mine, update_self, same]
  · rw [update_of_ne mine]

/-- A process that has its answer keeps it when another one goes on. -/
theorem update_called {pid other : Pid} {phase : Flight} {attemptId : OpaqueId}
    (waiting : phases pid ≠ .called attemptId) (called : phases other = .called attemptId) :
    update phases pid phase other = .called attemptId := by
  rw [update_of_ne]
  · exact called
  · rintro rfl
    exact waiting called

/-- The call of a claimed attempt begins after the calls of the earlier attempts. -/
theorem InFlight.serial_begin (inFlight : InFlight t s phases) {pid : Pid}
    {context : ProviderExecutionContext} {request : ProviderExecutionRequest}
    (claimed : phases pid = .claimed context.attemptId) (alive : .crashed pid ∉ t) :
    Serial (t ++ [.began pid (.execute context request)]) s := by
  have mine : (phases pid).attempt? = some context.attemptId := by rw [claimed]; rfl
  intro u pid' context' request' v split other context'' request'' member precedes
  obtain ⟨-, rfl, here⟩ | ⟨v', -, split⟩ := append_singleton_split split
  · cases here
    rcases List.mem_append.mp member with old | new
    · obtain called | crashed :=
        inFlight.ordered (inFlight.attempt?_of_began old) mine precedes
      · obtain calling | ⟨-, answer, returned⟩ := inFlight.calls old
        · exact nomatch called.symm.trans calling
        · exact .inl ⟨answer, returned⟩
      · exact .inr crashed
    · cases List.mem_singleton.mp new
      exact absurd precedes not_precedes_self
  · rcases List.mem_append.mp member with old | new
    · exact inFlight.serial u pid' context' request' v' split other context'' request'' old
        precedes
    · cases List.mem_singleton.mp new
      have began' : .began pid' (.execute context' request') ∈ t := by rw [split]; simp
      obtain called | crashed := inFlight.ordered mine (inFlight.attempt?_of_began began')
        precedes
      · exact nomatch claimed.symm.trans called
      · exact absurd crashed alive

/-- The process with a claimed attempt calls the provider for it. -/
theorem InFlight.begin (inFlight : InFlight t s phases) {pid : Pid}
    {context : ProviderExecutionContext} {request : ProviderExecutionRequest}
    (claimed : phases pid = .claimed context.attemptId) (alive : .crashed pid ∉ t) :
    InFlight (t ++ [.began pid (.execute context request)]) s
      (update phases pid (.calling context request)) := by
  have owns : ∀ other, (update phases pid (.calling context request) other).attempt? =
      (phases other).attempt? := on_update _ (by rw [claimed]; rfl)
  have opens : ∀ other, (update phases pid (.calling context request) other).open? =
      (phases other).open? := on_update _ (by rw [claimed]; rfl)
  have waiting : ∀ attemptId, phases pid ≠ .called attemptId :=
    fun _ called => nomatch claimed.symm.trans called
  have crashes : ∀ {other}, .crashed other ∈ t ++ [.began pid (.execute context request)] ↔
      .crashed other ∈ t := by simp
  refine ⟨?_, ?_, ?_, ?_, ?_, ?_, ?_, inFlight.serial_begin claimed alive⟩
  · intro other attemptId held
    exact inFlight.known (owns other ▸ held)
  · intro one other attemptId held held'
    exact inFlight.owner (owns one ▸ held) (owns other ▸ held')
  · intro other attemptId held
    obtain ⟨label, before, after, member, applied⟩ := inFlight.claim (owns other ▸ held)
    exact ⟨label, before, after, List.mem_append_left _ member, applied⟩
  · intro other attemptId open_ living
    exact inFlight.under (opens other ▸ open_) fun crashed => living (crashes.mpr crashed)
  · intro other context' request' member
    by_cases same : other = pid
    · subst same
      rcases List.mem_append.mp member with old | new
      · obtain calling | ⟨called, -⟩ := inFlight.calls old
        · exact nomatch claimed.symm.trans calling
        · exact nomatch claimed.symm.trans called
      · cases List.mem_singleton.mp new
        exact .inl (update_self ..)
    · rw [update_of_ne same]
      rcases List.mem_append.mp member with old | new
      · obtain calling | ⟨called, answer, returned⟩ := inFlight.calls old
        · exact .inl calling
        · exact .inr ⟨called, answer, List.mem_append_left _ returned⟩
      · cases List.mem_singleton.mp new
        exact absurd rfl same
  · intro other context' request' answer member
    have old : .returned other (.execute context' request') answer ∈ t := by simpa using member
    exact update_called (waiting _) (inFlight.answers old)
  · intro one other attemptId later held held' precedes
    obtain called | crashed := inFlight.ordered (owns one ▸ held) (owns other ▸ held') precedes
    · exact .inl (update_called (waiting _) called)
    · exact .inr (crashes.mpr crashed)

/-- The provider answers. -/
theorem InFlight.answer (inFlight : InFlight t s phases) {pid : Pid}
    {context : ProviderExecutionContext} {request : ProviderExecutionRequest}
    {answer : Answer (.execute context request)} (calling : phases pid = .calling context request) :
    InFlight (t ++ [.returned pid (.execute context request) answer]) s
      (update phases pid (.called context.attemptId)) := by
  have owns : ∀ other, (update phases pid (.called context.attemptId) other).attempt? =
      (phases other).attempt? := on_update _ (by rw [calling]; rfl)
  have crashes : ∀ {other},
      .crashed other ∈ t ++ [.returned pid (.execute context request) answer] ↔
        .crashed other ∈ t := by simp
  have began : ∀ {other context' request'}, .began other (.execute context' request') ∈
      t ++ [.returned pid (.execute context request) answer] →
      .began other (.execute context' request') ∈ t := by simp
  have waiting : ∀ attemptId, phases pid ≠ .called attemptId :=
    fun _ called => nomatch calling.symm.trans called
  refine ⟨?_, ?_, ?_, ?_, ?_, ?_, ?_, ?_⟩
  · intro other attemptId held
    exact inFlight.known (owns other ▸ held)
  · intro one other attemptId held held'
    exact inFlight.owner (owns one ▸ held) (owns other ▸ held')
  · intro other attemptId held
    obtain ⟨label, before, after, member, applied⟩ := inFlight.claim (owns other ▸ held)
    exact ⟨label, before, after, List.mem_append_left _ member, applied⟩
  · intro other attemptId open_ living
    by_cases same : other = pid
    · rw [same, update_self] at open_
      cases open_
    · rw [update_of_ne same] at open_
      exact inFlight.under open_ fun crashed => living (crashes.mpr crashed)
  · intro other context' request' member
    obtain calling' | ⟨called, answer', returned⟩ := inFlight.calls (began member)
    · by_cases same : other = pid
      · subst same
        obtain ⟨rfl, rfl⟩ := Flight.calling.inj (calling.symm.trans calling')
        exact .inr ⟨update_self .., answer, by simp⟩
      · rw [update_of_ne same]
        exact .inl calling'
    · exact .inr ⟨update_called (waiting _) called, answer', List.mem_append_left _ returned⟩
  · intro other context' request' answer' member
    rcases List.mem_append.mp member with old | new
    · exact update_called (waiting _) (inFlight.answers old)
    · cases List.mem_singleton.mp new
      exact update_self ..
  · intro one other attemptId later held held' precedes
    obtain called | crashed := inFlight.ordered (owns one ▸ held) (owns other ▸ held') precedes
    · exact .inl (update_called (waiting _) called)
    · exact .inr (crashes.mpr crashed)
  · intro u pid' context' request' v split other context'' request'' member precedes
    obtain ⟨-, -, here⟩ | ⟨v', -, split⟩ := append_singleton_split split
    · cases here
    · exact inFlight.serial u pid' context' request' v' split other context'' request''
        (began member) precedes

theorem attempt?_claims {pid other : Pid} {attemptId held : OpaqueId} :
    (update phases pid (.claimed attemptId) other).attempt? = some held ↔
      other = pid ∧ held = attemptId ∨ other ≠ pid ∧ (phases other).attempt? = some held := by
  by_cases same : other = pid
  · rw [same, update_self]
    simp [Flight.attempt?, eq_comm]
  · rw [update_of_ne same]
    simp [same]

/-- A free process claims an attempt: the earlier ones of the operation are over. -/
theorem InFlight.claims (inFlight : InFlight t s phases) {pid : Pid} {label : Purpose}
    {attemptId : OpaqueId} (reachable : Reachable uuid5 s) (moved : Later s s')
    (free : phases pid = .free) (applied : ClaimApplied attemptId s s')
    (kept : KeepsFlights s s') (under : Underway attemptId s') :
    InFlight (t ++ [.committed pid label s s']) s' (update phases pid (.claimed attemptId)) := by
  have quiet : InFlight (t ++ [.committed pid label s s']) s' phases :=
    inFlight.quiet moved ⟨by simp, by simp⟩ fun _ _ under => kept _ under
  have absent : s.attempt? attemptId = none := by
    obtain ⟨_, _, _, _, _, _, _, -, -, -, -, absent, -⟩ := applied
    exact absent
  have new : ∀ {other}, (phases other).attempt? ≠ some attemptId :=
    fun holds => inFlight.known holds absent
  refine ⟨?_, ?_, ?_, ?_, ?_, ?_, ?_, quiet.serial⟩
  · intro other attemptId' holds
    obtain ⟨-, rfl⟩ | ⟨-, holds⟩ := attempt?_claims.mp holds
    · obtain ⟨row, -, found, -⟩ := under
      rw [found]
      exact Option.some_ne_none row
    · exact quiet.known holds
  · intro one other attemptId' holds holds'
    obtain ⟨mine, rfl⟩ | ⟨-, holds⟩ := attempt?_claims.mp holds <;>
      obtain ⟨same, is⟩ | ⟨-, holds'⟩ := attempt?_claims.mp holds'
    · exact mine.trans same.symm
    · exact absurd holds' new
    · exact absurd (is ▸ holds) new
    · exact quiet.owner holds holds'
  · intro other attemptId' holds
    obtain ⟨rfl, rfl⟩ | ⟨-, holds⟩ := attempt?_claims.mp holds
    · exact ⟨label, s, s', by simp, applied⟩
    · exact quiet.claim holds
  · intro other attemptId' open_ living
    by_cases same : other = pid
    · rw [same, update_self] at open_
      obtain rfl := Option.some.inj open_
      exact under
    · rw [update_of_ne same] at open_
      exact quiet.under open_ living
  · intro other context request member
    rw [update_of_ne]
    · exact quiet.calls member
    · rintro rfl
      have owns := quiet.attempt?_of_began member
      rw [free] at owns
      cases owns
  · intro other context request answer member
    refine update_called (fun called => ?_) (quiet.answers member)
    exact nomatch free.symm.trans called
  · intro one other earlier later holds holds' precedes
    obtain ⟨-, rfl⟩ | ⟨apart, owns⟩ := attempt?_claims.mp holds <;>
      obtain ⟨-, is⟩ | ⟨-, owns'⟩ := attempt?_claims.mp holds'
    · exact absurd (is ▸ precedes) not_precedes_self
    · exact absurd precedes (applied.not_precedes reachable moved (inFlight.known owns'))
    · rw [update_of_ne apart]
      by_cases open_ : (phases one).open? = some earlier
      · refine .inr (by_contra fun living => ?_)
        have alive : .crashed one ∉ t := fun crashed => living (List.mem_append_left _ crashed)
        exact applied.not_underway moved (inFlight.known owns) (is ▸ precedes)
          (inFlight.under open_ alive)
      · exact .inl (Flight.called_of_closed owns open_)
    · rw [update_of_ne apart]
      exact quiet.ordered owns owns' precedes

/-- Whom an abandoned attempt belongs to, if anyone of the run, is not waiting for it. -/
theorem InFlight.not_abandoned (inFlight : InFlight t s phases) {pid other : Pid}
    {label : Purpose} {attemptId : OpaqueId} (patient : Patient (t ++ [.committed pid label s s']))
    (abandoned : Abandons attemptId label s) (open_ : (phases other).open? = some attemptId) :
    .crashed other ∈ t := by
  obtain ⟨label', before, after, member, applied⟩ :=
    inFlight.claim (Flight.attempt?_of_open open_)
  obtain ⟨context, request, answer, rfl, returned⟩ | crashed := patient t pid label s s' []
    attemptId rfl abandoned other label' before after member applied
  · rw [inFlight.answers returned] at open_
    cases open_
  · exact crashed

theorem InFlight.step {s₀ : Store} {c c' : WorkConfig} {phases' : Pid → Flight}
    {Q : Except Persistence.Raised Unit → Flight → Store → Prop}
    (inFlight : InFlight t c.store phases) (patient : Patient (t ++ [e]))
    (run : Run (WorkCall.service registry uuid5) s₀ t c)
    (last : Step (WorkCall.service registry uuid5) c e c')
    (turns : Turns (journalContract uuid5) flightTrack Q c.store phases e phases') :
    InFlight (t ++ [e]) c'.store phases' := by
  have alive := run.not_crashed last
  cases turns with
  | spawned =>
    cases last
    exact inFlight.quiet (.refl _) ⟨by simp, by simp⟩ fun _ _ under => under
  | raised =>
    cases last
    exact inFlight.quiet (.refl _) ⟨by simp, by simp⟩ fun _ _ under => under
  | finished =>
    cases last
    exact inFlight.quiet (.refl _) ⟨by simp, by simp⟩ fun _ _ under => under
  | crashed =>
    cases last
    exact inFlight.quiet (.refl _) ⟨by simp, by simp⟩ fun _ _ under => under
  | @committed pid label s' phase' inv guaranteed permitted commits =>
    obtain ⟨-, moved⟩ := journalContract_sound.kept inv guaranteed
    cases last
    generalize now : phases pid = phase at commits
    cases commits with
    | keeps kept =>
      rw [← now, update_eq_self]
      exact inFlight.quiet moved ⟨by simp, by simp⟩ fun _ _ under => kept _ under
    | claims applied kept under => exact inFlight.claims inv moved now applied kept under
    | @settles attemptId _ _ _ kept =>
      rw [← now, update_eq_self]
      refine inFlight.quiet moved ⟨by simp, by simp⟩ fun {other attemptId'} open_ _ under =>
        kept _ ?_ under
      rintro rfl
      have mine : (phases pid).attempt? = some attemptId' := by rw [now]; rfl
      obtain rfl := inFlight.owner mine (Flight.attempt?_of_open open_)
      rw [now] at open_
      cases open_
    | @abandons attemptId _ _ _ abandoned kept =>
      rw [← now, update_eq_self]
      refine inFlight.quiet moved ⟨by simp, by simp⟩ fun open_ living under => kept _ ?_ under
      rintro rfl
      exact living (List.mem_append_left _ (inFlight.not_abandoned patient abandoned open_))
  | @began pid query phase' begins =>
    cases last
    generalize now : phases pid = phase at begins
    cases begins with
    | calm harmless =>
      rw [← now, update_eq_self]
      refine inFlight.quiet (.refl _) ⟨fun other context request same => ?_, by simp⟩
        fun _ _ under => under
      cases same
      exact harmless context request rfl
    | calls => exact inFlight.begin now alive
  | @returned pid query answer phase' returns =>
    cases last
    generalize now : phases pid = phase at returns
    cases returns with
    | calm harmless =>
      rw [← now, update_eq_self]
      refine inFlight.quiet (.refl _) ⟨by simp, fun other context request answer same => ?_⟩
        fun _ _ under => under
      cases same
      exact harmless context request rfl
    | called => exact inFlight.answer now

end Steps

/-! ## Runs -/

theorem Patient.earlier {t t' : List WorkEvent} (patient : Patient (t ++ t')) : Patient t := by
  intro u pid label before after v attemptId split
  refine patient u pid label before after (v ++ t') attemptId ?_
  rw [split, List.append_assoc, List.cons_append]

theorem Tracked.inFlight {s₀ : Store} {t : List WorkEvent} {c : WorkConfig}
    {phases : Pid → Flight} {Q : Except Persistence.Raised Unit → Flight → Store → Prop}
    (patient : Patient t)
    (tracked : Tracked (journalContract uuid5) flightTrack Q (WorkCall.service registry uuid5) .free
      s₀ t c phases) : InFlight t c.store phases := by
  induction tracked with
  | start =>
    refine ⟨nofun, nofun, nofun, nofun, nofun, nofun, nofun, ?_⟩
    intro u pid context request v split
    cases u <;> cases split
  | step earlier last turns ih => exact (ih patient.earlier).step patient earlier.run last turns

/-- As long as nobody abandons an attempt whose process is about to call or waits for its answer,
the provider calls of an operation follow each other. -/
theorem calls_serial {s₀ : Store} (reachable : Reachable uuid5 s₀) {t : List WorkEvent}
    {c : WorkConfig} (run : Run (WorkCall.service registry uuid5) s₀ t c) (patient : Patient t) :
    Serial t c.store := by
  obtain ⟨phases, tracked, -⟩ := run.tracked journalContract_sound
    (fun call _ _ => flights_worked.workCall call) (fun _ _ _ _ _ => trivial) reachable
  exact (Tracked.inFlight patient tracked).serial

/-! ## Runs on the sample operation -/

def executeCall? : WorkEvent → Option (Pid × OpaqueId)
  | .began pid (.execute context _) => some (pid, context.attemptId)
  | _ => none

/-- The commit marks an operation UNKNOWN without evidence. -/
def marksUnknown : WorkEvent → Bool
  | .committed _ (.submit (.operation command)) _ _ =>
    decide (command.kind = .executionUnknown ∧ command.body.completedAttempt? = none)
  | _ => false

theorem patient_of_unmarked {t : List WorkEvent} (unmarked : ∀ e ∈ t, marksUnknown e = false) :
    Patient t := by
  rintro u pid label before after v attemptId rfl ⟨-, command, -, rfl, kind, without, -⟩
  have marked := unmarked (.committed pid (.submit (.operation command)) before after) (by simp)
  simp only [marksUnknown, kind, without, and_self, decide_true] at marked
  cases marked

def workTurn (pid : Pid) (call : WorkCall) (steps : Nat)
    (answers : (query : Query) → Answer query) : List (Choice WorkCall Query Answer) :=
  .spawn pid call :: List.replicate steps (.step pid answers)

/-- The first delivery of a message about the sample operation. -/
def delivered (outboxEventId : String) (command : WorkCommand) : WorkCall :=
  .deliver ⟨⟨outboxEventId⟩, idOf "op", command, none⟩ 5 1 3

/-- The provider declines the first attempt; the next message makes a second one. -/
def retried : List WorkEvent × WorkConfig :=
  replay (WorkCall.service naturalRegistry idOf)
    (workTurn 0 (delivered "first" .execute) 18 decliningAnswers ++
      workTurn 1 (delivered "second" .execute) 18 decliningAnswers) (.initial readyStart)

theorem calls_serial_retried :
    retried.1.filterMap executeCall? =
        [(0, idOf "stateback:first:execute:attempt"),
          (1, idOf "stateback:second:execute:attempt")] ∧
      Serial retried.1 retried.2.store := by
  have ran : Run (WorkCall.service naturalRegistry idOf) readyStart retried.1
      retried.2 := replay_run _ _
  have reachable : Reachable idOf readyStart := ⟨_, rfl⟩
  have unmarked : ∀ e ∈ retried.1, marksUnknown e = false := by decide +kernel
  exact ⟨by decide +kernel, calls_serial reachable ran (patient_of_unmarked unmarked)⟩

end Stateback.Concurrency
