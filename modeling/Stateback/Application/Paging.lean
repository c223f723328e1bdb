import Stateback.Application.Boundary
/-!
# Following the audit pages

The events of an operation are numbered without a gap and only ever appended.  So the pages of
`audit_page` make up the whole audit that the last of them saw, whatever was appended in between.
-/

namespace Stateback.Application

open Domain Persistence Invariants KeyedTable KeyedTable.Table Pages

variable {uuid5 : String → OpaqueId} {s s' : Store} {operationId : OpaqueId} {limit : Nat}

/-! ## The audit of an operation -/

theorem auditEventsOf_sequences (reachable : Reachable uuid5 s) (operationId : OpaqueId) :
    (s.auditEventsOf operationId).map (·.sequence) =
      List.range' 1 (s.auditEventsOf operationId).length := by
  have chained := auditChained_of_reachable reachable operationId
  cases found : s.operation? operationId with
  | none => rw [chained.absent found]; rfl
  | some operation => exact (version_matches_audit_chain reachable found).1

/-- A step appends to the audit. -/
theorem auditEvents_step {action : JournalAction} (taken : JournalStep action s s') :
    ∃ events, s'.auditEvents.rows = s.auditEvents.rows ++ events := by
  cases taken with
  | unchanged same => exact ⟨[], by rw [same, List.append_nil]⟩
  | created _ _ made => exact ⟨_, made.auditEvents⟩
  | moved _ _ _ made => exact ⟨_, made.auditEvents⟩
  | progressed _ _ _ _ made => exact ⟨_, made.written.auditEvents⟩
  | escalated _ _ made => exact ⟨_, made.auditEvents⟩
  | republished _ _ _ _ made => exact ⟨_, made.auditEvents⟩
  | published _ same => exact ⟨[], by rw [same, List.append_nil]⟩
  | evidencePersisted _ _ _ same => exact ⟨[], by rw [same, List.append_nil]⟩
  | resultPersisted _ _ same => exact ⟨[], by rw [same, List.append_nil]⟩

/-- The audit of an operation only grows at its end. -/
theorem auditEventsOf_run (uuid5 : String → OpaqueId) (s : Store) (actions : List JournalAction)
    (operationId : OpaqueId) :
    s.auditEventsOf operationId <+: (run uuid5 s actions).auditEventsOf operationId := by
  have step : ∀ action t t', s.auditEventsOf operationId <+: t.auditEventsOf operationId → True →
      JournalStep action t t' → s.auditEventsOf operationId <+: t'.auditEventsOf operationId := by
    intro action t t' before _ taken
    obtain ⟨events, rows⟩ := auditEvents_step taken
    refine before.trans ⟨events.filter fun row => decide (row.operationId = operationId), ?_⟩
    rw [Store.auditEventsOf, Store.auditEventsOf, select, select, rows, List.filter_append]
  exact run_preserves step actions (stepwise_true uuid5 s actions) List.prefix_rfl

/-! ## One page -/

/-- What is left after the events that were read has the numbers after theirs. -/
theorem sequences_split {done rest : List AuditEvent}
    (numbered : (done ++ rest).map (·.sequence) = List.range' 1 (done ++ rest).length) :
    done.map (·.sequence) = List.range' 1 done.length ∧
      rest.map (·.sequence) = List.range' (1 + done.length) rest.length := by
  rw [List.map_append, List.length_append, ← List.range'_append_1] at numbered
  exact List.append_inj numbered (by simp)

/-- The number of the last event that was read is how many were. -/
theorem lastSequence {done : List AuditEvent}
    (numbered : done.map (·.sequence) = List.range' 1 done.length) :
    (done.getLast?.map (·.sequence)).getD 0 = done.length := by
  rw [← List.getLast?_map, numbered]
  cases done.length with
  | zero => rfl
  | succ n => simp [List.getLast?_range']

theorem auditRows_eq (reachable : Reachable uuid5 s) {done rest : List AuditEvent}
    (split : s.auditEventsOf operationId = done ++ rest) :
    auditRows operationId done.length limit s = rest.take (limit + 1) := by
  have numbered := auditEventsOf_sequences reachable operationId
  rw [split] at numbered
  obtain ⟨before, after⟩ := sequences_split numbered
  have filtered : (s.auditEvents.select fun row => decide (row.operationId = operationId) &&
      decide ((done.length : Int) < row.sequence)) = rest := by
    have both : (s.auditEvents.select fun row => decide (row.operationId = operationId) &&
        decide ((done.length : Int) < row.sequence)) =
          (s.auditEventsOf operationId).filter fun row =>
            decide ((done.length : Int) < row.sequence) := by
      rw [Store.auditEventsOf, select, select, List.filter_filter]
      exact List.filter_congr fun row _ => Bool.and_comm _ _
    have early : done.filter (fun row => decide ((done.length : Int) < row.sequence)) = [] := by
      refine List.filter_eq_nil_iff.mpr fun row member => ?_
      have inside : row.sequence ∈ done.map (·.sequence) := List.mem_map_of_mem member
      rw [before, List.mem_range'_1] at inside
      rw [decide_eq_true_eq]
      omega
    have late : rest.filter (fun row => decide ((done.length : Int) < row.sequence)) = rest := by
      refine List.filter_eq_self.mpr fun row member => ?_
      have inside : row.sequence ∈ rest.map (·.sequence) := List.mem_map_of_mem member
      rw [after, List.mem_range'_1] at inside
      exact decide_eq_true (by omega)
    rw [both, split, List.filter_append, early, late, List.nil_append]
  have sorted : rest.Pairwise fun a b => a.sequence ≤ b.sequence := by
    have ordered := List.pairwise_lt_range' (s := 1 + done.length) (n := rest.length)
    rw [← after, List.pairwise_map] at ordered
    exact ordered.imp fun lower => Nat.le_of_lt lower
  unfold auditRows
  rw [filtered, sorted.insertionSort_eq]

/-- The page after the events that were read, as a client asks for it. -/
def fetchAudit (operationId : OpaqueId) (limit : Nat) (s : Store) (start : Option Nat) :
    Option (Page AuditEvent Nat) :=
  some (auditPageAt operationId (start.getD 0) limit s)

theorem fetchAudit_cuts (reachable : Reachable uuid5 s) {done rest : List AuditEvent}
    (split : s.auditEventsOf operationId = done ++ rest) :
    fetchAudit operationId limit s (done.getLast?.map (·.sequence)) =
      some (cutAt (·.sequence) limit rest) := by
  have numbered := auditEventsOf_sequences reachable operationId
  rw [split] at numbered
  have taken : (rest.take (limit + 1)).take limit = rest.take limit := by
    rw [List.take_take, Nat.min_eq_left (Nat.le_succ limit)]
  have longer : limit < (rest.take (limit + 1)).length ↔ limit < rest.length := by
    rw [List.length_take]
    omega
  unfold fetchAudit auditPageAt cutAt
  rw [lastSequence (sequences_split numbered).1, auditRows_eq reachable split]
  simp only [taken, longer]

/-! ## All pages -/

/-- What any processes do between two pages. -/
def Grows (uuid5 : String → OpaqueId) (s s' : Store) : Prop := ∃ actions, run uuid5 s actions = s'

/-- Whatever is appended while a client follows the pages: once a page names no next, the pages are
the audit of the operation as that page saw it, every event once and in its order. -/
theorem audit_pages_whole {last : Store} {pages : List (List AuditEvent)}
    (reachable : Reachable uuid5 s) (positive : 1 ≤ limit)
    (trail : Trails (Grows uuid5) (fetchAudit operationId limit) s none pages last) :
    pages.flatten = last.auditEventsOf operationId ∧
      pages.flatten.map (·.sequence) = List.range' 1 pages.flatten.length ∧
      s.auditEventsOf operationId <+: pages.flatten := by
  have kept : ∀ t t', Reachable uuid5 t ∧ s.auditEventsOf operationId <+:
      t.auditEventsOf operationId → Grows uuid5 t t' →
        (Reachable uuid5 t' ∧ s.auditEventsOf operationId <+: t'.auditEventsOf operationId) ∧
          t.auditEventsOf operationId <+: t'.auditEventsOf operationId := by
    rintro t _ ⟨⟨earlier, rfl⟩, before⟩ ⟨actions, rfl⟩
    have grew := auditEventsOf_run uuid5 (run uuid5 .empty earlier) actions operationId
    exact ⟨⟨⟨earlier ++ actions, run_append ..⟩, before.trans grew⟩, grew⟩
  obtain ⟨⟨final, before⟩, whole⟩ := trails_whole positive kept
    (fun t inv done rest split => fetchAudit_cuts inv.1 split) trail ⟨reachable, List.prefix_rfl⟩
    [] _ rfl rfl
  rw [List.nil_append] at whole
  rw [← whole]
  exact ⟨rfl, whole ▸ auditEventsOf_sequences final operationId, before⟩

/-- The attempt is claimed between the first page and the second. -/
def claimedJournal : Store :=
  run idOf allowedJournal
    [.transition (sampleCommand 2 2 "audit-executing"
      (.claimExecution Runtime.sampleAttempt (idOf "audit-attempt")))]

theorem audit_pages_whole_claimed : ∃ pages : List (List AuditEvent),
    pages.map (·.map (·.sequence)) = [[1, 2], [3, 4], [5]] ∧
      pages.flatten = claimedJournal.auditEventsOf (idOf "op") := by
  have page : ∀ s n next, (auditPageAt (idOf "op") n 2 s).next = next →
      auditPageAt (idOf "op") n 2 s = ⟨(auditPageAt (idOf "op") n 2 s).items, next⟩ := by
    rintro s n _ rfl
    rfl
  have first := page allowedJournal 0 (some 2) (by decide +kernel)
  have second := page claimedJournal 2 (some 4) (by decide +kernel)
  have third := page claimedJournal 4 none (by decide +kernel)
  refine ⟨[_, _, _], ?_, (audit_pages_whole allowedJournal_reachable (by decide)
    (.more (congrArg some first) ⟨_, rfl⟩ (.more (congrArg some second) ⟨[], rfl⟩
      (.last (congrArg some third))))).1⟩
  decide +kernel

end Stateback.Application
