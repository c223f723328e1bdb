import Mathlib.Data.List.Range
/-!
# Append-only event logs

A log numbers its entries from one and some of its entries record a move of the thing it is
about.  A log is well formed when the numbers have no gap, and the moves form a chain from an
initial state to the current one, each legal and each raising the version by exactly one.
-/

namespace EventLog

/-- A recorded change of state and the version it led to. -/
structure Move (σ : Type) where
  source : σ
  target : σ
  version : Nat

/-- A numbered entry, with the move it records if it records one. -/
structure Entry (σ : Type) where
  sequence : Nat
  move : Option (Move σ)

variable {σ : Type} {legal : σ → σ → Prop}

def moves (log : List (Entry σ)) : List (Move σ) := log.filterMap (·.move)

@[simp] theorem moves_append (first second : List (Entry σ)) :
    moves (first ++ second) = moves first ++ moves second :=
  List.filterMap_append

/-- The moves lead from `here` at `version` to `final`, one legal version at a time. -/
def Chain (legal : σ → σ → Prop) : σ → Nat → List (Move σ) → σ → Prop
  | here, _, [], final => here = final
  | here, version, move :: rest, final =>
    move.source = here ∧ move.version = version + 1 ∧ legal move.source move.target ∧
      Chain legal move.target (version + 1) rest final

theorem chain_append {here final : σ} {version : Nat} {first second : List (Move σ)} :
    Chain legal here version (first ++ second) final ↔
      ∃ middle, Chain legal here version first middle ∧
        Chain legal middle (version + first.length) second final := by
  induction first generalizing here version with
  | nil => simp [Chain]
  | cons move rest ih =>
    simp only [List.cons_append, Chain, List.length_cons, ih]
    constructor
    · rintro ⟨source, step, allowed, middle, before, after⟩
      exact ⟨middle, ⟨source, step, allowed, before⟩, by
        rwa [Nat.add_right_comm, Nat.add_assoc] at after⟩
    · rintro ⟨middle, ⟨source, step, allowed, before⟩, after⟩
      exact ⟨source, step, allowed, middle, before, by
        rwa [Nat.add_right_comm, Nat.add_assoc]⟩

theorem Chain.versions {here final : σ} {version : Nat} {log : List (Move σ)}
    (chain : Chain legal here version log final) :
    log.map (·.version) = List.range' (version + 1) log.length := by
  induction log generalizing here version with
  | nil => rfl
  | cons move rest ih =>
    obtain ⟨-, step, -, tail⟩ := chain
    rw [List.map_cons, List.length_cons, List.range'_succ, ih tail, step]

theorem Chain.legal_of_mem {here final : σ} {version : Nat} {log : List (Move σ)}
    (chain : Chain legal here version log final) {move : Move σ} (member : move ∈ log) :
    legal move.source move.target := by
  induction log generalizing here version with
  | nil => cases member
  | cons head rest ih =>
    obtain ⟨-, -, allowed, tail⟩ := chain
    rcases List.mem_cons.mp member with rfl | later
    · exact allowed
    · exact ih tail later

/-- A log of something created in `initial` at version `start`, now in `state` at `version`. -/
structure WellFormed (legal : σ → σ → Prop) (initial : σ) (start : Nat) (state : σ)
    (version : Nat) (log : List (Entry σ)) : Prop where
  sequences : log.map (·.sequence) = List.range' 1 log.length
  chain : Chain legal initial start (moves log) state
  versionCount : version = start + (moves log).length

variable {initial state : σ} {start version : Nat} {log entries : List (Entry σ)}

private theorem sequences_append (before : log.map (·.sequence) = List.range' 1 log.length)
    (numbered : entries.map (·.sequence) = List.range' (log.length + 1) entries.length) :
    (log ++ entries).map (·.sequence) = List.range' 1 (log ++ entries).length := by
  rw [List.map_append, List.length_append, before, numbered, Nat.add_comm log.length 1,
    List.range'_append_1]

/-- Entries that record no move keep the log well formed for the same state and version. -/
theorem WellFormed.append_quiet (wf : WellFormed legal initial start state version log)
    (numbered : entries.map (·.sequence) = List.range' (log.length + 1) entries.length)
    (quiet : moves entries = []) :
    WellFormed legal initial start state version (log ++ entries) where
  sequences := sequences_append wf.sequences numbered
  chain := by
    rw [moves_append, quiet, List.append_nil]
    exact wf.chain
  versionCount := by
    rw [moves_append, quiet, List.append_nil]
    exact wf.versionCount

/-- Entries that record one legal move from the current state advance the version by one. -/
theorem WellFormed.append_move (wf : WellFormed legal initial start state version log)
    (numbered : entries.map (·.sequence) = List.range' (log.length + 1) entries.length)
    {move : Move σ} (single : moves entries = [move]) (source : move.source = state)
    (step : move.version = version + 1) (allowed : legal move.source move.target) :
    WellFormed legal initial start move.target (version + 1) (log ++ entries) := by
  refine ⟨sequences_append wf.sequences numbered, ?_, ?_⟩
  · rw [moves_append, single, chain_append]
    exact ⟨state, wf.chain, source, wf.versionCount ▸ step, allowed, rfl⟩
  · rw [moves_append, single, List.length_append, List.length_singleton, wf.versionCount,
      Nat.add_assoc]

/-- The largest number of a gap-free log is its length. -/
theorem largest_sequence {numbers : List Nat} {n : Nat} (gapFree : numbers = List.range' 1 n) :
    numbers.foldr max 0 = n := by
  have top : ∀ start n, (List.range' start (n + 1)).foldr max 0 = start + n := by
    intro start n
    induction n generalizing start with
    | zero => simp
    | succ n ih =>
      rw [List.range'_succ, List.foldr_cons, ih]
      omega
  subst gapFree
  cases n with
  | zero => rfl
  | succ n => rw [top, Nat.add_comm]

end EventLog
