import DistributedSmb.Domain.Evolution
import DistributedSmb.Shared.Messages
import DistributedSmb.Library.Ticks

/-!
# Client-side prediction

`application/reconciliation/prediction_engine.py`: the bounded history of predicted inputs, and the
engine that adopts an authoritative snapshot and replays what the snapshot has not seen. `now` is
the clock of the ticks, `sentAt` the clock that stamps an entry; the logged round-trip time is left
out.
-/

namespace DistributedSmb

open Library

structure InputHistoryEntry where
  sequenceNumber : ℤ
  inputState : InputState
  dt : ℚ := tickInterval
  sentAt : ℚ := 0
  deriving DecidableEq

/-- A deque with `maxlen = capacity`. -/
structure InputHistoryBuffer where
  capacity : ℕ
  entries : List InputHistoryEntry
  bounded : entries.length ≤ capacity
  deriving DecidableEq

namespace InputHistoryBuffer

def empty (capacity : ℕ) : InputHistoryBuffer := ⟨capacity, [], Nat.zero_le _⟩

/-- Appending to a full deque drops its oldest entry. -/
def push (b : InputHistoryBuffer) (entry : InputHistoryEntry) : InputHistoryBuffer where
  capacity := b.capacity
  entries := (b.entries ++ [entry]).drop ((b.entries ++ [entry]).length - b.capacity)
  bounded := by
    rw [List.length_drop]
    omega

/-- Drop acknowledged entries; the caller also gets the most recently acknowledged one. -/
def acknowledge (b : InputHistoryBuffer) (sequenceNumber : ℤ) :
    Option InputHistoryEntry × InputHistoryBuffer :=
  ((b.entries.takeWhile fun e => e.sequenceNumber ≤ sequenceNumber).getLast?,
    { capacity := b.capacity
      entries := b.entries.dropWhile fun e => e.sequenceNumber ≤ sequenceNumber
      bounded := (List.dropWhile_sublist _).length_le.trans b.bounded })

def clear (b : InputHistoryBuffer) : InputHistoryBuffer := empty b.capacity

/-- The sequence numbers of the buffered entries, oldest first. -/
def sequenceNumbers (b : InputHistoryBuffer) : List ℤ :=
  b.entries.map InputHistoryEntry.sequenceNumber

@[simp] theorem capacity_push (b : InputHistoryBuffer) (entry : InputHistoryEntry) :
    (b.push entry).capacity = b.capacity := rfl

@[simp] theorem capacity_acknowledge (b : InputHistoryBuffer) (s : ℤ) :
    (b.acknowledge s).2.capacity = b.capacity := rfl

@[simp] theorem capacity_clear (b : InputHistoryBuffer) : b.clear.capacity = b.capacity := rfl

@[simp] theorem entries_clear (b : InputHistoryBuffer) : b.clear.entries = [] := rfl

@[simp] theorem length_sequenceNumbers (b : InputHistoryBuffer) :
    b.sequenceNumbers.length = b.entries.length := List.length_map _

theorem sequenceNumbers_acknowledge (b : InputHistoryBuffer) (s : ℤ) :
    (b.acknowledge s).2.sequenceNumbers = b.sequenceNumbers.dropWhile (· ≤ s) := by
  simp only [sequenceNumbers, acknowledge, List.dropWhile_map]
  rfl

end InputHistoryBuffer

structure PredictionEngine where
  engine : GameEngine
  localPlayerId : PlayerId
  buffer : InputHistoryBuffer
  deriving DecidableEq

namespace PredictionEngine

/-- The arguments of the tick that predicts, and later replays, one input. -/
def tickArgs (pid : PlayerId) (inputState : InputState) (dt now : ℚ) : GameEngine.TickArgs where
  dt := dt
  inputs := Dict.ofList [(pid, inputState)]
  now := now

def predict (p : PredictionEngine) (inputState : InputState) (dt sentAt : ℚ) : PredictionEngine :=
  { p with
    buffer := p.buffer.push
      { sequenceNumber := p.engine.worldState.sequenceNumber + 1
        inputState := inputState
        dt := dt
        sentAt := sentAt } }

/-- The snapshot's world around the client's own blocks, power-ups and gates. -/
def adopt (p : PredictionEngine) (w : WorldState) : GameEngine :=
  let localEnv := p.engine.worldState.environment
  { p.engine with
    worldState :=
      { w with
        environment :=
          { w.environment with
            destructibleBlocks := localEnv.destructibleBlocks
            powerUps := localEnv.powerUps
            cooperativeGates := localEnv.cooperativeGates } } }

/-- What is left to replay over a snapshot: a client more than a buffer ahead drops everything. -/
def retained (p : PredictionEngine) (w : WorldState) : InputHistoryBuffer :=
  let buffer := (p.buffer.acknowledge w.sequenceNumber).2
  if p.engine.worldState.sequenceNumber > w.sequenceNumber + p.buffer.capacity then buffer.clear
  else buffer

def replayPending (pid : PlayerId) (now : ℚ) (engine : GameEngine)
    (pendingInputs : List InputHistoryEntry) : Except PyError GameEngine :=
  pendingInputs.foldlM
    (fun engine entry => engine.tick (tickArgs pid entry.inputState entry.dt now)) engine

def reconcile (p : PredictionEngine) (snapshot : WorldStateSnapshot) (now : ℚ) :
    Except PyError PredictionEngine := do
  let buffer := p.retained snapshot.worldState
  let engine ← replayPending p.localPlayerId now (p.adopt snapshot.worldState) buffer.entries
  .ok { p with engine := engine, buffer := buffer }

def pendingCount (p : PredictionEngine) : ℕ := p.buffer.entries.length

/-- One pass of the loop in `_run_predicted_ticks`. -/
def predictTick (p : PredictionEngine) (inputState : InputState) (dt sentAt now : ℚ) :
    Except PyError PredictionEngine := do
  let p := p.predict inputState dt sentAt
  let engine ← p.engine.tick (tickArgs p.localPlayerId inputState dt now)
  .ok { p with engine := engine }

/-! ## What replaying does -/

theorem replayPending_sequenceNumber {pid : PlayerId} {now : ℚ} {g g' : GameEngine}
    {l : List InputHistoryEntry} (h : replayPending pid now g l = .ok g') :
    g'.worldState.sequenceNumber = g.worldState.sequenceNumber + l.length := by
  induction l generalizing g with
  | nil => cases h; simp
  | cons entry l ih =>
    rw [replayPending, List.foldlM_cons] at h
    obtain ⟨g₁, htick, h⟩ := Fallible.bind_eq_ok.mp h
    rw [ih h, GameEngine.tick_sequenceNumber htick, List.length_cons]
    omega

theorem replayPending_succeeds (pid : PlayerId) (now : ℚ) {g : GameEngine}
    (hg : g.isAuthoritative = false) (l : List InputHistoryEntry) :
    ∃ g', replayPending pid now g l = .ok g' := by
  obtain ⟨g', h, -⟩ := Fallible.foldlM_succeeds (P := fun g => g.isAuthoritative = false)
    (f := fun (g : GameEngine) (entry : InputHistoryEntry) =>
      g.tick (tickArgs pid entry.inputState entry.dt now)) (l := l)
    (fun g entry _ hg => by
      obtain ⟨g', h⟩ := GameEngine.tick_succeeds (tickArgs pid entry.inputState entry.dt now) hg
      exact ⟨g', h, (GameEngine.tick_isAuthoritative h).trans hg⟩) hg
  exact ⟨g', h⟩

/-- A reconciliation leaves the retained entries and an engine that is that many ticks past the
snapshot. -/
theorem reconcile_spec {p p' : PredictionEngine} {snapshot : WorldStateSnapshot} {now : ℚ}
    (h : p.reconcile snapshot now = .ok p') :
    ∃ g, replayPending p.localPlayerId now (p.adopt snapshot.worldState)
        (p.retained snapshot.worldState).entries = .ok g ∧
      p' = { p with engine := g, buffer := p.retained snapshot.worldState } := by
  obtain ⟨g, hg, h⟩ := Fallible.bind_eq_ok.mp h
  exact ⟨g, hg, (Except.ok.inj h).symm⟩

theorem reconcile_sequenceNumber {p p' : PredictionEngine} {snapshot : WorldStateSnapshot} {now : ℚ}
    (h : p.reconcile snapshot now = .ok p') :
    p'.engine.worldState.sequenceNumber = snapshot.worldState.sequenceNumber + p'.pendingCount := by
  obtain ⟨g, hg, rfl⟩ := reconcile_spec h
  exact replayPending_sequenceNumber hg

theorem reconcile_succeeds {p : PredictionEngine} (hp : p.engine.isAuthoritative = false)
    (snapshot : WorldStateSnapshot) (now : ℚ) : ∃ p', p.reconcile snapshot now = .ok p' := by
  obtain ⟨g, hg⟩ := replayPending_succeeds p.localPlayerId now
    (g := p.adopt snapshot.worldState) hp (p.retained snapshot.worldState).entries
  exact ⟨_, by rw [reconcile]; simp only [hg, Fallible.ok_bind]; rfl⟩

theorem predictTick_spec {p p' : PredictionEngine} {inputState : InputState} {dt sentAt now : ℚ}
    (h : p.predictTick inputState dt sentAt now = .ok p') :
    ∃ g, p.engine.tick (tickArgs p.localPlayerId inputState dt now) = .ok g ∧
      p' = { p.predict inputState dt sentAt with engine := g } := by
  obtain ⟨g, hg, h⟩ := Fallible.bind_eq_ok.mp h
  exact ⟨g, hg, (Except.ok.inj h).symm⟩

/-- Retaining keeps the capacity and drops nothing unacknowledged unless the client is too far
ahead. -/
theorem retained_of_near {p : PredictionEngine} {w : WorldState}
    (h : p.engine.worldState.sequenceNumber ≤ w.sequenceNumber + p.buffer.capacity) :
    p.retained w = (p.buffer.acknowledge w.sequenceNumber).2 := by
  simp only [retained]
  rw [if_neg (by omega)]

theorem retained_of_far {p : PredictionEngine} {w : WorldState}
    (h : w.sequenceNumber + p.buffer.capacity < p.engine.worldState.sequenceNumber) :
    (p.retained w).entries = [] := by
  simp [retained, h]

@[simp] theorem capacity_retained (p : PredictionEngine) (w : WorldState) :
    (p.retained w).capacity = p.buffer.capacity := by
  simp only [retained]
  split <;> rfl

end PredictionEngine

end DistributedSmb
