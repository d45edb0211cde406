import DistributedSmb.Domain.Gates
import DistributedSmb.Reconciliation.EnvironmentSync

/-!
# The event stream is a log of the environment

A replica that never ticks and only applies the messages of the host's events, batch after batch.
`EnvironmentSync` accounts for blocks and power-ups; here the gates join them.
-/

namespace DistributedSmb

open Library

/-! ## A replica of the log -/

/-- What `event_to_message` speaks about, of an environment loaded from a level. -/
structure EnvLog where
  view : EnvView
  gates : Gates

def Level.log (level : Level) : EnvLog :=
  ⟨level.view, Dict.ofList (level.gates.map fun gate => (gate.gateId, gate))⟩

def GameEngine.log (g : GameEngine) : EnvLog := ⟨g.view, g.gates⟩

theorem GameEngine.log_congr {g g' : GameEngine}
    (h : g'.worldState.environment = g.worldState.environment) : g'.log = g.log := by
  rw [log, log, view, view, gates, gates, h]

namespace EnvLog

def step (level : Level) (l : EnvLog) : GameEvent → EnvLog
  | .levelReset => level.log
  | e => ⟨l.view.step level e, l.gates.mapWithKey e.onGate⟩

def replay (level : Level) (l : EnvLog) (events : List GameEvent) : EnvLog :=
  events.foldl (step level) l

theorem step_of_ne (level : Level) (l : EnvLog) {e : GameEvent} (he : e ≠ .levelReset) :
    l.step level e = ⟨l.view.step level e, l.gates.mapWithKey e.onGate⟩ := by
  cases e with
  | levelReset => exact absurd rfl he
  | _ => rfl

theorem replay_of_noReset (level : Level) {events : List GameEvent} (h : .levelReset ∉ events)
    (l : EnvLog) :
    l.replay level events = ⟨l.view.replay level events, replayGates events l.gates⟩ := by
  induction events generalizing l with
  | nil =>
    have hnil : replayGates [] l.gates = l.gates := replayGates_eq_self (by simp)
    rw [hnil]
    rfl
  | cons e events ih =>
    simp only [List.mem_cons, not_or] at h
    have hcons : replayGates (e :: events) l.gates =
        replayGates events (l.gates.mapWithKey e.onGate) := by
      apply Dict.ext
      simp [replayGates, Dict.mapWithKey, Library.replay]
    rw [replay, List.foldl_cons, ← replay, ih h.2, step_of_ne level l (Ne.symm h.1), hcons]
    rfl

end EnvLog

/-- A host, and a replica that the messages of each batch reach in order. -/
structure LogState where
  host : GameEngine
  replica : GameEngine

inductive LogAction where
  | tick (args : GameEngine.TickArgs)
  | reset
  | batch

namespace LogState

def step (s : LogState) : LogAction → Except PyError LogState
  | .tick args => do
    let host ← s.host.tick args
    .ok { s with host := host }
  | .reset => .ok { s with host := s.host.resetForNewRun }
  | .batch => do
    let messages ← s.host.events.mapM eventToMessage
    .ok { host := { s.host with events := [] }
          replica := messages.foldl GameEngine.applyMessage s.replica }

def run (s : LogState) (actions : List LogAction) : Except PyError LogState :=
  actions.foldlM step s

/-- Both engines have just loaded the level, whose blocks stand at distinct positions. -/
structure Start (s : LogState) (level : Level) : Prop where
  hostLevel : s.host.level = level
  replicaLevel : s.replica.level = level
  hostLoaded : s.host.worldState.environment = (s.host.worldState.loadLevel level).environment
  replicaLoaded :
    s.replica.worldState.environment = (s.replica.worldState.loadLevel level).environment
  distinctBlocks : (level.blocks.map DestructibleBlock.position).Nodup
  nothingQueued : s.host.events = []

/-- The same flags, owners and states, entity by entity. -/
def SameEnvironment (s : LogState) : Prop :=
  s.replica.view.blocks.map (fun b => (b.position, b.destroyed)) =
      s.host.view.blocks.map (fun b => (b.position, b.destroyed)) ∧
    s.replica.view.powerUps.mapValues (fun u => (u.collected, u.owner)) =
      s.host.view.powerUps.mapValues (fun u => (u.collected, u.owner)) ∧
    s.replica.gates.mapValues CooperativeGate.state = s.host.gates.mapValues CooperativeGate.state

/-- The host is the replica after the events that still wait for their batch. -/
structure Logged (s : LogState) (level : Level) : Prop where
  hostLevel : s.host.level = level
  replicaLevel : s.replica.level = level
  distinctBlocks : (level.blocks.map DestructibleBlock.position).Nodup
  hostAddressed : s.host.worldState.environment.Addressed
  replicaAddressed : s.replica.worldState.environment.Addressed
  hostKeyed : GatesKeyed s.host.gates
  host : s.host.log = s.replica.log.replay level s.host.events

theorem loaded_addressed {level : Level} {environment : EnvironmentalState} {w : WorldState}
    (distinct : (level.blocks.map DestructibleBlock.position).Nodup)
    (loaded : environment = (w.loadLevel level).environment) : environment.Addressed := by
  rw [loaded]
  exact GameEngine.reset_addressed (g := { level := level }) distinct

theorem start_logged {s : LogState} {level : Level} (start : s.Start level) : s.Logged level where
  hostLevel := start.hostLevel
  replicaLevel := start.replicaLevel
  distinctBlocks := start.distinctBlocks
  hostAddressed := loaded_addressed start.distinctBlocks start.hostLoaded
  replicaAddressed := loaded_addressed start.distinctBlocks start.replicaLoaded
  hostKeyed := by
    rw [GameEngine.gates, start.hostLoaded]
    exact gatesKeyed_ofList level.gates
  host := by
    rw [start.nothingQueued, GameEngine.log, GameEngine.log, GameEngine.view, GameEngine.view,
      GameEngine.gates, GameEngine.gates, start.hostLoaded, start.replicaLoaded]
    rfl

/-- A message does to the log of the environment what its event says. -/
theorem applyMessage_log {g : GameEngine} {level : Level}
    (addressed : g.worldState.environment.Addressed) (hlevel : g.level = level) (e : GameEvent) :
    (g.applyMessage e.message).log = g.log.step level e := by
  by_cases he : e = .levelReset
  · subst he hlevel
    rfl
  · obtain ⟨hblocks, hpowerUps⟩ := GameEngine.applyMessage_env addressed he
    have hview : (g.applyMessage e.message).view = g.view.step level e := by
      rw [EnvView.step_of_ne _ _ he]
      exact EnvView.ext hblocks hpowerUps
    have hgates : (g.applyMessage e.message).gates = g.gates.mapWithKey e.onGate := by
      cases e with
      | gateStateChanged gateId newState => rfl
      | levelReset => exact absurd rfl he
      | _ => exact (Dict.ext (by simp [Dict.mapWithKey, GameEvent.onGate]; rfl)).symm
    rw [EnvLog.step_of_ne _ _ he, GameEngine.log, hview, hgates]
    rfl

/-- The replica after a batch has replayed its events. -/
theorem applied_log {level : Level} (distinct : (level.blocks.map DestructibleBlock.position).Nodup)
    (events : List GameEvent) {g : GameEngine} (hlevel : g.level = level)
    (addressed : g.worldState.environment.Addressed) :
    let g' := (events.map GameEvent.message).foldl GameEngine.applyMessage g
    g'.level = level ∧ g'.worldState.environment.Addressed ∧
      g'.log = g.log.replay level events := by
  induction events generalizing g with
  | nil => exact ⟨hlevel, addressed, rfl⟩
  | cons e events ih =>
    have hsetting := GameEngine.applyMessage_setting g e.message
    have hlevel' : (g.applyMessage e.message).level = level :=
      (GameEngine.level_of_setting hsetting).trans hlevel
    have addressed' : (g.applyMessage e.message).worldState.environment.Addressed := by
      by_cases he : e = .levelReset
      · subst he
        exact GameEngine.reset_addressed (hlevel ▸ distinct)
      · exact GameEngine.applyMessage_addressed addressed he
    obtain ⟨hkept, haddressed, hlog⟩ := ih hlevel' addressed'
    refine ⟨hkept, haddressed, ?_⟩
    rw [List.map_cons, List.foldl_cons, hlog, applyMessage_log addressed hlevel e]
    rfl

theorem step_logged {s s' : LogState} {level : Level} {action : LogAction} (hs : s.Logged level)
    (h : s.step action = .ok s') : s'.Logged level := by
  cases action with
  | tick args =>
    obtain ⟨host, htick, h⟩ := Fallible.bind_eq_ok.mp h
    cases h
    obtain ⟨events, hemits, hgates⟩ := GameEngine.tick_logs hs.hostAddressed hs.hostKeyed htick
    have hlevel := GameEngine.level_of_setting (GameEngine.tick_setting htick)
    have hlog : host.log = s.host.log.replay level events := by
      rw [EnvLog.replay_of_noReset level hemits.noReset, GameEngine.log,
        GameEngine.emits_view hemits level, hgates]
      rfl
    exact
      { hostLevel := hlevel.trans hs.hostLevel
        replicaLevel := hs.replicaLevel
        distinctBlocks := hs.distinctBlocks
        hostAddressed := hemits.addressed hs.hostAddressed
        replicaAddressed := hs.replicaAddressed
        hostKeyed := hgates ▸ hs.hostKeyed.replay events
        host := by
          rw [hlog, hs.host, hemits.queued]
          exact List.foldl_append.symm }
  | reset =>
    cases h
    have distinct : (s.host.level.blocks.map DestructibleBlock.position).Nodup :=
      hs.hostLevel ▸ hs.distinctBlocks
    exact
      { hostLevel := hs.hostLevel
        replicaLevel := hs.replicaLevel
        distinctBlocks := hs.distinctBlocks
        hostAddressed := GameEngine.reset_addressed distinct
        replicaAddressed := hs.replicaAddressed
        hostKeyed := gatesKeyed_ofList s.host.level.gates
        host := by
          change s.host.level.log = s.replica.log.replay level (s.host.events ++ [.levelReset])
          rw [EnvLog.replay, List.foldl_append, hs.hostLevel]
          rfl }
  | batch =>
    obtain ⟨messages, hmessages, h⟩ := Fallible.bind_eq_ok.mp h
    cases h
    obtain ⟨hlevel, haddressed, hlog⟩ :=
      applied_log hs.distinctBlocks s.host.events hs.replicaLevel hs.replicaAddressed
    rw [← mapM_eventToMessage hmessages] at hlevel haddressed hlog
    exact
      { hostLevel := hs.hostLevel
        replicaLevel := hlevel
        distinctBlocks := hs.distinctBlocks
        hostAddressed := hs.hostAddressed
        replicaAddressed := haddressed
        hostKeyed := hs.hostKeyed
        host := by
          rw [hlog]
          exact hs.host }

theorem run_logged {s s' : LogState} {level : Level} {actions : List LogAction}
    (hs : s.Logged level) (h : s.run actions = .ok s') : s'.Logged level :=
  Fallible.foldlM_keeps (P := fun s => Logged s level) (fun _ _ _ _ => step_logged) h hs

/-- After each batch of a run, the replica has the host's blocks, power-ups and gates. -/
theorem batch_catches_up {s s' : LogState} {level : Level} {actions : List LogAction}
    (start : s.Start level) (h : s.run (actions ++ [.batch]) = .ok s') : s'.SameEnvironment := by
  rw [run, List.foldlM_append] at h
  obtain ⟨s₁, hrun, h⟩ := Fallible.bind_eq_ok.mp h
  have hlogged := run_logged (start_logged start) hrun
  rw [List.foldlM_cons] at h
  obtain ⟨s₂, hbatch, h⟩ := Fallible.bind_eq_ok.mp h
  cases h
  have hlogged' := step_logged hlogged hbatch
  have hqueued : s'.host.events = [] := by
    obtain ⟨messages, -, h⟩ := Fallible.bind_eq_ok.mp hbatch
    cases h
    rfl
  have hlog : s'.host.log = s'.replica.log := by
    have hhost := hlogged'.host
    rwa [hqueued] at hhost
  have hview : s'.host.view = s'.replica.view := congrArg EnvLog.view hlog
  have hgates : s'.host.gates = s'.replica.gates := congrArg EnvLog.gates hlog
  rw [SameEnvironment, hview, hgates]
  exact ⟨rfl, rfl, rfl⟩

/-- A coin at the spawn point, a block above it, and a gate that asks for both. -/
def coinLevel : Level where
  platforms := [⟨0, 313, 1000, 50⟩]
  blocks := [{ x := 100, y := 204 }]
  powerups := [{ x := 100, y := 250, powerupId := "coin-1" }]
  gates := [{ x := 600, y := 204, gateId := "gate-1", coinsRequired := 1, blocksRequired := 1 }]
  spawnPoints := [⟨100, 238⟩]

def coinStart : LogState :=
  let world : WorldState :=
    { environment := (({} : WorldState).loadLevel coinLevel).environment
      characters := Dict.ofList [("player-1", { playerId := "player-1" })] }
  let engine : GameEngine :=
    { worldState := world, platforms := coinLevel.platforms, worldWidth := 1000, worldHeight := 600,
      spawnPoints := coinLevel.spawnPoints, level := coinLevel }
  { host := engine
    replica := { engine with isAuthoritative := false } }

/-- After a reset the player lands on the coin and jumps through the block. -/
def coinRun : List LogAction :=
  let jump : GameEngine.TickArgs :=
    ⟨tickInterval, Dict.ofList [("player-1", { jump := true })], none, 0⟩
  [.tick jump, .reset, .batch, .tick jump, .tick jump]

/-- The block, the coin and the gate change on the replica as they do on the host. -/
theorem coin_run_catches_up :
    ∃ s', coinStart.run (coinRun ++ [.batch]) = .ok s' ∧ s'.SameEnvironment ∧
      s'.replica.gates.values.map CooperativeGate.state = ["open"] := by
  obtain ⟨s', hrun, hopen⟩ := Fallible.exists_of_okAnd (x := coinStart.run (coinRun ++ [.batch]))
    (p := fun s' => s'.replica.gates.values.map CooperativeGate.state = ["open"])
    (by decide +kernel)
  have start : coinStart.Start coinLevel := ⟨rfl, rfl, rfl, rfl, by decide, rfl⟩
  exact ⟨s', hrun, batch_catches_up start hrun, of_decide_eq_true hopen⟩

end LogState

end DistributedSmb
