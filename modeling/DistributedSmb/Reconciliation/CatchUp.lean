import DistributedSmb.Library.Overwriting
import DistributedSmb.Reconciliation.EventLog

/-!
# Catching up with the event stream

The events of the environment overwrite: what happens to one block, power-up or gate does not depend
on the others, and the last event about it decides. So a world that was saved late catches up with
the event stream, although the stream repeats what the world has already.
-/

namespace DistributedSmb

open Library

/-- What an event is about. -/
inductive EnvTarget where
  | block (position : ℤ × ℤ)
  | powerUp (powerupId : PowerUpId)
  | gate (gateId : GateId)
  | player
  | level
  deriving DecidableEq

namespace GameEvent

def target : GameEvent → EnvTarget
  | blockDestroyed position => .block position
  | powerUpCollected powerupId _ => .powerUp powerupId
  | gateStateChanged gateId _ => .gate gateId
  | playerDeath _ _ => .player
  | levelReset => .level

/-- After the first event, nothing is left of an earlier second one. -/
def Hides (d e : GameEvent) : Prop := d = .levelReset ∨ d.target = e.target

instance (d e : GameEvent) : Decidable (d.Hides e) :=
  inferInstanceAs (Decidable (d = .levelReset ∨ d.target = e.target))

theorem onBlock_hidden {d e : GameEvent} (h : d.target = e.target) (b : DestructibleBlock) :
    d.onBlock (e.onBlock b) = d.onBlock b := by
  cases d <;> cases e <;> grind [target, onBlock]

theorem onBlock_comm (d e : GameEvent) (b : DestructibleBlock) :
    d.onBlock (e.onBlock b) = e.onBlock (d.onBlock b) := by
  cases d <;> cases e <;> grind [onBlock]

theorem onPowerUp_hidden {d e : GameEvent} (h : d.target = e.target) (key : PowerUpId)
    (u : ExclusivePowerUp) : d.onPowerUp key (e.onPowerUp key u) = d.onPowerUp key u := by
  cases d <;> cases e <;> grind [target, onPowerUp]

theorem onPowerUp_comm {d e : GameEvent} (h : d.target ≠ e.target) (key : PowerUpId)
    (u : ExclusivePowerUp) :
    d.onPowerUp key (e.onPowerUp key u) = e.onPowerUp key (d.onPowerUp key u) := by
  cases d <;> cases e <;> grind [target, onPowerUp]

theorem onGate_hidden {d e : GameEvent} (h : d.target = e.target) (key : GateId)
    (gate : CooperativeGate) : d.onGate key (e.onGate key gate) = d.onGate key gate := by
  cases d <;> cases e <;> grind [target, onGate]

theorem onGate_comm {d e : GameEvent} (h : d.target ≠ e.target) (key : GateId)
    (gate : CooperativeGate) :
    d.onGate key (e.onGate key gate) = e.onGate key (d.onGate key gate) := by
  cases d <;> cases e <;> grind [target, onGate]

end GameEvent

namespace EnvLog

variable (level : Level)

theorem step_step (l : EnvLog) {d e : GameEvent} (hd : d ≠ .levelReset) (he : e ≠ .levelReset) :
    (l.step level e).step level d =
      ⟨⟨l.view.blocks.map fun b => d.onBlock (e.onBlock b),
          l.view.powerUps.mapWithKey fun key u => d.onPowerUp key (e.onPowerUp key u)⟩,
        l.gates.mapWithKey fun key gate => d.onGate key (e.onGate key gate)⟩ := by
  rw [step_of_ne level _ hd, step_of_ne level _ he, EnvView.step_of_ne level _ hd,
    EnvView.step_of_ne level _ he, EnvLog.mk.injEq, EnvView.mk.injEq]
  refine ⟨⟨List.map_map, Dict.ext ?_⟩, Dict.ext ?_⟩ <;> simp [Dict.mapWithKey, Function.comp_def]

theorem overwriting : Overwriting (EnvLog.step level) GameEvent.Hides where
  hides := by
    rintro d e (rfl | same) l
    · rfl
    by_cases hd : d = .levelReset
    · subst hd
      rfl
    have he : e ≠ .levelReset := by
      rintro rfl
      cases d <;> simp_all [GameEvent.target]
    rw [step_step level l hd he, step_of_ne level l hd, EnvView.step_of_ne level _ hd]
    simp only [GameEvent.onBlock_hidden same, GameEvent.onPowerUp_hidden same,
      GameEvent.onGate_hidden same]
  self e := .inr rfl
  either := by
    intro d e
    by_cases same : d.target = e.target
    · exact .inl (.inr same)
    by_cases hd : d = .levelReset
    · exact .inl (.inl hd)
    by_cases he : e = .levelReset
    · exact .inr (.inl (.inl he))
    refine .inr (.inr fun l => ?_)
    rw [step_step level l hd he, step_step level l he hd]
    simp only [GameEvent.onBlock_comm d e, GameEvent.onPowerUp_comm same,
      GameEvent.onGate_comm same]

/-- The environment shows what the event says. -/
def Shows (l : EnvLog) : GameEvent → Prop
  | .blockDestroyed position => ∀ b ∈ l.view.blocks, b.position = position → b.destroyed = true
  | .powerUpCollected powerupId playerId =>
    ∀ e ∈ l.view.powerUps.entries, e.1 = powerupId →
      e.2.collected = true ∧ e.2.owner = some playerId
  | .gateStateChanged gateId newState =>
    ∀ e ∈ l.gates.entries, e.1 = gateId → e.2.state = newState
  | .playerDeath _ _ => True
  | .levelReset => False

instance (l : EnvLog) : DecidablePred l.Shows := fun e =>
  match e with
  | .blockDestroyed position =>
    inferInstanceAs (Decidable (∀ b ∈ l.view.blocks, b.position = position → b.destroyed = true))
  | .powerUpCollected powerupId playerId =>
    inferInstanceAs (Decidable (∀ e ∈ l.view.powerUps.entries, e.1 = powerupId →
      e.2.collected = true ∧ e.2.owner = some playerId))
  | .gateStateChanged gateId newState =>
    inferInstanceAs (Decidable (∀ e ∈ l.gates.entries, e.1 = gateId → e.2.state = newState))
  | .playerDeath _ _ => .isTrue trivial
  | .levelReset => .isFalse id

theorem step_of_shows {l : EnvLog} {e : GameEvent} (shows : l.Shows e) : l.step level e = l := by
  have hne : e ≠ .levelReset := by
    rintro rfl
    exact shows
  have hblock : ∀ b ∈ l.view.blocks, e.onBlock b = b := by
    intro b hb
    cases e with
    | blockDestroyed position =>
      have hdestroyed := shows b hb
      cases b
      grind [GameEvent.onBlock]
    | _ => rfl
  have hpowerUp : ∀ binding ∈ l.view.powerUps.entries,
      e.onPowerUp binding.1 binding.2 = binding.2 := by
    rintro ⟨key, u⟩ hmem
    cases e with
    | powerUpCollected powerupId playerId =>
      have hcollected := shows _ hmem
      cases u
      grind [GameEvent.onPowerUp]
    | _ => rfl
  have hgate : ∀ binding ∈ l.gates.entries, e.onGate binding.1 binding.2 = binding.2 := by
    rintro ⟨key, gate⟩ hmem
    cases e with
    | gateStateChanged gateId newState =>
      have hmoved := shows _ hmem
      cases gate
      grind [GameEvent.onGate]
    | _ => rfl
  rw [step_of_ne level l hne, EnvView.step_of_ne level _ hne]
  rw [List.map_congr_left hblock, List.map_id', Dict.mapWithKey_eq_self hpowerUp,
    Dict.mapWithKey_eq_self hgate]

theorem hides_or_comm {e : GameEvent} (he : e ≠ .levelReset) (d : GameEvent) :
    d.Hides e ∨ ∀ l : EnvLog, (l.step level e).step level d = (l.step level d).step level e := by
  rcases (overwriting level).either d e with hides | hidden | commute
  · exact .inl hides
  · exact .inl (.inr (hidden.resolve_left he).symm)
  · exact .inr commute

/-- The environment shows each event, or a later one hides it. -/
def Settled (l : EnvLog) : List GameEvent → List GameEvent → Prop
  | [], _ => True
  | e :: events, later => (l.Shows e ∨ ∃ d ∈ events ++ later, d.Hides e) ∧ Settled l events later

instance decidableSettled (l : EnvLog) : ∀ events later, Decidable (l.Settled events later)
  | [], _ => .isTrue trivial
  | e :: events, later =>
    have := decidableSettled l events later
    inferInstanceAs (Decidable ((l.Shows e ∨ ∃ d ∈ events ++ later, d.Hides e) ∧
      Settled l events later))

/-- Events that an environment misses make no difference if they are settled there. -/
theorem replay_missed {l : EnvLog} {missed later : List GameEvent}
    (settled : l.Settled missed later) :
    l.replay level (missed ++ later) = l.replay level later := by
  induction missed with
  | nil => rfl
  | cons e missed ih =>
    obtain ⟨hsettled, hrest⟩ := settled
    calc (missed ++ later).foldl (EnvLog.step level) (l.step level e)
        = (missed ++ later).foldl (EnvLog.step level) l := by
          rcases hsettled with hshows | hhidden
          · rw [step_of_shows level hshows]
          · exact (overwriting level).foldl_of_hidden l hhidden
      _ = l.replay level later := ih hrest

/-- An event overtakes the earlier ones, and those that it hides are gone. -/
theorem step_replay {own : List GameEvent} (noReset : .levelReset ∉ own) (l : EnvLog)
    (d : GameEvent) : (l.replay level own).step level d =
      (l.step level d).replay level (own.filter fun e => ¬ d.Hides e) := by
  induction own generalizing l with
  | nil => rfl
  | cons e own ih =>
    obtain ⟨he, hnoReset⟩ := not_or.mp (mt List.mem_cons.mpr noReset)
    have hrest := ih hnoReset (l.step level e)
    by_cases hides : d.Hides e
    · rw [List.filter_cons_of_neg (by simpa using hides)]
      rw [(overwriting level).hides d e hides] at hrest
      exact hrest
    · rw [List.filter_cons_of_pos (by simpa using hides)]
      rw [(hides_or_comm level (Ne.symm he) d).resolve_left hides] at hrest
      exact hrest

/-- The same flags, owners and states, entity by entity. -/
def Agrees (l l' : EnvLog) : Prop :=
  l.view.blocks.map (fun b => (b.position, b.destroyed)) =
      l'.view.blocks.map (fun b => (b.position, b.destroyed)) ∧
    l.view.powerUps.mapValues (fun u => (u.collected, u.owner)) =
      l'.view.powerUps.mapValues (fun u => (u.collected, u.owner)) ∧
    l.gates.mapValues CooperativeGate.state = l'.gates.mapValues CooperativeGate.state

theorem Agrees.shows {l l' : EnvLog} (h : l.Agrees l') {e : GameEvent} (shows : l.Shows e) :
    l'.Shows e := by
  obtain ⟨hblocks, hpowerUps, hgates⟩ := h
  cases e with
  | blockDestroyed position =>
    intro b hb hposition
    have hmem : (b.position, b.destroyed) ∈
        l.view.blocks.map fun b => (b.position, b.destroyed) := hblocks ▸ List.mem_map_of_mem hb
    obtain ⟨b', hb', hsame⟩ := List.mem_map.mp hmem
    obtain ⟨hplace, hflag⟩ := Prod.mk.inj hsame
    exact hflag ▸ shows b' hb' (hplace.trans hposition)
  | powerUpCollected powerupId playerId =>
    rintro ⟨key, u⟩ hu rfl
    have hmem : (key, u.collected, u.owner) ∈
        (l.view.powerUps.mapValues fun u => (u.collected, u.owner)).entries := by
      rw [hpowerUps, Dict.entries_mapValues]
      exact List.mem_map_of_mem hu
    rw [Dict.entries_mapValues] at hmem
    obtain ⟨⟨key', u'⟩, hu', hsame⟩ := List.mem_map.mp hmem
    obtain ⟨rfl, hflags⟩ := Prod.mk.inj hsame
    obtain ⟨hcollected, howner⟩ := Prod.mk.inj hflags
    exact hcollected ▸ howner ▸ shows _ hu' rfl
  | gateStateChanged gateId newState =>
    rintro ⟨key, gate⟩ hgate rfl
    have hmem : (key, gate.state) ∈ (l.gates.mapValues CooperativeGate.state).entries := by
      rw [hgates, Dict.entries_mapValues]
      exact List.mem_map_of_mem hgate
    rw [Dict.entries_mapValues] at hmem
    obtain ⟨⟨key', gate'⟩, hgate', hsame⟩ := List.mem_map.mp hmem
    obtain ⟨rfl, hstate⟩ := Prod.mk.inj hsame
    exact hstate ▸ shows _ hgate' rfl
  | playerDeath => trivial
  | levelReset => exact shows

theorem shows_step (l : EnvLog) {e : GameEvent} (he : e ≠ .levelReset) :
    (l.step level e).Shows e := by
  rw [step_of_ne level l he, EnvView.step_of_ne level _ he]
  cases e with
  | blockDestroyed position =>
    intro b hb hposition
    obtain ⟨b', -, rfl⟩ := List.mem_map.mp hb
    grind [GameEvent.onBlock]
  | powerUpCollected powerupId playerId =>
    rintro ⟨key, u⟩ hu rfl
    obtain ⟨⟨key', u'⟩, -, hsame⟩ := List.mem_map.mp hu
    grind [GameEvent.onPowerUp]
  | gateStateChanged gateId newState =>
    rintro ⟨key, gate⟩ hgate rfl
    obtain ⟨⟨key', gate'⟩, -, hsame⟩ := List.mem_map.mp hgate
    grind [GameEvent.onGate]
  | playerDeath => trivial
  | levelReset => exact absurd rfl he

/-- Events on top of an environment make no difference if and only if they are settled in it. -/
theorem replay_agrees_iff {l : EnvLog} {own : List GameEvent} (noReset : .levelReset ∉ own) :
    (l.replay level own).Agrees l ↔ l.Settled own [] := by
  constructor
  · induction own with
    | nil => exact fun _ => trivial
    | cons e own ih =>
      intro agrees
      obtain ⟨he, hnoReset⟩ := not_or.mp (mt List.mem_cons.mpr noReset)
      by_cases hidden : ∃ d ∈ own, d.Hides e
      · have hsame : l.replay level (e :: own) = l.replay level own :=
          (overwriting level).foldl_of_hidden l hidden
        rw [Settled, List.append_nil]
        exact ⟨.inr hidden, ih hnoReset (hsame ▸ agrees)⟩
      -- the event is still there in the end
      · have hlast : l.replay level (e :: own) = (l.replay level own).step level e :=
          Overwriting.foldl_comm fun d hd =>
            (hides_or_comm level (Ne.symm he) d).resolve_left fun hhides => hidden ⟨d, hd, hhides⟩
        have hshows : l.Shows e :=
          Agrees.shows (hlast ▸ agrees) (shows_step level _ (Ne.symm he))
        have hsame : l.replay level (e :: own) = l.replay level own :=
          congrArg (replay level · own) (step_of_shows level hshows)
        exact ⟨.inl hshows, ih hnoReset (hsame ▸ agrees)⟩
  · intro settled
    have hsame := replay_missed level settled
    rw [List.append_nil] at hsame
    rw [hsame]
    exact ⟨rfl, rfl, rfl⟩

end EnvLog

/-! ## What changes an engine's environment -/

/-- Everything is stored under its own address. -/
structure EnvironmentalState.Indexed (environment : EnvironmentalState) : Prop where
  addressed : environment.Addressed
  keyed : GatesKeyed environment.cooperativeGates

namespace GameEngine

/-- The events account for what has become of the environment. -/
structure Accounts (g g' : GameEngine) (events : List GameEvent) : Prop where
  emits : g.Emits g' events
  gates : g'.gates = replayGates events g.gates
  setting : g'.setting = g.setting

variable {g g' g'' : GameEngine} {events rest : List GameEvent}

theorem accounts_of_same (log : g'.log = g.log) (queued : g'.events = g.events)
    (setting : g'.setting = g.setting) : g.Accounts g' [] where
  emits := emits_quiet [] (by rw [queued, List.append_nil]) (congrArg (fun l => l.view.blocks) log)
    (congrArg (fun l => l.view.powerUps) log) (by simp) (by simp) (by simp)
  gates := by
    rw [replayGates_eq_self (by simp)]
    exact congrArg EnvLog.gates log
  setting := setting

theorem Accounts.append (h : g.Accounts g' events) (h' : g'.Accounts g'' rest) :
    g.Accounts g'' (events ++ rest) where
  emits := h.emits.append h'.emits
  gates := by rw [h'.gates, h.gates, replayGates_append]
  setting := h'.setting.trans h.setting

theorem Accounts.log (h : g.Accounts g' events) (level : Level) :
    g'.log = g.log.replay level events := by
  rw [EnvLog.replay_of_noReset level h.emits.noReset, GameEngine.log, emits_view h.emits level,
    h.gates]
  rfl

theorem Accounts.indexed (h : g.Accounts g' events) (hg : g.worldState.environment.Indexed) :
    g'.worldState.environment.Indexed where
  addressed := h.emits.addressed hg.addressed
  keyed := by
    have hkeyed := hg.keyed.replay events
    rwa [← GameEngine.gates, ← h.gates] at hkeyed

theorem Accounts.level (h : g.Accounts g' events) : g'.level = g.level :=
  GameEngine.level_of_setting h.setting

theorem tick_accounts {args : TickArgs} (hg : g.worldState.environment.Indexed)
    (h : g.tick args = .ok g') : ∃ events, g.Accounts g' events := by
  obtain ⟨events, hemits, hgates⟩ := tick_logs hg.addressed hg.keyed h
  exact ⟨events, hemits, hgates, tick_setting h⟩

/-- Ticks in a row. -/
theorem foldlM_accounts {σ α : Type} (engine : σ → GameEngine) {f : σ → α → Except PyError σ}
    (step : ∀ s a s', (engine s).worldState.environment.Indexed → f s a = .ok s' →
      ∃ events, (engine s).Accounts (engine s') events) {l : List α} {s s' : σ}
    (hs : (engine s).worldState.environment.Indexed) (h : l.foldlM f s = .ok s') :
    ∃ events, (engine s).Accounts (engine s') events := by
  have hkept := Fallible.foldlM_keeps
    (P := fun m => (engine m).worldState.environment.Indexed ∧
      ∃ events, (engine s).Accounts (engine m) events)
    (fun m a m' _ hP hstep => by
      obtain ⟨events, hevents⟩ := hP.2
      obtain ⟨rest, hrest⟩ := step m a m' hP.1 hstep
      exact ⟨hrest.indexed hP.1, events ++ rest, hevents.append hrest⟩) h
    ⟨hs, [], accounts_of_same rfl rfl rfl⟩
  exact hkept.2

end GameEngine

end DistributedSmb
