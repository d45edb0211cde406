import DistributedSmb.Shared.Config
import Mathlib.Data.List.Sort

/-!
# Session roster

`GlobalRoster` as every node replicates it: participants with distinct join indices, one of them
flagged as host.
-/

namespace DistributedSmb

inductive ConnectionStatus where
  | connected | disconnected
  deriving DecidableEq, Repr

structure RosterEntry where
  playerId : PlayerId
  host : Ip
  udpPort : ℕ
  joinIndex : ℕ
  status : ConnectionStatus := .connected
  isHost : Bool := false
  deriving DecidableEq, Repr

structure GlobalRoster where
  players : List RosterEntry := []
  deriving DecidableEq, Repr

namespace GlobalRoster

/-- A second entry with a known join index is refused. -/
def addPlayer (r : GlobalRoster) (entry : RosterEntry) : Except PyError GlobalRoster :=
  if r.players.any (fun e => e.joinIndex = entry.joinIndex) then
    .error (.rosterValidationError
      s!"Duplicate join_index {entry.joinIndex} for player {entry.playerId}")
  else .ok ⟨r.players ++ [entry]⟩

def getPlayer (r : GlobalRoster) (playerId : PlayerId) : Option RosterEntry :=
  r.players.find? fun e => e.playerId = playerId

def getHost (r : GlobalRoster) : Option RosterEntry := r.players.find? fun e => e.isHost

def removePlayer (r : GlobalRoster) (playerId : PlayerId) : GlobalRoster :=
  ⟨r.players.filter fun e => e.playerId ≠ playerId⟩

def promoteHost (r : GlobalRoster) (playerId : PlayerId) : GlobalRoster :=
  ⟨r.players.map fun e => { e with isHost := e.playerId = playerId }⟩

/-- `sorted(self.players, key=join_index)`; insertion sort is stable, as Python's sort is. -/
def getAllPlayers (r : GlobalRoster) : List RosterEntry :=
  r.players.insertionSort fun a b => a.joinIndex ≤ b.joinIndex

/-- The player ids of the current entries. -/
def ids (r : GlobalRoster) : List PlayerId := r.players.map RosterEntry.playerId

@[simp] theorem mem_getAllPlayers {r : GlobalRoster} {e : RosterEntry} :
    e ∈ r.getAllPlayers ↔ e ∈ r.players := (List.perm_insertionSort _ _).mem_iff

theorem addPlayer_eq_ok {r r' : GlobalRoster} {entry : RosterEntry}
    (h : r.addPlayer entry = .ok r') : r' = ⟨r.players ++ [entry]⟩ := by
  unfold addPlayer at h
  split at h
  · cases h
  · exact (Except.ok.inj h).symm

theorem addPlayer_succeeds {r : GlobalRoster} {entry : RosterEntry}
    (h : ∀ e ∈ r.players, e.joinIndex ≠ entry.joinIndex) :
    r.addPlayer entry = .ok ⟨r.players ++ [entry]⟩ := by
  simpa [addPlayer] using h

@[simp] theorem mem_ids {r : GlobalRoster} {pid : PlayerId} :
    pid ∈ r.ids ↔ ∃ e ∈ r.players, e.playerId = pid := by simp [ids]

@[simp] theorem mem_removePlayer {r : GlobalRoster} {pid : PlayerId} {e : RosterEntry} :
    e ∈ (r.removePlayer pid).players ↔ e ∈ r.players ∧ e.playerId ≠ pid := by
  simp [removePlayer]

theorem mem_ids_removePlayer {r : GlobalRoster} {pid q : PlayerId} :
    q ∈ (r.removePlayer pid).ids ↔ q ∈ r.ids ∧ q ≠ pid := by
  simp only [mem_ids, mem_removePlayer]
  constructor
  · rintro ⟨e, ⟨he, hne⟩, rfl⟩
    exact ⟨⟨e, he, rfl⟩, hne⟩
  · rintro ⟨⟨e, he, rfl⟩, hne⟩
    exact ⟨e, ⟨he, hne⟩, rfl⟩

@[simp] theorem ids_promoteHost (r : GlobalRoster) (pid : PlayerId) :
    (r.promoteHost pid).ids = r.ids := by simp [ids, promoteHost, Function.comp_def]

/-- Promoting an id of the roster flags it, and nobody else. -/
theorem getHost_promoteHost {r : GlobalRoster} {pid : PlayerId} (h : pid ∈ r.ids) :
    (r.promoteHost pid).getHost.map RosterEntry.playerId = some pid := by
  obtain ⟨e, he, rfl⟩ := mem_ids.mp h
  have hflagged : (r.promoteHost e.playerId).getHost.isSome := by
    rw [getHost, List.find?_isSome]
    exact ⟨{ e with isHost := true }, List.mem_map.mpr ⟨e, he, by simp⟩, rfl⟩
  obtain ⟨host, hhost⟩ := Option.isSome_iff_exists.mp hflagged
  obtain ⟨e', -, heq⟩ := List.mem_map.mp (List.mem_of_find?_eq_some hhost)
  have hflag := List.find?_some hhost
  subst heq
  rw [hhost, Option.map_some]
  exact congrArg some (of_decide_eq_true hflag)

end GlobalRoster

/-- A session of a host and two clients. -/
def threePlayers : GlobalRoster where
  players :=
    [⟨"player-1", "10.0.0.1", 50010, 0, .connected, true⟩,
      ⟨"player-2", "10.0.0.2", 50011, 1, .connected, false⟩,
      ⟨"player-3", "10.0.0.3", 50012, 2, .connected, false⟩]

end DistributedSmb
