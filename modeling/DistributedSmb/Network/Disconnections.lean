import DistributedSmb.Network.GameEventServer

/-!
# Reports of disconnected players

The server reports a player when the endpoint of one of its sockets ends. A player that connects
only when it has no registered socket and no report on the queue is absent whenever a report of it
is taken. Every socket is reported at most once in any case.
-/

namespace DistributedSmb

open Library

variable {κ : Type} [DecidableEq κ]

namespace GameEventServer

/-- The player has a registered socket. -/
def Connected (s : GameEventServer κ) (pid : PlayerId) : Prop :=
  ∃ ws ∈ s.connections, s.wsToPlayer.get? ws = some pid

instance (s : GameEventServer κ) (pid : PlayerId) : Decidable (s.Connected pid) :=
  inferInstanceAs (Decidable (∃ ws ∈ s.connections, s.wsToPlayer.get? ws = some pid))

/-- Whoever is reported to the host has no registered socket at that moment. -/
def EvictsAbsent (s : GameEventServer κ) (x : GameEventStep κ) : Prop :=
  x = .poll → ∀ pid ∈ s.getDisconnectedPlayer, ¬ s.Connected pid

/-- Whoever connects has no other registered socket, and no report of it is waiting. -/
def OpensAlone (s : GameEventServer κ) : GameEventStep κ → Prop
  | .connect _ playerId => ¬ s.Connected playerId ∧ playerId ∉ s.disconnectQueue
  | _ => True

instance : DecidableRel (EvictsAbsent (κ := κ)) := fun s x =>
  inferInstanceAs (Decidable (x = .poll → ∀ pid ∈ s.getDisconnectedPlayer, ¬ s.Connected pid))

instance : DecidableRel (OpensAlone (κ := κ)) := fun s x =>
  match x with
  | .connect _ playerId =>
    inferInstanceAs (Decidable (¬ s.Connected playerId ∧ playerId ∉ s.disconnectQueue))
  | .broadcast _ | .heartbeat | .sendReturns .. | .endpointReturns .. | .poll => .isTrue trivial

/-- Every player has one socket at most, and none while a report of it is waiting. -/
structure Separate (s : GameEventServer κ) : Prop where
  unique : ∀ ws ws' pid, s.wsToPlayer.get? ws = some pid →
    s.wsToPlayer.get? ws' = some pid → ws = ws'
  unreported : ∀ ws pid, s.wsToPlayer.get? ws = some pid → pid ∉ s.disconnectQueue

theorem InOrder.connected {s : GameEventServer κ} (h : s.InOrder) {ws : κ} {pid : PlayerId}
    (hpid : s.wsToPlayer.get? ws = some pid) : s.Connected pid :=
  ⟨ws, h.named ws (Dict.mem_of_get?_eq_some hpid), hpid⟩

theorem Separate.connect {s : GameEventServer κ} (h : s.Separate) (inOrder : s.InOrder) {ws : κ}
    {playerId : PlayerId} (alone : s.OpensAlone (.connect ws playerId)) :
    (s.connect ws playerId).Separate := by
  obtain ⟨habsent, hunreported⟩ := alone
  unfold GameEventServer.connect
  split
  case isTrue => exact h
  split
  case isTrue => exact ⟨h.unique, h.unreported⟩
  case isFalse =>
    have hother {w : κ} {pid : PlayerId} (hpid : (s.wsToPlayer.set ws playerId).get? w = some pid) :
        (w = ws ∧ pid = playerId) ∨ (s.wsToPlayer.get? w = some pid ∧ pid ≠ playerId) := by
      by_cases hw : w = ws
      · subst hw
        rw [Dict.get?_set_self] at hpid
        exact .inl ⟨rfl, (Option.some.inj hpid).symm⟩
      · rw [Dict.get?_set_ne _ hw] at hpid
        exact .inr ⟨hpid, fun heq => habsent (heq ▸ inOrder.connected hpid)⟩
    constructor
    · intro w w' pid hw hw'
      rcases hother hw with ⟨rfl, rfl⟩ | ⟨hw, hne⟩ <;>
        rcases hother hw' with ⟨rfl, hpid⟩ | ⟨hw', hne'⟩
      · rfl
      · exact absurd rfl hne'
      · exact absurd hpid hne
      · exact h.unique w w' pid hw hw'
    · intro w pid hw
      rcases hother hw with ⟨rfl, rfl⟩ | ⟨hw, -⟩
      · exact hunreported
      · exact h.unreported w pid hw

theorem Separate.finish {s : GameEventServer κ} (h : s.Separate) (ws : κ) :
    (s.finish ws).Separate := by
  have hother {w : κ} {pid : PlayerId} (hpid : (s.wsToPlayer.erase ws).get? w = some pid) :
      w ≠ ws ∧ s.wsToPlayer.get? w = some pid := by
    by_cases hw : w = ws
    · subst hw
      rw [Dict.get?_erase_self] at hpid
      cases hpid
    · exact ⟨hw, by rwa [Dict.get?_erase_ne _ hw] at hpid⟩
  constructor
  · intro w w' pid hw hw'
    exact h.unique w w' pid (hother hw).2 (hother hw').2
  · intro w pid hw hreported
    obtain ⟨hne, hw⟩ := hother hw
    rcases List.mem_append.mp hreported with hold | hnew
    · exact h.unreported w pid hw hold
    · exact hne (h.unique w ws pid hw (Option.mem_toList.mp hnew))

theorem Separate.step {s : GameEventServer κ} {x : GameEventStep κ} (h : s.Separate)
    (inOrder : s.InOrder) (alone : s.OpensAlone x) : (s.step x).Separate := by
  cases x with
  | connect ws playerId => exact h.connect inOrder alone
  | broadcast payload => exact ⟨h.unique, h.unreported⟩
  | heartbeat => exact ⟨h.unique, h.unreported⟩
  | sendReturns k raises =>
    simp only [GameEventServer.step, sendReturns]
    split
    · exact h
    · split
      · exact h
      · exact ⟨h.unique, h.unreported⟩
  | endpointReturns ws cancelled =>
    simp only [GameEventServer.step]
    split
    · exact h.finish ws
    · exact h
  | poll =>
    exact ⟨h.unique, fun ws pid hpid hmem =>
      h.unreported ws pid hpid (List.mem_of_mem_tail hmem)⟩

/-- A report of a player is taken only while the player has no socket. -/
theorem Separate.evictsAbsent {s : GameEventServer κ} (h : s.Separate) (x : GameEventStep κ) :
    s.EvictsAbsent x := by
  rintro - pid hpid ⟨ws, -, hws⟩
  exact h.unreported ws pid hws (List.mem_of_mem_head? hpid)

/-- In a run in which players connect only when they have no other socket and no report is waiting,
only absent players are reported; and every socket is reported at most once. -/
theorem reported_players_are_absent {steps : List (GameEventStep κ)}
    (alone : Fallible.Meets step OpensAlone {} steps) :
    Fallible.Meets step EvictsAbsent {} steps ∧ ∀ ws, (run {} steps).reported.count ws ≤ 1 := by
  refine ⟨?_, fun ws => List.nodup_iff_count_le_one.mp (run_inOrder steps).reportedOnce ws⟩
  have hstart : ({} : GameEventServer κ).Separate :=
    ⟨fun ws _ _ h => absurd (Dict.mem_of_get?_eq_some h) (Dict.not_mem_empty ws),
      fun _ _ _ => List.not_mem_nil⟩
  exact alone.imp (P := fun s => s.InOrder ∧ s.Separate) (fun s x hs hx =>
    ⟨hs.2.evictsAbsent x, hs.1.step x, hs.2.step hs.1 hx⟩) ⟨run_inOrder [], hstart⟩

end GameEventServer

/-- The second player's only socket is found dead and reported, and then it connects again. -/
theorem late_reconnection_is_safe :
    Fallible.Meets GameEventServer.step GameEventServer.EvictsAbsent ({} : GameEventServer ℕ)
      [.connect 1 "player2", .broadcast "event", .sendReturns 0 true,
        .endpointReturns 1 false, .poll, .connect 2 "player2", .poll] :=
  (GameEventServer.reported_players_are_absent (by decide)).1

/-- The second player reconnects before its old socket is found dead: it is reported, and evicted,
with its new socket registered and answering the heartbeat. -/
theorem reconnected_player_is_reported :
    let s := GameEventServer.run ({} : GameEventServer ℕ)
      [.connect 1 "player2", .connect 2 "player2", .heartbeat, .sendReturns 0 true,
        .sendReturns 0 false, .endpointReturns 1 false]
    s.getDisconnectedPlayer = some "player2" ∧ s.connections = [2] ∧
      s.wsToPlayer.get? 2 = some "player2" ∧ s.wsToEvent.get? 2 = some false ∧
      ¬ s.EvictsAbsent .poll := by
  decide

end DistributedSmb
