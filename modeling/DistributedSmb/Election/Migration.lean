import DistributedSmb.Election.Follower

/-!
# Repeated migrations

A surviving follower lives through one host crash after the other: it confirms each crash and is
told the new host's address, some times over. Its first migration succeeds when the address
identifies the new host. No later one does, because the node never forgets that it has reconnected.
-/

namespace DistributedSmb

open Library

/-- One host migration: the calls until the crash is confirmed, and the new host's ack with its
further copies. -/
structure Migration where
  before : List TimedCall
  newHost : PlayerId
  ack : ReconnectionAck
  copies : ℕ

namespace Node

/-- The crash is confirmed; the roster knows the crashed host and, at its address, the new one. -/
structure Confirmed (n : Node) (m : Migration) : Prop where
  triggered : n.election.electionTriggered = true
  survives : n.election.promotionDone = false
  crashed : ∃ crashed, n.roster.getHost = some crashed ∧ crashed.playerId ≠ m.newHost
  newHost : ∃ e ∈ n.roster.players, e.playerId = m.newHost ∧ e.host = m.ack.newHostIp

/-- What the ack is there to achieve. -/
structure MigratedTo (n : Node) (m : Migration) (n' : Node) : Prop where
  remote : n'.remoteHost = m.ack.newHostIp ∧ n'.remotePort = m.ack.udpPort
  host : n'.roster.getHost.map RosterEntry.playerId = some m.newHost
  gone : ∀ crashed, n.roster.getHost = some crashed → crashed.playerId ∉ n'.roster.ids
  rearmed : n'.election.electionTriggered = false
  copies : ∀ k, (List.replicate k m.ack).foldl onReconnectionAck n' = n'

/-- Without the crashed host, the first entry at the new host's address is the new host. -/
def FirstAtAddress (n : Node) (m : Migration) : Prop :=
  (n.evictHost.roster.getAllPlayers.find? fun e => e.host = m.ack.newHostIp).map
    RosterEntry.playerId = some m.newHost

def migrate (n : Node) (m : Migration) : Except PyError Node := do
  let n ← n.run m.before
  .ok ((List.replicate (m.copies + 1) m.ack).foldl onReconnectionAck n)

/-- Further copies of an ack change nothing. -/
theorem copies_ignored {n : Node} (hn : n.election.reconnected = true) (ack : ReconnectionAck)
    (k : ℕ) : (List.replicate k ack).foldl onReconnectionAck n = n := by
  refine Fallible.foldl_keeps (P := fun m => m = n) (fun m ack' _ hm => ?_) rfl
  subst hm
  simp [onReconnectionAck, hn]

theorem reconnected_of_ack (n : Node) (ack : ReconnectionAck)
    (survives : n.election.promotionDone = false) :
    (n.onReconnectionAck ack).election.reconnected = true := by
  rcases onReconnectionAck_cases n ack with ⟨hsame, hclosed⟩ | ⟨-, -, hreset⟩
  · rw [hsame]
    exact hclosed.resolve_right (by simp [survives])
  · rw [hreset.election]
    rfl

/-- The new host is among the entries that the crashed host leaves behind. -/
theorem Confirmed.find_isSome {n : Node} {m : Migration} (h : n.Confirmed m) :
    ∃ e, n.evictHost.roster.getAllPlayers.find? (fun e => e.host = m.ack.newHostIp) = some e := by
  obtain ⟨crashed, hhost, hne⟩ := h.crashed
  obtain ⟨e, he, hpid, haddress⟩ := h.newHost
  refine Option.isSome_iff_exists.mp (List.find?_isSome.mpr ⟨e, ?_, by simp [haddress]⟩)
  rw [GlobalRoster.mem_getAllPlayers, evictHost_roster, hhost, GlobalRoster.mem_removePlayer]
  exact ⟨he, hpid ▸ hne.symm⟩

/-- One migration succeeds exactly when it is the first and its address names the new host. -/
theorem migratedTo_iff {n : Node} {m : Migration} (h : n.Confirmed m) :
    n.MigratedTo m (n.onReconnectionAck m.ack) ↔
      n.election.reconnected = false ∧ n.FirstAtAddress m := by
  obtain ⟨e, hfind⟩ := h.find_isSome
  have hroster : (n.repointRosterAt m.ack.newHostIp).roster =
      n.evictHost.roster.promoteHost e.playerId := by
    simp only [repointRosterAt, hfind, promoteInRoster]
  have hin : e.playerId ∈ n.evictHost.roster.ids :=
    GlobalRoster.mem_ids.mpr
      ⟨e, GlobalRoster.mem_getAllPlayers.mp (List.mem_of_find?_eq_some hfind), rfl⟩
  have hflagged := GlobalRoster.getHost_promoteHost hin
  rcases onReconnectionAck_cases n m.ack with ⟨hsame, hclosed⟩ | ⟨hopen, -, hreset⟩
  · constructor
    · intro hmigrated
      have := hmigrated.rearmed
      simp [hsame, h.triggered] at this
    · rintro ⟨hopen, -⟩
      exact absurd (hclosed.resolve_right (by simp [h.survives])) (by simp [hopen])
  · rw [FirstAtAddress, hfind, Option.map_some]
    constructor
    · intro hmigrated
      refine ⟨hopen, ?_⟩
      rw [← hmigrated.host, hreset.roster, hroster, hflagged]
    · rintro ⟨-, hfirst⟩
      exact
        { remote := hreset.remote
          host := by rw [hreset.roster, hroster, hflagged, hfirst]
          gone := fun crashed hcrashed => by
            rw [hreset.roster, hroster, GlobalRoster.ids_promoteHost, evictHost_roster, hcrashed,
              GlobalRoster.mem_ids_removePlayer]
            exact fun hmem => hmem.2 rfl
          rearmed := by rw [hreset.election]; rfl
          copies := copies_ignored (by rw [hreset.election]; rfl) m.ack }

theorem run_reconnected {n n' : Node} {calls : List TimedCall} (hn : n.election.reconnected = true)
    (h : n.run calls = .ok n') : n'.election.reconnected = true :=
  Fallible.foldlM_keeps (P := fun m => m.election.reconnected = true)
    (fun _ _ _ _ hm hstep => step_reconnected hm hstep) h hn

/-- Every migration of the sequence starts from a confirmed crash. -/
def AllConfirmed (n : Node) (ms : List Migration) : Prop :=
  Fallible.Along migrate (fun n m => ∀ c, n.run m.before = .ok c → c.Confirmed m) n ms

/-- Every migration of the sequence succeeds. -/
def AllMigrated (n : Node) (ms : List Migration) : Prop :=
  Fallible.Along migrate
    (fun n m => ∀ c, n.run m.before = .ok c → c.MigratedTo m (c.onReconnectionAck m.ack)) n ms

/-- A sequence of migrations succeeds throughout exactly when it has at most one migration, the
node's first, whose address names the new host. -/
theorem all_migrated_iff {n n' : Node} {ms : List Migration} (hrun : ms.foldlM migrate n = .ok n')
    (confirmed : n.AllConfirmed ms) :
    n.AllMigrated ms ↔ ms = [] ∨ ∃ m, ms = [m] ∧ ∀ c, n.run m.before = .ok c →
      c.election.reconnected = false ∧ c.FirstAtAddress m := by
  cases ms with
  | nil => simp [AllMigrated, Fallible.Along]
  | cons m rest =>
    simp only [AllConfirmed, AllMigrated, Fallible.Along] at confirmed ⊢
    constructor
    · rintro ⟨hfirst, hrest⟩
      refine .inr ⟨m, ?_, fun c hc => (migratedTo_iff (confirmed.1 c hc)).mp (hfirst c hc)⟩
      cases rest with
      | nil => rfl
      | cons m' rest =>
        exfalso
        rw [List.foldlM_cons] at hrun
        obtain ⟨n₁, hmigrate, hrun⟩ := Fallible.bind_eq_ok.mp hrun
        obtain ⟨c, hc, hacks⟩ := Fallible.bind_eq_ok.mp hmigrate
        -- the first ack has set the flag, whatever its copies did
        have hflag : n₁.election.reconnected = true := by
          cases hacks
          have hback := reconnected_of_ack c m.ack (confirmed.1 c hc).survives
          rw [List.replicate_succ, List.foldl_cons, copies_ignored hback]
          exact hback
        rw [List.foldlM_cons] at hrun
        obtain ⟨n₂, hmigrate', -⟩ := Fallible.bind_eq_ok.mp hrun
        obtain ⟨c', hc', -⟩ := Fallible.bind_eq_ok.mp hmigrate'
        have hopen := ((migratedTo_iff ((confirmed.2 n₁ hmigrate).1 c' hc')).mp
          ((hrest n₁ hmigrate).1 c' hc')).1
        simp [run_reconnected hflag hc'] at hopen
    · rintro (hnil | ⟨m₀, heq, hfirst⟩)
      · cases hnil
      · cases heq
        exact ⟨fun c hc => (migratedTo_iff (confirmed.1 c hc)).mpr (hfirst c hc),
          fun _ _ => trivial⟩

/-! ### The second migration -/

/-- The fourth player of a session, whose first two successors to the host are players 2 and 3. -/
def fourthPlayer : Node :=
  let entry : RosterEntry := ⟨"player-4", "10.0.0.4", 50013, 3, .connected, false⟩
  clientOf ⟨threePlayers.players ++ [entry]⟩ entry "10.0.0.1"

/-- A snapshot arrives, then none for long enough to confirm the crash. -/
def confirmFrom (start : ℚ) (sequenceNumber : ℤ) : List TimedCall :=
  clientCalls
    [{ now := start
       datagrams := [(.ok (.worldState ⟨sequenceNumber, { sequenceNumber := sequenceNumber }⟩),
        "10.0.0.1", 50010)] },
      { now := start + 6 }, { now := start + 16 }]

def toSecondPlayer : Migration where
  before := confirmFrom 1 1
  newHost := "player-2"
  ack := ⟨"10.0.0.2", hostUdpPort, gameEventWsPort, "session"⟩
  copies := 1

def toThirdPlayer : Migration where
  before := confirmFrom 20 2
  newHost := "player-3"
  ack := ⟨"10.0.0.3", hostUdpPort, gameEventWsPort, "session"⟩
  copies := 0

instance (n : Node) (m : Migration) : Decidable (n.Confirmed m) :=
  decidable_of_iff (n.election.electionTriggered = true ∧ n.election.promotionDone = false ∧
      (n.roster.getHost.any fun crashed => crashed.playerId ≠ m.newHost) = true ∧
      ∃ e ∈ n.roster.players, e.playerId = m.newHost ∧ e.host = m.ack.newHostIp) <| by
    simp only [Option.any_eq_true, decide_eq_true_eq]
    exact ⟨fun ⟨h₁, h₂, h₃, h₄⟩ => ⟨h₁, h₂, h₃, h₄⟩, fun ⟨h₁, h₂, h₃, h₄⟩ => ⟨h₁, h₂, h₃, h₄⟩⟩

instance (n : Node) (m : Migration) : Decidable (n.FirstAtAddress m) :=
  inferInstanceAs (Decidable (_ = _))

instance (n : Node) (ms : List Migration) : Decidable (n.AllConfirmed ms) :=
  inferInstanceAs (Decidable (Fallible.Along _ _ _ _))

theorem fourthPlayer_migrates_once :
    ∃ n', [toSecondPlayer].foldlM migrate fourthPlayer = .ok n' ∧
      fourthPlayer.AllMigrated [toSecondPlayer] := by
  obtain ⟨n', hrun, -⟩ :=
    Fallible.exists_of_okAnd (x := [toSecondPlayer].foldlM migrate fourthPlayer)
    (p := fun _ => true) (by decide +kernel)
  exact ⟨n', hrun, (all_migrated_iff hrun (by decide +kernel)).mpr
    (.inr ⟨_, rfl, by decide +kernel⟩)⟩

/-- The ack of the second migration is taken for a copy of the first one's. -/
theorem fourthPlayer_does_not_migrate_twice :
    ¬ ∀ (n n' : Node) (ms : List Migration), n.ClientStart → ms.foldlM migrate n = .ok n' →
      n.AllConfirmed ms → n.AllMigrated ms := by
  intro always
  obtain ⟨n', hrun, hcheck⟩ := Fallible.exists_of_okAnd
    (x := [toSecondPlayer, toThirdPlayer].foldlM migrate fourthPlayer)
    (p := fun _ => fourthPlayer.AllConfirmed [toSecondPlayer, toThirdPlayer]) (by decide +kernel)
  have confirmed := of_decide_eq_true hcheck
  have hmigrated := always _ _ _ ⟨rfl, rfl⟩ hrun confirmed
  -- the second crash is confirmed, and the ack does not end the election
  obtain ⟨c, hc, hstale⟩ := Fallible.exists_of_okAnd
    (x := do
      let n₁ ← fourthPlayer.migrate toSecondPlayer
      n₁.run toThirdPlayer.before)
    (p := fun c => (c.onReconnectionAck toThirdPlayer.ack).election.electionTriggered)
    (by decide +kernel)
  obtain ⟨n₁, hmigrate, hc⟩ := Fallible.bind_eq_ok.mp hc
  have := ((hmigrated.2 n₁ hmigrate).1 c hc).rearmed
  simp [this] at hstale

end Node

end DistributedSmb
