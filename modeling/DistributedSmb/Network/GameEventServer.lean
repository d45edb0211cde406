import DistributedSmb.Library.Dict
import DistributedSmb.Library.Fallible
import DistributedSmb.Shared.Config

/-!
# The game event server

`network/game_events/server.py`, over any type of sockets. Its coroutines take turns at their await
points: an endpoint waits for its disconnect event, and a loop over the connections waits for one
send after the other, while the list that it walks goes on changing.
-/

namespace DistributedSmb

open Library

/-- One loop over `_connections`, of a `_broadcast` or of the heartbeat: the index that its iterator
looks up next, the socket whose send it awaits, and what has become of the sends so far. -/
structure SendRound (κ : Type) where
  text : String
  position : ℕ := 0
  awaiting : Option κ := none
  dead : List κ := []
  sent : List κ := []
  deriving DecidableEq

/-- The tables keyed by `id(ws)` are keyed by the socket; an event is true once it has been set.
`accepted` and `reported` record which sockets have ever been opened and reported. -/
structure GameEventServer (κ : Type) where
  connections : List κ := []
  wsToPlayer : Dict κ PlayerId := ∅
  wsToEvent : Dict κ Bool := ∅
  disconnectQueue : List PlayerId := []
  rounds : List (SendRound κ) := []
  accepted : List κ := []
  reported : List κ := []

/-- A client connects; a payload is broadcast; the heartbeat is due; the send that a round awaits
returns or raises; an endpoint stops waiting, woken by its event or cancelled; the host takes a
report. -/
inductive GameEventStep (κ : Type) where
  | connect (ws : κ) (playerId : PlayerId)
  | broadcast (payload : String)
  | heartbeat
  | sendReturns (round : ℕ) (raises : Bool)
  | endpointReturns (ws : κ) (cancelled : Bool)
  | poll
  deriving DecidableEq

variable {κ : Type}

/-- The iterator looks up its index in the list as it is now. -/
def SendRound.advance (connections : List κ) (r : SendRound κ) : SendRound κ :=
  match connections[r.position]? with
  | some ws => { r with
      position := r.position + 1
      awaiting := some ws }
  | none => { r with awaiting := none }

variable [DecidableEq κ]

def SendRound.sendReturns (ws : κ) (raises : Bool) (r : SendRound κ) : SendRound κ :=
  if raises then { r with dead := r.dead ++ [ws] } else { r with sent := r.sent ++ [ws] }

namespace GameEventServer

/-- After the loop, the endpoints of dead sockets are woken if they are still running. -/
def wake (dead : List κ) (events : Dict κ Bool) : Dict κ Bool :=
  dead.foldl (fun events ws => events.modify ws fun _ => true) events

def proceed (s : GameEventServer κ) (k : ℕ) (r : SendRound κ) : GameEventServer κ :=
  let r := r.advance s.connections
  { s with
    rounds := s.rounds.set k r
    wsToEvent := if r.awaiting.isNone then wake r.dead s.wsToEvent else s.wsToEvent }

def sendRound (s : GameEventServer κ) (text : String) : GameEventServer κ :=
  let r : SendRound κ := { text := text }
  ({ s with rounds := s.rounds ++ [r] } : GameEventServer κ).proceed s.rounds.length r

def ping : String := "\x7b\"type\":\"ping\"\x7d"

def sendReturns (s : GameEventServer κ) (k : ℕ) (raises : Bool) : GameEventServer κ :=
  match s.rounds[k]? with
  | none => s
  | some r =>
    match r.awaiting with
    | none => s
    | some ws => s.proceed k (r.sendReturns ws raises)

/-- `game_event_endpoint` up to its wait. Every socket is opened once. -/
def connect (s : GameEventServer κ) (ws : κ) (playerId : PlayerId) : GameEventServer κ :=
  if ws ∈ s.accepted then s
  else { s with
    connections := s.connections ++ [ws]
    wsToEvent := s.wsToEvent.set ws false
    wsToPlayer := if playerId = "" then s.wsToPlayer else s.wsToPlayer.set ws playerId
    accepted := s.accepted ++ [ws] }

/-- The `finally` clause of the endpoint. -/
def finish (s : GameEventServer κ) (ws : κ) : GameEventServer κ :=
  let pid := s.wsToPlayer.get? ws
  { s with
    wsToEvent := s.wsToEvent.erase ws
    connections := s.connections.erase ws
    wsToPlayer := s.wsToPlayer.erase ws
    disconnectQueue := s.disconnectQueue ++ pid.toList
    reported := s.reported ++ (pid.map fun _ => ws).toList }

/-- The endpoint of this socket is waiting, and its wait is over. -/
def Returns (s : GameEventServer κ) (ws : κ) (cancelled : Bool) : Prop :=
  ∃ woken ∈ s.wsToEvent.get? ws, woken = true ∨ cancelled = true

instance (s : GameEventServer κ) (ws : κ) (cancelled : Bool) : Decidable (s.Returns ws cancelled) :=
  inferInstanceAs (Decidable (∃ woken ∈ s.wsToEvent.get? ws, woken = true ∨ cancelled = true))

/-- The report that `get_disconnected_player` returns is the first one in the queue. -/
def getDisconnectedPlayer (s : GameEventServer κ) : Option PlayerId := s.disconnectQueue.head?

/-- A step that nobody is ready for changes nothing. -/
def step (s : GameEventServer κ) : GameEventStep κ → GameEventServer κ
  | .connect ws playerId => s.connect ws playerId
  | .broadcast payload => s.sendRound payload
  | .heartbeat => s.sendRound ping
  | .sendReturns k raises => s.sendReturns k raises
  | .endpointReturns ws cancelled => if s.Returns ws cancelled then s.finish ws else s
  | .poll => { s with disconnectQueue := s.disconnectQueue.tail }

def run (s : GameEventServer κ) (steps : List (GameEventStep κ)) : GameEventServer κ :=
  steps.foldl step s

/-! ## Registered sockets -/

/-- A socket is registered as long as its endpoint runs, and can be reported after that. -/
structure InOrder (s : GameEventServer κ) : Prop where
  nodup : s.connections.Nodup
  running : ∀ ws, ws ∈ s.wsToEvent ↔ ws ∈ s.connections
  named : ∀ ws ∈ s.wsToPlayer, ws ∈ s.connections
  accepted : ∀ ws ∈ s.connections, ws ∈ s.accepted
  reportedOnce : s.reported.Nodup
  gone : ∀ ws ∈ s.reported, ws ∈ s.accepted ∧ ws ∉ s.connections

theorem mem_wake {dead : List κ} {events : Dict κ Bool} {ws : κ} :
    ws ∈ wake dead events ↔ ws ∈ events := by
  induction dead generalizing events with
  | nil => rfl
  | cons w dead ih =>
    change ws ∈ wake dead (events.modify w fun _ => true) ↔ _
    rw [ih, Dict.modify, Dict.mem_mapWithKey]

/-- A loop over the connections registers nobody and ends no endpoint. -/
theorem InOrder.proceed {s : GameEventServer κ} (h : s.InOrder) (k : ℕ) (r : SendRound κ) :
    (s.proceed k r).InOrder where
  nodup := h.nodup
  running ws := by
    refine Iff.trans ?_ (h.running ws)
    simp only [GameEventServer.proceed]
    split
    · exact mem_wake
    · rfl
  named := h.named
  accepted := h.accepted
  reportedOnce := h.reportedOnce
  gone := h.gone

theorem InOrder.connect {s : GameEventServer κ} (h : s.InOrder) (ws : κ) (playerId : PlayerId) :
    (s.connect ws playerId).InOrder := by
  unfold GameEventServer.connect
  split
  case isTrue => exact h
  case isFalse hnew =>
    have hfree : ws ∉ s.connections := fun hmem => hnew (h.accepted ws hmem)
    constructor
    case nodup =>
      exact List.nodup_append.mpr ⟨h.nodup, List.nodup_singleton ws, fun a ha b hb heq =>
        hfree (List.mem_singleton.mp hb ▸ heq ▸ ha)⟩
    case running =>
      intro w
      simp [h.running, or_comm]
    case named =>
      intro w hw
      dsimp only at hw
      split at hw
      · exact List.mem_append_left _ (h.named w hw)
      · rcases Dict.mem_set.mp hw with rfl | hw
        · simp
        · exact List.mem_append_left _ (h.named w hw)
    case accepted =>
      intro w hw
      rcases List.mem_append.mp hw with hw | hw
      · exact List.mem_append_left _ (h.accepted w hw)
      · exact List.mem_append_right _ hw
    case reportedOnce => exact h.reportedOnce
    case gone =>
      intro w hw
      obtain ⟨haccepted, hgone⟩ := h.gone w hw
      refine ⟨List.mem_append_left _ haccepted, fun hmem => ?_⟩
      rcases List.mem_append.mp hmem with hmem | hmem
      · exact hgone hmem
      · exact hnew (List.mem_singleton.mp hmem ▸ haccepted)

theorem InOrder.finish {s : GameEventServer κ} (h : s.InOrder) (ws : κ) :
    (s.finish ws).InOrder where
  nodup := h.nodup.erase ws
  running w := by simp [GameEventServer.finish, h.running, h.nodup.mem_erase_iff, and_comm]
  named w hw := by
    obtain ⟨hmem, hne⟩ := Dict.mem_erase.mp hw
    exact h.nodup.mem_erase_iff.mpr ⟨hne, h.named w hmem⟩
  accepted w hw := h.accepted w (List.mem_of_mem_erase hw)
  reportedOnce := by
    simp only [GameEventServer.finish]
    cases hpid : s.wsToPlayer.get? ws with
    | none => simpa using h.reportedOnce
    | some pid =>
      have hregistered := h.named ws (Dict.mem_of_get?_eq_some hpid)
      exact List.nodup_append.mpr ⟨h.reportedOnce, List.nodup_singleton ws, fun a ha b hb heq =>
        (h.gone a ha).2 (heq ▸ List.mem_singleton.mp hb ▸ hregistered)⟩
  gone w hw := by
    simp only [GameEventServer.finish] at hw ⊢
    rcases List.mem_append.mp hw with hw | hw
    · obtain ⟨haccepted, hgone⟩ := h.gone w hw
      exact ⟨haccepted, fun hmem => hgone (List.mem_of_mem_erase hmem)⟩
    · cases hpid : s.wsToPlayer.get? ws with
      | none => simp [hpid] at hw
      | some pid =>
        obtain rfl : w = ws := by simpa [hpid] using hw
        have hregistered := h.named w (Dict.mem_of_get?_eq_some hpid)
        exact ⟨h.accepted w hregistered, h.nodup.not_mem_erase⟩

theorem InOrder.step {s : GameEventServer κ} (h : s.InOrder) (x : GameEventStep κ) :
    (s.step x).InOrder := by
  have hround (text : String) : (s.sendRound text).InOrder := by
    have hbegun : ({ s with rounds := s.rounds ++ [{ text := text }] } :
        GameEventServer κ).InOrder :=
      ⟨h.nodup, h.running, h.named, h.accepted, h.reportedOnce, h.gone⟩
    exact hbegun.proceed _ _
  cases x with
  | connect ws playerId => exact h.connect ws playerId
  | broadcast payload => exact hround payload
  | heartbeat => exact hround ping
  | sendReturns k raises =>
    simp only [GameEventServer.step, sendReturns]
    split
    · exact h
    · split
      · exact h
      · exact h.proceed k _
  | endpointReturns ws cancelled =>
    simp only [GameEventServer.step]
    split
    · exact h.finish ws
    · exact h
  | poll => exact ⟨h.nodup, h.running, h.named, h.accepted, h.reportedOnce, h.gone⟩

theorem run_inOrder (steps : List (GameEventStep κ)) : (run {} steps).InOrder :=
  Fallible.foldl_keeps (P := InOrder) (fun _ x _ h => h.step x) (by constructor <;> simp)

end GameEventServer

end DistributedSmb
