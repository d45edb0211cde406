import DistributedSmb.Election.Follower
import Mathlib.Tactic.Linarith

/-!
# The host failure detector

A watcher that a snapshot resets, and a deadline that a suspicion sets. The deadline stands only
while the host stays silent: a snapshot makes the next tick take it back, and an answer to the
probe takes it back at once. So an election starts only after a whole deadline of silence. On the
other side, the watcher that a reconnection leaves behind suspects nobody before it has heard one
snapshot.
-/

namespace DistributedSmb

open Library

namespace Node

/-! ## What a call does to the detector -/

/-- The deadline, the watcher, whether there is a coordinator, and whether an election runs. -/
def detector (n : Node) : ℚ × Option HostTimeoutWatcher × Bool × Bool :=
  (n.election.hostVerifyDeadline, n.election.timeoutWatcher, n.election.coordinator.isSome,
    n.election.electionTriggered)

/-- The call delivers a snapshot that the node accepts. -/
def accepts (n : Node) : Call → Bool
  | .client (.datagram (.ok (.worldState snapshot))) =>
    n.lastSnapshotSequence < snapshot.sequenceNumber
  | _ => false

/-- The call delivers a `HostIdentityResponse` for the node's session. -/
def hears (n : Node) : Call → Bool
  | .client (.datagram (.ok (.hostIdentityResponse response))) => response.sessionId = n.sessionId
  | _ => false

/-- What a call can do to the detector, the tick apart. -/
inductive DetectorEffect (n : Node) (c : TimedCall) (n' : Node) : Prop where
  | same (accepts : n.accepts c.call = false)
    (hears : n.hears c.call = true → n.election.hostVerifyDeadline = 0)
    (h : n'.detector = n.detector)
  | ensured (accepts : n.accepts c.call = false) (hears : n.hears c.call = false)
    (absent : n.election.coordinator = none)
    (h : n'.detector =
      (n.election.hostVerifyDeadline, some {}, true, n.election.electionTriggered))
  | accepted (accepts : n.accepts c.call = true) (hears : n.hears c.call = false)
    (h : n'.detector = (n.election.hostVerifyDeadline,
      n.election.timeoutWatcher.map (·.reset c.now), n.election.coordinator.isSome,
      n.election.electionTriggered))
  | answered (accepts : n.accepts c.call = false) (armed : n.election.hostVerifyDeadline ≠ 0)
    (h : n'.detector = (0, n.election.timeoutWatcher.map (·.reset c.now),
      n.election.coordinator.isSome, n.election.electionTriggered))
  | reset (accepts : n.accepts c.call = false) (hears : n.hears c.call = false)
    (opened : n.election.reconnected = false) (h : n'.detector = (0, some {}, false, false))
  | ticked (foundIp : Option Ip) (hcall : c.call = .client (.tickElectionState foundIp))
    (h : n.tickElectionState foundIp c.now = .ok n')

theorem Promoted.detector {n n' : Node} (h : n.Promoted n') : n'.detector = n.detector := by
  simp only [Node.detector, h.election]

/-- A reconnection resets the detector, unless it is ignored. -/
theorem onReconnectionAck_detector (n : Node) (ack : ReconnectionAck) :
    (n.onReconnectionAck ack).detector = n.detector ∨
      (n.election.reconnected = false ∧
        (n.onReconnectionAck ack).detector = (0, some {}, false, false)) := by
  obtain ⟨hsame, -⟩ | ⟨hopen, -, hreset⟩ := onReconnectionAck_cases n ack
  · exact .inl (by rw [hsame])
  · refine .inr ⟨hopen, ?_⟩
    simp only [detector, hreset.election, rearmed]
    rfl

theorem deliver_detector {n n' : Node} {message : ElectionMessage} {now : ℚ}
    (h : n.onElectionMessage now message = .ok n') :
    n'.detector = n.detector ∨
      (n.election.reconnected = false ∧ n'.detector = (0, some {}, false, false)) := by
  cases message with
  | newHostClaim claim =>
    obtain ⟨rfl, -⟩ | ⟨c, hsome, -, rfl⟩ := onNewHostClaim_cases h
    · exact .inl rfl
    · refine .inl ?_
      simp only [detector, hsome]
      rfl
  | electionAck ack =>
    obtain rfl | ⟨-, -, ⟨rfl, -⟩ | ⟨-, hpromoted⟩⟩ := onElectionAck_cases h
    · exact .inl rfl
    · exact .inl rfl
    · exact .inl hpromoted.detector
  | reconnectionAck ack =>
    cases h
    exact onReconnectionAck_detector n ack

theorem onSnapshot_detector {n n' : Node} {snapshot : WorldStateSnapshot} {now : ℚ}
    (h : n.onSnapshot snapshot now = .ok n') :
    (snapshot.sequenceNumber ≤ n.lastSnapshotSequence ∧ n' = n) ∨
      (n.lastSnapshotSequence < snapshot.sequenceNumber ∧
        n'.detector = (n.election.hostVerifyDeadline,
          n.election.timeoutWatcher.map (·.reset now), n.election.coordinator.isSome,
          n.election.electionTriggered)) := by
  unfold onSnapshot at h
  split at h
  case isTrue hstale => cases h; exact .inl ⟨hstale, rfl⟩
  case isFalse hnewer =>
    obtain ⟨p, -, h⟩ := Fallible.bind_eq_ok.mp h
    cases h
    exact .inr ⟨not_le.mp hnewer, rfl⟩

theorem runPredictedTicks_detector {n n' : Node} {localInput : InputState} {sentAt now : ℚ}
    (h : n.runPredictedTicks localInput sentAt now = .ok n') : n'.detector = n.detector := by
  refine Fallible.foldlM_keeps (P := fun m => m.detector = n.detector) ?_ h rfl
  intro m _ m' _ hm hstep
  obtain ⟨p, -, hstep⟩ := Fallible.bind_eq_ok.mp hstep
  cases hstep
  exact hm

theorem adjustPredictionLead_election (n : Node) :
    n.adjustPredictionLead.election = n.election := by
  simp only [adjustPredictionLead]
  split
  · rfl
  · split
    · rfl
    · split <;> rfl

theorem clientCall_detector {n n' : Node} {now : ℚ} {call : ClientCall}
    (h : n.clientCall now call = .ok n') : n.DetectorEffect ⟨now, .client call⟩ n' := by
  cases call with
  | ensureElectionComponents =>
    cases h
    unfold ensureElectionComponents
    split
    · exact .same rfl (by simp [hears]) rfl
    case h_2 hnone => exact .ensured rfl rfl hnone rfl
  | lobbyMessage message =>
    cases h
    refine .same rfl (by simp [hears]) ?_
    cases message <;> rfl
  | sendInputPacket localInput =>
    obtain ⟨packet, -, h⟩ := Fallible.bind_eq_ok.mp h
    cases h
    exact .same rfl (by simp [hears]) rfl
  | runPredictedTicks localInput sentAt =>
    exact .same rfl (by simp [hears]) (runPredictedTicks_detector h)
  | clearEvents => cases h; exact .same rfl (by simp [hears]) rfl
  | datagram payload =>
    obtain ⟨message, rfl, h⟩ := Fallible.bind_eq_ok.mp h
    cases message with
    | election message =>
      obtain hsame | ⟨hopen, hreset⟩ := deliver_detector h
      · exact .same rfl (by simp [hears]) hsame
      · exact .reset rfl rfl hopen hreset
    | hostIdentityResponse response =>
      cases h
      unfold onHostIdentityResponse
      split
      case isTrue hunset => exact .same rfl (fun _ => hunset) rfl
      case isFalse hset =>
        split
        case isTrue hforeign =>
          exact .same rfl (fun hown => absurd (of_decide_eq_true hown) hforeign) rfl
        case isFalse => exact .answered rfl hset rfl
    | worldState snapshot =>
      obtain ⟨hstale, rfl⟩ | ⟨hnewer, haccepted⟩ := onSnapshot_detector h
      · exact .same (by simpa [accepts] using hstale) (by simp [hears]) rfl
      · exact .accepted (by simpa [accepts] using hnewer) rfl haccepted
    | playerInput packet => cases h; exact .same rfl (by simp [hears]) rfl
    | hostDiscoveryProbe probe => cases h; exact .same rfl (by simp [hears]) rfl
  | gameEvent message =>
    cases message with
    | playerLeft pid =>
      cases h
      refine .same rfl (by simp [hears]) ?_
      split <;> rfl
    | rosterUpdate roster =>
      obtain ⟨merged, rfl, -, -⟩ := mergeRoster_spec h
      exact .same rfl (by simp [hears]) rfl
    | election message =>
      obtain hsame | ⟨hopen, hreset⟩ := deliver_detector h
      · exact .same rfl (by simp [hears]) hsame
      · exact .reset rfl rfl hopen hreset
    | levelReset => cases h; exact .same rfl (by simp [hears]) rfl
    | _ => cases h; exact .same rfl (by simp [hears]) rfl
  | tickElectionState foundIp => exact .ticked foundIp rfl h
  | adjustPredictionLead =>
    cases h
    exact .same rfl (by simp [hears]) (by simp only [detector, adjustPredictionLead_election])

theorem step_detector {n n' : Node} {c : TimedCall} (h : n.step c = .ok n') :
    n.DetectorEffect c n' := by
  obtain ⟨now, call⟩ := c
  cases call with
  | client call => exact clientCall_detector h
  | host call =>
    have helection := congrArg (fun s => s.2.2.2.2.2) (hostCall_standing h)
    change n'.election = n.election at helection
    exact .same rfl (by simp [hears]) (by simp only [detector, helection])

/-! ## What a tick does to the detector -/

/-- The suspicion of a silent host sets the deadline. -/
def Suspects (n : Node) (watcher : HostTimeoutWatcher) (now : ℚ) : Prop :=
  n.election.hostVerifyDeadline = 0 ∧ watcher.tick now = true

theorem resendHostVerifyProbe_detector {n n' : Node} {now : ℚ}
    (h : n.resendHostVerifyProbe now = .ok n') : n'.detector = n.detector := by
  obtain ⟨probe, -, h⟩ := Fallible.bind_eq_ok.mp h
  cases h
  rfl

/-- The deadline stays, or it is set, or taken back by a watcher that has heard the host, or it has
passed. -/
theorem tickHostTimeout_detector {n n' : Node} {coordinator : ElectionCoordinator}
    {watcher : HostTimeoutWatcher} {now : ℚ} (hwatcher : n.election.timeoutWatcher = some watcher)
    (h : n.tickHostTimeout coordinator watcher now = .ok n') :
    (n'.detector = n.detector ∧
        (n.election.hostVerifyDeadline ≠ 0 → watcher.tick now = true)) ∨
      (n.Suspects watcher now ∧
        n'.detector = (n.withHostVerifyDeadline (now + hostVerifyTimeoutS)).detector) ∨
      n'.detector = (n.withHostVerifyDeadline 0).detector ∨
      (n.ConfirmsTimeout now ∧ n' = n.startElection coordinator now) := by
  cases tickHostTimeout_watches h with
  | rests silent => exact .inl ⟨rfl, silent⟩
  | suspects unset _ silent probe =>
    exact .inr (.inl ⟨⟨unset, silent⟩, resendHostVerifyProbe_detector probe⟩)
  | hears => exact .inr (.inr (.inl rfl))
  | confirms set due silent => exact .inr (.inr (.inr ⟨⟨set, due, watcher, hwatcher, silent⟩, rfl⟩))
  | probes silent probe => exact .inl ⟨resendHostVerifyProbe_detector probe, fun _ => silent⟩

theorem tickReconnectionFallback_detector {n n' : Node} {foundIp : Option Ip} {now : ℚ}
    (h : n.tickReconnectionFallback foundIp now = .ok n') :
    n'.detector = n.detector ∨ n'.detector = (0, some {}, false, false) := by
  obtain rfl | rfl | ⟨-, ack, rfl⟩ := tickReconnectionFallback_cases h
  · exact .inl rfl
  · exact .inl rfl
  · exact (onReconnectionAck_detector _ ack).imp_right And.right

/-- What follows the host's timeout in a tick leaves the detector alone, or resets it. -/
theorem tickElectionState_detector {n n' : Node} {foundIp : Option Ip} {now : ℚ}
    (h : n.tickElectionState foundIp now = .ok n') :
    (n' = n ∧ (n.election.coordinator = none ∨ n.election.timeoutWatcher = none)) ∨
      ∃ coordinator watcher n₁, n.election.coordinator = some coordinator ∧
        n.election.timeoutWatcher = some watcher ∧
        n.tickHostTimeout coordinator watcher now = .ok n₁ ∧
        ((n₁.election.electionTriggered = false ∧ n' = n₁) ∨
          (n₁.election.electionTriggered = true ∧
            (n'.detector = n₁.detector ∨ n'.detector = (0, some {}, false, false)))) := by
  obtain hmissing | ⟨coordinator, watcher, n₁, hcoordinator, hwatcher, htimeout, hrest⟩ :=
    tickElectionState_cases h
  · exact .inl hmissing
  refine .inr ⟨coordinator, watcher, n₁, hcoordinator, hwatcher, htimeout, ?_⟩
  obtain hidle | ⟨htriggered, n₂, n₃, helect, hdeadline, hfallback⟩ := hrest
  · exact .inl hidle
  refine .inr ⟨htriggered, ?_⟩
  have h₂ : n₂.detector = n₁.detector := by
    obtain rfl | ⟨c, hsome, -, ⟨-, rfl⟩ | ⟨-, hpromote⟩⟩ := tickCoordinator_cases helect
    · rfl
    · simp only [detector, hsome]
      rfl
    · have hsame : (n₁.withCoordinator { c with state := .claimed }).detector = n₁.detector := by
        simp only [detector, hsome]
        rfl
      obtain ⟨-, rfl⟩ | ⟨-, hpromoted⟩ := promoteToHost_cases hpromote
      · exact hsame
      · exact hpromoted.detector.trans hsame
  have h₃ : n₃.detector = n₂.detector := by
    obtain rfl | ⟨-, hpromoted⟩ := tickClaimDeadline_cases hdeadline
    · rfl
    · exact hpromoted.detector
  rw [← h₂, ← h₃]
  exact tickReconnectionFallback_detector hfallback

/-- The call starts an election, whatever the rest of its tick makes of it. -/
def StartsElection (n : Node) (c : TimedCall) : Prop :=
  ∃ foundIp coordinator watcher n₁, c.call = .client (.tickElectionState foundIp) ∧
    n.election.coordinator = some coordinator ∧ n.election.timeoutWatcher = some watcher ∧
    n.tickHostTimeout coordinator watcher c.now = .ok n₁ ∧
    n.election.electionTriggered = false ∧ n₁.election.electionTriggered = true

/-- No other call triggers an election. -/
theorem startsElection_of_step {n n' : Node} {c : TimedCall} (h : n.step c = .ok n')
    (idle : n.election.electionTriggered = false)
    (triggered : n'.election.electionTriggered = true) : n.StartsElection c := by
  have kept (hflag : n'.election.electionTriggered = false) : n.StartsElection c := by
    simp [hflag] at triggered
  cases step_detector h with
  | same _ _ hd => exact kept ((congrArg (fun d => d.2.2.2) hd).trans idle)
  | ensured _ _ _ hd => exact kept ((congrArg (fun d => d.2.2.2) hd).trans idle)
  | accepted _ _ hd => exact kept ((congrArg (fun d => d.2.2.2) hd).trans idle)
  | answered _ _ hd => exact kept ((congrArg (fun d => d.2.2.2) hd).trans idle)
  | reset _ _ _ hd => exact kept (congrArg (fun d => d.2.2.2) hd)
  | ticked foundIp hcall htick =>
    obtain ⟨rfl, -⟩ | ⟨coordinator, watcher, n₁, hcoordinator, hwatcher, htimeout, hrest⟩ :=
      tickElectionState_detector htick
    · simp [idle] at triggered
    · refine ⟨foundIp, coordinator, watcher, n₁, hcall, hcoordinator, hwatcher, htimeout, idle, ?_⟩
      obtain ⟨hidle, rfl⟩ | ⟨htriggered, -⟩ := hrest
      · simp [hidle] at triggered
      · exact htriggered

end Node

/-! ## Frames under observation -/

/-- A node with the clocks of its frames, of those that accepted a snapshot and of those that heard
a `HostIdentityResponse` for its session. -/
structure Watch where
  node : Node
  frames : List ℚ := []
  accepted : List ℚ := []
  answered : List ℚ := []

namespace Watch

def call (w : Watch) (c : TimedCall) : Except PyError Watch := do
  let node ← w.node.step c
  .ok { w with
    node := node
    accepted := if w.node.accepts c.call then c.now :: w.accepted else w.accepted
    answered := if w.node.hears c.call then c.now :: w.answered else w.answered }

def calls (w : Watch) (l : List TimedCall) : Except PyError Watch := l.foldlM call w

def begin (w : Watch) (now : ℚ) : Watch := { w with frames := now :: w.frames }

def frame (w : Watch) (f : FrameInput) : Except PyError Watch :=
  (w.begin f.now).calls (f.calls w.node.role)

def run (w : Watch) (frames : List FrameInput) : Except PyError Watch := frames.foldlM frame w

/-- In this frame `election_triggered` becomes true; `w₁` is the state right before. -/
def TriggersIn (w : Watch) (f : FrameInput) (w₁ : Watch) : Prop :=
  ∃ before c after, f.calls w.node.role = before ++ c :: after ∧
    (w.begin f.now).calls before = .ok w₁ ∧ w₁.node.StartsElection c

theorem call_eq_ok {w w' : Watch} {c : TimedCall} (h : w.call c = .ok w') :
    w.node.step c = .ok w'.node ∧ w'.frames = w.frames ∧
      w'.accepted = (if w.node.accepts c.call then c.now :: w.accepted else w.accepted) ∧
      w'.answered = (if w.node.hears c.call then c.now :: w.answered else w.answered) := by
  obtain ⟨node, hstep, h⟩ := Fallible.bind_eq_ok.mp h
  cases h
  exact ⟨hstep, rfl, rfl, rfl⟩

/-- Observing the calls changes nothing of what they do. -/
theorem calls_node (w : Watch) (l : List TimedCall) :
    (w.calls l).map Watch.node = w.node.run l := by
  induction l generalizing w with
  | nil => rfl
  | cons c l ih =>
    rw [calls, List.foldlM_cons, Node.run, List.foldlM_cons]
    cases hstep : w.node.step c with
    | error e => simp only [call, hstep]; rfl
    | ok n => simp only [call, hstep]; exact ih _

theorem frame_node (w : Watch) (f : FrameInput) :
    (w.frame f).map Watch.node = w.node.processFrame f := calls_node _ _

/-- A frame that turns the flag on triggers the election in one of its calls. -/
theorem triggersIn_of_frame {w w' : Watch} {f : FrameInput} (h : w.frame f = .ok w')
    (idle : w.node.election.electionTriggered = false)
    (triggered : w'.node.election.electionTriggered = true) : ∃ w₁, w.TriggersIn f w₁ := by
  obtain ⟨before, c, after, w₁, w₂, hcalls, hbefore, hidle, hcall, htriggered⟩ :=
    Fallible.foldlM_turns (P := fun w : Watch => w.node.election.electionTriggered = true)
      (by simpa [begin] using idle) h triggered
  exact ⟨w₁, before, c, after, hcalls, hbefore,
    Node.startsElection_of_step (call_eq_ok hcall).1 (by simpa using hidle) htriggered⟩

/-- All snapshots were more than the host's timeout before this frame, and no answer came after. -/
structure ArmedAt (w : Watch) (t₀ : ℚ) : Prop where
  frame : t₀ ∈ w.frames
  silent : ∀ s ∈ w.accepted, s < t₀ - hostTimeoutS
  unanswered : ∀ s ∈ w.answered, s ≤ t₀

/-- A deadline that is set was set by a frame that armed it. -/
def Armed (w : Watch) : Prop :=
  w.node.election.hostVerifyDeadline ≠ 0 →
    ∃ t₀, w.ArmedAt t₀ ∧ w.node.election.hostVerifyDeadline = t₀ + hostVerifyTimeoutS

/-- The next tick of this frame takes a deadline back. -/
def JustHeard (w : Watch) (now : ℚ) : Prop :=
  ∃ watcher ∈ w.node.election.timeoutWatcher, watcher.lastSnapshotTime = some now

/-- What holds after every call at this clock. -/
structure Sound (w : Watch) (now : ℚ) : Prop where
  accepted : ∀ s ∈ w.accepted, s ≤ now
  answered : ∀ s ∈ w.answered, s ≤ now
  unarmed : w.node.election.coordinator.isSome = false → w.node.election.hostVerifyDeadline = 0
  watched : w.node.election.timeoutWatcher = none → w.node.election.coordinator.isSome = false
  timeout : ∀ watcher ∈ w.node.election.timeoutWatcher, watcher.timeoutS = hostTimeoutS
  heard : ∀ watcher ∈ w.node.election.timeoutWatcher, ∀ last ∈ watcher.lastSnapshotTime,
    ∀ s ∈ w.accepted, s ≤ last

theorem detector_eq {n : Node} {deadline : ℚ} {watcher : Option HostTimeoutWatcher} {b t : Bool} :
    n.detector = (deadline, watcher, b, t) ↔
      n.election.hostVerifyDeadline = deadline ∧ n.election.timeoutWatcher = watcher ∧
        n.election.coordinator.isSome = b ∧ n.election.electionTriggered = t := by
  simp [Node.detector]

theorem armed_of_unset {w : Watch} (h : w.node.election.hostVerifyDeadline = 0) : w.Armed :=
  fun hset => absurd h hset

/-- Nothing was heard, and the detector is as before. -/
theorem Sound.same {w w' : Watch} {now : ℚ} (hs : w.Sound now)
    (hd : w'.node.detector = w.node.detector) (haccepted : w'.accepted = w.accepted)
    (hanswered : ∀ s ∈ w'.answered, s ≤ now) : w'.Sound now := by
  obtain ⟨hdeadline, hwatcher, hcoordinator, -⟩ := detector_eq.mp hd
  constructor
  · rw [haccepted]; exact hs.accepted
  · exact hanswered
  · rw [hcoordinator, hdeadline]; exact hs.unarmed
  · rw [hwatcher, hcoordinator]; exact hs.watched
  · rw [hwatcher]; exact hs.timeout
  · rw [hwatcher, haccepted]; exact hs.heard

/-- A watcher that has just heard the host has heard every snapshot so far. -/
theorem sound_of_reset {w w' : Watch} {now deadline : ℚ} {t : Bool} (hs : w.Sound now)
    (hd : w'.node.detector = (deadline, w.node.election.timeoutWatcher.map (·.reset now),
      w.node.election.coordinator.isSome, t))
    (hdeadline : w.node.election.coordinator.isSome = false → deadline = 0)
    (haccepted : ∀ s ∈ w'.accepted, s ≤ now) (hanswered : ∀ s ∈ w'.answered, s ≤ now) :
    w'.Sound now := by
  obtain ⟨hdeadline', hwatcher, hcoordinator, -⟩ := detector_eq.mp hd
  constructor
  · exact haccepted
  · exact hanswered
  · rw [hcoordinator, hdeadline']; exact hdeadline
  · rw [hwatcher, hcoordinator, Option.map_eq_none_iff]; exact hs.watched
  · intro watcher hmem
    rw [hwatcher] at hmem
    obtain ⟨old, hold, rfl⟩ := Option.map_eq_some_iff.mp hmem
    exact hs.timeout old hold
  · intro watcher hmem last hlast
    rw [hwatcher] at hmem
    obtain ⟨old, -, rfl⟩ := Option.map_eq_some_iff.mp hmem
    obtain rfl : now = last := Option.some.inj hlast
    exact haccepted

/-- A fresh watcher has heard nothing. -/
theorem sound_of_fresh {w' : Watch} {now deadline : ℚ} {b t : Bool}
    (hd : w'.node.detector = (deadline, some {}, b, t)) (hdeadline : b = false → deadline = 0)
    (haccepted : ∀ s ∈ w'.accepted, s ≤ now) (hanswered : ∀ s ∈ w'.answered, s ≤ now) :
    w'.Sound now := by
  obtain ⟨hdeadline', hwatcher, hcoordinator, -⟩ := detector_eq.mp hd
  constructor
  · exact haccepted
  · exact hanswered
  · rw [hcoordinator, hdeadline']; exact hdeadline
  · rw [hwatcher]; exact fun hnone => absurd hnone (Option.some_ne_none _)
  · rw [hwatcher]
    rintro watcher ⟨⟩
    rfl
  · rw [hwatcher]
    rintro watcher ⟨⟩ last ⟨⟩

/-- A call other than a tick keeps the records in order. A snapshot leaves a deadline that the next
tick takes back; no other call leaves one that it cannot account for. -/
theorem call_sound {w w' : Watch} {c : TimedCall} (hs : w.Sound c.now)
    (htick : ∀ foundIp, c.call ≠ .client (.tickElectionState foundIp)) (h : w.call c = .ok w') :
    w'.Sound c.now ∧ (w.Armed ∨ w.JustHeard c.now → w'.Armed ∨ w'.JustHeard c.now) ∧
      (w.node.accepts c.call = false → w.Armed → w'.Armed) := by
  obtain ⟨hstep, hframes, haccepted, hanswered⟩ := call_eq_ok h
  have hanswered' : ∀ s ∈ w'.answered, s ≤ c.now := by
    rw [hanswered]
    split
    · exact List.forall_mem_cons.mpr ⟨le_rfl, hs.answered⟩
    · exact hs.answered
  have haccepted' : ∀ s ∈ w'.accepted, s ≤ c.now := by
    rw [haccepted]
    split
    · exact List.forall_mem_cons.mpr ⟨le_rfl, hs.accepted⟩
    · exact hs.accepted
  cases Node.step_detector hstep with
  | same hacc hhears hd =>
    simp only [hacc, Bool.false_eq_true, if_false] at haccepted
    refine ⟨hs.same hd haccepted hanswered', ?_⟩
    obtain ⟨hdeadline, hwatcher, -, -⟩ := detector_eq.mp hd
    have hkept (harmed : w.Armed) : w'.Armed := by
      cases hhear : w.node.hears c.call with
      | true =>
        -- an answer that nobody waits for
        exact armed_of_unset (hdeadline.trans (hhears hhear))
      | false =>
        simp only [hhear, Bool.false_eq_true, if_false] at hanswered
        intro hset
        rw [hdeadline] at hset ⊢
        obtain ⟨t₀, harmedAt, heq⟩ := harmed hset
        exact ⟨t₀, ⟨hframes ▸ harmedAt.frame, haccepted ▸ harmedAt.silent,
          hanswered ▸ harmedAt.unanswered⟩, heq⟩
    refine ⟨.imp hkept fun hheard => ?_, fun _ => hkept⟩
    rwa [JustHeard, hwatcher]
  | ensured _ _ absent hd =>
    have hunset : w.node.election.hostVerifyDeadline = 0 := hs.unarmed (by rw [absent]; rfl)
    have harmed' : w'.Armed := armed_of_unset ((detector_eq.mp hd).1.trans hunset)
    exact ⟨sound_of_fresh hd (fun h => by cases h) haccepted' hanswered', fun _ => .inl harmed',
      fun _ _ => harmed'⟩
  | accepted hacc _ hd =>
    refine ⟨sound_of_reset hs hd hs.unarmed haccepted' hanswered', fun _ => ?_,
      fun hnot => absurd (hacc.symm.trans hnot) Bool.noConfusion⟩
    obtain ⟨hdeadline, hwatcher, -, -⟩ := detector_eq.mp hd
    cases hold : w.node.election.timeoutWatcher with
    | none =>
      have hunset := hs.unarmed (hs.watched hold)
      exact .inl (armed_of_unset (hdeadline.trans hunset))
    | some watcher =>
      rw [hold] at hwatcher
      exact .inr ⟨watcher.reset c.now, hwatcher, rfl⟩
  | answered _ _ hd =>
    have harmed' : w'.Armed := armed_of_unset (detector_eq.mp hd).1
    exact ⟨sound_of_reset hs hd (fun _ => rfl) haccepted' hanswered', fun _ => .inl harmed',
      fun _ _ => harmed'⟩
  | reset _ _ _ hd =>
    have harmed' : w'.Armed := armed_of_unset (detector_eq.mp hd).1
    exact ⟨sound_of_fresh hd (fun _ => rfl) haccepted' hanswered', fun _ => .inl harmed',
      fun _ _ => harmed'⟩
  | ticked foundIp hcall _ => exact absurd hcall (htick foundIp)

/-- A watcher that ticks has heard its last snapshot, and any other, long ago. -/
theorem Sound.silent {w : Watch} {now : ℚ} (hs : w.Sound now) {watcher : HostTimeoutWatcher}
    (hwatcher : w.node.election.timeoutWatcher = some watcher) (hticks : watcher.tick now = true) :
    (∀ s ∈ w.accepted, s < now - hostTimeoutS) ∧ ¬ w.JustHeard now := by
  have htimeout := hs.timeout watcher hwatcher
  unfold HostTimeoutWatcher.tick at hticks
  cases hlast : watcher.lastSnapshotTime with
  | none => simp [hlast] at hticks
  | some last =>
    simp only [hlast, htimeout, decide_eq_true_eq] at hticks
    constructor
    · intro s hmem
      have hle := hs.heard watcher hwatcher last hlast s hmem
      linarith
    · rintro ⟨watcher', hwatcher', hnow⟩
      obtain rfl : watcher' = watcher := Option.mem_unique hwatcher' hwatcher
      obtain rfl : last = now := Option.some.inj (hlast.symm.trans hnow)
      have hpos : (0 : ℚ) < hostTimeoutS := by decide +kernel
      linarith

theorem armed_of_ticks {w : Watch} {now : ℚ} (hs : w.Sound now)
    (harmed : w.Armed ∨ w.JustHeard now) {watcher : HostTimeoutWatcher}
    (hwatcher : w.node.election.timeoutWatcher = some watcher) (hticks : watcher.tick now = true) :
    w.Armed :=
  harmed.resolve_right (hs.silent hwatcher hticks).2

/-- After its tick a frame leaves no deadline that it cannot account for. -/
theorem tick_sound {w w' : Watch} {c : TimedCall} (hs : w.Sound c.now) (hframe : c.now ∈ w.frames)
    (harmed : w.Armed ∨ w.JustHeard c.now) {foundIp : Option Ip}
    (hcall : c.call = .client (.tickElectionState foundIp)) (h : w.call c = .ok w') :
    w'.Sound c.now ∧ w'.Armed := by
  obtain ⟨hstep, hframes, haccepted, hanswered⟩ := call_eq_ok h
  simp only [hcall, Node.accepts, Node.hears, Bool.false_eq_true, if_false] at haccepted hanswered
  have htick : w.node.tickElectionState foundIp c.now = .ok w'.node := by
    rw [Node.step, hcall] at hstep
    exact hstep
  have haccepted' : ∀ s ∈ w'.accepted, s ≤ c.now := haccepted ▸ hs.accepted
  have hanswered' : ∀ s ∈ w'.answered, s ≤ c.now := hanswered ▸ hs.answered
  have move {t₀ : ℚ} (h : w.ArmedAt t₀) : w'.ArmedAt t₀ :=
    ⟨hframes ▸ h.frame, haccepted ▸ h.silent, hanswered ▸ h.unanswered⟩
  obtain ⟨hsame, hmissing⟩ | ⟨coordinator, watcher, n₁, hcoordinator, hwatcher, htimeout, hrest⟩ :=
    Node.tickElectionState_detector htick
  · have hunset : w.node.election.hostVerifyDeadline = 0 := by
      apply hs.unarmed
      obtain hnone | hnone := hmissing
      · rw [hnone]; rfl
      · exact hs.watched hnone
    refine ⟨hs.same (by rw [hsame]) haccepted hanswered', armed_of_unset ?_⟩
    rw [hsame]
    exact hunset
  -- the rest of the tick leaves the detector alone, or takes the deadline back
  have hafter : w'.node.detector = n₁.detector ∨ w'.node.detector = (0, some {}, false, false) := by
    obtain ⟨-, hsame⟩ | ⟨-, hd⟩ := hrest
    · exact .inl (by rw [hsame])
    · exact hd
  obtain hd | hreset := hafter
  case inr =>
    exact ⟨sound_of_fresh hreset (fun _ => rfl) haccepted' hanswered',
      armed_of_unset (detector_eq.mp hreset).1⟩
  have hsome : w.node.election.coordinator.isSome = true := by rw [hcoordinator]; rfl
  have unset (hdeadline : w'.node.election.hostVerifyDeadline = 0)
      (hkept : w'.node.election.timeoutWatcher = w.node.election.timeoutWatcher) :
      w'.Sound c.now ∧ w'.Armed := by
    refine ⟨⟨haccepted', hanswered', fun _ => hdeadline, ?_, ?_, ?_⟩, armed_of_unset hdeadline⟩
    · rw [hkept, hwatcher]; exact fun hnone => absurd hnone (Option.some_ne_none _)
    · rw [hkept]; exact hs.timeout
    · rw [hkept, haccepted]; exact hs.heard
  obtain ⟨hsame, hticks⟩ | ⟨⟨hunset, hticks⟩, harms⟩ | htaken | ⟨-, rfl⟩ :=
    Node.tickHostTimeout_detector hwatcher htimeout
  · have hd' := hd.trans hsame
    refine ⟨hs.same hd' haccepted hanswered', fun hset => ?_⟩
    have hdeadline := (detector_eq.mp hd').1
    rw [hdeadline] at hset ⊢
    obtain ⟨t₀, harmedAt, heq⟩ := armed_of_ticks hs harmed hwatcher (hticks hset) hset
    exact ⟨t₀, move harmedAt, heq⟩
  · -- the suspicion arms the deadline in this very frame
    obtain ⟨hdeadline, hwatcher', hcoordinator', -⟩ := detector_eq.mp (hd.trans harms)
    refine ⟨⟨haccepted', hanswered', ?_, ?_, ?_, ?_⟩, fun _ => ⟨c.now, move ?_, hdeadline⟩⟩
    · rw [hcoordinator']
      exact fun hnone => absurd (hsome.symm.trans hnone) Bool.noConfusion
    · rw [hwatcher', hcoordinator']; exact hs.watched
    · rw [hwatcher']; exact hs.timeout
    · rw [hwatcher', haccepted]; exact hs.heard
    · exact ⟨hframe, (hs.silent hwatcher hticks).1, hs.answered⟩
  · obtain ⟨hdeadline, hkept, -, -⟩ := detector_eq.mp (hd.trans htaken)
    exact unset hdeadline hkept
  · obtain ⟨hdeadline, hkept, -, -⟩ := detector_eq.mp hd
    exact unset hdeadline hkept

theorem mem_calls_now {f : FrameInput} {role : PlayerRole} {c : TimedCall}
    (h : c ∈ f.calls role) : c.now = f.now := by
  cases role <;>
  · obtain ⟨call, -, rfl⟩ := List.mem_map.mp h
    rfl

/-- At every point of a frame the records are in order, and a deadline is accounted for or will be
taken back. -/
theorem calls_sound {w w' : Watch} {now : ℚ} {l : List TimedCall} (hnow : ∀ c ∈ l, c.now = now)
    (hs : w.Sound now) (hframe : now ∈ w.frames) (harmed : w.Armed ∨ w.JustHeard now)
    (h : w.calls l = .ok w') :
    w'.Sound now ∧ now ∈ w'.frames ∧ (w'.Armed ∨ w'.JustHeard now) := by
  refine Fallible.foldlM_keeps
    (P := fun w : Watch => w.Sound now ∧ now ∈ w.frames ∧ (w.Armed ∨ w.JustHeard now))
    (fun w c w' hc hP hcall => ?_) h ⟨hs, hframe, harmed⟩
  obtain ⟨hs, hframe, harmed⟩ := hP
  obtain rfl := hnow c hc
  have hframe' : c.now ∈ w'.frames := (call_eq_ok hcall).2.1 ▸ hframe
  by_cases htick : ∃ foundIp, c.call = .client (.tickElectionState foundIp)
  · obtain ⟨foundIp, htick⟩ := htick
    obtain ⟨hs', harmed'⟩ := tick_sound hs hframe harmed htick hcall
    exact ⟨hs', hframe', .inl harmed'⟩
  · obtain ⟨hs', harmed', -⟩ := call_sound hs (not_exists.mp htick) hcall
    exact ⟨hs', hframe', harmed' harmed⟩

theorem begin_sound {w : Watch} {t now : ℚ} (hs : w.Sound t) (hle : t ≤ now) (harmed : w.Armed) :
    (w.begin now).Sound now ∧ (w.begin now).Armed := by
  refine ⟨⟨?_, ?_, hs.unarmed, hs.watched, hs.timeout, hs.heard⟩, fun hset => ?_⟩
  · intro s hmem
    exact (hs.accepted s hmem).trans hle
  · intro s hmem
    exact (hs.answered s hmem).trans hle
  · obtain ⟨t₀, harmedAt, heq⟩ := harmed hset
    exact ⟨t₀, ⟨List.mem_cons_of_mem _ harmedAt.frame, harmedAt.silent, harmedAt.unanswered⟩, heq⟩

/-- Calls that accept no snapshot keep the account of the deadline. -/
theorem quiet_calls_sound {w w' : Watch} {now : ℚ} {l : List TimedCall}
    (hnow : ∀ c ∈ l, c.now = now)
    (htick : ∀ c ∈ l, ∀ foundIp, c.call ≠ .client (.tickElectionState foundIp))
    (haccepts : ∀ c ∈ l, ∀ n : Node, n.accepts c.call = false) (hs : w.Sound now) (harmed : w.Armed)
    (h : w.calls l = .ok w') : w'.Sound now ∧ w'.Armed := by
  refine Fallible.foldlM_keeps (P := fun w : Watch => w.Sound now ∧ w.Armed)
    (fun w c w' hc hP hcall => ?_) h ⟨hs, harmed⟩
  obtain rfl := hnow c hc
  obtain ⟨hs', -, harmed'⟩ := call_sound hP.1 (htick c hc) hcall
  exact ⟨hs', harmed' (haccepts c hc w.node) hP.2⟩

theorem frame_sound {w w' : Watch} {t : ℚ} {f : FrameInput} (hs : w.Sound t) (hle : t ≤ f.now)
    (harmed : w.Armed) (h : w.frame f = .ok w') : w'.Sound f.now ∧ w'.Armed := by
  obtain ⟨hs₀, harmed₀⟩ := begin_sound hs hle harmed
  unfold frame at h
  cases hrole : w.node.role with
  | host =>
    rw [hrole] at h
    refine quiet_calls_sound (fun c hc => mem_calls_now hc) ?_ ?_ hs₀ harmed₀ h
    all_goals
      intro c hc
      obtain ⟨call, -, rfl⟩ := List.mem_map.mp hc
      simp [Node.accepts]
  | client =>
    rw [hrole] at h
    -- everything up to the tick, the tick, and the call after it
    let tick : TimedCall := ⟨f.now, .client (.tickElectionState f.foundIp)⟩
    let adjust : TimedCall := ⟨f.now, .client .adjustPredictionLead⟩
    obtain ⟨before, hcalls⟩ : ∃ before, f.calls .client = before ++ [tick, adjust] :=
      ⟨_, List.map_append⟩
    have hnow : ∀ c ∈ before, c.now = f.now := by
      intro c hc
      have hmem : c ∈ f.calls .client := hcalls ▸ List.mem_append_left _ hc
      exact mem_calls_now hmem
    rw [hcalls, calls, List.foldlM_append] at h
    obtain ⟨w₁, hbefore, h⟩ := Fallible.bind_eq_ok.mp h
    obtain ⟨hs₁, hframe₁, harmed₁⟩ :=
      calls_sound hnow hs₀ List.mem_cons_self (.inl harmed₀) hbefore
    obtain ⟨w₂, htick, h⟩ := Fallible.bind_eq_ok.mp h
    obtain ⟨hs₂, harmed₂⟩ := tick_sound (c := tick) hs₁ hframe₁ harmed₁ rfl htick
    exact quiet_calls_sound (l := [adjust]) (by simp [adjust]) (by simp [adjust])
      (by simp [adjust, Node.accepts]) hs₂ harmed₂ h

theorem start_sound {n : Node} (start : n.ClientStart) (t : ℚ) :
    (Watch.Sound { node := n } t) ∧ Watch.Armed { node := n } := by
  refine ⟨⟨by simp, by simp, ?_, ?_, ?_, ?_⟩, armed_of_unset ?_⟩ <;> simp [start.fresh]

theorem run_sound {w w' : Watch} {t : ℚ} {frames : List FrameInput} (hs : w.Sound t)
    (harmed : w.Armed) (ordered : (frames.map FrameInput.now).Pairwise (· ≤ ·))
    (hle : ∀ f ∈ frames, t ≤ f.now) (h : w.run frames = .ok w') {last : ℚ} (hlast : t ≤ last)
    (hframes : ∀ f ∈ frames, f.now ≤ last) : w'.Sound last ∧ w'.Armed := by
  induction frames generalizing w t with
  | nil =>
    cases h
    exact ⟨⟨fun s hmem => (hs.accepted s hmem).trans hlast,
      fun s hmem => (hs.answered s hmem).trans hlast, hs.unarmed, hs.watched, hs.timeout, hs.heard⟩,
      harmed⟩
  | cons f frames ih =>
    rw [run, List.foldlM_cons] at h
    obtain ⟨w₁, hframe, h⟩ := Fallible.bind_eq_ok.mp h
    rw [List.map_cons, List.pairwise_cons] at ordered
    obtain ⟨hs₁, harmed₁⟩ := frame_sound hs (hle f List.mem_cons_self) harmed hframe
    exact ih hs₁ harmed₁ ordered.2 (fun g hg => ordered.1 _ (List.mem_map_of_mem hg)) h
      (hframes f List.mem_cons_self) fun g hg => hframes g (List.mem_cons_of_mem _ hg)

/-- The frame in which the third player's suspicion is confirmed. -/
def confirmingFrame : FrameInput := { now := 17 }

end Watch

/-! ## After a reconnection -/

/-- No snapshot and no answer of a host. -/
def Call.silent : Call → Bool
  | .client (.datagram (.ok (.worldState _))) => false
  | .client (.datagram (.ok (.hostIdentityResponse _))) => false
  | _ => true

def FrameInput.Silent (f : FrameInput) : Prop :=
  ∀ call ∈ f.clientCalls, (Call.client call).silent = true

/-- From `t` on no two frames are more than `gap` apart. -/
def Paced (gap : ℚ) : ℚ → List FrameInput → Prop
  | _, [] => True
  | t, f :: frames => t ≤ f.now ∧ f.now ≤ t + gap ∧ Paced gap f.now frames

namespace Node

theorem accepts_of_silent (n : Node) {c : Call} (h : c.silent = true) : n.accepts c = false := by
  unfold accepts
  split
  · simp [Call.silent] at h
  · rfl

theorem silent_calls {f : FrameInput} (h : f.Silent) (role : PlayerRole) {c : TimedCall}
    (hc : c ∈ f.calls role) : c.call.silent = true := by
  cases role with
  | host => obtain ⟨call, -, rfl⟩ := List.mem_map.mp hc; rfl
  | client => obtain ⟨call, hmem, rfl⟩ := List.mem_map.mp hc; exact h call hmem

/-- A detector whose watcher has not heard a host. -/
structure Deaf (n : Node) : Prop where
  unset : n.election.hostVerifyDeadline = 0
  idle : n.election.electionTriggered = false
  unheard : ∀ watcher ∈ n.election.timeoutWatcher, watcher.lastSnapshotTime = none

theorem Deaf.of_detector {n' : Node} {deadline : ℚ}
    {watcher : Option HostTimeoutWatcher} {b t : Bool}
    (hd : n'.detector = (deadline, watcher, b, t)) (unset : deadline = 0) (idle : t = false)
    (unheard : ∀ w ∈ watcher, w.lastSnapshotTime = none) : n'.Deaf := by
  obtain ⟨hdeadline, hwatcher, -, htriggered⟩ := Watch.detector_eq.mp hd
  exact ⟨hdeadline.trans unset, htriggered.trans idle, hwatcher ▸ unheard⟩

/-- A watcher that has heard nothing suspects nobody. -/
theorem tick_deaf {n n' : Node} {foundIp : Option Ip} {now : ℚ} (hn : n.Deaf)
    (h : n.tickElectionState foundIp now = .ok n') : n'.Deaf := by
  obtain ⟨rfl, -⟩ | ⟨coordinator, watcher, n₁, -, hwatcher, htimeout, hrest⟩ :=
    tickElectionState_detector h
  · exact hn
  have hn₁ : n₁.Deaf := by
    obtain ⟨hsame, -⟩ | ⟨⟨-, hticks⟩, -⟩ | htaken | ⟨⟨hset, -⟩, -⟩ :=
      tickHostTimeout_detector hwatcher htimeout
    · exact .of_detector hsame hn.unset hn.idle hn.unheard
    · simp [HostTimeoutWatcher.tick, hn.unheard watcher hwatcher] at hticks
    · exact .of_detector htaken rfl hn.idle hn.unheard
    · exact absurd hn.unset hset
  obtain ⟨-, rfl⟩ | ⟨htriggered, -⟩ := hrest
  · exact hn₁
  · simp [hn₁.idle] at htriggered

theorem step_deaf {n n' : Node} {c : TimedCall} (hn : n.Deaf) (silent : c.call.silent = true)
    (h : n.step c = .ok n') : n'.Deaf := by
  cases step_detector h with
  | same _ _ hd => exact .of_detector hd hn.unset hn.idle hn.unheard
  | ensured _ _ _ hd => exact .of_detector hd hn.unset hn.idle (by rintro w ⟨⟩; rfl)
  | accepted hacc _ _ =>
    exact absurd (hacc.symm.trans (n.accepts_of_silent silent)) Bool.noConfusion
  | answered _ armed _ => exact absurd hn.unset armed
  | reset _ _ _ hd => exact .of_detector hd rfl rfl (by rintro w ⟨⟩; rfl)
  | ticked foundIp _ htick => exact tick_deaf hn htick

theorem run_deaf {n n' : Node} {calls : List TimedCall} (hn : n.Deaf)
    (silent : ∀ c ∈ calls, c.call.silent = true) (h : n.run calls = .ok n') : n'.Deaf :=
  Fallible.foldlM_keeps (P := Deaf) (fun _ c _ hc hm hstep => step_deaf hm (silent c hc) hstep) h hn

/-- After the ack that a client follows, whatever is left of its frame and however many frames come
next: as long as the new host has not spoken once, no election is triggered. -/
theorem silent_host_is_never_suspected {n n₁ n₂ : Node} {ack : ReconnectionAck}
    {rest : List TimedCall} {frames : List FrameInput} (hopen : n.election.reconnected = false)
    (waiting : n.election.promotionDone = false) (hrest : ∀ c ∈ rest, c.call.silent = true)
    (silent : ∀ f ∈ frames, f.Silent) (h₁ : (n.onReconnectionAck ack).run rest = .ok n₁)
    (h₂ : frames.foldlM processFrame n₁ = .ok n₂) : n₂.election.electionTriggered = false := by
  have hreset : (n.onReconnectionAck ack).Deaf := by
    obtain ⟨-, hclosed | hdone⟩ | ⟨-, -, hreset⟩ := onReconnectionAck_cases n ack
    · simp [hopen] at hclosed
    · simp [waiting] at hdone
    · have hd : (n.onReconnectionAck ack).detector = (0, some {}, false, false) := by
        simp only [detector, hreset.election, rearmed]
        rfl
      exact .of_detector hd rfl rfl (by rintro w ⟨⟩; rfl)
  have hdeaf : n₂.Deaf := by
    refine Fallible.foldlM_keeps (P := Deaf) ?_ h₂ (run_deaf hreset hrest h₁)
    intro m f m' hf hm hframe
    exact run_deaf hm (fun c hc => silent_calls (silent f hf) _ hc) hframe
  exact hdeaf.idle

/-! ### A second host that never speaks -/

/-- The third player elects at second 17 and follows the second player right then. -/
def reconnecting : Except PyError Node :=
  thirdPlayer.run (clientCalls ((framesUntil 18).take 3))

def secondPlayersAck : ReconnectionAck :=
  ⟨"10.0.0.2", hostUdpPort, gameEventWsPort, "session"⟩

/-- Half a minute of frames, five seconds apart, in which nothing arrives. -/
def silentFrames : List FrameInput :=
  [{ now := 22 }, { now := 27 }, { now := 32 }, { now := 37 }, { now := 42 }, { now := 47 }]

instance (f : FrameInput) : Decidable f.Silent := inferInstanceAs (Decidable (∀ _ ∈ _, _))

instance decidablePaced (gap : ℚ) :
    ∀ (t : ℚ) (frames : List FrameInput), Decidable (Paced gap t frames)
  | _, [] => .isTrue trivial
  | t, f :: frames =>
    have := decidablePaced gap f.now frames
    inferInstanceAs (Decidable (t ≤ f.now ∧ f.now ≤ t + gap ∧ Paced gap f.now frames))

theorem thirdPlayer_never_suspects :
    ∃ n n₂, reconnecting = .ok n ∧
      silentFrames.foldlM processFrame (n.onReconnectionAck secondPlayersAck) = .ok n₂ ∧
      n₂.election.electionTriggered = false := by
  obtain ⟨n, hn, hcheck⟩ := Fallible.exists_of_okAnd (x := reconnecting)
    (p := fun n => n.election.reconnected = false ∧ n.election.promotionDone = false ∧
      Fallible.okAnd (silentFrames.foldlM processFrame (n.onReconnectionAck secondPlayersAck))
        fun _ => true) (by decide +kernel)
  obtain ⟨hopen, waiting, hframes⟩ := of_decide_eq_true hcheck
  obtain ⟨n₂, hframes, -⟩ := Fallible.exists_of_okAnd hframes
  have hrest : (n.onReconnectionAck secondPlayersAck).run [] =
      .ok (n.onReconnectionAck secondPlayersAck) := rfl
  exact ⟨n, n₂, hn, hframes, silent_host_is_never_suspected hopen waiting (by simp) (by decide)
    hrest hframes⟩

/-- The frames reach far beyond the time in which a dead host should be noticed. -/
theorem second_crash_goes_unnoticed :
    ¬ ∀ (n₀ n n₂ : Node) (before : List TimedCall) (ack : ReconnectionAck) (t gap : ℚ)
      (frames : List FrameInput), n₀.ClientStart → n₀.run before = .ok n → n.role = .client →
      n.election.reconnected = false → n.election.promotionDone = false →
      Paced gap t frames → (∀ f ∈ frames, f.Silent) →
      (∃ f ∈ frames, t + hostTimeoutS + hostVerifyTimeoutS + 2 * gap < f.now) →
      frames.foldlM processFrame (n.onReconnectionAck ack) = .ok n₂ →
      n₂.election.electionTriggered = true := by
  intro notices
  obtain ⟨n, hn, hcheck⟩ := Fallible.exists_of_okAnd (x := reconnecting)
    (p := fun n => n.role = .client ∧ n.election.reconnected = false ∧
      n.election.promotionDone = false ∧
      Fallible.okAnd (silentFrames.foldlM processFrame (n.onReconnectionAck secondPlayersAck))
        fun n₂ => !n₂.election.electionTriggered) (by decide +kernel)
  obtain ⟨client, hopen, waiting, hframes⟩ := of_decide_eq_true hcheck
  obtain ⟨n₂, hframes, hidle⟩ := Fallible.exists_of_okAnd hframes
  have htriggered := notices thirdPlayer n n₂ _ secondPlayersAck 17 5 silentFrames ⟨rfl, rfl⟩ hn
    client hopen waiting (by decide +kernel) (by decide) (by decide +kernel) hframes
  simp [htriggered] at hidle

end Node

end DistributedSmb
