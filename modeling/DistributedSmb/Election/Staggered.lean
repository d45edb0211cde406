import DistributedSmb.Election.ClaimOrder
import Mathlib.Data.Fintype.Basic
import Mathlib.Tactic.Linarith

/-!
# The staggered timers

The survivors of a crash start their elections almost together, and each claims the host role once
its own timer has expired. The skew of the starts, the length of a frame and the delay of a claim
fit into the distance between two timers, so the lowest join index claims first, and its claim is
processed by everyone else before another timer expires.
-/

namespace DistributedSmb

open Library

variable {ι : Type}

/-- How far apart the elections start, how long a frame can take and how long a claim travels. -/
structure Timing where
  skew : ℚ
  frame : ℚ
  delay : ℚ
  skew_nonneg : 0 ≤ skew
  frame_nonneg : 0 ≤ frame
  delay_nonneg : 0 ≤ delay
  fits : skew + frame + delay ≤ tElectionDeltaS

/-- What a coordinator meets in one frame: the claims that have arrived, the peers if its election
starts, and the clock. -/
structure CoordinatorFrame where
  now : ℚ
  claims : List NewHostClaim := []
  starts : Option (List Ip) := none

/-- The claims are drained before the election state is ticked, and an election that starts is
ticked in the same frame. The tick of an idle coordinator, which the source skips, does nothing. -/
def ElectionCoordinator.frame (c : ElectionCoordinator) (f : CoordinatorFrame) :
    Except PyError (ElectionCoordinator × Option ElectionEvent) :=
  let c := c.receiveClaims f.claims
  match f.starts with
  | some peers => ((c.startElection peers).setElectionTimer f.now).tick f.now
  | none => c.tick f.now

/-- A coordinator, and when its election started, when it ran its last frame and what it was
sent. -/
structure Candidate where
  coordinator : ElectionCoordinator
  startedAt : Option ℚ := none
  lastFrame : Option ℚ := none
  received : List NewHostClaim := []

structure SentClaim (ι : Type) where
  node : ι
  sentAt : ℚ
  claim : NewHostClaim

/-- The claims that were sent are the `SelfElected` events, in their order. -/
structure Candidates (ι : Type) where
  nodes : ι → Candidate
  sessionId : String
  sent : List (SentClaim ι) := []

structure CandidateFrame (ι : Type) extends CoordinatorFrame where
  node : ι

/-- The survivor after a frame that left it with this coordinator. -/
def Candidate.after (s : Candidate) (f : CoordinatorFrame) (coordinator : ElectionCoordinator) :
    Candidate where
  coordinator := coordinator
  startedAt := if f.starts.isSome then some f.now else s.startedAt
  lastFrame := some f.now
  received := s.received ++ f.claims

namespace ElectionCoordinator

/-- The time from the start of an election to the timer of this join index. -/
def electionWait (joinIndex : ℕ) : ℚ := tElectionBaseS + joinIndex * tElectionDeltaS

/-- A coordinator with this join index and the configured timeouts. -/
structure Staggered (joinIndex : ℕ) (c : ElectionCoordinator) : Prop where
  index : c.joinIndex = joinIndex
  base : c.timeoutBaseS = tElectionBaseS
  delta : c.timeoutDeltaS = tElectionDeltaS

theorem Staggered.follows {joinIndex : ℕ} {c : ElectionCoordinator} (h : c.Staggered joinIndex)
    (claim : NewHostClaim) : (c.follows claim).Staggered joinIndex := ⟨h.index, h.base, h.delta⟩

/-- Claims that are not lower change nothing. -/
theorem receiveClaims_higher {c : ElectionCoordinator} {claims : List NewHostClaim}
    (h : ∀ claim ∈ claims, c.joinIndex ≤ claim.claimerJoinIndex) : c.receiveClaims claims = c := by
  have hnone : c.lowerClaims claims = [] := by
    apply List.filter_eq_nil_iff.mpr
    intro claim hclaim
    simpa using h claim hclaim
  rw [receiveClaims_eq, hnone]
  rfl

/-- Claims of one lower index lead to it. -/
theorem receiveClaims_lower {c : ElectionCoordinator} {claims : List NewHostClaim} {index : ℕ}
    (hne : claims ≠ []) (hindex : ∀ claim ∈ claims, claim.claimerJoinIndex = index)
    (hlt : index < c.joinIndex) :
    ∃ claim, claim.claimerJoinIndex = index ∧ c.receiveClaims claims = c.follows claim := by
  obtain ⟨claim, hclaim⟩ := List.exists_mem_of_ne_nil claims hne
  obtain ⟨last, hlast, hmem⟩ := exists_last ⟨claim, hclaim, (hindex claim hclaim).trans_lt hlt⟩
  exact ⟨last, hindex last hmem, receiveClaims_of_last hlast⟩

theorem tick_settled {c : ElectionCoordinator} (h : c.state ≠ .electionPending) (now : ℚ) :
    c.tick now = .ok (c, none) := if_neg h

theorem tick_waits {c : ElectionCoordinator} {expiry now : ℚ} (pending : c.state = .electionPending)
    (timer : c.electionTimerExpiry = some expiry) (early : now < expiry) :
    c.tick now = .ok (c, none) := by
  simp [tick, pending, timer, not_le.mpr early]

theorem tick_elects {c : ElectionCoordinator} {expiry now : ℚ}
    (pending : c.state = .electionPending)
    (timer : c.electionTimerExpiry = some expiry) (due : expiry ≤ now) :
    c.tick now = .ok ({ c with state := .claimed }, some (.selfElected c.myIp)) := by
  simp [tick, pending, timer, due]

/-- An election that starts does not end in the same frame. -/
theorem frame_starts {c : ElectionCoordinator} {f : CoordinatorFrame} {peers : List Ip}
    {joinIndex : ℕ} (h : c.Staggered joinIndex) (hclaims : f.claims = [])
    (hstarts : f.starts = some peers) :
    c.frame f = .ok ((c.startElection peers).setElectionTimer f.now, none) ∧
      ((c.startElection peers).setElectionTimer f.now).electionTimerExpiry =
        some (f.now + electionWait joinIndex) := by
  have htimer : ((c.startElection peers).setElectionTimer f.now).electionTimerExpiry =
      some (f.now + electionWait joinIndex) := by
    simp [setElectionTimer, startElection, h.index, h.base, h.delta, electionWait]
  have hwait : 0 < electionWait joinIndex := by
    unfold electionWait tElectionBaseS tElectionDeltaS
    positivity
  refine ⟨?_, htimer⟩
  have hreceived : c.receiveClaims f.claims = c := by rw [hclaims]; rfl
  rw [frame, hreceived, hstarts]
  exact tick_waits rfl htimer (lt_add_of_pos_right _ hwait)

theorem frame_of_running {c : ElectionCoordinator} {f : CoordinatorFrame} (h : f.starts = none) :
    c.frame f = (c.receiveClaims f.claims).tick f.now := by
  rw [frame, h]

end ElectionCoordinator

namespace Candidates

section Run

variable [DecidableEq ι]

def record (w : Candidates ι) (f : CandidateFrame ι) (s : Candidate)
    (event : Option ElectionEvent) : Candidates ι :=
  { w with
    nodes := Function.update w.nodes f.node s
    sent :=
      match event with
      | some (.selfElected myIp) =>
        w.sent ++ [⟨f.node, f.now, ⟨myIp, s.coordinator.joinIndex, w.sessionId⟩⟩]
      | _ => w.sent }

def frame (w : Candidates ι) (f : CandidateFrame ι) : Except PyError (Candidates ι) := do
  let s := w.nodes f.node
  let (coordinator, event) ← s.coordinator.frame f.toCoordinatorFrame
  .ok (w.record f (s.after f.toCoordinatorFrame coordinator) event)

def run (w : Candidates ι) (frames : List (CandidateFrame ι)) : Except PyError (Candidates ι) :=
  frames.foldlM frame w

end Run

/-- Idle survivors that have not run a frame. -/
def fresh (joinIndex : ι → ℕ) (ip : ι → Ip) (sessionId : String) : Candidates ι where
  nodes i := { coordinator := { joinIndex := joinIndex i, myIp := ip i } }
  sessionId := sessionId

/-! ## Schedules -/

/-- The clock can show this time: no frame is later, the elections that have not started are not
overdue, and neither is a frame of a survivor whose election has started. -/
structure ClockAt (t : Timing) (w : Candidates ι) (now : ℚ) : Prop where
  ordered : ∀ i, ∀ last ∈ (w.nodes i).lastFrame, last ≤ now
  together : ∀ i, ∀ start ∈ (w.nodes i).startedAt, start + t.skew < now →
    ∀ k, (w.nodes k).startedAt.isSome
  paced : ∀ i, (w.nodes i).startedAt.isSome → ∃ last ∈ (w.nodes i).lastFrame, now ≤ last + t.frame

/-- A frame that can come next: elections start once, only what was sent arrives, and the frame
processes every claim of the others whose delay is over. -/
structure Timely (t : Timing) (w : Candidates ι) (f : CandidateFrame ι) : Prop where
  clock : w.ClockAt t f.now
  startsOnce : f.starts.isSome → (w.nodes f.node).startedAt = none
  authentic : ∀ claim ∈ f.claims, ∃ e ∈ w.sent, e.claim = claim
  delivered : ∀ e ∈ w.sent, e.node ≠ f.node → e.sentAt + t.delay ≤ f.now →
    e.claim ∈ f.claims ∨ e.claim ∈ (w.nodes f.node).received

/-- At this time the survivor with the lowest join index has been elected, alone and in time. -/
structure LowestElected (t : Timing) (lowest : ι) (w : Candidates ι) (now : ℚ) : Prop where
  alone : ∀ e ∈ w.sent, e.node = lowest
  once : w.sent.length ≤ 1
  inTime : ∀ expiry ∈ (w.nodes lowest).coordinator.electionTimerExpiry,
    ∀ e ∈ w.sent, expiry ≤ e.sentAt ∧ e.sentAt ≤ expiry + t.frame
  elected : ∀ expiry ∈ (w.nodes lowest).coordinator.electionTimerExpiry,
    expiry + t.frame ≤ now → w.sent ≠ []
  followed : ∀ expiry ∈ (w.nodes lowest).coordinator.electionTimerExpiry,
    expiry + 2 * t.frame + t.delay ≤ now → ∀ i, i ≠ lowest →
      (w.nodes i).coordinator.state = .follower ∧
        (w.nodes i).coordinator.currentHostJoinIndex =
          some (w.nodes lowest).coordinator.joinIndex

/-! ## The phases of a survivor -/

section Phases

open ElectionCoordinator

variable {t : Timing} {joinIndex : ι → ℕ} {lowest : ι}

/-- Where a survivor stands. While it waits it has heard no lower claim, and a claim that was sent
is still on its way. -/
inductive Phase (t : Timing) (joinIndex : ι → ℕ) (lowest : ι) (sent : List (SentClaim ι)) (i : ι)
    (s : Candidate) : Prop where
  | idle (unstarted : s.startedAt = none) (state : s.coordinator.state = .idle)
    (timer : s.coordinator.electionTimerExpiry = none) (silent : s.received = [])
  | waiting (start : ℚ) (started : s.startedAt = some start)
    (state : s.coordinator.state = .electionPending)
    (timer : s.coordinator.electionTimerExpiry = some (start + electionWait (joinIndex i)))
    (early : ∀ last ∈ s.lastFrame, last < start + electionWait (joinIndex i))
    (unheard : ∀ claim ∈ s.received, joinIndex i ≤ claim.claimerJoinIndex)
    (unsaid : i = lowest → sent = [])
    (underway : i ≠ lowest → ∀ e ∈ sent, ∀ last ∈ s.lastFrame, last ≤ e.sentAt + t.delay)
  | claimed (start : ℚ) (self : i = lowest) (started : s.startedAt = some start)
    (state : s.coordinator.state = .claimed)
    (timer : s.coordinator.electionTimerExpiry = some (start + electionWait (joinIndex i)))
    (said : sent ≠ [])
  | following (other : i ≠ lowest) (started : s.startedAt.isSome)
    (state : s.coordinator.state = .follower)
    (host : s.coordinator.currentHostJoinIndex = some (joinIndex lowest))

/-- What holds between two frames of a timely run. -/
structure Inv (t : Timing) (joinIndex : ι → ℕ) (lowest : ι) (w : Candidates ι) : Prop where
  staggered : ∀ i, (w.nodes i).coordinator.Staggered (joinIndex i)
  phase : ∀ i, Phase t joinIndex lowest w.sent i (w.nodes i)
  begun : ∀ i, ∀ start ∈ (w.nodes i).startedAt, ∃ last ∈ (w.nodes i).lastFrame, start ≤ last
  together : ∀ i k, ∀ a ∈ (w.nodes i).startedAt, ∀ b ∈ (w.nodes k).startedAt, b ≤ a + t.skew
  sent : ∀ e ∈ w.sent, e.node = lowest ∧ e.claim.claimerJoinIndex = joinIndex lowest ∧
    ∃ start ∈ (w.nodes lowest).startedAt, start + electionWait (joinIndex lowest) ≤ e.sentAt ∧
      e.sentAt < start + electionWait (joinIndex lowest) + t.frame
  once : w.sent.length ≤ 1
  allStarted : w.sent ≠ [] → ∀ i, (w.nodes i).startedAt.isSome

theorem skew_lt_wait (t : Timing) (j : ℕ) : t.skew < electionWait j := by
  have hfits := t.fits
  have hframe := t.frame_nonneg
  have hdelay := t.delay_nonneg
  have hj : (0 : ℚ) ≤ j := Nat.cast_nonneg j
  unfold electionWait
  unfold tElectionBaseS tElectionDeltaS at *
  linarith

/-- Skew, frame and delay fit between the timers of two join indices. -/
theorem wait_stagger (t : Timing) {j k : ℕ} (h : j < k) :
    electionWait j + (t.skew + t.frame + t.delay) ≤ electionWait k := by
  have hfits := t.fits
  have hcast : (j : ℚ) + 1 ≤ k := by exact_mod_cast h
  unfold electionWait
  unfold tElectionBaseS tElectionDeltaS at *
  linarith

theorem fresh_inv (ip : ι → Ip) (sessionId : String) :
    Inv t joinIndex lowest (fresh joinIndex ip sessionId) where
  staggered i := ⟨rfl, rfl, rfl⟩
  phase i := .idle rfl rfl rfl rfl
  begun i := by simp [fresh]
  together i k := by simp [fresh]
  sent := by simp [fresh]
  once := by simp [fresh]
  allStarted h := absurd rfl h

/-- The claims of a frame are those of the lowest survivor, which everyone's election precedes. -/
theorem Inv.claims {w : Candidates ι} {f : CandidateFrame ι} (inv : Inv t joinIndex lowest w)
    (timely : w.Timely t f) {claim : NewHostClaim} (h : claim ∈ f.claims) :
    claim.claimerJoinIndex = joinIndex lowest ∧ w.sent ≠ [] := by
  obtain ⟨e, he, rfl⟩ := timely.authentic claim h
  exact ⟨(inv.sent e he).2.1, List.ne_nil_of_mem he⟩

/-- Before its start a survivor has heard nothing, for nothing was sent. -/
theorem Inv.unstarted {w : Candidates ι} {i : ι} (inv : Inv t joinIndex lowest w)
    (h : (w.nodes i).startedAt = none) :
    w.sent = [] ∧ (w.nodes i).received = [] ∧ (w.nodes i).coordinator.state = .idle := by
  have hsent : w.sent = [] := by
    by_contra hsent
    simpa [h] using inv.allStarted hsent i
  cases inv.phase i with
  | idle _ state _ silent => exact ⟨hsent, silent, state⟩
  | waiting start started => simp [h] at started
  | claimed start _ started => simp [h] at started
  | following _ started => simp [h] at started

/-- A frame after its timer the lowest survivor has claimed. -/
theorem Inv.said {w : Candidates ι} {first now : ℚ} (inv : Inv t joinIndex lowest w)
    (clock : w.ClockAt t now) (hfirst : (w.nodes lowest).startedAt = some first)
    (due : first + electionWait (joinIndex lowest) + t.frame ≤ now) : w.sent ≠ [] := by
  obtain ⟨last, hlast, hpace⟩ := clock.paced lowest (by simp [hfirst])
  cases inv.phase lowest with
  | idle unstarted => simp [unstarted] at hfirst
  | waiting first' started state timer early =>
    obtain rfl : first' = first := Option.some.inj (started.symm.trans hfirst)
    have hearly := early last hlast
    linarith
  | claimed _ _ _ _ _ said => exact said
  | following other => exact absurd rfl other

/-- Before another timer expires, the claim of the lowest survivor has arrived. -/
theorem Inv.heard {w : Candidates ι} {f : CandidateFrame ι} {start : ℚ}
    (inv : Inv t joinIndex lowest w) (timely : w.Timely t f)
    (lower : joinIndex lowest < joinIndex f.node)
    (started : (w.nodes f.node).startedAt = some start)
    (unheard : ∀ claim ∈ (w.nodes f.node).received, joinIndex f.node ≤ claim.claimerJoinIndex)
    (due : start + electionWait (joinIndex f.node) ≤ f.now) : f.claims ≠ [] := by
  have hskew := skew_lt_wait t (joinIndex f.node)
  have hstagger := wait_stagger t lower
  have hstarted := timely.clock.together f.node start started (by linarith) lowest
  obtain ⟨first, hfirst⟩ := Option.isSome_iff_exists.mp hstarted
  have htogether : first ≤ start + t.skew := inv.together f.node lowest start started first hfirst
  have hdelay := t.delay_nonneg
  have hsent : w.sent ≠ [] := inv.said timely.clock hfirst (by linarith)
  obtain ⟨e, he⟩ := List.exists_mem_of_ne_nil _ hsent
  obtain ⟨hnode, hindex, first', hfirst', -, hbound⟩ := inv.sent e he
  obtain rfl : first' = first := Option.mem_unique hfirst' hfirst
  have hne : e.node ≠ f.node := by
    intro hsame
    exact lower.ne (congrArg joinIndex (hnode.symm.trans hsame))
  obtain hclaim | hreceived := timely.delivered e he hne (by linarith)
  · exact List.ne_nil_of_mem hclaim
  · have hhigher := unheard _ hreceived
    omega

section Step

variable [DecidableEq ι]

theorem frame_eq {w : Candidates ι} {f : CandidateFrame ι} {c : ElectionCoordinator}
    {event : Option ElectionEvent}
    (h : (w.nodes f.node).coordinator.frame f.toCoordinatorFrame = .ok (c, event)) :
    w.frame f = .ok (w.record f ((w.nodes f.node).after f.toCoordinatorFrame c) event) := by
  simp only [frame, h]
  rfl

theorem record_node (w : Candidates ι) (f : CandidateFrame ι) (s : Candidate)
    (event : Option ElectionEvent) (i : ι) :
    (w.record f s event).nodes i = if i = f.node then s else w.nodes i :=
  Function.update_apply _ _ _ _

@[simp] theorem record_self (w : Candidates ι) (f : CandidateFrame ι) (s : Candidate)
    (event : Option ElectionEvent) : (w.record f s event).nodes f.node = s := by
  rw [record_node, if_pos rfl]

theorem record_ne (w : Candidates ι) (f : CandidateFrame ι) (s : Candidate)
    (event : Option ElectionEvent) {i : ι} (h : i ≠ f.node) :
    (w.record f s event).nodes i = w.nodes i := by
  rw [record_node, if_neg h]

/-- What holds of the survivor that runs the frame and of the others holds of everyone after it. -/
theorem record_forall {P : ι → Candidate → Prop} {w : Candidates ι} {f : CandidateFrame ι}
    {s : Candidate} (event : Option ElectionEvent) (self : P f.node s)
    (others : ∀ i, i ≠ f.node → P i (w.nodes i)) (i : ι) : P i ((w.record f s event).nodes i) := by
  by_cases hi : i = f.node
  · subst hi
    rw [record_self]
    exact self
  · rw [record_ne _ _ _ _ hi]
    exact others i hi

/-- A frame in which no election starts leaves the starts alone. -/
theorem startedAt_running {w : Candidates ι} {f : CandidateFrame ι} (h : f.starts = none)
    (c : ElectionCoordinator) (event : Option ElectionEvent) (i : ι) :
    ((w.record f ((w.nodes f.node).after f.toCoordinatorFrame c) event).nodes i).startedAt =
      (w.nodes i).startedAt := by
  refine record_forall (P := fun i s => s.startedAt = (w.nodes i).startedAt) event ?_
    (fun _ _ => rfl) i
  simp [Candidate.after, h]

/-- Frames reach back to the start of every election. -/
theorem begun_after {w : Candidates ι} {f : CandidateFrame ι} (inv : Inv t joinIndex lowest w)
    (clock : w.ClockAt t f.now) (c : ElectionCoordinator) (event : Option ElectionEvent) (i : ι) :
    let n := (w.record f ((w.nodes f.node).after f.toCoordinatorFrame c) event).nodes i
    ∀ start ∈ n.startedAt, ∃ last ∈ n.lastFrame, start ≤ last := by
  refine record_forall
    (P := fun _ s => ∀ start ∈ s.startedAt, ∃ last ∈ s.lastFrame, start ≤ last) event ?_
    (fun i _ => inv.begun i) i
  intro start hstart
  refine ⟨f.now, rfl, ?_⟩
  simp only [Candidate.after] at hstart
  split at hstart
  · exact (Option.some.inj hstart).ge
  · obtain ⟨last, hlast, hle⟩ := inv.begun _ start hstart
    exact hle.trans (clock.ordered _ last hlast)

/-- A frame that starts no election and sends no claim keeps the invariant if its survivor is in one
of the phases afterwards. -/
theorem Inv.quiet {w : Candidates ι} {f : CandidateFrame ι} {c : ElectionCoordinator}
    (inv : Inv t joinIndex lowest w) (timely : w.Timely t f) (running : f.starts = none)
    (staggered : c.Staggered (joinIndex f.node))
    (phase : Phase t joinIndex lowest w.sent f.node
      ((w.nodes f.node).after f.toCoordinatorFrame c)) :
    Inv t joinIndex lowest (w.record f ((w.nodes f.node).after f.toCoordinatorFrame c) none) where
  staggered :=
    record_forall (P := fun i s => s.coordinator.Staggered (joinIndex i)) none staggered
      fun i _ => inv.staggered i
  phase := record_forall (P := Phase t joinIndex lowest w.sent) none phase fun i _ => inv.phase i
  begun := begun_after inv timely.clock c none
  together i k := by
    rw [startedAt_running running, startedAt_running running]
    exact inv.together i k
  sent e he := by
    rw [startedAt_running running]
    exact inv.sent e he
  once := inv.once
  allStarted hsent i := by
    rw [startedAt_running running]
    exact inv.allStarted hsent i

/-- The start of an election. -/
theorem Inv.start {w : Candidates ι} {f : CandidateFrame ι} {peers : List Ip}
    (inv : Inv t joinIndex lowest w) (timely : w.Timely t f) (starts : f.starts = some peers) :
    ∃ w', w.frame f = .ok w' ∧ Inv t joinIndex lowest w' := by
  have hnone : (w.nodes f.node).startedAt = none := timely.startsOnce (by simp [starts])
  obtain ⟨hsent, hreceived, -⟩ := inv.unstarted hnone
  have hclaims : f.claims = [] := by
    apply List.eq_nil_iff_forall_not_mem.mpr
    intro claim hclaim
    exact (inv.claims timely hclaim).2 hsent
  obtain ⟨hframe, htimer⟩ :=
    frame_starts (f := f.toCoordinatorFrame) (inv.staggered f.node) hclaims starts
  set c := ((w.nodes f.node).coordinator.startElection peers).setElectionTimer f.now
  have hself : (w.nodes f.node).after f.toCoordinatorFrame c =
      { coordinator := c, startedAt := some f.now, lastFrame := some f.now } := by
    simp [Candidate.after, starts, hclaims, hreceived]
  have hwait : 0 < electionWait (joinIndex f.node) := t.skew_nonneg.trans_lt (skew_lt_wait t _)
  refine ⟨_, frame_eq hframe, ?staggered, ?phase, begun_after inv timely.clock c none, ?together,
    by simp [record, hsent], by simp [record, hsent], by simp [record, hsent]⟩
  case staggered =>
    refine record_forall (P := fun i s => s.coordinator.Staggered (joinIndex i)) none ?_
      fun i _ => inv.staggered i
    exact ⟨(inv.staggered f.node).index, (inv.staggered f.node).base, (inv.staggered f.node).delta⟩
  case phase =>
    refine record_forall (P := Phase t joinIndex lowest w.sent) none ?_ fun i _ => inv.phase i
    rw [hself]
    refine .waiting f.now rfl rfl htimer ?_ (by simp) (fun _ => hsent) (by simp [hsent])
    intro last hlast
    obtain rfl := Option.some.inj hlast
    exact lt_add_of_pos_right _ hwait
  case together =>
    intro i k a ha b hb
    by_cases hk : k = f.node
    · subst hk
      rw [record_self, hself] at hb
      obtain rfl := Option.some.inj hb
      by_cases hi : i = f.node
      · subst hi
        rw [record_self, hself] at ha
        obtain rfl := Option.some.inj ha
        exact le_add_of_nonneg_right t.skew_nonneg
      · rw [record_ne _ _ _ _ hi] at ha
        -- otherwise this election would be overdue
        by_contra hlate
        have hstarted := timely.clock.together i a ha (not_le.mp hlate) f.node
        simp [hnone] at hstarted
    · rw [record_ne _ _ _ _ hk] at hb
      by_cases hi : i = f.node
      · subst hi
        rw [record_self, hself] at ha
        obtain rfl := Option.some.inj ha
        obtain ⟨last, hlast, hle⟩ := inv.begun k b hb
        have hbefore : b ≤ f.now := hle.trans (timely.clock.ordered k last hlast)
        exact hbefore.trans (le_add_of_nonneg_right t.skew_nonneg)
      · rw [record_ne _ _ _ _ hi] at ha
        exact inv.together i k a ha b hb

/-- The lowest survivor's timer has expired. -/
theorem Inv.elect {w : Candidates ι} {f : CandidateFrame ι} {start : ℚ}
    (inv : Inv t joinIndex lowest w) (timely : w.Timely t f) (running : f.starts = none)
    (self : f.node = lowest) (started : (w.nodes f.node).startedAt = some start)
    (state : (w.nodes f.node).coordinator.state = .electionPending)
    (timer : (w.nodes f.node).coordinator.electionTimerExpiry =
      some (start + electionWait (joinIndex f.node)))
    (early : ∀ last ∈ (w.nodes f.node).lastFrame, last < start + electionWait (joinIndex f.node))
    (unsaid : w.sent = []) (due : start + electionWait (joinIndex f.node) ≤ f.now) :
    ∃ w', w.frame f = .ok w' ∧ Inv t joinIndex lowest w' := by
  have staggered := inv.staggered f.node
  have hreceive : (w.nodes f.node).coordinator.receiveClaims f.claims =
      (w.nodes f.node).coordinator := by
    apply receiveClaims_higher
    intro claim hclaim
    exact absurd unsaid (inv.claims timely hclaim).2
  have hframe : (w.nodes f.node).coordinator.frame f.toCoordinatorFrame =
      .ok ({ (w.nodes f.node).coordinator with state := .claimed },
        some (.selfElected (w.nodes f.node).coordinator.myIp)) := by
    rw [frame_of_running running, hreceive]
    exact tick_elects state timer due
  set c : ElectionCoordinator := { (w.nodes f.node).coordinator with state := .claimed }
  have hstarted : ∀ k, (w.nodes k).startedAt.isSome := by
    have hskew := skew_lt_wait t (joinIndex f.node)
    exact timely.clock.together f.node start started (by linarith)
  have hwithin : f.now < start + electionWait (joinIndex f.node) + t.frame := by
    obtain ⟨last, hlast, hle⟩ := timely.clock.paced f.node (by simp [started])
    have hearly := early last hlast
    linarith
  set event : Option ElectionEvent := some (.selfElected (w.nodes f.node).coordinator.myIp)
  set w' := w.record f ((w.nodes f.node).after f.toCoordinatorFrame c) event
  have hsent : w'.sent = [⟨f.node, f.now, ⟨c.myIp, c.joinIndex, w.sessionId⟩⟩] := by
    simp [w', record, event, unsaid, Candidate.after, c]
  have hstarts (i : ι) : (w'.nodes i).startedAt = (w.nodes i).startedAt :=
    startedAt_running running c event i
  refine ⟨w', frame_eq hframe, ?staggered, ?phase, begun_after inv timely.clock c event, ?together,
    ?sent, by simp [hsent], ?allStarted⟩
  case staggered =>
    exact record_forall (P := fun i s => s.coordinator.Staggered (joinIndex i)) event
      ⟨staggered.index, staggered.base, staggered.delta⟩ fun i _ => inv.staggered i
  case phase =>
    rw [hsent]
    refine record_forall event ?self ?others
    case self =>
      exact .claimed start self (by simp [Candidate.after, running, started]) rfl timer (by simp)
    case others =>
      intro i hi
      cases inv.phase i with
      | idle unstarted =>
        have hbegun := hstarted i
        simp [unstarted] at hbegun
      | waiting start' started' state' timer' early' unheard =>
        refine .waiting start' started' state' timer' early' unheard ?_ ?_
        · intro hlowest
          exact absurd (hlowest.trans self.symm) hi
        · intro _ e he last hlast
          obtain rfl := List.mem_singleton.mp he
          exact (timely.clock.ordered i last hlast).trans (le_add_of_nonneg_right t.delay_nonneg)
      | claimed start' self' => exact absurd (self'.trans self.symm) hi
      | following other started' state' host => exact .following other started' state' host
  case together =>
    intro i k
    rw [hstarts, hstarts]
    exact inv.together i k
  case sent =>
    intro e he
    rw [hsent] at he
    obtain rfl := List.mem_singleton.mp he
    refine ⟨self, staggered.index.trans (congrArg joinIndex self), start, ?_, ?_⟩
    · rw [hstarts, ← self]
      exact started
    · rw [← self]
      exact ⟨due, hwithin⟩
  case allStarted =>
    intro _ i
    rw [hstarts]
    exact hstarted i

/-- A lower claim is followed. -/
theorem Inv.follow {w : Candidates ι} {f : CandidateFrame ι} (inv : Inv t joinIndex lowest w)
    (timely : w.Timely t f) (running : f.starts = none) (hne : f.claims ≠ [])
    (lower : joinIndex lowest < joinIndex f.node) :
    ∃ w', w.frame f = .ok w' ∧ Inv t joinIndex lowest w' := by
  have staggered := inv.staggered f.node
  obtain ⟨claim, hclaim, hreceive⟩ := receiveClaims_lower hne
    (fun claim hclaim => (inv.claims timely hclaim).1) (staggered.index.symm ▸ lower)
  have hframe : (w.nodes f.node).coordinator.frame f.toCoordinatorFrame =
      .ok ((w.nodes f.node).coordinator.follows claim, none) := by
    rw [frame_of_running running, hreceive]
    exact tick_settled (by simp [follows]) f.now
  obtain ⟨claim', hmem⟩ := List.exists_mem_of_ne_nil _ hne
  have hstarted := inv.allStarted (inv.claims timely hmem).2 f.node
  refine ⟨_, frame_eq hframe, inv.quiet timely running (staggered.follows claim) ?_⟩
  refine .following ?_ (by simpa [Candidate.after, running] using hstarted) rfl
    (congrArg some hclaim)
  rintro hself
  exact lower.ne' (congrArg joinIndex hself)

/-- Nothing lower arrives, and no timer expires. -/
theorem Inv.rest {w : Candidates ι} {f : CandidateFrame ι} (inv : Inv t joinIndex lowest w)
    (timely : w.Timely t f) (running : f.starts = none)
    (higher : ∀ claim ∈ f.claims, joinIndex f.node ≤ claim.claimerJoinIndex)
    (ticks : (w.nodes f.node).coordinator.tick f.now = .ok ((w.nodes f.node).coordinator, none))
    (phase : Phase t joinIndex lowest w.sent f.node
      ((w.nodes f.node).after f.toCoordinatorFrame (w.nodes f.node).coordinator)) :
    ∃ w', w.frame f = .ok w' ∧ Inv t joinIndex lowest w' := by
  have staggered := inv.staggered f.node
  have hframe : (w.nodes f.node).coordinator.frame f.toCoordinatorFrame =
      .ok ((w.nodes f.node).coordinator, none) := by
    rw [frame_of_running running, receiveClaims_higher, ticks]
    rw [staggered.index]
    exact higher
  exact ⟨_, frame_eq hframe, inv.quiet timely running staggered phase⟩

theorem Inv.step {w : Candidates ι} {f : CandidateFrame ι} (distinct : Function.Injective joinIndex)
    (hlowest : ∀ i, joinIndex lowest ≤ joinIndex i) (inv : Inv t joinIndex lowest w)
    (timely : w.Timely t f) : ∃ w', w.frame f = .ok w' ∧ Inv t joinIndex lowest w' := by
  cases running : f.starts with
  | some peers => exact inv.start timely running
  | none =>
    by_cases hfollow : f.claims ≠ [] ∧ joinIndex lowest < joinIndex f.node
    · exact inv.follow timely running hfollow.1 hfollow.2
    have higher : ∀ claim ∈ f.claims, joinIndex f.node ≤ claim.claimerJoinIndex := by
      intro claim hclaim
      by_contra hlt
      have hindex := (inv.claims timely hclaim).1
      exact hfollow ⟨List.ne_nil_of_mem hclaim, by omega⟩
    have lower (hother : f.node ≠ lowest) : joinIndex lowest < joinIndex f.node :=
      lt_of_le_of_ne (hlowest f.node) fun hsame => hother (distinct hsame).symm
    cases inv.phase f.node with
    | idle unstarted state timer silent =>
      have hclaims : f.claims = [] := by
        apply List.eq_nil_iff_forall_not_mem.mpr
        intro claim hclaim
        exact (inv.claims timely hclaim).2 (inv.unstarted unstarted).1
      refine inv.rest timely running higher (tick_settled (by simp [state]) f.now) ?_
      exact .idle (by simp [Candidate.after, running, unstarted]) state timer
        (by simp [Candidate.after, hclaims, silent])
    | waiting start started state timer early unheard unsaid underway =>
      by_cases due : start + electionWait (joinIndex f.node) ≤ f.now
      · by_cases self : f.node = lowest
        · exact inv.elect timely running self started state timer early (unsaid self) due
        · have hclaims := inv.heard timely (lower self) started unheard due
          exact absurd ⟨hclaims, lower self⟩ hfollow
      · refine inv.rest timely running higher (tick_waits state timer (not_le.mp due)) ?_
        refine .waiting start (by simp [Candidate.after, running, started]) state timer
          ?_ ?_ unsaid ?_
        · intro last hlast
          obtain rfl := Option.some.inj hlast
          exact not_le.mp due
        · intro claim hclaim
          exact (List.mem_append.mp hclaim).elim (unheard claim) (higher claim)
        · intro other e he last hlast
          obtain rfl := Option.some.inj hlast
          -- a claim whose delay is over would have been followed
          by_contra hlate
          obtain ⟨hnode, hindex, -⟩ := inv.sent e he
          have hne : e.node ≠ f.node := hnode.trans_ne other.symm
          have hlower := lower other
          obtain hclaim | hreceived := timely.delivered e he hne (not_le.mp hlate).le
          · exact hfollow ⟨List.ne_nil_of_mem hclaim, hlower⟩
          · have hhigher := unheard _ hreceived
            omega
    | claimed start self started state timer said =>
      refine inv.rest timely running higher (tick_settled (by simp [state]) f.now) ?_
      exact .claimed start self (by simp [Candidate.after, running, started]) state timer said
    | following other started state host =>
      refine inv.rest timely running higher (tick_settled (by simp [state]) f.now) ?_
      exact .following other (by simpa [Candidate.after, running] using started) state host

theorem Inv.run {w : Candidates ι} {frames : List (CandidateFrame ι)}
    (distinct : Function.Injective joinIndex) (hlowest : ∀ i, joinIndex lowest ≤ joinIndex i)
    (inv : Inv t joinIndex lowest w) (timely : Fallible.Along frame (Timely t) w frames) :
    ∃ w', w.run frames = .ok w' ∧ Inv t joinIndex lowest w' := by
  induction frames generalizing w with
  | nil => exact ⟨w, rfl, inv⟩
  | cons f frames ih =>
    obtain ⟨w₁, hframe, inv₁⟩ := inv.step distinct hlowest timely.1
    obtain ⟨w', hrun, inv'⟩ := ih inv₁ (timely.2 w₁ hframe)
    exact ⟨w', by rw [Candidates.run, List.foldlM_cons, hframe]; exact hrun, inv'⟩

end Step

/-- The timer of the lowest survivor is the one of its election. -/
theorem Inv.timer {w : Candidates ι} {expiry : ℚ} (inv : Inv t joinIndex lowest w)
    (h : expiry ∈ (w.nodes lowest).coordinator.electionTimerExpiry) :
    ∃ start ∈ (w.nodes lowest).startedAt, expiry = start + electionWait (joinIndex lowest) := by
  cases inv.phase lowest with
  | idle _ _ timer => simp [timer] at h
  | waiting start started _ timer => exact ⟨start, started, Option.mem_unique h timer⟩
  | claimed start _ started _ timer => exact ⟨start, started, Option.mem_unique h timer⟩
  | following other => exact absurd rfl other

theorem Inv.lowestElected {w : Candidates ι} {now : ℚ} (inv : Inv t joinIndex lowest w)
    (clock : w.ClockAt t now) : LowestElected t lowest w now := by
  have hdelay := t.delay_nonneg
  have hframe := t.frame_nonneg
  refine ⟨fun e he => (inv.sent e he).1, inv.once, ?inTime, ?elected, ?followed⟩
  case inTime =>
    intro expiry hexpiry e he
    obtain ⟨start, hstart, rfl⟩ := inv.timer hexpiry
    obtain ⟨-, -, start', hstart', hlower, hupper⟩ := inv.sent e he
    obtain rfl : start' = start := Option.mem_unique hstart' hstart
    exact ⟨hlower, hupper.le⟩
  case elected =>
    intro expiry hexpiry hdue
    obtain ⟨start, hstart, rfl⟩ := inv.timer hexpiry
    exact inv.said clock hstart hdue
  case followed =>
    intro expiry hexpiry hdue i hi
    obtain ⟨start, hstart, rfl⟩ := inv.timer hexpiry
    have hsent : w.sent ≠ [] := inv.said clock hstart (by linarith)
    obtain ⟨e, he⟩ := List.exists_mem_of_ne_nil _ hsent
    obtain ⟨-, -, start', hstart', -, hupper⟩ := inv.sent e he
    obtain rfl : start' = start := Option.mem_unique hstart' hstart
    have hstarted := inv.allStarted hsent i
    obtain ⟨last, hlast, hpace⟩ := clock.paced i hstarted
    cases inv.phase i with
    | idle unstarted => simp [unstarted] at hstarted
    | waiting _ _ _ _ _ _ _ underway =>
      have hlate := underway hi e he last hlast
      linarith
    | claimed _ self => exact absurd self hi
    | following _ _ state host =>
      exact ⟨state, host.trans (congrArg some (inv.staggered lowest).index.symm)⟩

end Phases

instance [Fintype ι] (t : Timing) (w : Candidates ι) (now : ℚ) : Decidable (w.ClockAt t now) :=
  decidable_of_iff ((∀ i, ∀ last ∈ (w.nodes i).lastFrame, last ≤ now) ∧
      (∀ i, ∀ start ∈ (w.nodes i).startedAt, start + t.skew < now →
        ∀ k, (w.nodes k).startedAt.isSome) ∧
      ∀ i, (w.nodes i).startedAt.isSome → ∃ last ∈ (w.nodes i).lastFrame, now ≤ last + t.frame)
    ⟨fun ⟨h₁, h₂, h₃⟩ => ⟨h₁, h₂, h₃⟩, fun ⟨h₁, h₂, h₃⟩ => ⟨h₁, h₂, h₃⟩⟩

instance [Fintype ι] [DecidableEq ι] (t : Timing) (w : Candidates ι) (f : CandidateFrame ι) :
    Decidable (w.Timely t f) :=
  decidable_of_iff (w.ClockAt t f.now ∧ (f.starts.isSome → (w.nodes f.node).startedAt = none) ∧
      (∀ claim ∈ f.claims, ∃ e ∈ w.sent, e.claim = claim) ∧
      ∀ e ∈ w.sent, e.node ≠ f.node → e.sentAt + t.delay ≤ f.now →
        e.claim ∈ f.claims ∨ e.claim ∈ (w.nodes f.node).received)
    ⟨fun ⟨h₁, h₂, h₃, h₄⟩ => ⟨h₁, h₂, h₃, h₄⟩, fun ⟨h₁, h₂, h₃, h₄⟩ => ⟨h₁, h₂, h₃, h₄⟩⟩

def tenthOfASecond : Timing where
  skew := 1 / 10
  frame := 1 / 10
  delay := 1 / 10
  skew_nonneg := by norm_num
  frame_nonneg := by norm_num
  delay_nonneg := by norm_num
  fits := by norm_num [tElectionDeltaS]

/-- The two survivors of a crash. -/
inductive Pair where
  | second | third
  deriving DecidableEq

instance : Fintype Pair := ⟨{.second, .third}, fun i => by cases i <;> decide⟩

namespace Pair

def joinIndex : Pair → ℕ
  | second => 1
  | third => 2

def ip : Pair → Ip
  | second => "10.0.0.2"
  | third => "10.0.0.3"

def candidates : Candidates Pair := fresh joinIndex ip "session"

/-- Both run ten frames a second, the third player half a frame after the second. Its timer would
expire at 23/20; the claim reaches it at 19/20. -/
def schedule : List (CandidateFrame Pair) :=
  (List.range 12).flatMap fun k =>
    [{ node := second, now := mkRat k 10, starts := if k = 0 then some [third.ip] else none },
      { node := third
        now := mkRat (2 * k + 1) 20
        claims := if k = 9 then [⟨second.ip, second.joinIndex, "session"⟩] else []
        starts := if k = 0 then some [second.ip] else none }]

end Pair

end Candidates

namespace Node

theorem onSelfElected_coordinator {n n' : Node} {now : ℚ} (h : n.onSelfElected now = .ok n') :
    n'.election.coordinator = n.election.coordinator := by
  simp only [onSelfElected] at h
  split at h
  · obtain ⟨-, rfl⟩ | ⟨-, hpromoted⟩ := promoteToHost_cases h
    · rfl
    · rw [hpromoted.election]
  · obtain ⟨claim, -, h⟩ := Fallible.bind_eq_ok.mp h
    cases h
    rfl

theorem tickCoordinator_coordinator {n n' : Node} {c : ElectionCoordinator} {now : ℚ}
    (hcoordinator : n.election.coordinator = some c) (h : n.tickCoordinator now = .ok n') :
    ∃ c' event, c.tick now = .ok (c', event) ∧ n'.election.coordinator = some c' := by
  unfold tickCoordinator at h
  rw [hcoordinator] at h
  obtain ⟨⟨c', event⟩, htick, h⟩ := Fallible.bind_eq_ok.mp h
  refine ⟨c', event, htick, ?_⟩
  dsimp only at h
  split at h
  · exact onSelfElected_coordinator h
  · cases h
    rfl

/-- What a node does with the claims of a frame, an election that starts and the tick is a frame of
its coordinator. -/
theorem frame_coordinator {n n₁ n₂ : Node} {c : ElectionCoordinator} {claims : List NewHostClaim}
    {now : ℚ} (starts : Bool) (hcoordinator : n.election.coordinator = some c)
    (hindex : n.joinIndex = c.joinIndex)
    (hclaims : claims.foldlM (fun n claim => n.onNewHostClaim claim now) n = .ok n₁)
    (htick : (if starts then n₁.startElection (c.receiveClaims claims) now else n₁).tickCoordinator
      now = .ok n₂) :
    ∃ c' event, c.frame ⟨now, claims, if starts then some n₁.knownClientPeers else none⟩ =
      .ok (c', event) ∧ n₂.election.coordinator = some c' := by
  cases starts with
  | true => exact tickCoordinator_coordinator rfl htick
  | false =>
    exact tickCoordinator_coordinator (receiveClaims_coordinator hcoordinator hindex hclaims) htick

end Node

end DistributedSmb
