import DistributedSmb.Reconciliation.Prediction

/-!
# The input history on a timeline

Runs of a predicting client: it predicts an input and ticks, or it reconciles with a snapshot. On
one host's timeline the buffered sequence numbers are the engine's last ticks. A migration starts
a new timeline, which the history follows exactly when nothing of it is out of the new host's
reach.
-/

namespace DistributedSmb

open Library

inductive PredictionAction where
  | predicted (inputState : InputState) (dt sentAt now : ℚ)
  | reconciled (snapshot : WorldStateSnapshot) (now : ℚ)
  deriving DecidableEq

/-- The world sequence numbers of the snapshots reconciled, in order. -/
def hostSequences (actions : List PredictionAction) : List ℤ :=
  actions.filterMap fun
    | .reconciled snapshot _ => some snapshot.worldState.sequenceNumber
    | .predicted .. => none

@[simp] theorem hostSequences_predicted (inputState : InputState) (dt sentAt now : ℚ)
    (actions : List PredictionAction) :
    hostSequences (.predicted inputState dt sentAt now :: actions) = hostSequences actions := rfl

@[simp] theorem hostSequences_reconciled (snapshot : WorldStateSnapshot) (now : ℚ)
    (actions : List PredictionAction) :
    hostSequences (.reconciled snapshot now :: actions) =
      snapshot.worldState.sequenceNumber :: hostSequences actions := rfl

/-- A client with the record of all its predictions and the last host sequence it saw. -/
structure Timeline where
  client : PredictionEngine
  predictions : List InputHistoryEntry := []
  lastHost : ℤ
  deriving DecidableEq

namespace Timeline

/-- The entry that predicting this input pushes. -/
def nextEntry (p : PredictionEngine) (inputState : InputState) (dt sentAt : ℚ) :
    InputHistoryEntry :=
  ⟨p.engine.worldState.sequenceNumber + 1, inputState, dt, sentAt⟩

def act (t : Timeline) : PredictionAction → Except PyError Timeline
  | .predicted inputState dt sentAt now => do
    let client ← t.client.predictTick inputState dt sentAt now
    .ok { t with
      client := client
      predictions := t.predictions ++ [nextEntry t.client inputState dt sentAt] }
  | .reconciled snapshot now => do
    let client ← t.client.reconcile snapshot now
    .ok { t with client := client, lastHost := snapshot.worldState.sequenceNumber }

def run (t : Timeline) (actions : List PredictionAction) : Except PyError Timeline :=
  actions.foldlM act t

/-- A client with an empty buffer, at the tick its engine is at. -/
def start (client : PredictionEngine) : Timeline :=
  { client := client, lastHost := client.engine.worldState.sequenceNumber }

/-- The most recent prediction for a tick. -/
def predictionFor (t : Timeline) (tick : ℤ) : Option InputHistoryEntry :=
  t.predictions.reverse.find? fun entry => entry.sequenceNumber = tick

end Timeline

namespace PredictionEngine

/-- The buffered sequence numbers are the engine's last ticks. -/
def Consecutive (p : PredictionEngine) : Prop :=
  p.buffer.sequenceNumbers = ticksUpTo p.engine.worldState.sequenceNumber p.pendingCount

/-- The buffer reaches back to the last host tick, unless it is full. -/
def ReachesBack (p : PredictionEngine) (lastHost : ℤ) : Prop :=
  p.engine.worldState.sequenceNumber - p.pendingCount ≤
    max lastHost (p.engine.worldState.sequenceNumber - p.buffer.capacity)

/-- No buffered entry lies ahead of the engine, and the sequence numbers increase. -/
def Aligned (p : PredictionEngine) : Prop :=
  (∀ entry ∈ p.buffer.entries, entry.sequenceNumber ≤ p.engine.worldState.sequenceNumber) ∧
    p.buffer.sequenceNumbers.Pairwise (· < ·)

theorem Consecutive.aligned {p : PredictionEngine} (h : p.Consecutive) : p.Aligned := by
  refine ⟨fun entry he => ?_, by rw [h]; exact ticksUpTo_pairwise _ _⟩
  have : entry.sequenceNumber ∈ p.buffer.sequenceNumbers := List.mem_map_of_mem he
  rw [h] at this
  exact (mem_ticksUpTo.mp this).2

theorem predictTick_consecutive {p p' : PredictionEngine} {inputState : InputState}
    {dt sentAt now : ℚ} {lastHost : ℤ} (hc : p.Consecutive) (hr : p.ReachesBack lastHost)
    (h : p.predictTick inputState dt sentAt now = .ok p') :
    p'.Consecutive ∧ p'.ReachesBack lastHost := by
  obtain ⟨g, htick, rfl⟩ := predictTick_spec h
  have hseq := GameEngine.tick_sequenceNumber htick
  have hbound := p.buffer.bounded
  set e := p.engine.worldState.sequenceNumber with he
  set n := p.buffer.entries.length with hn
  have hpushed : (p.predict inputState dt sentAt).buffer.sequenceNumbers =
      ticksUpTo (e + 1) (n + 1 - (n + 1 - p.buffer.capacity)) := by
    rw [← drop_ticksUpTo, ← ticksUpTo_append]
    simp only [predict, InputHistoryBuffer.push, InputHistoryBuffer.sequenceNumbers, List.map_drop,
      List.map_append, List.map_cons, List.map_nil, List.length_append, List.length_cons,
      List.length_nil]
    rw [← InputHistoryBuffer.sequenceNumbers, hc]
    rfl
  have hlen := congrArg List.length hpushed
  rw [InputHistoryBuffer.length_sequenceNumbers, length_ticksUpTo] at hlen
  simp only [Consecutive, ReachesBack, pendingCount, hseq, hlen, hpushed] at *
  refine ⟨trivial, ?_⟩
  simp only [predict, InputHistoryBuffer.capacity_push]
  omega

/-- Reconciling with a snapshot the buffer reaches back to, or past which the client is more than
a buffer ahead. -/
theorem reconcile_consecutive {p p' : PredictionEngine} {snapshot : WorldStateSnapshot} {now : ℚ}
    (hc : p.Consecutive)
    (hreach : p.ReachesBack snapshot.worldState.sequenceNumber)
    (h : p.reconcile snapshot now = .ok p') :
    p'.Consecutive ∧ p'.ReachesBack snapshot.worldState.sequenceNumber := by
  have hseq := reconcile_sequenceNumber h
  obtain ⟨g, -, rfl⟩ := reconcile_spec h
  have hbound := p.buffer.bounded
  simp only [Consecutive, ReachesBack, pendingCount] at *
  set w := snapshot.worldState
  rw [hseq]
  rcases lt_or_ge (w.sequenceNumber + p.buffer.capacity) p.engine.worldState.sequenceNumber
    with hfar | hnear
  · have hnil := retained_of_far hfar
    refine ⟨by simp [InputHistoryBuffer.sequenceNumbers, hnil, ticksUpTo], ?_⟩
    simp only [hnil, List.length_nil]
    omega
  · have hret := retained_of_near hnear
    have hseqs : (p.retained w).sequenceNumbers = ticksUpTo p.engine.worldState.sequenceNumber
        (min p.buffer.entries.length
          (p.engine.worldState.sequenceNumber - w.sequenceNumber).toNat) := by
      rw [hret, InputHistoryBuffer.sequenceNumbers_acknowledge, hc, dropWhile_ticksUpTo]
    have hlen := congrArg List.length hseqs
    rw [InputHistoryBuffer.length_sequenceNumbers, length_ticksUpTo] at hlen
    rw [hseqs, hlen]
    constructor
    · -- either nothing is pending, or the buffer holds every tick past the snapshot
      rcases Nat.eq_zero_or_pos (min p.buffer.entries.length
        (p.engine.worldState.sequenceNumber - w.sequenceNumber).toNat) with hzero | hpos
      · simp [hzero, ticksUpTo]
      · congr 1
        omega
    · omega

end PredictionEngine

/-! ## One host's timeline -/

namespace Timeline

/-- The history ends at the engine's tick and reaches back to the host's. -/
structure Follows (t : Timeline) : Prop where
  consecutive : t.client.Consecutive
  reachesBack : t.client.ReachesBack t.lastHost

/-- A snapshot at or past the last host tick finds a reaching buffer reaching. -/
theorem Follows.reachesBack_of_le {t : Timeline} (ht : t.Follows) {h : ℤ} (hle : t.lastHost ≤ h) :
    t.client.ReachesBack h := by
  have := ht.reachesBack
  simp only [PredictionEngine.ReachesBack] at *
  omega

theorem act_follows {t t' : Timeline} {action : PredictionAction}
    (increasing : ∀ h ∈ hostSequences [action], t.lastHost ≤ h) (ht : t.Follows)
    (h : t.act action = .ok t') : t'.Follows := by
  cases action with
  | predicted inputState dt sentAt now =>
    obtain ⟨client, htick, h⟩ := Fallible.bind_eq_ok.mp h
    cases h
    obtain ⟨hc, hr⟩ :=
      PredictionEngine.predictTick_consecutive ht.consecutive ht.reachesBack htick
    exact ⟨hc, hr⟩
  | reconciled snapshot now =>
    obtain ⟨client, hrec, h⟩ := Fallible.bind_eq_ok.mp h
    cases h
    have hle : t.lastHost ≤ snapshot.worldState.sequenceNumber := by
      simpa [hostSequences] using increasing
    obtain ⟨hc, hr⟩ :=
      PredictionEngine.reconcile_consecutive ht.consecutive (ht.reachesBack_of_le hle) hrec
    exact ⟨hc, hr⟩

/-- Each buffered entry is the latest prediction for its tick. -/
structure OnTimeline (t : Timeline) : Prop extends t.Follows where
  latest : ∀ entry ∈ t.client.buffer.entries,
    t.predictionFor entry.sequenceNumber = some entry

theorem start_onTimeline {client : PredictionEngine} (h : client.buffer.entries = []) :
    (start client).OnTimeline where
  consecutive := by
    simp [PredictionEngine.Consecutive, start, InputHistoryBuffer.sequenceNumbers,
      PredictionEngine.pendingCount, h, ticksUpTo]
  reachesBack := by
    simp [PredictionEngine.ReachesBack, start, PredictionEngine.pendingCount, h]
  latest := by simp [start, h]

theorem retained_subset (p : PredictionEngine) (w : WorldState) {entry : InputHistoryEntry}
    (h : entry ∈ (p.retained w).entries) : entry ∈ p.buffer.entries := by
  simp only [PredictionEngine.retained] at h
  split at h
  · simp at h
  · exact (List.dropWhile_sublist _).subset h

theorem act_onTimeline {t t' : Timeline} {action : PredictionAction}
    (increasing : ∀ h ∈ hostSequences [action], t.lastHost ≤ h) (ht : t.OnTimeline)
    (h : t.act action = .ok t') : t'.OnTimeline := by
  refine ⟨act_follows increasing ht.toFollows h, fun entry he => ?_⟩
  cases action with
  | predicted inputState dt sentAt now =>
    obtain ⟨client, htick, h⟩ := Fallible.bind_eq_ok.mp h
    cases h
    obtain ⟨g, -, rfl⟩ := PredictionEngine.predictTick_spec htick
    have hmem := (List.drop_subset _ _) he
    rw [List.mem_append, List.mem_singleton] at hmem
    simp only [predictionFor, List.reverse_append, List.reverse_cons, List.reverse_nil,
      List.nil_append, List.singleton_append, List.find?_cons]
    rcases hmem with hold | rfl
    · -- an older entry lies strictly below the new one
      have hbelow := ht.consecutive.aligned.1 entry hold
      have hne : ¬ (nextEntry t.client inputState dt sentAt).sequenceNumber =
          entry.sequenceNumber := by
        simp only [nextEntry]
        omega
      simpa only [hne, decide_false, predictionFor] using ht.latest entry hold
    · simp [nextEntry]
  | reconciled snapshot now =>
    obtain ⟨client, hrec, h⟩ := Fallible.bind_eq_ok.mp h
    cases h
    obtain ⟨g, -, rfl⟩ := PredictionEngine.reconcile_spec hrec
    exact ht.latest entry (retained_subset t.client _ he)

/-- What every action with a snapshot at or past the last host tick keeps, every run with increasing
snapshots keeps. -/
theorem run_keeps {P : Timeline → Prop}
    (step : ∀ t action t', (∀ h ∈ hostSequences [action], t.lastHost ≤ h) → P t →
      t.act action = .ok t' → P t')
    {actions : List PredictionAction} {t t' : Timeline}
    (increasing : (t.lastHost :: hostSequences actions).Pairwise (· < ·)) (ht : P t)
    (h : t.run actions = .ok t') : P t' := by
  induction actions generalizing t with
  | nil => cases h; exact ht
  | cons action actions ih =>
    rw [run, List.foldlM_cons] at h
    obtain ⟨t₁, hact, h⟩ := Fallible.bind_eq_ok.mp h
    cases action with
    | predicted inputState dt sentAt now =>
      have ht₁ : P t₁ := step t _ t₁ (by simp [hostSequences]) ht hact
      obtain ⟨client, -, hact⟩ := Fallible.bind_eq_ok.mp hact
      cases hact
      refine ih ?_ ht₁ h
      exact increasing
    | reconciled snapshot now =>
      rw [hostSequences_reconciled, List.pairwise_cons] at increasing
      have ht₁ : P t₁ := by
        refine step t _ t₁ (fun k hk => ?_) ht hact
        obtain rfl : k = snapshot.worldState.sequenceNumber := by simpa [hostSequences] using hk
        exact (increasing.1 _ List.mem_cons_self).le
      obtain ⟨client, -, hact⟩ := Fallible.bind_eq_ok.mp hact
      cases hact
      refine ih ?_ ht₁ h
      exact increasing.2

/-- The entries a reconciliation replays are the latest predictions of the ticks past it. -/
theorem OnTimeline.retained_predictions {t : Timeline} (ht : t.OnTimeline) {w : WorldState}
    (hle : t.lastHost ≤ w.sequenceNumber)
    (near : t.client.engine.worldState.sequenceNumber ≤
      w.sequenceNumber + t.client.buffer.capacity) :
    (t.client.retained w).entries.map some =
      (ticksUpTo t.client.engine.worldState.sequenceNumber
        (t.client.engine.worldState.sequenceNumber - w.sequenceNumber).toNat).map
          t.predictionFor := by
  have hreach := ht.reachesBack_of_le hle
  have hseqs : (t.client.retained w).sequenceNumbers =
      ticksUpTo t.client.engine.worldState.sequenceNumber
        (t.client.engine.worldState.sequenceNumber - w.sequenceNumber).toNat := by
    rw [PredictionEngine.retained_of_near near, InputHistoryBuffer.sequenceNumbers_acknowledge,
      ht.consecutive, dropWhile_ticksUpTo]
    simp only [PredictionEngine.ReachesBack] at hreach
    congr 1
    omega
  rw [← hseqs, InputHistoryBuffer.sequenceNumbers, List.map_map]
  exact List.map_congr_left fun entry he =>
    (ht.latest entry (retained_subset t.client w he)).symm

end Timeline

open Timeline in
/-- On one host's timeline the history is consecutive and ends at the engine's tick; a
reconciliation lands the engine its pending entries past the host, having replayed exactly the
predictions past the host, or having dropped them when the client was more than a buffer ahead. -/
theorem history_on_one_timeline {client : PredictionEngine} {actions : List PredictionAction}
    {t : Timeline} (hempty : client.buffer.entries = [])
    (increasing : (client.engine.worldState.sequenceNumber :: hostSequences actions).Pairwise
      (· < ·))
    (hrun : (start client).run actions = .ok t) :
    t.client.buffer.sequenceNumbers =
        ticksUpTo t.client.engine.worldState.sequenceNumber t.client.pendingCount ∧
      ∀ (snapshot : WorldStateSnapshot) (now : ℚ),
        t.lastHost < snapshot.worldState.sequenceNumber →
        (t.client.engine.isAuthoritative = false →
          ∃ client', t.client.reconcile snapshot now = .ok client') ∧
        ∀ client', t.client.reconcile snapshot now = .ok client' →
          client'.engine.worldState.sequenceNumber =
              snapshot.worldState.sequenceNumber + client'.pendingCount ∧
          ∃ replayed,
            PredictionEngine.replayPending t.client.localPlayerId now
                (t.client.adopt snapshot.worldState) replayed = .ok client'.engine ∧
            if t.client.engine.worldState.sequenceNumber ≤
                snapshot.worldState.sequenceNumber + t.client.buffer.capacity then
              replayed.map some =
                (ticksUpTo t.client.engine.worldState.sequenceNumber
                  (t.client.engine.worldState.sequenceNumber -
                    snapshot.worldState.sequenceNumber).toNat).map t.predictionFor
            else
              replayed = [] ∧ client'.buffer.entries = [] ∧
                client'.engine.worldState.sequenceNumber =
                  snapshot.worldState.sequenceNumber := by
  have ht : t.OnTimeline := run_keeps (fun _ _ _ hincr => act_onTimeline hincr) increasing
    (start_onTimeline hempty) hrun
  refine ⟨ht.consecutive, fun snapshot now hlt => ⟨fun hauth =>
    PredictionEngine.reconcile_succeeds hauth snapshot now, fun client' hrec => ?_⟩⟩
  have hseq := PredictionEngine.reconcile_sequenceNumber hrec
  obtain ⟨g, hreplay, rfl⟩ := PredictionEngine.reconcile_spec hrec
  refine ⟨hseq, _, hreplay, ?_⟩
  split
  case isTrue near => exact ht.retained_predictions hlt.le near
  case isFalse far =>
    have hnil := PredictionEngine.retained_of_far (not_le.mp far)
    refine ⟨hnil, hnil, ?_⟩
    rw [hseq, PredictionEngine.pendingCount, hnil]
    simp

/-- A predicting client with an empty history, at tick 0 of an empty level. -/
def idleClient (capacity : ℕ) : PredictionEngine where
  engine := { isAuthoritative := false }
  localPlayerId := "player-2"
  buffer := .empty capacity

def walkRight : PredictionAction := .predicted { right := true } tickInterval 0 0

def emptyWorldAt (tick : ℤ) : WorldStateSnapshot := ⟨tick, { sequenceNumber := tick }⟩

open Timeline in
/-- The second snapshot finds the last of three predictions pending, and replays it. -/
theorem history_of_three_predictions :
    ∃ t client' replayed,
      (start (idleClient 2)).run
          [walkRight, walkRight, .reconciled (emptyWorldAt 1) 0, walkRight] = .ok t ∧
      t.client.buffer.sequenceNumbers =
        ticksUpTo t.client.engine.worldState.sequenceNumber t.client.pendingCount ∧
      t.client.reconcile (emptyWorldAt 2) 0 = .ok client' ∧
      client'.engine.worldState.sequenceNumber = 2 + client'.pendingCount ∧
      PredictionEngine.replayPending "player-2" 0 (t.client.adopt (emptyWorldAt 2).worldState)
        replayed = .ok client'.engine ∧
      replayed.map some = [t.predictionFor 3] := by
  obtain ⟨t, hrun, hcheck⟩ := Fallible.exists_of_okAnd
    (x := (start (idleClient 2)).run
      [walkRight, walkRight, .reconciled (emptyWorldAt 1) 0, walkRight])
    (p := fun t => t.client.engine.worldState.sequenceNumber = 3 ∧ t.lastHost = 1 ∧
      t.client.buffer.capacity = 2 ∧ t.client.engine.isAuthoritative = false ∧
      t.client.localPlayerId = "player-2") (by decide +kernel)
  obtain ⟨htick, hhost, hcapacity, hauth, hlocal⟩ := of_decide_eq_true hcheck
  have increasing : ((idleClient 2).engine.worldState.sequenceNumber :: hostSequences
      [walkRight, walkRight, .reconciled (emptyWorldAt 1) 0, walkRight]).Pairwise (· < ·) := by
    decide +kernel
  obtain ⟨consecutive, reconciles⟩ := history_on_one_timeline rfl increasing hrun
  have hlater : t.lastHost < (emptyWorldAt 2).worldState.sequenceNumber := by
    rw [hhost]
    decide
  obtain ⟨hsucceeds, hlands⟩ := reconciles (emptyWorldAt 2) 0 hlater
  obtain ⟨client', hreconcile⟩ := hsucceeds hauth
  obtain ⟨hseq, replayed, hreplay, hpredictions⟩ := hlands client' hreconcile
  rw [if_pos (by rw [htick, hcapacity]; decide), htick] at hpredictions
  rw [hlocal] at hreplay
  exact ⟨t, client', replayed, hrun, consecutive, hreconcile, hseq, hreplay, hpredictions⟩

/-! ## A new host's timeline -/

/-- The client hears a host from its snapshot `s` on, one snapshot after the other. -/
def ResumesAt (s : ℤ) (actions : List PredictionAction) : Prop :=
  ∃ snapshot now rest, ∃ k : ℕ, actions = .reconciled snapshot now :: rest ∧
    hostSequences actions = ticksUpTo (s + k) (k + 1)

def EndsReconciled (actions : List PredictionAction) : Prop :=
  ∃ front snapshot now, actions = front ++ [.reconciled snapshot now]

theorem ResumesAt.increasing {s : ℤ} {actions : List PredictionAction} (h : ResumesAt s actions) :
    (hostSequences actions).Pairwise (· < ·) := by
  obtain ⟨snapshot, now, rest, k, rfl, hseq⟩ := h
  rw [hseq]
  exact ticksUpTo_pairwise _ _

theorem ResumesAt.first {s : ℤ} {snapshot : WorldStateSnapshot} {now : ℚ}
    {rest : List PredictionAction} (h : ResumesAt s (.reconciled snapshot now :: rest)) :
    snapshot.worldState.sequenceNumber = s := by
  obtain ⟨_, _, _, k, -, hseq⟩ := h
  rw [hostSequences_reconciled, ticksUpTo] at hseq
  have := (List.cons.inj hseq).1
  omega

namespace PredictionEngine

/-- The client is more than a buffer ahead of `s`, or its history past `s` begins right after `s`
and has no gap. -/
def HistoryFits (p : PredictionEngine) (s : ℤ) : Prop :=
  let past := p.buffer.sequenceNumbers.dropWhile (· ≤ s)
  s + p.buffer.capacity < p.engine.worldState.sequenceNumber ∨
    past = ticksUpTo (s + past.length) past.length

instance (p : PredictionEngine) : Decidable p.Aligned := inferInstanceAs (Decidable (_ ∧ _))

instance (p : PredictionEngine) (s : ℤ) : Decidable (p.HistoryFits s) :=
  inferInstanceAs (Decidable (_ ∨ _))

/-- The first reconciliation with a host whose sequence the history fits. -/
theorem reconcile_of_historyFits {p p' : PredictionEngine} {snapshot : WorldStateSnapshot} {now : ℚ}
    (fits : p.HistoryFits snapshot.worldState.sequenceNumber)
    (h : p.reconcile snapshot now = .ok p') :
    p'.Consecutive ∧ p'.ReachesBack snapshot.worldState.sequenceNumber := by
  obtain ⟨g, hreplay, rfl⟩ := reconcile_spec h
  have hseq : g.worldState.sequenceNumber = snapshot.worldState.sequenceNumber +
    (p.retained snapshot.worldState).entries.length := replayPending_sequenceNumber hreplay
  refine ⟨?_, by simp only [ReachesBack, hseq, pendingCount]; omega⟩
  simp only [Consecutive, hseq, pendingCount]
  rcases fits with hfar | hfits
  · simp [InputHistoryBuffer.sequenceNumbers, retained_of_far hfar, ticksUpTo]
  · rcases lt_or_ge (snapshot.worldState.sequenceNumber + p.buffer.capacity)
      p.engine.worldState.sequenceNumber with hfar | hnear
    · simp [InputHistoryBuffer.sequenceNumbers, retained_of_far hfar, ticksUpTo]
    · rw [← InputHistoryBuffer.sequenceNumbers_acknowledge,
        InputHistoryBuffer.length_sequenceNumbers] at hfits
      rw [retained_of_near hnear]
      exact hfits

/-- Conversely, a history that does not fit is out of line right after the first snapshot. -/
theorem historyFits_of_aligned {p p' : PredictionEngine} {snapshot : WorldStateSnapshot} {now : ℚ}
    (h : p.reconcile snapshot now = .ok p') (aligned : p'.Aligned) :
    p.HistoryFits snapshot.worldState.sequenceNumber := by
  rcases lt_or_ge (snapshot.worldState.sequenceNumber + p.buffer.capacity)
    p.engine.worldState.sequenceNumber with hfar | hnear
  · exact .inl hfar
  obtain ⟨g, hreplay, rfl⟩ := reconcile_spec h
  have hseq : g.worldState.sequenceNumber = snapshot.worldState.sequenceNumber +
    (p.retained snapshot.worldState).entries.length := replayPending_sequenceNumber hreplay
  obtain ⟨hbelow, hincr⟩ := aligned
  simp only [hseq, retained_of_near hnear] at hbelow hincr
  right
  rw [← InputHistoryBuffer.sequenceNumbers_acknowledge]
  refine eq_ticksUpTo hincr ?_ fun t ht => ?_
  · rw [InputHistoryBuffer.sequenceNumbers_acknowledge] at hincr ⊢
    exact lt_of_mem_dropWhile hincr
  · obtain ⟨entry, he, rfl⟩ := List.mem_map.mp ht
    rw [InputHistoryBuffer.length_sequenceNumbers]
    exact hbelow entry he

end PredictionEngine

open Timeline in
/-- After a migration to a host that resumes at `s`, the history stays aligned with the engine
after every reconciliation exactly when it fits `s`. -/
theorem migration_aligned_iff {p : PredictionEngine} (hp : p.engine.isAuthoritative = false)
    (s : ℤ) :
    (∀ actions t, ResumesAt s actions → EndsReconciled actions →
      (start p).run actions = .ok t → t.client.Aligned) ↔ p.HistoryFits s := by
  constructor
  · intro aligned
    let snapshot : WorldStateSnapshot := ⟨s, { sequenceNumber := s }⟩
    obtain ⟨p', hrec⟩ := PredictionEngine.reconcile_succeeds hp snapshot 0
    have hrun : (start p).run [.reconciled snapshot 0] = .ok ⟨p', [], s⟩ := by
      simp [run, act, start, hrec, snapshot]
    have hresumes : ResumesAt s [.reconciled snapshot 0] :=
      ⟨snapshot, 0, [], 0, rfl, by simp [hostSequences, ticksUpTo, snapshot]⟩
    have hends : EndsReconciled [.reconciled snapshot 0] := ⟨[], snapshot, 0, rfl⟩
    exact PredictionEngine.historyFits_of_aligned hrec (aligned _ _ hresumes hends hrun)
  · intro fits actions t hresumes _ hrun
    have hincr := hresumes.increasing
    obtain ⟨snapshot, now, rest, k, rfl, -⟩ := id hresumes
    obtain rfl := hresumes.first
    rw [run, List.foldlM_cons] at hrun
    obtain ⟨t₁, hact, hrun⟩ := Fallible.bind_eq_ok.mp hrun
    obtain ⟨p', hrec, hact⟩ := Fallible.bind_eq_ok.mp hact
    cases hact
    obtain ⟨hc, hr⟩ := PredictionEngine.reconcile_of_historyFits fits hrec
    have ht : t.Follows := by
      refine run_keeps (fun _ _ _ hincr => act_follows hincr) ?_ ⟨hc, hr⟩ hrun
      exact hincr
    exact ht.consecutive.aligned

/-- The inputs of ticks 8 to 10 are pending when the new host resumes at 5. -/
def migratingClient : PredictionEngine where
  engine := { isAuthoritative := false, worldState := { sequenceNumber := 10 } }
  localPlayerId := "player-2"
  buffer := ⟨60, [⟨8, {}, tickInterval, 0⟩, ⟨9, {}, tickInterval, 0⟩, ⟨10, {}, tickInterval, 0⟩],
    by decide⟩

open Timeline in
theorem migration_aligned_at_seven :
    ∃ t, (start migratingClient).run [.reconciled ⟨7, { sequenceNumber := 7 }⟩ 0] = .ok t ∧
      t.client.Aligned := by
  obtain ⟨t, hrun, -⟩ := Fallible.exists_of_okAnd
    (x := (start migratingClient).run [.reconciled ⟨7, { sequenceNumber := 7 }⟩ 0])
    (p := fun _ => true) (by decide +kernel)
  have hresumes : ResumesAt 7 [.reconciled ⟨7, { sequenceNumber := 7 }⟩ 0] :=
    ⟨_, _, [], 0, rfl, by decide⟩
  exact ⟨t, hrun, (migration_aligned_iff rfl 7).mpr (by decide) _ t hresumes ⟨[], _, _, rfl⟩ hrun⟩

open Timeline in
theorem migration_pins_old_inputs :
    ¬ ∀ actions t, ResumesAt 5 actions → EndsReconciled actions →
      (start migratingClient).run actions = .ok t → t.client.Aligned := by
  intro aligned
  let first : PredictionAction := .reconciled ⟨5, { sequenceNumber := 5 }⟩ 0
  obtain ⟨t, hrun, hout⟩ := Fallible.exists_of_okAnd (x := (start migratingClient).run [first])
    (p := fun t => !decide t.client.Aligned) (by decide +kernel)
  have hresumes : ResumesAt 5 [first] := ⟨_, _, [], 0, rfl, by decide⟩
  have hin : t.client.Aligned := aligned _ t hresumes ⟨[], _, _, rfl⟩ hrun
  simp [hin] at hout

end DistributedSmb
