import DistributedSmb.Domain.ShadowCopy
import DistributedSmb.Library.Fallible
import Mathlib

/-!
# Between the snapshots

What a shadow copy shows after any history of updates: each coordinate moves from the snapshot
before the last one to the last one, goes on with its velocity for a while when the next one is
late, and stops. The next update starts again from the last snapshot, wherever the copy is shown
then.
-/

namespace DistributedSmb

open Library

/-- An update as it arrives. -/
structure SnapshotUpdate where
  state : Player
  sequenceNumber : ℤ
  receivedAt : ℚ

/-- The time since the update. -/
def SnapshotUpdate.elapsed (u : SnapshotUpdate) (now : ℚ) : ℚ := max 0 (now - u.receivedAt)

/-- The coordinates that are smoothed. -/
inductive Coordinate where
  | x | y | prevX | prevY

namespace Coordinate

def of : Coordinate → Player → ℚ
  | x, p => p.x
  | y, p => p.y
  | prevX, p => p.prevX
  | prevY, p => p.prevY

def velocity : Coordinate → Player → ℚ
  | x, p => p.vx
  | y, p => p.vy
  | prevX, p => p.vx
  | prevY, p => p.vy

end Coordinate

namespace ShadowCopy

def receive (s : ShadowCopy) (u : SnapshotUpdate) : ShadowCopy :=
  (s.update u.state u.sequenceNumber u.receivedAt).1

def history (s : ShadowCopy) (updates : List SnapshotUpdate) : ShadowCopy :=
  updates.foldl receive s

/-- The updates with a number above this one and above all before them. -/
def accepted : ℤ → List SnapshotUpdate → List SnapshotUpdate
  | _, [] => []
  | k, u :: rest =>
    if u.sequenceNumber ≤ k then accepted k rest else u :: accepted u.sequenceNumber rest

/-! ## Histories -/

/-- The highest number so far. -/
def latest (k : ℤ) (updates : List SnapshotUpdate) : ℤ :=
  updates.foldl (fun k u => max k u.sequenceNumber) k

theorem accepted_append (k : ℤ) (updates : List SnapshotUpdate) (u : SnapshotUpdate) :
    accepted k (updates ++ [u]) =
      accepted k updates ++ if u.sequenceNumber ≤ latest k updates then [] else [u] := by
  induction updates generalizing k with
  | nil => rfl
  | cons v updates ih =>
    rw [List.cons_append, accepted, accepted, latest, List.foldl_cons, ← latest]
    split
    case isTrue hstale => rw [ih, max_eq_left hstale]
    case isFalse hnewer => rw [ih, max_eq_right (not_le.mp hnewer).le, List.cons_append]

/-- What a copy shows: it moves from a state to the state of its last update. -/
structure Shows (s : ShadowCopy) (previous : Player) (last : SnapshotUpdate) : Prop where
  target : s.target = some last.state
  lastConfirmed : s.lastConfirmed = some previous
  lastSnapshotTime : s.lastSnapshotTime = some last.receivedAt
  lastSequenceNumber : s.lastSequenceNumber = last.sequenceNumber
  window_pos : 0 < s.interpolationWindow
  window_le : 1 / 10 ^ 6 ≤ s.timeout → s.interpolationWindow ≤ s.timeout

variable {s : ShadowCopy} {previous : Player} {last u : SnapshotUpdate}
  {updates before : List SnapshotUpdate}

theorem receive_of_stale (h : u.sequenceNumber ≤ s.lastSequenceNumber) : s.receive u = s :=
  update_of_stale (not_lt.mpr h) u.state u.receivedAt

theorem receive_of_newer (h : s.lastSequenceNumber < u.sequenceNumber) :
    s.receive u =
      { s with
        lastConfirmed := some (s.target.getD u.state)
        target := some u.state
        interpolationWindow := s.nextWindow u.receivedAt
        lastSequenceNumber := u.sequenceNumber
        lastSnapshotTime := some u.receivedAt } := by
  rw [receive, update, if_neg (not_le.mpr h)]

theorem receive_lastSequenceNumber (s : ShadowCopy) (u : SnapshotUpdate) :
    (s.receive u).lastSequenceNumber = max s.lastSequenceNumber u.sequenceNumber := by
  rcases le_or_gt u.sequenceNumber s.lastSequenceNumber with h | h
  · rw [receive_of_stale h, max_eq_left h]
  · rw [receive_of_newer h, max_eq_right h.le]

theorem history_lastSequenceNumber (s : ShadowCopy) (updates : List SnapshotUpdate) :
    (s.history updates).lastSequenceNumber = latest s.lastSequenceNumber updates := by
  induction updates generalizing s with
  | nil => rfl
  | cons u updates ih =>
    rw [history, List.foldl_cons, ← history, ih, receive_lastSequenceNumber]
    rfl

/-- The two times are set when the copy is made. -/
theorem receive_timeout (s : ShadowCopy) (u : SnapshotUpdate) :
    (s.receive u).timeout = s.timeout ∧
      (s.receive u).maxExtrapolationTime = s.maxExtrapolationTime := by
  unfold receive update
  split <;> exact ⟨rfl, rfl⟩

theorem history_timeout (s : ShadowCopy) (updates : List SnapshotUpdate) :
    (s.history updates).timeout = s.timeout ∧
      (s.history updates).maxExtrapolationTime = s.maxExtrapolationTime :=
  Fallible.foldl_keeps (P := fun c : ShadowCopy => c.timeout = s.timeout ∧
      c.maxExtrapolationTime = s.maxExtrapolationTime)
    (fun c u _ h => ⟨(receive_timeout c u).1.trans h.1, (receive_timeout c u).2.trans h.2⟩)
    ⟨rfl, rfl⟩

theorem nextWindow_pos (ht : 0 < s.timeout) (receivedAt : ℚ) : 0 < s.nextWindow receivedAt := by
  unfold nextWindow
  split
  · exact lt_max_of_lt_left (by norm_num)
  · exact ht

theorem nextWindow_le (ht : 1 / 10 ^ 6 ≤ s.timeout) (receivedAt : ℚ) :
    s.nextWindow receivedAt ≤ s.timeout := by
  unfold nextWindow
  split
  · exact max_le (le_trans (by norm_num) ht) (min_le_left _ _)
  · exact le_rfl

/-- A newer update starts from the last one, or from itself if it is the first. -/
theorem shows_receive (ht : 0 < s.timeout) (h : s.lastSequenceNumber < u.sequenceNumber) :
    (s.receive u).Shows (s.target.getD u.state) u := by
  rw [receive_of_newer h]
  exact ⟨rfl, rfl, rfl, rfl, nextWindow_pos ht _, fun hlong => nextWindow_le (s := s) hlong _⟩

/-- After any updates, the last two that were accepted are shown. -/
theorem history_shows (ht : 0 < s.timeout) (fresh : s.target = none)
    (updates : List SnapshotUpdate) :
    (accepted s.lastSequenceNumber updates = [] → s.history updates = s) ∧
      ∀ before last, accepted s.lastSequenceNumber updates = before ++ [last] →
        (s.history updates).Shows (before.getLast?.getD last).state last := by
  induction updates using List.reverseRecOn with
  | nil => exact ⟨fun _ => rfl, fun before last h => by simp [accepted] at h⟩
  | append_singleton updates u ih =>
    have hnext : s.history (updates ++ [u]) = (s.history updates).receive u := by
      rw [history, List.foldl_append]
      rfl
    have hlatest := history_lastSequenceNumber s updates
    rw [accepted_append, hnext]
    split
    case isTrue hstale =>
      rw [List.append_nil, receive_of_stale (hlatest ▸ hstale)]
      exact ih
    case isFalse hnewer =>
      rw [not_le, ← hlatest] at hnewer
      refine ⟨fun h => by simp at h, fun before last h => ?_⟩
      obtain ⟨rfl, hlast⟩ := List.append_inj' h rfl
      cases hlast
      have hshows := shows_receive ((history_timeout s updates).1 ▸ ht) hnewer
      rcases List.eq_nil_or_concat (accepted s.lastSequenceNumber updates) with hnil | ⟨l, v, hl⟩
      · rw [hnil, ih.1 hnil]
        rwa [ih.1 hnil, fresh] at hshows
      · rw [List.concat_eq_append] at hl
        rw [(ih.2 l v hl).target] at hshows
        rwa [hl, List.getLast?_concat]

/-! ## What is shown -/

/-- The motion of a coordinate. -/
def Shows.motion (h : s.Shows previous last) (ht : 0 < s.timeout) (c : Coordinate) : Motion ℚ where
  start := c.of previous
  target := c.of last.state
  velocity := c.velocity last.state
  window := s.interpolationWindow
  timeout := s.timeout
  limit := s.maxExtrapolationTime
  window_pos := h.window_pos
  timeout_pos := ht

/-- Every coordinate is shown where its motion has come to; past the limit the player stands
still. -/
theorem Shows.display (h : s.Shows previous last) (ht : 0 < s.timeout) (now : ℚ) :
    ∃ p, s.getVisualState now = .ok (some p) ∧
      (∀ c : Coordinate, c.of p = (h.motion ht c).position (last.elapsed now)) ∧
      (s.timeout < last.elapsed now → s.timeout + s.maxExtrapolationTime ≤ last.elapsed now →
        p.vx = 0 ∧ p.vy = 0) := by
  simp only [getVisualState, h.target, h.lastSnapshotTime]
  by_cases hearly : max 0 (now - last.receivedAt) ≤ s.timeout
  · simp only [if_pos hearly, interpolate, h.target, h.lastConfirmed, Option.getD_some]
    refine ⟨_, rfl, fun c => ?_, fun hlate => absurd hlate (not_lt.mpr hearly)⟩
    rw [Motion.position, if_pos (show last.elapsed now ≤ (h.motion ht c).timeout from hearly)]
    cases c <;> rfl
  · simp only [if_neg hearly]
    refine ⟨_, rfl, fun c => ?_, fun _ hstopped => ?_⟩
    · have hbeyond : (h.motion ht c).timeout < last.elapsed now := not_le.mp hearly
      rw [Motion.position_beyond _ hbeyond]
      cases c <;> rfl
    · have hpast : last.elapsed now - s.timeout ≥ s.maxExtrapolationTime :=
        le_sub_iff_add_le'.mpr hstopped
      exact ⟨if_pos hpast, if_pos hpast⟩

/-- Between two snapshots every coordinate is between theirs; when the next one is late it goes on
with the last velocity and stops; and it never leaps. Past the limit the velocity is shown as 0,
unless the limit is 0 and the timeout has just been reached. -/
theorem smooth_between_snapshots {s : ShadowCopy} (ht : 1 / 10 ^ 6 ≤ s.timeout)
    (hm : 0 ≤ s.maxExtrapolationTime) (fresh : s.target = none) {updates before last}
    (haccepted : accepted s.lastSequenceNumber updates = before ++ [last]) :
    (s.history updates).interpolationWindow ≠ 0 ∧ ∃ display : ℚ → Player,
      (∀ now, (s.history updates).getVisualState now = .ok (some (display now))) ∧
      (∀ c : Coordinate, Continuous fun now => c.of (display now)) ∧
      ∀ elapsed, 0 ≤ elapsed →
        let p := display (last.receivedAt + elapsed)
        (∀ c : Coordinate,
          (elapsed ≤ s.timeout →
            c.of p ∈ Set.uIcc (c.of (before.getLast?.getD last).state) (c.of last.state)) ∧
          (elapsed = s.timeout → c.of p = c.of last.state) ∧
          (s.timeout < elapsed → c.of p = c.of last.state +
            c.velocity last.state * min (elapsed - s.timeout) s.maxExtrapolationTime) ∧
          (s.timeout + s.maxExtrapolationTime ≤ elapsed →
            c.of p = c.of last.state + c.velocity last.state * s.maxExtrapolationTime)) ∧
        (s.timeout < elapsed → s.timeout + s.maxExtrapolationTime ≤ elapsed →
          p.vx = 0 ∧ p.vy = 0) := by
  have hpos : 0 < s.timeout := lt_of_lt_of_le (by norm_num) ht
  have hshows := (history_shows hpos fresh updates).2 before last haccepted
  obtain ⟨htimeout, hlimit⟩ := history_timeout s updates
  rw [← htimeout] at ht hpos ⊢
  rw [← hlimit] at hm ⊢
  generalize s.history updates = copy at *
  have hwindow := hshows.window_le ht
  choose display hdisplay hposition hstopped using hshows.display hpos
  refine ⟨hshows.window_pos.ne', display, hdisplay, fun c => ?_, fun elapsed hnow => ?_⟩
  · simp only [hposition _ c]
    have hcontinuous : Continuous (hshows.motion hpos c).position :=
      Motion.continuous_position hwindow hm
    exact hcontinuous.comp (by unfold SnapshotUpdate.elapsed; fun_prop)
  · have helapsed : last.elapsed (last.receivedAt + elapsed) = elapsed := by
      rw [SnapshotUpdate.elapsed, add_sub_cancel_left, max_eq_right hnow]
    intro p
    refine ⟨fun c => ?_, helapsed ▸ hstopped (last.receivedAt + elapsed)⟩
    let m := hshows.motion hpos c
    rw [show c.of p = m.position elapsed from helapsed ▸ hposition _ c]
    refine ⟨m.position_mem, ?_, m.position_beyond, m.position_stopped hwindow hm⟩
    rintro rfl
    exact m.position_timeout hwindow

/-- A player that runs to the right. -/
def runnerAt (x : ℚ) : Player := { playerId := "player2", x := x, vx := 20, prevX := x }

def twoUpdates : List SnapshotUpdate := [⟨runnerAt 0, 1, 0⟩, ⟨runnerAt 10, 2, 1 / 10⟩]

theorem late_runner_stops : ∃ display : ℚ → Player,
    (∀ now,
      (history { timeout := 1 / 10, maxExtrapolationTime := 3 / 10 } twoUpdates).getVisualState
        now = .ok (some (display now))) ∧ (display (1 / 10 + 1 / 2)).x = 16 := by
  have hsmooth := smooth_between_snapshots
    (s := { timeout := 1 / 10, maxExtrapolationTime := 3 / 10 }) (by norm_num) (by norm_num) rfl
    (show accepted (-1) twoUpdates = [⟨runnerAt 0, 1, 0⟩] ++ [⟨runnerAt 10, 2, 1 / 10⟩] from rfl)
  obtain ⟨-, display, hdisplay, -, hafter⟩ := hsmooth
  refine ⟨display, hdisplay, ?_⟩
  have hstopped := ((hafter (1 / 2) (by norm_num)).1 .x).2.2.2 (by norm_num)
  exact hstopped.trans (by norm_num [Coordinate.of, Coordinate.velocity, runnerAt])

/-- Without any extrapolation, the velocity is still shown when the timeout is reached. -/
theorem runner_moves_at_the_timeout :
    let s : ShadowCopy := { timeout := 1 / 10, maxExtrapolationTime := 0 }
    1 / 10 ^ 6 ≤ s.timeout ∧ 0 ≤ s.maxExtrapolationTime ∧ s.target = none ∧
      s.timeout + s.maxExtrapolationTime ≤ 1 / 10 ∧
      ∃ p, (s.history [⟨runnerAt 0, 1, 0⟩]).getVisualState (1 / 10) = .ok (some p) ∧ p.vx ≠ 0 := by
  refine ⟨by norm_num, le_rfl, rfl, by norm_num, { runnerAt 0 with vx := 20 }, ?_, ?_⟩
  · decide +kernel
  · decide +kernel

/-! ## Between two updates -/

/-- The coordinate is where the last update has put it: it has got there or was there before, and
past the timeout it does not go on. -/
def Settled (s : ShadowCopy) (previous : Player) (last : SnapshotUpdate) (elapsed : ℚ)
    (c : Coordinate) : Prop :=
  elapsed ≤ s.timeout ∧ (c.of previous = c.of last.state ∨ s.interpolationWindow ≤ elapsed) ∨
    s.timeout < elapsed ∧ (c.velocity last.state = 0 ∨ s.maxExtrapolationTime = 0)

/-- The next update leaves the player where it is shown if and only if both of its coordinates have
settled by then. -/
theorem update_keeps_display_iff {s : ShadowCopy} (ht : 0 < s.timeout) (fresh : s.target = none)
    {updates before last} (haccepted : accepted s.lastSequenceNumber updates = before ++ [last])
    {u : SnapshotUpdate} (newer : last.sequenceNumber < u.sequenceNumber)
    (later : last.receivedAt ≤ u.receivedAt) :
    (∃ p p', (s.history updates).getVisualState u.receivedAt = .ok (some p) ∧
        ((s.history updates).receive u).getVisualState u.receivedAt = .ok (some p') ∧
        p'.x = p.x ∧ p'.y = p.y) ↔
      (s.history updates).Settled (before.getLast?.getD last).state last
          (u.receivedAt - last.receivedAt) .x ∧
        (s.history updates).Settled (before.getLast?.getD last).state last
          (u.receivedAt - last.receivedAt) .y := by
  have hshows := (history_shows ht fresh updates).2 before last haccepted
  rw [← (history_timeout s updates).1] at ht
  generalize s.history updates = copy at *
  have hnext := shows_receive ht (hshows.lastSequenceNumber ▸ newer)
  rw [hshows.target, Option.getD_some] at hnext
  obtain ⟨p, hp, hposition, -⟩ := hshows.display ht u.receivedAt
  obtain ⟨p', hp', hposition', -⟩ :=
    hnext.display ((receive_timeout copy u).1.symm ▸ ht) u.receivedAt
  have hsettled (c : Coordinate) : c.of p' = c.of p ↔ copy.Settled
      (before.getLast?.getD last).state last (u.receivedAt - last.receivedAt) c := by
    have helapsed : last.elapsed u.receivedAt = u.receivedAt - last.receivedAt :=
      max_eq_right (sub_nonneg.mpr later)
    have hrestart : c.of p' = c.of last.state := by
      rw [hposition', SnapshotUpdate.elapsed, sub_self, max_self, Motion.position_zero]
      rfl
    rw [hrestart, hposition, helapsed, eq_comm]
    exact Motion.position_eq_target_iff _
  rw [← hsettled, ← hsettled]
  constructor
  · rintro ⟨q, q', hq, hq', hsame⟩
    cases hp.symm.trans hq
    cases hp'.symm.trans hq'
    exact hsame
  · exact fun hsame => ⟨p, p', hp, hp', hsame⟩

/-- An update on time, when the runner has just got to its target. -/
theorem update_on_time_keeps_display : ∃ p p',
    (history { timeout := 3 / 20 } twoUpdates).getVisualState (1 / 5) = .ok (some p) ∧
      ((history { timeout := 3 / 20 } twoUpdates).receive
        ⟨runnerAt 20, 3, 1 / 5⟩).getVisualState (1 / 5) = .ok (some p') ∧
      p'.x = p.x ∧ p'.y = p.y :=
  (update_keeps_display_iff (s := { timeout := 3 / 20 }) (u := ⟨runnerAt 20, 3, 1 / 5⟩)
    (by norm_num) rfl
    (show accepted (-1) twoUpdates = [⟨runnerAt 0, 1, 0⟩] ++ [⟨runnerAt 10, 2, 1 / 10⟩] from rfl)
    (by decide) (by norm_num)).mpr
      ⟨.inl ⟨by decide +kernel, .inr (by decide +kernel)⟩,
        .inl ⟨by decide +kernel, .inl rfl⟩⟩

/-- An early update makes the runner leap to its target, a late one throws it back there. -/
theorem update_moves_display :
    (∃ p p', (history { timeout := 3 / 20 } twoUpdates).getVisualState (3 / 20) = .ok (some p) ∧
      ((history { timeout := 3 / 20 } twoUpdates).receive
        ⟨runnerAt 20, 3, 3 / 20⟩).getVisualState (3 / 20) = .ok (some p') ∧
      p.x = 5 ∧ p'.x = 10) ∧
    ∃ p p', (history { timeout := 3 / 20 } twoUpdates).getVisualState (7 / 20) = .ok (some p) ∧
      ((history { timeout := 3 / 20 } twoUpdates).receive
        ⟨runnerAt 20, 3, 7 / 20⟩).getVisualState (7 / 20) = .ok (some p') ∧
      p.x = 12 ∧ p'.x = 10 := by
  refine ⟨⟨{ runnerAt 5 with vx := 20 }, runnerAt 10, ?_⟩,
    { runnerAt 12 with vx := 20 }, runnerAt 10, ?_⟩
  · decide +kernel
  · decide +kernel

end ShadowCopy

end DistributedSmb
