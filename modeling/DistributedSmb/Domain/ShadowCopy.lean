import DistributedSmb.Domain.Entity
import DistributedSmb.Library.Motion
import Mathlib.Algebra.Field.Rat

/-!
# Shadow copies

`domain/shadow_copy.py`: the smoothed state of one remote player. An update that is not newer than
the last one is dropped.
-/

namespace DistributedSmb

open Library

/-- With the defaults of a copy that has seen nothing yet. -/
structure ShadowCopy where
  timeout : ℚ := snapshotTimeout
  maxExtrapolationTime : ℚ := maxExtrapolationTime
  lastConfirmed : Option Player := none
  target : Option Player := none
  lastSequenceNumber : ℤ := -1
  lastSnapshotTime : Option ℚ := none
  interpolationWindow : ℚ := snapshotTimeout
  deriving DecidableEq

namespace ShadowCopy

/-- The window of the motion towards an update received at this time. -/
def nextWindow (s : ShadowCopy) (receivedAt : ℚ) : ℚ :=
  match s.target, s.lastSnapshotTime with
  | some _, some previous => max (1 / 1000000) (min s.timeout (receivedAt - previous))
  | _, _ => s.timeout

/-- The update with the verdict whether it was newer. -/
def update (s : ShadowCopy) (state : Player) (sequenceNumber : ℤ) (receivedAt : ℚ) :
    ShadowCopy × Bool :=
  if sequenceNumber ≤ s.lastSequenceNumber then (s, false)
  else
    ({ s with
        lastConfirmed := some (s.target.getD state)
        target := some state
        interpolationWindow := s.nextWindow receivedAt
        lastSequenceNumber := sequenceNumber
        lastSnapshotTime := some receivedAt },
      true)

/-- A visual state between the snapshots. -/
def interpolate (s : ShadowCopy) (alpha : ℚ) : Except PyError Player :=
  match s.target with
  | none => .error (.valueError "Cannot interpolate without at least one snapshot")
  | some target =>
    let start := s.lastConfirmed.getD target
    let alpha := clamp alpha 0 1
    .ok { target with
      x := lerp start.x target.x alpha
      y := lerp start.y target.y alpha
      vx := lerp start.vx target.vx alpha
      vy := lerp start.vy target.vy alpha
      prevX := lerp start.prevX target.prevX alpha
      prevY := lerp start.prevY target.prevY alpha }

/-- The smoothed visual state; a copy that has seen nothing has none. -/
def getVisualState (s : ShadowCopy) (now : ℚ) : Except PyError (Option Player) :=
  match s.target, s.lastSnapshotTime with
  | none, _ => .ok none
  | some target, none => .ok (some target)
  | some target, some lastSnapshotTime =>
    let elapsed := max 0 (now - lastSnapshotTime)
    if elapsed ≤ s.timeout then some <$> s.interpolate (elapsed / s.interpolationWindow)
    else
      let extrapolationElapsed := min (elapsed - s.timeout) s.maxExtrapolationTime
      let stopped := elapsed - s.timeout ≥ s.maxExtrapolationTime
      .ok (some { target with
        x := target.x + target.vx * extrapolationElapsed
        y := target.y + target.vy * extrapolationElapsed
        prevX := target.prevX + target.vx * extrapolationElapsed
        prevY := target.prevY + target.vy * extrapolationElapsed
        vx := if stopped then 0 else target.vx
        vy := if stopped then 0 else target.vy })

theorem update_of_stale {s : ShadowCopy} {k : ℤ} (h : ¬ s.lastSequenceNumber < k) (state : Player)
    (receivedAt : ℚ) : (s.update state k receivedAt).1 = s := by
  rw [update, if_pos (not_lt.mp h)]

theorem update_of_newer {s : ShadowCopy} {k : ℤ} (h : s.lastSequenceNumber < k) (state : Player)
    (receivedAt : ℚ) :
    (s.update state k receivedAt).1.target = some state ∧
      (s.update state k receivedAt).1.lastSequenceNumber = k := by
  rw [update, if_neg (not_le.mpr h)]
  exact ⟨rfl, rfl⟩

/-- An update shows if it is newer, or if it changes nothing. -/
theorem target_update_iff {s : ShadowCopy} {state : Player} {k : ℤ} {receivedAt : ℚ} :
    (s.update state k receivedAt).1.target = some state ↔
      s.lastSequenceNumber < k ∨ s.target = some state := by
  by_cases h : s.lastSequenceNumber < k
  · simp [(update_of_newer h state receivedAt).1, h]
  · simp [update_of_stale h, h]

end ShadowCopy

end DistributedSmb
