import Mathlib.Algebra.Order.Field.Basic
import Mathlib.Order.Interval.Set.UnorderedInterval
import Mathlib.Tactic.Linarith
import Mathlib.Topology.Algebra.GroupWithZero
import Mathlib.Topology.Algebra.Ring.Basic
import Mathlib.Topology.Order.OrderClosed

/-!
# Motion of one coordinate

A coordinate moves from a start to a target during a window, rests there until a timeout, and goes
on with a velocity for a limited time after it.
-/

namespace Library

section
variable {K : Type} [LinearOrder K]

def clamp (value minimum maximum : K) : K := max minimum (min maximum value)

variable {value minimum maximum : K}

theorem minimum_le_clamp : minimum ≤ clamp value minimum maximum := le_max_left _ _

theorem clamp_le_maximum (h : minimum ≤ maximum) : clamp value minimum maximum ≤ maximum :=
  max_le h (min_le_left _ _)

theorem clamp_of_le (h : value ≤ minimum) : clamp value minimum maximum = minimum :=
  max_eq_left ((min_le_right _ _).trans h)

theorem clamp_of_ge (hle : minimum ≤ maximum) (h : maximum ≤ value) :
    clamp value minimum maximum = maximum := by rw [clamp, min_eq_left h, max_eq_right hle]

theorem clamp_of_mem (hmin : minimum ≤ value) (hmax : value ≤ maximum) :
    clamp value minimum maximum = value := by rw [clamp, min_eq_right hmax, max_eq_right hmin]

end

variable {K : Type} [Field K]

def lerp (start stop alpha : K) : K := start + (stop - start) * alpha

@[simp] theorem lerp_zero (start stop : K) : lerp start stop 0 = start := by simp [lerp]

@[simp] theorem lerp_one (start stop : K) : lerp start stop 1 = stop := by simp [lerp]

theorem lerp_eq_stop_iff {start stop alpha : K} :
    lerp start stop alpha = stop ↔ start = stop ∨ alpha = 1 := by
  have hrest : lerp start stop alpha - stop = (start - stop) * (1 - alpha) := by
    rw [lerp]
    ring
  rw [← sub_eq_zero, hrest, mul_eq_zero, sub_eq_zero, sub_eq_zero, eq_comm (b := alpha)]

variable [LinearOrder K]

theorem lerp_mem_uIcc [IsStrictOrderedRing K] {alpha : K} (start stop : K) (h0 : 0 ≤ alpha)
    (h1 : alpha ≤ 1) : lerp start stop alpha ∈ Set.uIcc start stop := by
  rw [Set.mem_uIcc, lerp]
  rcases le_total start stop with h | h
  · have hstep : 0 ≤ stop - start := sub_nonneg.mpr h
    have hpart := mul_le_of_le_one_right hstep h1
    exact .inl ⟨le_add_of_nonneg_right (mul_nonneg hstep h0), by linarith⟩
  · have hstep : stop - start ≤ 0 := sub_nonpos.mpr h
    have hpart := le_mul_of_le_one_right hstep h1
    exact .inr ⟨by linarith, add_le_of_nonpos_right (mul_nonpos_of_nonpos_of_nonneg hstep h0)⟩

/-- Interpolated until the timeout, extrapolated for a limited time after it. -/
structure Motion (K : Type) [Field K] [LinearOrder K] where
  start : K
  target : K
  velocity : K
  window : K
  timeout : K
  limit : K
  window_pos : 0 < window
  timeout_pos : 0 < timeout

namespace Motion

variable (m : Motion K) {elapsed : K}

def position (elapsed : K) : K :=
  if elapsed ≤ m.timeout then lerp m.start m.target (clamp (elapsed / m.window) 0 1)
  else m.target + m.velocity * min (elapsed - m.timeout) m.limit

theorem position_beyond (h : m.timeout < elapsed) :
    m.position elapsed = m.target + m.velocity * min (elapsed - m.timeout) m.limit :=
  if_neg (not_le.mpr h)

theorem position_zero : m.position 0 = m.start := by
  rw [position, if_pos m.timeout_pos.le, zero_div, clamp_of_le le_rfl, lerp_zero]

variable [IsStrictOrderedRing K]

/-- After the window, the interpolation rests at its target. -/
theorem alpha_eq_one_iff : clamp (elapsed / m.window) 0 1 = 1 ↔ m.window ≤ elapsed := by
  rw [← one_le_div₀ m.window_pos]
  constructor
  · intro h
    by_contra hlt
    refine (ne_of_lt ?_) h
    exact max_lt zero_lt_one ((min_le_right _ _).trans_lt (not_le.mp hlt))
  · exact clamp_of_ge zero_le_one

theorem position_mem (h : elapsed ≤ m.timeout) :
    m.position elapsed ∈ Set.uIcc m.start m.target := by
  rw [position, if_pos h]
  exact lerp_mem_uIcc _ _ minimum_le_clamp (clamp_le_maximum zero_le_one)

/-- The coordinate is at its target after the window, and past the timeout if it stands still. -/
theorem position_eq_target_iff :
    m.position elapsed = m.target ↔
      elapsed ≤ m.timeout ∧ (m.start = m.target ∨ m.window ≤ elapsed) ∨
        m.timeout < elapsed ∧ (m.velocity = 0 ∨ m.limit = 0) := by
  rcases le_or_gt elapsed m.timeout with h | h
  · rw [position, if_pos h, lerp_eq_stop_iff, m.alpha_eq_one_iff]
    simp [h, not_lt.mpr h]
  · have hpos : 0 < elapsed - m.timeout := sub_pos.mpr h
    have hstill : min (elapsed - m.timeout) m.limit = 0 ↔ m.limit = 0 := by
      rw [min_eq_iff]
      constructor
      · rintro (⟨hzero, -⟩ | ⟨hzero, -⟩)
        · exact absurd hzero hpos.ne'
        · exact hzero
      · exact fun hzero => .inr ⟨hzero, hzero ▸ hpos.le⟩
    rw [m.position_beyond h, add_eq_left, mul_eq_zero, hstill]
    simp [h, not_le.mpr h]

/-! ## A window that is over at the timeout -/

variable {m} (hwindow : m.window ≤ m.timeout) (hlimit : 0 ≤ m.limit)
include hwindow

theorem position_timeout : m.position m.timeout = m.target :=
  m.position_eq_target_iff.mpr (.inl ⟨le_rfl, .inr hwindow⟩)

include hlimit

theorem position_stopped (h : m.timeout + m.limit ≤ elapsed) :
    m.position elapsed = m.target + m.velocity * m.limit := by
  rcases ((le_add_of_nonneg_right hlimit).trans h).eq_or_lt with heq | hlt
  · have hnone : m.limit = 0 := le_antisymm (by linarith) hlimit
    rw [← heq, position_timeout hwindow, hnone, mul_zero, add_zero]
  · rw [m.position_beyond hlt, min_eq_right (le_sub_iff_add_le'.mpr h)]

/-- Both regimes in one formula. -/
theorem position_eq (elapsed : K) :
    m.position elapsed = lerp m.start m.target (clamp (elapsed / m.window) 0 1) +
      m.velocity * clamp (elapsed - m.timeout) 0 m.limit := by
  rcases le_or_gt elapsed m.timeout with h | h
  · rw [position, if_pos h, clamp_of_le (sub_nonpos.mpr h), mul_zero, add_zero]
  · rw [m.position_beyond h, m.alpha_eq_one_iff.mpr (hwindow.trans h.le), lerp_one, clamp,
      max_eq_right (le_min hlimit (sub_nonneg.mpr h.le)), min_comm]

theorem continuous_position [TopologicalSpace K] [IsTopologicalRing K] [OrderClosedTopology K] :
    Continuous m.position := by
  rw [funext (position_eq hwindow hlimit)]
  simp only [lerp, clamp]
  fun_prop

end Motion

end Library
