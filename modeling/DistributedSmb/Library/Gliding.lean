import DistributedSmb.Library.Motion
import Mathlib.Algebra.Order.Ring.Abs
import Mathlib.Data.Sign.Basic

/-!
# Gliding

A display trails the position behind it by an offset. When the position jumps, the offset takes the
jump in, and each step takes a part of the offset away: a fraction of it, and no more than a limit.
-/

namespace Library

variable {K : Type} [Field K] [LinearOrder K] {rate limit : K}

def glide (rate limit offset : K) : K := clamp (offset * rate) (-limit) limit

/-- What a step leaves of an offset. -/
def remaining (rate limit offset : K) : K := offset - glide rate limit offset

/-- The display moves with the position and glides, however far the position jumps. -/
theorem displayed_step (position motion jump offset : K) :
    position + motion + jump - remaining rate limit (offset + jump) =
      position - offset + motion + glide rate limit (offset + jump) := by
  rw [remaining]
  ring

variable [IsStrictOrderedRing K]

theorem abs_glide_le (hlimit : 0 ≤ limit) (offset : K) : |glide rate limit offset| ≤ limit :=
  abs_le.mpr ⟨minimum_le_clamp, clamp_le_maximum (neg_le_self hlimit)⟩

/-! ## Without jumps -/

/-- A small offset loses the fraction, a large one the limit. -/
theorem remaining_cases (hlimit : 0 ≤ limit) (offset : K) :
    (|offset * rate| ≤ limit ∧ remaining rate limit offset = offset * (1 - rate)) ∨
      (limit < offset * rate ∧ remaining rate limit offset = offset - limit) ∨
        (offset * rate < -limit ∧ remaining rate limit offset = offset + limit) := by
  rcases le_or_gt (offset * rate) limit with hle | hlarge
  · rcases le_or_gt (-limit) (offset * rate) with hge | hsmall
    · refine .inl ⟨abs_le.mpr ⟨hge, hle⟩, ?_⟩
      rw [remaining, glide, clamp_of_mem hge hle]
      ring
    · refine .inr (.inr ⟨hsmall, ?_⟩)
      rw [remaining, glide, clamp_of_le hsmall.le, sub_neg_eq_add]
  · refine .inr (.inl ⟨hlarge, ?_⟩)
    rw [remaining, glide, clamp_of_ge (neg_le_self hlimit) hlarge.le]

section
variable (hrate : 0 ≤ rate) (hlimit : 0 ≤ limit)
include hrate hlimit

/-- An offset whose fraction exceeds the limit exceeds it itself. -/
theorem lt_of_lt_mul_rate (hle : rate ≤ 1) {offset : K} (h : limit < offset * rate) :
    limit < offset := by
  have hpos : 0 < offset := pos_of_mul_pos_left (hlimit.trans_lt h) hrate
  exact h.trans_le (mul_le_of_le_one_right hpos.le hle)

theorem lt_neg_of_mul_rate_lt (hle : rate ≤ 1) {offset : K} (h : offset * rate < -limit) :
    offset < -limit :=
  lt_neg.mp (lt_of_lt_mul_rate hrate hlimit hle (by rwa [neg_mul, lt_neg]))

/-- An offset shrinks by the fraction or by the limit, whichever takes less away. -/
theorem abs_remaining (hle : rate ≤ 1) (offset : K) :
    |remaining rate limit offset| = max ((1 - rate) * |offset|) (|offset| - limit) := by
  rcases remaining_cases hlimit offset with ⟨hsmall, heq⟩ | ⟨hlarge, heq⟩ | ⟨hlarge, heq⟩
  · have hfraction : |offset| * rate ≤ limit := by rwa [abs_mul, abs_of_nonneg hrate] at hsmall
    rw [heq, abs_mul, abs_of_nonneg (sub_nonneg.mpr hle), mul_comm, max_eq_left]
    linarith
  · have hbeyond := lt_of_lt_mul_rate hrate hlimit hle hlarge
    rw [heq, abs_of_pos (sub_pos.mpr hbeyond), abs_of_pos (hlimit.trans_lt hbeyond), max_eq_right]
    linarith
  · have hbeyond := lt_neg_of_mul_rate_lt hrate hlimit hle hlarge
    rw [heq, abs_of_neg (by linarith), abs_of_neg (by linarith), max_eq_right]
    · ring
    · linarith

/-- A fraction short of the whole never overshoots. -/
theorem sign_remaining (hlt : rate < 1) (offset : K) :
    SignType.sign (remaining rate limit offset) = SignType.sign offset := by
  rcases remaining_cases hlimit offset with ⟨-, heq⟩ | ⟨hlarge, heq⟩ | ⟨hlarge, heq⟩
  · rw [heq, sign_mul, sign_pos (sub_pos.mpr hlt), mul_one]
  · have hbeyond := lt_of_lt_mul_rate hrate hlimit hlt.le hlarge
    rw [heq, sign_pos (sub_pos.mpr hbeyond), sign_pos (hlimit.trans_lt hbeyond)]
  · have hbeyond := lt_neg_of_mul_rate_lt hrate hlimit hlt.le hlarge
    rw [heq, sign_neg (by linarith), sign_neg (by linarith)]

theorem abs_remaining_le (hle : rate ≤ 1) (offset : K) :
    |remaining rate limit offset| ≤ |offset| := by
  rw [abs_remaining hrate hlimit hle]
  refine max_le ?_ (sub_le_self _ hlimit)
  exact mul_le_of_le_one_left (abs_nonneg _) (sub_le_self _ hrate)

/-- An offset that no jump changes keeps its sign and does not grow. -/
theorem offset_settles (hlt : rate < 1) (offset : ℕ → K) {start t : ℕ} (hstart : start ≤ t)
    (quiet : ∀ i, start ≤ i → i < t → offset (i + 1) = remaining rate limit (offset i)) :
    SignType.sign (offset t) = SignType.sign (offset start) ∧ |offset t| ≤ |offset start| := by
  induction t, hstart using Nat.le_induction with
  | base => exact ⟨rfl, le_rfl⟩
  | succ t hstart ih =>
    obtain ⟨hsign, hle⟩ := ih fun i hi hlt => quiet i hi (Nat.lt_succ_of_lt hlt)
    rw [quiet t hstart (Nat.lt_succ_self t)]
    refine ⟨(sign_remaining hrate hlimit hlt _).trans hsign, ?_⟩
    exact (abs_remaining_le hrate hlimit hlt.le _).trans hle

end

end Library
