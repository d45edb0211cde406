import Mathlib.Algebra.Order.Field.Basic
import Mathlib.Order.Interval.Set.Basic
import Mathlib.Order.Lattice.Nat
import Mathlib.Tactic.Common

/-!
# Clipping a line

The parameters at which a line is between two bounds form a slab. An interval is clipped by one slab
after the other; what is left is an interval again, or nothing.
-/

namespace Library

/-! ## Spans -/

/-- A closed interval that is not empty, or nothing for the empty set. -/
def Spans {α : Type} [PartialOrder α] : Option (α × α) → Set α → Prop
  | none, S => S = ∅
  | some i, S => i.1 ≤ i.2 ∧ Set.Icc i.1 i.2 = S

namespace Spans

variable {α : Type} [PartialOrder α] {x : Option (α × α)} {S T : Set α}

theorem eq_none_iff (h : Spans x S) : x = none ↔ S = ∅ := by
  cases x with
  | none => exact iff_of_true rfl h
  | some i => simpa using h.2 ▸ (Set.nonempty_Icc.mpr h.1).ne_empty

/-- The only interval that a set can be. -/
theorem eq_some_iff {a b : α} (h : Spans x S) :
    x = some (a, b) ↔ a ≤ b ∧ Set.Icc a b = S := by
  cases x with
  | none =>
    refine iff_of_false (fun hsome => nomatch hsome) fun hab => ?_
    have hempty : S = ∅ := h
    exact (Set.nonempty_Icc.mpr hab.1).ne_empty (hab.2.trans hempty)
  | some i =>
    constructor
    · rintro ⟨rfl⟩
      exact h
    · rintro ⟨hab, rfl⟩
      obtain ⟨ha, hb⟩ := (Set.Icc_eq_Icc_iff h.1).mp h.2
      rw [← ha, ← hb]

/-- One more cut of what is left. -/
theorem bind {f : α × α → Option (α × α)} (h : Spans x S)
    (cut : ∀ i, Spans (some i) S → Spans (f i) (S ∩ T)) : Spans (x >>= f) (S ∩ T) := by
  cases x with
  | none =>
    have hempty : S = ∅ := h
    change S ∩ T = ∅
    rw [hempty, Set.empty_inter]
  | some i => exact cut i h

end Spans

/-! ## Slabs -/

section
variable {K : Type} [Field K] [LinearOrder K]

/-- The parameters at which the line from `origin` with this slope is between the bounds. -/
def slab (origin delta minimum maximum : K) : Set K :=
  {t | minimum ≤ origin + t * delta ∧ origin + t * delta ≤ maximum}

variable {origin delta minimum maximum : K} {S : Set K} {i : K × K}

theorem slab_of_inside (inside : minimum ≤ origin ∧ origin ≤ maximum) :
    slab origin 0 minimum maximum = Set.univ := by
  ext t
  simpa [slab] using inside

theorem slab_of_outside (outside : origin < minimum ∨ origin > maximum) :
    slab origin 0 minimum maximum = ∅ := by
  ext t
  simpa [slab] using fun h : minimum ≤ origin => outside.resolve_left (not_lt.mpr h)

/-- A line along the slab is in it everywhere or nowhere. -/
theorem Spans.clip_flat (h : Spans (some i) S) :
    Spans (if origin < minimum ∨ origin > maximum then none else some i)
      (S ∩ slab origin 0 minimum maximum) := by
  split
  case isTrue outside =>
    rw [slab_of_outside outside, Set.inter_empty]
    exact rfl
  case isFalse inside =>
    rw [not_or, not_lt, not_lt] at inside
    rw [slab_of_inside inside, Set.inter_univ]
    exact h

variable [IsStrictOrderedRing K]

/-- The ends of a slab, in the order in which the line meets them. -/
theorem slab_eq_Icc (slope : delta ≠ 0) (ordered : minimum ≤ maximum) :
    slab origin delta minimum maximum =
      Set.Icc (min ((minimum - origin) / delta) ((maximum - origin) / delta))
        (max ((minimum - origin) / delta) ((maximum - origin) / delta)) := by
  have hshift : minimum - origin ≤ maximum - origin := sub_le_sub_right ordered origin
  ext t
  rcases lt_or_gt_of_ne slope with hneg | hpos
  · have hends := (div_le_div_right_of_neg hneg).mpr hshift
    rw [min_eq_right hends, max_eq_left hends, Set.mem_Icc, div_le_iff_of_neg hneg,
      le_div_iff_of_neg hneg, sub_le_iff_le_add', le_sub_iff_add_le', slab]
    exact and_comm
  · have hends := (div_le_div_iff_of_pos_right hpos).mpr hshift
    rw [min_eq_left hends, max_eq_right hends, Set.mem_Icc, div_le_iff₀ hpos, le_div_iff₀ hpos,
      sub_le_iff_le_add', le_sub_iff_add_le', slab]
    rfl

theorem Spans.clip_sloped (slope : delta ≠ 0) (ordered : minimum ≤ maximum)
    (h : Spans (some i) S) {entry exit : K}
    (hentry : entry = max i.1 (min ((minimum - origin) / delta) ((maximum - origin) / delta)))
    (hexit : exit = min i.2 (max ((minimum - origin) / delta) ((maximum - origin) / delta))) :
    Spans (if entry > exit then none else some (entry, exit))
      (S ∩ slab origin delta minimum maximum) := by
  have hleft : S ∩ slab origin delta minimum maximum = Set.Icc entry exit := by
    rw [← h.2, slab_eq_Icc slope ordered, Set.Icc_inter_Icc, hentry, hexit]
  rw [hleft]
  split
  case isTrue hempty => exact Set.Icc_eq_empty (not_le.mpr hempty)
  case isFalse hmeet => exact ⟨not_lt.mp hmeet, rfl⟩

end

end Library
