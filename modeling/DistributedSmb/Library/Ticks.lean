import Mathlib.Data.List.Basic
import Mathlib.Algebra.Order.Group.Int
import Mathlib.Data.List.Pairwise
import Mathlib.Tactic.Common

/-!
# Runs of consecutive integers

`ticksUpTo e n` is the list of the last `n` integers up to `e`, in increasing order: the content of
a bounded history that is pushed at one end and acknowledged at the other.
-/

namespace Library

def ticksUpTo (e : ℤ) : ℕ → List ℤ
  | 0 => []
  | n + 1 => (e - n) :: ticksUpTo e n

@[simp] theorem length_ticksUpTo (e : ℤ) (n : ℕ) : (ticksUpTo e n).length = n := by
  induction n with
  | zero => rfl
  | succ n ih => simp [ticksUpTo, ih]

theorem mem_ticksUpTo {e t : ℤ} {n : ℕ} : t ∈ ticksUpTo e n ↔ e - n < t ∧ t ≤ e := by
  induction n with
  | zero => simp [ticksUpTo]
  | succ n ih =>
    rw [ticksUpTo, List.mem_cons, ih]
    omega

theorem ticksUpTo_pairwise (e : ℤ) (n : ℕ) : (ticksUpTo e n).Pairwise (· < ·) := by
  induction n with
  | zero => exact .nil
  | succ n ih =>
    refine .cons (fun t ht => ?_) ih
    exact (mem_ticksUpTo.mp ht).1

theorem ticksUpTo_append (e : ℤ) (n : ℕ) :
    ticksUpTo e n ++ [e + 1] = ticksUpTo (e + 1) (n + 1) := by
  induction n with
  | zero => simp [ticksUpTo]
  | succ n ih =>
    rw [ticksUpTo, List.cons_append, ih]
    conv_rhs => rw [ticksUpTo]
    congr 1
    push_cast
    omega

theorem drop_ticksUpTo (e : ℤ) (n k : ℕ) : (ticksUpTo e n).drop k = ticksUpTo e (n - k) := by
  induction n generalizing k with
  | zero => simp [ticksUpTo]
  | succ n ih =>
    cases k with
    | zero => simp
    | succ k => simpa [ticksUpTo] using ih k

/-- Dropping what lies at or below `h` keeps the ticks above it. -/
theorem dropWhile_ticksUpTo (e h : ℤ) (n : ℕ) :
    (ticksUpTo e n).dropWhile (· ≤ h) = ticksUpTo e (min n (e - h).toNat) := by
  induction n with
  | zero => simp [ticksUpTo]
  | succ n ih =>
    rw [ticksUpTo, List.dropWhile_cons]
    split
    case isTrue hle =>
      have : e - n ≤ h := by simpa using hle
      rw [ih]
      congr 1
      omega
    case isFalse hlt =>
      have : ¬ e - n ≤ h := by simpa using hlt
      rw [show min (n + 1) (e - h).toNat = n + 1 by omega, ticksUpTo]

/-- What is left of an increasing rest lies above the bound, however the list began. -/
theorem lt_of_mem_dropWhile {l : List ℤ} {s : ℤ}
    (increasing : (l.dropWhile (· ≤ s)).Pairwise (· < ·)) : ∀ t ∈ l.dropWhile (· ≤ s), s < t := by
  induction l with
  | nil => simp
  | cons u l ih =>
    rw [List.dropWhile_cons] at increasing ⊢
    split at increasing
    case isTrue hle =>
      rw [if_pos hle]
      exact ih increasing
    case isFalse hlt =>
      have hu : s < u := by simpa using hlt
      rw [if_neg hlt]
      rw [List.pairwise_cons] at increasing
      intro t ht
      rcases List.mem_cons.mp ht with rfl | ht
      · exact hu
      · exact hu.trans (increasing.1 t ht)

/-- Increasing integers between `s` and `e` are at most as many as fit. -/
theorem add_length_le {l : List ℤ} {s e : ℤ} (increasing : l.Pairwise (· < ·))
    (above : ∀ t ∈ l, s < t) (below : ∀ t ∈ l, t ≤ e) (hse : s ≤ e) : s + l.length ≤ e := by
  induction l generalizing s with
  | nil => simpa using hse
  | cons t l ih =>
    rw [List.pairwise_cons] at increasing
    have ht := above t List.mem_cons_self
    have := ih increasing.2 increasing.1 (fun u hu => below u (List.mem_cons_of_mem _ hu))
      (below t List.mem_cons_self)
    rw [List.length_cons]
    omega

/-- When they are as many as fit, they leave no gap. -/
theorem eq_ticksUpTo {l : List ℤ} {s : ℤ} (increasing : l.Pairwise (· < ·))
    (above : ∀ t ∈ l, s < t) (below : ∀ t ∈ l, t ≤ s + l.length) :
    l = ticksUpTo (s + l.length) l.length := by
  induction l generalizing s with
  | nil => rfl
  | cons t l ih =>
    rw [List.pairwise_cons] at increasing
    have ht := above t List.mem_cons_self
    have room := add_length_le increasing.2 increasing.1
      (fun u hu => below u (List.mem_cons_of_mem _ hu)) (below t List.mem_cons_self)
    rw [List.length_cons] at below room ⊢
    obtain rfl : t = s + 1 := by omega
    have tail := ih increasing.2 increasing.1 (fun u hu => by
      have := below u (List.mem_cons_of_mem _ hu)
      omega)
    rw [ticksUpTo, show s + ((l.length + 1 : ℕ) : ℤ) = s + 1 + l.length by omega, ← tail]
    congr 1
    omega

end Library
