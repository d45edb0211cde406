import Mathlib.Data.List.Sort
import Mathlib.Order.Lattice

/-!
# Delay queues

An item is put into the queue with the time at which it is due and a ticket, and the item with the
least of these leaves first, once it is due. Items whose tickets are given out in order, and that
are due in the order in which they were put in, leave in that order.
-/

namespace Library

variable {τ α : Type} [LinearOrder τ]

structure Delayed (τ α : Type) where
  due : τ
  ticket : ℕ
  item : α
  deriving DecidableEq

/-- Due times are compared first, then tickets. -/
def Delayed.Before (e e' : Delayed τ α) : Prop :=
  e.due < e'.due ∨ e.due = e'.due ∧ e.ticket ≤ e'.ticket

instance : DecidableRel (@Delayed.Before τ α _) := fun _ _ =>
  inferInstanceAs (Decidable (_ ∨ _))

/-- A queue, as the list of its entries in the order in which they leave. -/
abbrev DelayQueue (τ α : Type) := List (Delayed τ α)

namespace DelayQueue

def push (e : Delayed τ α) (q : DelayQueue τ α) : DelayQueue τ α := q.orderedInsert Delayed.Before e

/-- What leaves the queue as long as its first entry is due, and what stays. -/
def flush (now : τ) : DelayQueue τ α → List α × DelayQueue τ α
  | [] => ([], [])
  | e :: q =>
    if e.due ≤ now then
      let (out, rest) := flush now q
      (e.item :: out, rest)
    else ([], e :: q)

/-- An entry that is due at the end and has the last ticket goes to the end. -/
theorem push_last {e : Delayed τ α} {q : DelayQueue τ α}
    (last : ∀ e' ∈ q, e'.due ≤ e.due ∧ e'.ticket < e.ticket) : q.push e = q ++ [e] := by
  induction q with
  | nil => rfl
  | cons e' q ih =>
    rw [List.forall_mem_cons] at last
    obtain ⟨⟨hdue, hticket⟩, hrest⟩ := last
    have hafter : ¬ e.Before e' := by
      rintro (hearlier | ⟨-, hsooner⟩)
      · exact absurd hearlier (not_lt.mpr hdue)
      · omega
    have hrest := ih hrest
    unfold push at hrest ⊢
    rw [List.orderedInsert_cons, if_neg hafter, hrest, List.cons_append]

/-- Flushing twice is flushing once, at the later time. -/
theorem flush_flush {now now' : τ} (hnow : now ≤ now') (q : DelayQueue τ α) :
    flush now' q = ((flush now q).1 ++ (flush now' (flush now q).2).1,
      (flush now' (flush now q).2).2) := by
  induction q with
  | nil => rfl
  | cons e q ih =>
    by_cases hdue : e.due ≤ now
    · simp [flush, hdue, hdue.trans hnow, ih]
    · simp [flush, hdue]

/-- An entry that is not due yet stays behind the others. -/
theorem flush_append {now : τ} {e : Delayed τ α} (hlater : ¬ e.due ≤ now) (q : DelayQueue τ α) :
    flush now (q ++ [e]) = ((flush now q).1, (flush now q).2 ++ [e]) := by
  induction q with
  | nil => simp [flush, hlater]
  | cons e' q ih =>
    by_cases hdue : e'.due ≤ now
    · simp [flush, hdue, ih]
    · simp [flush, hdue]

theorem flush_items (now : τ) (q : DelayQueue τ α) :
    (flush now q).1 ++ (flush now q).2.map Delayed.item = q.map Delayed.item := by
  induction q with
  | nil => rfl
  | cons e q ih =>
    by_cases hdue : e.due ≤ now
    · simp [flush, hdue, ih]
    · simp [flush, hdue]

theorem flush_suffix (now : τ) (q : DelayQueue τ α) : (flush now q).2 <:+ q := by
  induction q with
  | nil => exact List.suffix_rfl
  | cons e q ih =>
    by_cases hdue : e.due ≤ now
    · simpa [flush, hdue] using ih.trans (List.suffix_cons e q)
    · simp [flush, hdue]

/-- Where the due times do not decrease, exactly what is due leaves. -/
theorem flush_sorted {q : DelayQueue τ α}
    (sorted : q.Pairwise fun e e' => e.due ≤ e'.due) (now : τ) :
    (flush now q).1 = (q.filter fun e => e.due ≤ now).map Delayed.item := by
  induction q with
  | nil => rfl
  | cons e q ih =>
    rw [List.pairwise_cons] at sorted
    obtain ⟨hle, hrest⟩ := sorted
    by_cases hdue : e.due ≤ now
    · simp [flush, hdue, ih hrest]
    · have hnone : ∀ e' ∈ e :: q, ¬ e'.due ≤ now := by
        rintro e' (_ | ⟨_, he'⟩)
        · exact hdue
        · exact fun h => hdue ((hle e' he').trans h)
      rw [List.filter_eq_nil_iff.mpr (by simpa using hnone)]
      simp [flush, hdue]

end DelayQueue

end Library
