import Mathlib.Order.Lattice
import Mathlib.Data.List.Basic

/-!
# The freshest of a history

A place that keeps, of everything that arrives, what has the greatest key, and of equal keys the
latest. It may forget what it holds once that is out of date: whatever arrives later in time to be
accepted is fresher than everything forgotten.
-/

namespace Library

variable {α κ : Type} [LinearOrder κ] {key : α → κ} {l : List α} {a b : α}

/-- `a` has the greatest key, and is the last that has. -/
def IsFreshest (key : α → κ) (l : List α) (a : α) : Prop :=
  ∃ before after, l = before ++ a :: after ∧ (∀ b ∈ before, key b ≤ key a) ∧
    ∀ b ∈ after, key b < key a

namespace IsFreshest

theorem mem (h : IsFreshest key l a) : a ∈ l := by
  obtain ⟨before, after, rfl, -, -⟩ := h
  simp

theorem le (h : IsFreshest key l a) (hb : b ∈ l) : key b ≤ key a := by
  obtain ⟨before, after, rfl, hbefore, hafter⟩ := h
  rcases List.mem_append.mp hb with hb | hb
  · exact hbefore b hb
  · rcases List.mem_cons.mp hb with rfl | hb
    · exact le_rfl
    · exact (hafter b hb).le

theorem append (h : IsFreshest key l a) (hlt : key b < key a) : IsFreshest key (l ++ [b]) a := by
  obtain ⟨before, after, rfl, hbefore, hafter⟩ := h
  refine ⟨before, after ++ [b], by simp, hbefore, fun c hc => ?_⟩
  rcases List.mem_append.mp hc with hc | hc
  · exact hafter c hc
  · rw [List.mem_singleton.mp hc]
    exact hlt

theorem last (h : ∀ b ∈ l, key b ≤ key a) : IsFreshest key (l ++ [a]) a :=
  ⟨l, [], rfl, h, fun _ hb => nomatch hb⟩

end IsFreshest

/-- Something that arrives replaces what is held, unless that is fresher. -/
def fresher (key : α → κ) (held : Option α) (a : α) : Option α :=
  if ∀ b ∈ held, key b ≤ key a then some a else held

/-- What is held is the freshest of the history; what is not held any more is out of date. -/
def HoldsFreshest (key : α → κ) (outdated : κ → Prop) (l : List α) : Option α → Prop
  | some a => IsFreshest key l a
  | none => ∀ b ∈ l, outdated (key b)

namespace HoldsFreshest

variable {outdated : κ → Prop} {held : Option α}

theorem nil : HoldsFreshest key outdated [] none := fun _ hb => nomatch hb

/-- Only what is fresher than everything out of date arrives. -/
theorem arrive (h : HoldsFreshest key outdated l held)
    (current : ∀ k, outdated k → k ≤ key a) :
    HoldsFreshest key outdated (l ++ [a]) (fresher key held a) := by
  cases held with
  | none =>
    rw [fresher, if_pos (fun _ hb => nomatch hb)]
    exact .last fun b hb => current _ (h b hb)
  | some b =>
    have h : IsFreshest key l b := h
    by_cases hle : key b ≤ key a
    · rw [fresher, if_pos (by rintro _ ⟨⟩; exact hle)]
      exact .last fun c hc => (h.le hc).trans hle
    · rw [fresher, if_neg (fun hall => hle (hall b rfl))]
      exact h.append (not_le.mp hle)

theorem forget (h : HoldsFreshest key outdated l held)
    (down : ∀ k k', k ≤ k' → outdated k' → outdated k) (old : ∀ a ∈ held, outdated (key a)) :
    HoldsFreshest key outdated l none := by
  cases held with
  | none => exact h
  | some a => exact fun b hb => down _ _ (IsFreshest.le h hb) (old a rfl)

theorem mono {outdated' : κ → Prop} (h : HoldsFreshest key outdated l held)
    (weaker : ∀ k, outdated k → outdated' k) : HoldsFreshest key outdated' l held := by
  cases held with
  | none => exact fun b hb => weaker _ (h b hb)
  | some a => exact h

end HoldsFreshest

end Library
