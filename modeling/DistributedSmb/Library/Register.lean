import Mathlib.Order.Lattice
import Mathlib.Data.List.Basic

/-!
# Registers

A register has a value with a stamp, and takes a write only if its stamp is newer. After any number
of writes it has the newest of them, or what it had before if none is newer. So the order in which
writes arrive does not matter, nor how often each one does, as long as no two different writes have
the same stamp.
-/

namespace Library

variable {τ α : Type} [LinearOrder τ]

namespace Register

def write (r w : τ × α) : τ × α := if r.1 < w.1 then w else r

/-- No two writes have the same stamp. -/
def Distinct (ws : List (τ × α)) : Prop := ∀ v ∈ ws, ∀ w ∈ ws, v.1 = w.1 → v = w

/-- The newest write, or the value before if that is at least as new. -/
def Newest (r : τ × α) (ws : List (τ × α)) (s : τ × α) : Prop :=
  (s ∈ ws ∧ r.1 < s.1 ∨ s = r) ∧ r.1 ≤ s.1 ∧ ∀ w ∈ ws, w.1 ≤ s.1

theorem le_write (r w : τ × α) : r.1 ≤ (write r w).1 ∧ w.1 ≤ (write r w).1 := by
  unfold write
  split
  case isTrue newer => exact ⟨newer.le, le_rfl⟩
  case isFalse older => exact ⟨le_rfl, not_lt.mp older⟩

theorem foldl_write_newest (ws : List (τ × α)) (r : τ × α) : Newest r ws (ws.foldl write r) := by
  induction ws generalizing r with
  | nil => exact ⟨.inr rfl, le_rfl, nofun⟩
  | cons w ws ih =>
    obtain ⟨hsource, hle, hall⟩ := ih (write r w)
    obtain ⟨hr, hw⟩ := le_write r w
    refine ⟨?_, hr.trans hle, List.forall_mem_cons.mpr ⟨hw.trans hle, hall⟩⟩
    rcases hsource with ⟨hmem, hnewer⟩ | hkept
    · exact .inl ⟨List.mem_cons_of_mem _ hmem, hr.trans_lt hnewer⟩
    · rw [List.foldl_cons, hkept, write]
      split
      case isTrue newer => exact .inl ⟨List.mem_cons_self, newer⟩
      case isFalse older => exact .inr rfl

/-- There is only one newest write. -/
theorem Newest.unique {r s t : τ × α} {ws : List (τ × α)} (distinct : Distinct ws)
    (hs : Newest r ws s) (ht : Newest r ws t) : s = t := by
  obtain ⟨hsource, hle, hall⟩ := hs
  obtain ⟨hsource', hle', hall'⟩ := ht
  rcases hsource with ⟨hmem, hnewer⟩ | rfl <;> rcases hsource' with ⟨hmem', hnewer'⟩ | rfl
  · exact distinct s hmem t hmem' (le_antisymm (hall' s hmem) (hall t hmem'))
  · exact absurd (hnewer.trans_le (hall' s hmem)) (lt_irrefl _)
  · exact absurd (hnewer'.trans_le (hall t hmem')) (lt_irrefl _)
  · rfl

theorem Newest.of_same {r s : τ × α} {ws vs : List (τ × α)} (h : Newest r ws s)
    (same : ∀ w, w ∈ ws ↔ w ∈ vs) : Newest r vs s :=
  ⟨h.1.imp_left fun hs => ⟨(same s).mp hs.1, hs.2⟩, h.2.1, fun w hw => h.2.2 w ((same w).mpr hw)⟩

end Register

end Library
