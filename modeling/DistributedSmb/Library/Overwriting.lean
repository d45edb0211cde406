import Mathlib.Data.List.Induction

/-!
# Logs of overwriting events

Of two overwriting events, one hides the other, or their order does not matter. What such an event
does is the same whether or not it was replayed before, so a saved state catches up with its log
from any entry that is old enough: what it has already is replayed once more and changes nothing.
-/

namespace Library

variable {σ ε : Type}

/-- After `d`, nothing is left of an earlier `e` that it hides. -/
structure Overwriting (step : σ → ε → σ) (Hides : ε → ε → Prop) : Prop where
  hides : ∀ d e, Hides d e → ∀ s, step (step s e) d = step s d
  self : ∀ e, Hides e e
  either : ∀ d e, Hides d e ∨ Hides e d ∨ ∀ s, step (step s e) d = step (step s d) e

namespace Overwriting

variable {step : σ → ε → σ} {Hides : ε → ε → Prop}

theorem step_again (h : Overwriting step Hides) (s : σ) (d e : ε) :
    step (step (step s e) d) e = step (step s d) e := by
  rcases h.either d e with hidden | hidesNext | commute
  · rw [h.hides d e hidden]
  · rw [h.hides e d hidesNext, h.hides e d hidesNext, h.hides e e (h.self e)]
  · rw [commute, h.hides e e (h.self e)]

theorem foldl_step_again (h : Overwriting step Hides) (s : σ) (e : ε) (l : List ε) :
    step (l.foldl step (step s e)) e = step (l.foldl step s) e := by
  induction l generalizing s with
  | nil => exact h.hides e e (h.self e) s
  | cons d l ih =>
    calc step (l.foldl step (step (step s e) d)) e
        = step (l.foldl step (step (step (step s e) d) e)) e := (ih _).symm
      _ = step (l.foldl step (step (step s d) e)) e := by rw [h.step_again]
      _ = step (l.foldl step (step s d)) e := ih _

/-- A list that is replayed again later might as well not have been replayed before. -/
theorem foldl_again (h : Overwriting step Hides) (s : σ) (l between : List ε) :
    l.foldl step (between.foldl step (l.foldl step s)) = l.foldl step (between.foldl step s) := by
  induction l using List.reverseRecOn generalizing between with
  | nil => rfl
  | append_singleton l e ih =>
    simp only [List.foldl_append, List.foldl_cons, List.foldl_nil]
    have hlast := h.foldl_step_again (l.foldl step s) e (between ++ l)
    simp only [List.foldl_append] at hlast
    rw [hlast, ih]

/-- A state saved after the first `k` events catches up from any entry up to there. -/
theorem catch_up (h : Overwriting step Hides) (s : σ) (done log : List ε) {k : ℕ}
    (old : done.length ≤ k) :
    log.foldl step (((done ++ log).take k).foldl step s) = (done ++ log).foldl step s := by
  have hsaved : (done ++ log).take k = done ++ log.take (k - done.length) := by
    rw [List.take_append, List.take_of_length_le old]
  have hlog : log = log.take (k - done.length) ++ log.drop (k - done.length) :=
    (List.take_append_drop _ _).symm
  rw [hsaved]
  generalize log.take (k - done.length) = seen at hlog ⊢
  generalize log.drop (k - done.length) = rest at hlog
  subst hlog
  simp only [List.foldl_append]
  exact congrArg (rest.foldl step) (h.foldl_again (done.foldl step s) seen [])

theorem step_of_hidden (h : Overwriting step Hides) (s : σ) {d e : ε} (hidden : Hides d e)
    (l : List ε) : step (l.foldl step (step s e)) d = step (l.foldl step s) d := by
  calc step (l.foldl step (step s e)) d
      = step (l.foldl step (step (step s e) d)) d := (h.foldl_step_again _ d l).symm
    _ = step (l.foldl step (step s d)) d := by rw [h.hides d e hidden]
    _ = step (l.foldl step s) d := h.foldl_step_again s d l

/-- An event that is hidden on the way might as well not have been replayed. -/
theorem foldl_of_hidden (h : Overwriting step Hides) (s : σ) {e : ε} {l : List ε}
    (hidden : ∃ d ∈ l, Hides d e) : l.foldl step (step s e) = l.foldl step s := by
  obtain ⟨d, hd, hhides⟩ := hidden
  obtain ⟨before, after, rfl⟩ := List.append_of_mem hd
  rw [List.foldl_append, List.foldl_append, List.foldl_cons, List.foldl_cons,
    h.step_of_hidden s hhides before]

/-- An event can be replayed last if it commutes with the others. -/
theorem foldl_comm {s : σ} {e : ε} {l : List ε}
    (commute : ∀ d ∈ l, ∀ s, step (step s e) d = step (step s d) e) :
    l.foldl step (step s e) = step (l.foldl step s) e := by
  induction l generalizing s with
  | nil => rfl
  | cons d l ih =>
    obtain ⟨hd, hl⟩ := List.forall_mem_cons.mp commute
    rw [List.foldl_cons, List.foldl_cons, hd s, ih hl]

end Overwriting

end Library
