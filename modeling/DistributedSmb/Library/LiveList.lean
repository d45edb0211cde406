import DistributedSmb.Library.Fallible
import Mathlib.Data.List.Nodup
import Mathlib.Order.Basic

/-!
# Walking a list that changes

A loop over a list looks up one index after the other, while elements are appended to the list and
taken out of it. An element that stays is never visited twice, and it is visited unless the loop
slips over it: an element before the index goes while this one is next.
-/

namespace Library

variable {α : Type}

/-- Where an element is after another one has been taken out. -/
theorem getElem?_erase_of_ne [DecidableEq α] {l : List α} {i : ℕ} {a b : α} (h : l[i]? = some a)
    (hne : b ≠ a) : (l.erase b)[if b ∈ l.take i then i - 1 else i]? = some a := by
  obtain ⟨hi, ha⟩ := List.getElem?_eq_some_iff.mp h
  have hsplit : l = l.take i ++ a :: l.drop (i + 1) := by
    rw [← ha, ← List.drop_eq_getElem_cons hi, List.take_append_drop]
  have hlength : (l.take i).length = i := List.length_take_of_le (Nat.le_of_lt hi)
  by_cases hb : b ∈ l.take i
  · rw [if_pos hb, hsplit, List.erase_append_left _ hb, List.getElem?_append_right]
    · simp [List.length_erase_of_mem hb, hlength]
    · simp [List.length_erase_of_mem hb, hlength]
  · rw [if_neg hb, hsplit, List.erase_append_right _ hb,
      List.erase_cons_tail (by simpa using hne.symm), List.getElem?_append_right (by omega)]
    simp [hlength]

/-- A loop over a list: the index it looks up next, and what it has visited. -/
structure Walk (α : Type) where
  list : List α
  position : ℕ := 0
  visited : List α := []
  ended : Bool := false

inductive WalkStep (α : Type) where
  | append (a : α)
  | remove (a : α)
  | next

namespace Walk

/-- A loop that has come to the end does not look again. -/
def advance (w : Walk α) : Walk α :=
  if w.ended then w
  else
    match w.list[w.position]? with
    | some a => { w with
        position := w.position + 1
        visited := w.visited ++ [a] }
    | none => { w with ended := true }

def Ahead (a : α) (w : Walk α) : Prop := ∃ i, w.position ≤ i ∧ w.list[i]? = some a

def Behind (a : α) (w : Walk α) : Prop := ∃ i, i < w.position ∧ w.list[i]? = some a

variable {a : α} {w : Walk α}

theorem Behind.not_next (h : w.Behind a) (nodup : w.list.Nodup) :
    w.list[w.position]? ≠ some a := by
  obtain ⟨i, hi, ha⟩ := h
  intro hnext
  have hlt := (List.getElem?_eq_some_iff.mp ha).1
  have hsame : i = w.position := (List.getElem?_inj hlt nodup).mp (ha.trans hnext.symm)
  omega

variable [DecidableEq α]

def step (w : Walk α) : WalkStep α → Walk α
  | .append a => { w with list := w.list ++ [a] }
  | .remove a => { w with list := w.list.erase a }
  | .next => w.advance

/-- An element that the loop has passed goes while `a` is next. -/
def SlipsOver (a : α) (w : Walk α) : WalkStep α → Prop
  | .remove b => b ∈ w.list.take w.position ∧ w.list[w.position]? = some a
  | _ => False

/-- `a` stays in the list, and nothing gets into it twice. -/
def Retains (a : α) (w : Walk α) : WalkStep α → Prop
  | .append b => b ∉ w.list
  | .remove b => b ≠ a
  | .next => True

theorem step_nodup {x : WalkStep α} (nodup : w.list.Nodup) (retains : w.Retains a x) :
    (w.step x).list.Nodup := by
  cases x with
  | append b =>
    exact List.nodup_append.mpr ⟨nodup, List.nodup_singleton b, fun c hc d hd heq =>
      retains (List.mem_singleton.mp hd ▸ heq ▸ hc)⟩
  | remove b => exact nodup.erase b
  | next =>
    simp only [step, advance]
    split
    · exact nodup
    · split <;> exact nodup

/-- What is behind stays behind, and is not visited again. -/
theorem Behind.step {x : WalkStep α} (h : w.Behind a) (nodup : w.list.Nodup)
    (retains : w.Retains a x) :
    (w.step x).Behind a ∧ (w.step x).visited.count a = w.visited.count a ∧ ¬ w.SlipsOver a x := by
  have hnext := h.not_next nodup
  obtain ⟨i, hi, ha⟩ := h
  cases x with
  | append b =>
    have hlt := (List.getElem?_eq_some_iff.mp ha).1
    exact ⟨⟨i, hi, by rw [← ha]; exact List.getElem?_append_left hlt⟩, rfl, id⟩
  | remove b =>
    refine ⟨⟨_, ?_, getElem?_erase_of_ne ha retains⟩, rfl, fun hslips => hnext hslips.2⟩
    change (if b ∈ w.list.take i then i - 1 else i) < w.position
    split <;> omega
  | next =>
    simp only [Walk.step, advance]
    split
    · exact ⟨⟨i, hi, ha⟩, rfl, id⟩
    · split
      case h_1 c hc =>
        have hne : c ≠ a := fun heq => hnext (heq ▸ hc)
        exact ⟨⟨i, by simp only; omega, ha⟩, by simp [hne], id⟩
      case h_2 => exact ⟨⟨i, hi, ha⟩, rfl, id⟩

/-- What is ahead stays ahead, or is visited, unless the loop slips over it. -/
theorem Ahead.step {x : WalkStep α} (h : w.Ahead a) (nodup : w.list.Nodup)
    (running : w.ended = false) (retains : w.Retains a x) :
    (w.step x).ended = false ∧
      ((w.SlipsOver a x ∧ (w.step x).Behind a ∧ (w.step x).visited = w.visited) ∨
      (¬ w.SlipsOver a x ∧ (w.step x).Ahead a ∧
        (w.step x).visited.count a = w.visited.count a) ∨
      (¬ w.SlipsOver a x ∧ (w.step x).Behind a ∧
        (w.step x).visited.count a = w.visited.count a + 1)) := by
  obtain ⟨i, hi, ha⟩ := h
  have hlt := (List.getElem?_eq_some_iff.mp ha).1
  have unique {j : ℕ} (hj : w.list[j]? = some a) : i = j :=
    (List.getElem?_inj hlt nodup).mp (ha.trans hj.symm)
  cases x with
  | append b =>
    have hstays : (w.list ++ [b])[i]? = some a := (List.getElem?_append_left hlt).trans ha
    exact ⟨running, .inr (.inl ⟨id, ⟨i, hi, hstays⟩, rfl⟩)⟩
  | remove b =>
    refine ⟨running, ?_⟩
    have hmoved := getElem?_erase_of_ne ha retains
    by_cases hpassed : b ∈ w.list.take i
    · rw [if_pos hpassed] at hmoved
      have hpos : 0 < i := by
        rcases Nat.eq_zero_or_pos i with rfl | hpos
        · simp at hpassed
        · exact hpos
      rcases Nat.eq_or_lt_of_le hi with hnext | hbefore
      · -- an element before the index goes, and `a` comes to stand there
        refine .inl ⟨⟨hnext ▸ hpassed, hnext ▸ ha⟩, ⟨i - 1, ?_, hmoved⟩, rfl⟩
        change i - 1 < w.position
        omega
      · refine .inr (.inl ⟨fun hslips => ?_, ⟨i - 1, ?_, hmoved⟩, rfl⟩)
        · have hsame := unique hslips.2
          omega
        · change w.position ≤ i - 1
          omega
    · rw [if_neg hpassed] at hmoved
      refine .inr (.inl ⟨fun hslips => ?_, ⟨i, hi, hmoved⟩, rfl⟩)
      exact hpassed (unique hslips.2 ▸ hslips.1)
  | next =>
    have hrunning : ¬ w.ended = true := by simp [running]
    simp only [Walk.step, advance, if_neg hrunning]
    split
    case h_1 c hc =>
      refine ⟨running, .inr ?_⟩
      by_cases hca : c = a
      · have hsame := unique (hca ▸ hc)
        exact .inr ⟨id, ⟨i, by simp only; omega, ha⟩, by simp [hca]⟩
      · have hne : i ≠ w.position := by
          rintro rfl
          exact hca (Option.some.inj (hc.symm.trans ha))
        exact .inl ⟨id, ⟨i, by simp only; omega, ha⟩, by simp [hca]⟩
    case h_2 hnone =>
      have hbeyond := List.getElem?_eq_none_iff.mp hnone
      omega

/-! ## Runs -/

def run (w : Walk α) (steps : List (WalkStep α)) : Walk α := steps.foldl step w

theorem Behind.run {steps : List (WalkStep α)} (h : w.Behind a) (nodup : w.list.Nodup)
    (retains : Fallible.Meets Walk.step (Retains a) w steps) :
    (w.run steps).visited.count a = w.visited.count a ∧
      Fallible.Meets Walk.step (fun w x => ¬ w.SlipsOver a x) w steps := by
  induction steps generalizing w with
  | nil => exact ⟨rfl, trivial⟩
  | cons x steps ih =>
    obtain ⟨hbehind, hcount, hslips⟩ := h.step nodup retains.1
    obtain ⟨hrest, hmeets⟩ := ih hbehind (step_nodup nodup retains.1) retains.2
    exact ⟨hrest.trans hcount, hslips, hmeets⟩

/-- Once the loop has ended, an element that was still ahead and has stayed has been visited exactly
once, or the loop has slipped over it. -/
theorem visited_once_iff {steps : List (WalkStep α)} (ahead : w.Ahead a) (nodup : w.list.Nodup)
    (running : w.ended = false) (fresh : a ∉ w.visited)
    (retains : Fallible.Meets step (Retains a) w steps) (ended : (w.run steps).ended = true) :
    (w.run steps).visited.count a = 1 ↔
      Fallible.Meets step (fun w x => ¬ w.SlipsOver a x) w steps := by
  have hfresh := List.count_eq_zero_of_not_mem fresh
  induction steps generalizing w with
  | nil => exact absurd (running.symm.trans ended) (by decide)
  | cons x steps ih =>
    have hnodup := step_nodup nodup retains.1
    obtain ⟨hrunning, hslips | hahead | hvisited⟩ := ahead.step nodup running retains.1
    · obtain ⟨hslips, hbehind, hsame⟩ := hslips
      have hmissed : ((w.step x).run steps).visited.count a = 0 := by
        rw [(hbehind.run hnodup retains.2).1, hsame, hfresh]
      change ((w.step x).run steps).visited.count a = 1 ↔ ¬ w.SlipsOver a x ∧ _
      simp [hmissed, hslips]
    · obtain ⟨hslips, hahead, hsame⟩ := hahead
      have hfresh' := hsame.trans hfresh
      have hiff := ih hahead hnodup hrunning (List.count_eq_zero.mp hfresh') retains.2 ended hfresh'
      exact hiff.trans (and_iff_right hslips).symm
    · obtain ⟨hslips, hbehind, hsame⟩ := hvisited
      obtain ⟨hrest, hmeets⟩ := hbehind.run hnodup retains.2
      exact iff_of_true (hrest.trans (by rw [hsame, hfresh])) ⟨hslips, hmeets⟩

end Walk

end Library
