import DistributedSmb.Library.Fallible
import DistributedSmb.Library.Dict

/-!
# Sweeps

A sweep visits the elements of a list in order, threading a state, replacing each element in place
and collecting what the steps emit. Its laws: a sweep whose steps succeed succeeds, a per-element
relation holds along the list, and when every step's effect on its element is the replay of what it
emits, the effect of the whole sweep is the replay of everything emitted.
-/

namespace Library

variable {ε κ σ α ω : Type}

def sweep (f : σ → α → Except ε (σ × α × List ω)) : σ → List α → Except ε (σ × List α × List ω)
  | s, [] => .ok (s, [], [])
  | s, a :: l => do
    let (s, a, out) ← f s a
    let (s, l, rest) ← sweep f s l
    .ok (s, a :: l, out ++ rest)

/-- Apply the updates that a list of outputs stands for to one element. -/
def replay (update : ω → α → α) (out : List ω) (a : α) : α := out.foldl (fun a o => update o a) a

@[simp] theorem replay_nil (update : ω → α → α) : replay update [] = id := rfl

theorem replay_append (update : ω → α → α) (out rest : List ω) (a : α) :
    replay update (out ++ rest) a = replay update rest (replay update out a) :=
  List.foldl_append

theorem replay_eq_self {update : ω → α → α} {out : List ω} {a : α}
    (h : ∀ o ∈ out, update o a = a) : replay update out a = a := by
  induction out with
  | nil => rfl
  | cons o out ih =>
    rw [replay, List.foldl_cons, h o List.mem_cons_self]
    exact ih fun o' ho' => h o' (List.mem_cons_of_mem _ ho')

/-- Updates that keep a projection of the element keep it along a replay. -/
theorem replay_keeps {β : Type} (update : ω → α → α) {p : α → β}
    (h : ∀ o a, p (update o a) = p a) (out : List ω) (a : α) :
    p (replay update out a) = p a := by
  induction out generalizing a with
  | nil => rfl
  | cons o out ih => rw [replay, List.foldl_cons, ← replay, ih, h]

/-- What the values of a dictionary emit, each under its own key: a binding hears only itself. -/
theorem replay_filterMap_own {update : ω → κ → α → α} {emit : α → Option ω} {d : Dict κ α}
    (own : ∀ e ∈ d.entries, ∀ o, emit e.2 = some o → ∀ k a, k ≠ e.1 → update o k a = a)
    {e : κ × α} (he : e ∈ d.entries) :
    replay (update · e.1) (d.values.filterMap emit) e.2 =
      replay (update · e.1) (emit e.2).toList e.2 := by
  obtain ⟨before, after, hsplit⟩ := List.append_of_mem he
  have nodup := d.nodup
  rw [hsplit, List.map_append, List.map_cons] at nodup
  obtain ⟨-, htail, hdisjoint⟩ := List.nodup_append.mp nodup
  have quiet {l : List (κ × α)} (hl : ∀ b ∈ l, b ∈ d.entries ∧ e.1 ≠ b.1) (a : α) :
      replay (update · e.1) ((l.map Prod.snd).filterMap emit) a = a := by
    refine replay_eq_self fun o ho => ?_
    obtain ⟨value, hvalue, ho⟩ := List.mem_filterMap.mp ho
    obtain ⟨b, hb, rfl⟩ := List.mem_map.mp hvalue
    exact own b (hl b hb).1 o ho e.1 a (hl b hb).2
  have hvalues : d.values = before.map Prod.snd ++ e.2 :: after.map Prod.snd := by
    rw [Dict.values, hsplit, List.map_append, List.map_cons]
  rw [hvalues, List.filterMap_append, replay_append, quiet, List.filterMap_cons]
  · cases hemit : emit e.2 with
    | none => exact quiet (fun b hb => ⟨by simp [hsplit, hb], fun heq =>
        (List.nodup_cons.mp htail).1 (heq ▸ List.mem_map_of_mem hb)⟩) _
    | some o =>
      exact quiet (fun b hb => ⟨by simp [hsplit, hb], fun heq =>
        (List.nodup_cons.mp htail).1 (heq ▸ List.mem_map_of_mem hb)⟩) _
  · intro b hb
    refine ⟨by simp [hsplit, hb], fun heq => ?_⟩
    exact hdisjoint b.1 (List.mem_map_of_mem hb) e.1 List.mem_cons_self heq.symm

namespace Sweep

variable {f : σ → α → Except ε (σ × α × List ω)}

theorem cons_eq_ok {s t : σ} {a : α} {l l' : List α} {out : List ω}
    (h : sweep f s (a :: l) = .ok (t, l', out)) :
    ∃ s' a' out₁ l'' out₂, f s a = .ok (s', a', out₁) ∧ sweep f s' l = .ok (t, l'', out₂) ∧
      l' = a' :: l'' ∧ out = out₁ ++ out₂ := by
  rw [sweep] at h
  obtain ⟨⟨s', a', out₁⟩, hf, h⟩ := Fallible.bind_eq_ok.mp h
  obtain ⟨⟨t', l'', out₂⟩, hl, h⟩ := Fallible.bind_eq_ok.mp h
  obtain ⟨rfl, rfl, rfl⟩ : t' = t ∧ a' :: l'' = l' ∧ out₁ ++ out₂ = out := by simpa using h
  exact ⟨s', a', out₁, l'', out₂, hf, hl, rfl, rfl⟩

/-- A sweep succeeds when its step does, in every state that satisfies an invariant. -/
theorem succeeds {P : σ → Prop} {l : List α}
    (step : ∀ s a, a ∈ l → P s → ∃ r, f s a = .ok r ∧ P r.1) {s : σ} (hs : P s) :
    ∃ r, sweep f s l = .ok r ∧ P r.1 := by
  induction l generalizing s with
  | nil => exact ⟨(s, [], []), rfl, hs⟩
  | cons a l ih =>
    obtain ⟨⟨s', a', out₁⟩, hf, hs'⟩ := step s a List.mem_cons_self hs
    obtain ⟨⟨t, l', out₂⟩, hl, ht⟩ :=
      ih (fun s a ha => step s a (List.mem_cons_of_mem _ ha)) hs'
    exact ⟨(t, a' :: l', out₁ ++ out₂), by simp [sweep, hf, hl], ht⟩

/-- What every step keeps of the threaded state, the sweep keeps. -/
theorem keeps {P : σ → Prop} {l l' : List α} {s t : σ} {out : List ω}
    (step : ∀ s a s' a' out, a ∈ l → P s → f s a = .ok (s', a', out) → P s')
    (h : sweep f s l = .ok (t, l', out)) (hs : P s) : P t := by
  induction l generalizing s l' out with
  | nil => cases h; exact hs
  | cons a l ih =>
    obtain ⟨s', a', out₁, l'', out₂, hf, hl, -, -⟩ := cons_eq_ok h
    have hs' : P s' := step s a s' a' out₁ List.mem_cons_self hs hf
    exact ih (fun s b t b' out hb => step s b t b' out (List.mem_cons_of_mem _ hb)) hl hs'

/-- The threaded state and the outputs together: every relation that composes as outputs append. -/
theorem state_rel {Q : σ → List ω → σ → Prop} (nil : ∀ s, Q s [] s)
    (append : ∀ {s u t out rest}, Q s out u → Q u rest t → Q s (out ++ rest) t)
    {l l' : List α} {s t : σ} {out : List ω}
    (step : ∀ s a s' a' out, a ∈ l → f s a = .ok (s', a', out) → Q s out s')
    (h : sweep f s l = .ok (t, l', out)) : Q s out t := by
  induction l generalizing s l' out with
  | nil => cases h; exact nil _
  | cons a l ih =>
    obtain ⟨s', a', out₁, l'', out₂, hf, hl, -, rfl⟩ := cons_eq_ok h
    refine append (step _ _ _ _ _ List.mem_cons_self hf) ?_
    exact ih (fun s b t b' out hb => step s b t b' out (List.mem_cons_of_mem _ hb)) hl

/-- A relation between an element and its replacement holds along the whole list. -/
theorem forall₂ {R : α → α → Prop} {l l' : List α} {s t : σ} {out : List ω}
    (step : ∀ s a s' a' out, f s a = .ok (s', a', out) → R a a')
    (h : sweep f s l = .ok (t, l', out)) : List.Forall₂ R l l' := by
  induction l generalizing s l' out with
  | nil => cases h; exact .nil
  | cons a l ih =>
    obtain ⟨s', a', out₁, l'', out₂, hf, hl, rfl, -⟩ := cons_eq_ok h
    exact .cons (step _ _ _ _ _ hf) (ih hl)

/-- Where a step that emits nothing does nothing, a sweep that emits nothing does nothing. -/
theorem idle {l l' : List α} {s t : σ}
    (step : ∀ s a s' a', a ∈ l → f s a = .ok (s', a', []) → s' = s ∧ a' = a)
    (h : sweep f s l = .ok (t, l', [])) : t = s ∧ l' = l := by
  induction l generalizing s l' with
  | nil => cases h; exact ⟨rfl, rfl⟩
  | cons a l ih =>
    obtain ⟨s', a', out₁, l'', out₂, hf, hl, rfl, hout⟩ := cons_eq_ok h
    obtain ⟨rfl, rfl⟩ := List.append_eq_nil_iff.mp hout.symm
    obtain ⟨rfl, rfl⟩ := step _ _ _ _ List.mem_cons_self hf
    obtain ⟨rfl, rfl⟩ := ih (fun s b s' b' hb => step s b s' b' (List.mem_cons_of_mem _ hb)) hl
    exact ⟨rfl, rfl⟩

/-- What no step takes from an element only becomes more frequent. -/
theorem countP_le {p : α → Bool} {l l' : List α} {s t : σ} {out : List ω}
    (step : ∀ s a s' a' out, f s a = .ok (s', a', out) → p a = true → p a' = true)
    (h : sweep f s l = .ok (t, l', out)) : l.countP p ≤ l'.countP p := by
  induction l generalizing s l' out with
  | nil => cases h; exact Nat.le_refl _
  | cons a l ih =>
    obtain ⟨s', a', out₁, l'', out₂, hf, hl, rfl, -⟩ := cons_eq_ok h
    rw [List.countP_cons, List.countP_cons]
    refine Nat.add_le_add (ih hl) ?_
    by_cases ha : p a = true
    · simp [ha, step _ _ _ _ _ hf ha]
    · simp [ha]

/-- Where every output of one kind uses up an element of one kind, the two together are constant. -/
theorem conserves {p : α → Bool} {q : ω → Bool} {l l' : List α} {s t : σ} {out : List ω}
    (step : ∀ s a s' a' out, f s a = .ok (s', a', out) →
      out.countP q + [a'].countP p = [a].countP p)
    (h : sweep f s l = .ok (t, l', out)) : out.countP q + l'.countP p = l.countP p := by
  induction l generalizing s l' out with
  | nil => cases h; rfl
  | cons a l ih =>
    obtain ⟨s', a', out₁, l'', out₂, hf, hl, rfl, rfl⟩ := cons_eq_ok h
    have hhead := step _ _ _ _ _ hf
    have htail := ih hl
    have hcons (b : α) (m : List α) : (b :: m).countP p = [b].countP p + m.countP p := by
      rw [← List.countP_append, List.singleton_append]
    rw [List.countP_append, hcons a l, hcons a' l'']
    omega

/-- Every element is visited once, in a state that satisfies what the steps keep. -/
theorem visits {P : σ → Prop} {l l' : List α} {s t : σ} {out : List ω}
    (step : ∀ s a s' a' out, P s → f s a = .ok (s', a', out) → P s')
    (h : sweep f s l = .ok (t, l', out)) (hs : P s) {a : α} (ha : a ∈ l) :
    ∃ s₁ s₂ a' out, P s₁ ∧ f s₁ a = .ok (s₂, a', out) ∧ a' ∈ l' := by
  induction l generalizing s l' out with
  | nil => exact absurd ha List.not_mem_nil
  | cons b l ih =>
    obtain ⟨s', b', out₁, l'', out₂, hf, hl, rfl, -⟩ := cons_eq_ok h
    rcases List.mem_cons.mp ha with rfl | ha
    · exact ⟨s, s', b', out₁, hs, hf, List.mem_cons_self⟩
    · obtain ⟨s₁, s₂, a', out, hs₁, hvisit, hmem⟩ := ih hl (step _ _ _ _ _ hs hf) ha
      exact ⟨s₁, s₂, a', out, hs₁, hvisit, List.mem_cons_of_mem _ hmem⟩

theorem length_eq {l l' : List α} {s t : σ} {out : List ω}
    (h : sweep f s l = .ok (t, l', out)) : l'.length = l.length :=
  (forall₂ (R := fun _ _ => True) (fun _ _ _ _ _ _ => trivial) h).length_eq.symm

/-- Replaying everything a sweep emits on every element gives what the sweep made of them: with
distinct keys no element hears the updates another one emitted. -/
theorem eq_replay (key : α → κ) (update : ω → α → α) {l l' : List α} {s t : σ} {out : List ω}
    (step : ∀ s a s' a' out, a ∈ l → f s a = .ok (s', a', out) →
      a' = replay update out a ∧ ∀ o ∈ out, ∀ b, key b ≠ key a → update o b = b)
    (keep : ∀ o a, key (update o a) = key a)
    (nodup : (l.map key).Nodup) (h : sweep f s l = .ok (t, l', out)) :
    l' = l.map (replay update out) ∧
      ∀ o ∈ out, ∀ b, key b ∉ l.map key → update o b = b := by
  induction l generalizing s l' out with
  | nil => cases h; exact ⟨rfl, by simp⟩
  | cons a l ih =>
    obtain ⟨s', a', out₁, l'', out₂, hf, hl, rfl, rfl⟩ := cons_eq_ok h
    rw [List.map_cons, List.nodup_cons] at nodup
    obtain ⟨rfl, quiet⟩ := step _ _ _ _ _ List.mem_cons_self hf
    obtain ⟨rfl, hquiet⟩ :=
      ih (fun s b s' b' out hb => step s b s' b' out (List.mem_cons_of_mem _ hb)) nodup.2 hl
    constructor
    · rw [List.map_cons]
      congr 1
      · -- the tail's updates leave the head alone
        rw [replay_append]
        refine (replay_eq_self fun o ho => hquiet o ho _ ?_).symm
        rw [replay_keeps update keep]
        exact nodup.1
      · -- and the head's leave the tail alone
        apply List.map_congr_left
        intro b hb
        rw [replay_append, replay_eq_self fun o ho => quiet o ho b ?_]
        exact fun heq => nodup.1 (heq ▸ List.mem_map_of_mem hb)
    · intro o ho b hb
      rw [List.map_cons, List.mem_cons, not_or] at hb
      rcases List.mem_append.mp ho with ho | ho
      · exact quiet o ho b hb.1
      · exact hquiet o ho b hb.2

end Sweep

namespace Dict

variable {β : Type}

/-- The same keys with new values. -/
def withValues (d : Dict κ α) (values : List β) : Dict κ β where
  entries := d.keys.zip values
  nodup := by
    rw [List.zip_eq_zip_take_min, List.map_fst_zip (by simp)]
    exact d.nodup.sublist (List.take_sublist _ _)

/-- One step of a dictionary's sweep, on a binding. -/
def sweepEntry (f : σ → κ → α → Except ε (σ × α × List ω)) (s : σ) (e : κ × α) :
    Except ε (σ × (κ × α) × List ω) := do
  let (s, a, out) ← f s e.1 e.2
  .ok (s, (e.1, a), out)

/-- A sweep over the values of a dictionary: no step adds or removes a key. -/
def sweep (f : σ → κ → α → Except ε (σ × α × List ω)) (s : σ) (d : Dict κ α) :
    Except ε (σ × Dict κ α × List ω) := do
  let (s, entries, out) ← Library.sweep (sweepEntry f) s d.entries
  .ok (s, d.withValues (entries.map Prod.snd), out)

variable {f : σ → κ → α → Except ε (σ × α × List ω)}

theorem sweepEntry_eq_ok {s t : σ} {e e' : κ × α} {out : List ω}
    (h : sweepEntry f s e = .ok (t, e', out)) : e'.1 = e.1 ∧ f s e.1 e.2 = .ok (t, e'.2, out) := by
  obtain ⟨⟨s', a', out'⟩, hf, h⟩ := Fallible.bind_eq_ok.mp h
  obtain ⟨rfl, rfl, rfl⟩ : s' = t ∧ (e.1, a') = e' ∧ out' = out := by simpa using h
  exact ⟨rfl, hf⟩

theorem map_fst_sweepEntry {l l' : List (κ × α)} {s t : σ} {out : List ω}
    (h : Library.sweep (sweepEntry f) s l = .ok (t, l', out)) :
    l'.map Prod.fst = l.map Prod.fst := by
  have same := Sweep.forall₂ (R := fun e e' => e.1 = e'.1)
    (fun s e t e' out h => (sweepEntry_eq_ok h).1.symm) h
  symm
  simpa [← List.forall₂_eq_eq_eq, List.forall₂_map_left_iff, List.forall₂_map_right_iff] using same

/-- A dictionary's sweep is the sweep of its bindings. -/
theorem sweep_eq_ok {d d' : Dict κ α} {s t : σ} {out : List ω}
    (h : d.sweep f s = .ok (t, d', out)) :
    Library.sweep (sweepEntry f) s d.entries = .ok (t, d'.entries, out) := by
  obtain ⟨⟨t', entries, out'⟩, hsweep, h⟩ := Fallible.bind_eq_ok.mp h
  obtain ⟨rfl, rfl, rfl⟩ :
      t' = t ∧ d.withValues (entries.map Prod.snd) = d' ∧ out' = out := by simpa using h
  have : (d.withValues (entries.map Prod.snd)).entries = entries := by
    change (d.entries.map Prod.fst).zip (entries.map Prod.snd) = entries
    rw [← map_fst_sweepEntry hsweep, List.zip_map']
    simp
  rw [this, hsweep]

theorem keys_sweep {d d' : Dict κ α} {s t : σ} {out : List ω}
    (h : d.sweep f s = .ok (t, d', out)) : d'.keys = d.keys := map_fst_sweepEntry (sweep_eq_ok h)

theorem mem_entries_sweep {R : α → α → Prop} {d d' : Dict κ α} {s t : σ} {out : List ω}
    (step : ∀ s k a s' a' out, f s k a = .ok (s', a', out) → R a a')
    (h : d.sweep f s = .ok (t, d', out)) {e : κ × α} (he : e ∈ d'.entries) :
    ∃ a, (e.1, a) ∈ d.entries ∧ R a e.2 := by
  have same := Sweep.forall₂ (R := fun e e' => e.1 = e'.1 ∧ R e.2 e'.2)
    (fun s e t e' out h => by
      obtain ⟨hkey, hf⟩ := sweepEntry_eq_ok h
      exact ⟨hkey.symm, step _ _ _ _ _ _ hf⟩) (sweep_eq_ok h)
  obtain ⟨i, hi, rfl⟩ := List.mem_iff_getElem.mp he
  have hi' : i < d.entries.length := same.length_eq ▸ hi
  obtain ⟨hkey, hR⟩ := same.get hi' hi
  simp only [List.get_eq_getElem] at hkey hR
  refine ⟨(d.entries[i]).2, ?_, hR⟩
  rw [← hkey]
  exact List.getElem_mem hi'

theorem countP_values_sweep_le {p : α → Bool} {d d' : Dict κ α} {s t : σ} {out : List ω}
    (step : ∀ s k a s' a' out, f s k a = .ok (s', a', out) → p a = true → p a' = true)
    (h : d.sweep f s = .ok (t, d', out)) : d.values.countP p ≤ d'.values.countP p := by
  rw [values, values, List.countP_map, List.countP_map]
  exact Sweep.countP_le (fun s e s' e' out hf => step _ _ _ _ _ _ (sweepEntry_eq_ok hf).2)
    (sweep_eq_ok h)

theorem sweep_conserves {p : α → Bool} {q : ω → Bool} {d d' : Dict κ α} {s t : σ} {out : List ω}
    (step : ∀ s k a s' a' out, f s k a = .ok (s', a', out) →
      out.countP q + [a'].countP p = [a].countP p)
    (h : d.sweep f s = .ok (t, d', out)) :
    out.countP q + d'.values.countP p = d.values.countP p := by
  rw [values, values, List.countP_map, List.countP_map]
  refine Sweep.conserves (fun s e s' e' out hf => ?_) (sweep_eq_ok h)
  simpa using step _ _ _ _ _ _ (sweepEntry_eq_ok hf).2

theorem sweep_visits {P : σ → Prop} {d d' : Dict κ α} {s t : σ} {out : List ω}
    (step : ∀ s k a s' a' out, P s → f s k a = .ok (s', a', out) → P s')
    (h : d.sweep f s = .ok (t, d', out)) (hs : P s) {k : κ} {a : α} (ha : (k, a) ∈ d.entries) :
    ∃ s₁ s₂ a' out, P s₁ ∧ f s₁ k a = .ok (s₂, a', out) ∧ (k, a') ∈ d'.entries := by
  obtain ⟨s₁, s₂, ⟨k', a'⟩, out, hs₁, hf, hmem⟩ := Sweep.visits
    (fun s e s' e' out hs hf => step _ _ _ _ _ _ hs (sweepEntry_eq_ok hf).2) (sweep_eq_ok h) hs ha
  obtain ⟨hkey, hf⟩ := sweepEntry_eq_ok hf
  obtain rfl : k' = k := hkey
  exact ⟨s₁, s₂, a', out, hs₁, hf, hmem⟩

/-- What no step changes of a value, the sweep does not change. -/
theorem get?_sweep [DecidableEq κ] {p : α → β} {d d' : Dict κ α} {s t : σ} {out : List ω}
    (step : ∀ s k a s' a' out, f s k a = .ok (s', a', out) → p a' = p a)
    (h : d.sweep f s = .ok (t, d', out)) (k : κ) : (d'.get? k).map p = (d.get? k).map p := by
  cases hk : d'.get? k with
  | none =>
    rw [get?_eq_none_iff, mem_iff, keys_sweep h, ← mem_iff, ← get?_eq_none_iff] at hk
    rw [hk]
  | some a' =>
    obtain ⟨a, ha, hsame⟩ := mem_entries_sweep (R := fun a a' => p a' = p a) step h
      (get?_eq_some_iff.mp hk)
    rw [get?_eq_some_iff.mpr ha, Option.map_some, Option.map_some, hsame]

theorem sweep_succeeds {P : σ → Prop} {d : Dict κ α}
    (step : ∀ s k a, P s → ∃ r, f s k a = .ok r ∧ P r.1) {s : σ} (hs : P s) :
    ∃ r, d.sweep f s = .ok r ∧ P r.1 := by
  obtain ⟨⟨t, entries, out⟩, h, ht⟩ := Sweep.succeeds (f := sweepEntry f) (l := d.entries)
    (fun s e _ hs => by
      obtain ⟨r, hr, hP⟩ := step s e.1 e.2 hs
      exact ⟨(r.1, (e.1, r.2.1), r.2.2), by simp [sweepEntry, hr], hP⟩) hs
  exact ⟨_, by rw [sweep, h]; rfl, ht⟩

theorem sweep_state_rel {Q : σ → List ω → σ → Prop} (nil : ∀ s, Q s [] s)
    (append : ∀ {s u t out rest}, Q s out u → Q u rest t → Q s (out ++ rest) t)
    {d d' : Dict κ α} {s t : σ} {out : List ω}
    (step : ∀ s k a s' a' out, f s k a = .ok (s', a', out) → Q s out s')
    (h : d.sweep f s = .ok (t, d', out)) : Q s out t :=
  Sweep.state_rel nil append
    (fun s e s' e' out _ hf => step s e.1 e.2 s' e'.2 out (sweepEntry_eq_ok hf).2) (sweep_eq_ok h)

theorem sweep_idle {d d' : Dict κ α} {s t : σ}
    (step : ∀ s k a s' a', f s k a = .ok (s', a', []) → s' = s ∧ a' = a)
    (h : d.sweep f s = .ok (t, d', [])) : t = s ∧ d' = d := by
  obtain ⟨ht, hentries⟩ := Sweep.idle (fun s e s' e' _ hf => by
    obtain ⟨hkey, hf⟩ := sweepEntry_eq_ok hf
    obtain ⟨hs, ha⟩ := step s e.1 e.2 s' e'.2 hf
    exact ⟨hs, Prod.ext hkey ha⟩) (sweep_eq_ok h)
  exact ⟨ht, ext hentries⟩

/-- `Sweep.eq_replay` for a dictionary, whose keys are distinct by construction. -/
theorem sweep_eq_replay {update : ω → κ → α → α} {d d' : Dict κ α} {s t : σ} {out : List ω}
    (step : ∀ s k a s' a' out, (k, a) ∈ d.entries → f s k a = .ok (s', a', out) →
      a' = replay (update · k) out a ∧ ∀ o ∈ out, ∀ k' a', k' ≠ k → update o k' a' = a')
    (h : d.sweep f s = .ok (t, d', out)) :
    d' = d.mapWithKey fun k => replay (update · k) out := by
  let onEntry (o : ω) (e : κ × α) : κ × α := (e.1, update o e.1 e.2)
  have entry_replay (out : List ω) (e : κ × α) :
      replay onEntry out e = (e.1, replay (update · e.1) out e.2) := by
    induction out generalizing e with
    | nil => rfl
    | cons o out ih => exact ih (onEntry o e)
  have := Sweep.eq_replay Prod.fst onEntry (l := d.entries)
    (fun s e s' e' out he hf => by
      obtain ⟨hkey, hf⟩ := sweepEntry_eq_ok hf
      obtain ⟨heq, quiet⟩ := step s e.1 e.2 s' e'.2 out he hf
      refine ⟨?_, fun o ho b hb => Prod.ext rfl (quiet o ho b.1 b.2 hb)⟩
      rw [entry_replay, ← heq]
      exact Prod.ext hkey rfl)
    (fun o e => rfl) d.nodup (sweep_eq_ok h)
  apply ext
  rw [this.1, mapWithKey]
  exact List.map_congr_left fun e _ => entry_replay out e

end Dict

end Library
