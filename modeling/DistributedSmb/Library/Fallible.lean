import Mathlib.Tactic.Common

/-!
# Sequencing fallible steps

A step returns a new state or an error. This module has the inversion rules of sequencing and the
induction rules of a loop over a list: what every successful step keeps holds after the loop, and
a loop whose steps all succeed succeeds.
-/

namespace Library

variable {ε α β σ : Type}

namespace Fallible

theorem bind_eq_ok {x : Except ε α} {f : α → Except ε β} {b : β} :
    x >>= f = .ok b ↔ ∃ a, x = .ok a ∧ f a = .ok b := by
  cases x <;> simp [bind, Except.bind]

@[simp] theorem ok_bind (a : α) (f : α → Except ε β) : (Except.ok a >>= f) = f a := rfl

@[simp] theorem error_bind (e : ε) (f : α → Except ε β) : (Except.error e >>= f) = .error e := rfl

@[simp] theorem pure_eq_ok {a b : α} : (pure a : Except ε α) = .ok b ↔ a = b := by
  simp [pure, Except.pure]

theorem mapError_eq_ok {δ : Type} {x : Except δ α} {wrap : δ → ε} {a : α} :
    x.mapError wrap = .ok a ↔ x = .ok a := by
  cases x <;> simp [Except.mapError]

theorem mapM_map {γ : Type} {f : α → Except ε β} {write : γ → α} {g : γ → β}
    (h : ∀ c, f (write c) = .ok (g c)) (l : List γ) :
    (l.map write).mapM f = .ok (l.map g) := by
  induction l with
  | nil => rfl
  | cons c l ih => simp [List.mapM_cons, ih, h, pure, Except.pure]

/-! ## Errors -/

/-- Every error the computation can end with is one of these. -/
def RaisesOnly (C : ε → Prop) (x : Except ε α) : Prop := ∀ e, x = .error e → C e

section
variable {C : ε → Prop}

@[simp] theorem raisesOnly_ok (a : α) : RaisesOnly C (.ok a) := fun _ h => nomatch h

@[simp] theorem raisesOnly_error {e : ε} : RaisesOnly C (.error e : Except ε α) ↔ C e := by
  constructor
  · exact fun h => h e rfl
  · intro h e' he'
    cases he'
    exact h

theorem raisesOnly_bind {x : Except ε α} {f : α → Except ε β} :
    RaisesOnly C (x >>= f) ↔ RaisesOnly C x ∧ ∀ a, x = .ok a → RaisesOnly C (f a) := by
  cases x with
  | ok a => simp
  | error e =>
    change RaisesOnly C (.error e) ↔ _
    simp

/-- One step and the rest, where what the rest can raise does not depend on the step's result. -/
theorem raisesOnly_bind_iff {x : Except ε α} {f : α → Except ε β} {A B Q : Prop}
    (raises : RaisesOnly C x ↔ A) (succeeds : (∃ a, x = .ok a) ↔ B)
    (rest : ∀ a, x = .ok a → (RaisesOnly C (f a) ↔ Q)) :
    RaisesOnly C (x >>= f) ↔ A ∧ (B → Q) := by
  rw [raisesOnly_bind, raises, ← succeeds]
  refine and_congr_right fun _ => ?_
  constructor
  · rintro h ⟨a, ha⟩
    exact (rest a ha).mp (h a ha)
  · intro h a ha
    exact (rest a ha).mpr (h ⟨a, ha⟩)

theorem raisesOnly_foldlM_of {P : σ → Prop} {f : σ → α → Except ε σ}
    (step : ∀ s a, P s → RaisesOnly C (f s a)) (keep : ∀ s a t, P s → f s a = .ok t → P t)
    (l : List α) {s : σ} (hs : P s) : RaisesOnly C (l.foldlM f s) := by
  induction l generalizing s with
  | nil => exact raisesOnly_ok s
  | cons a l ih =>
    rw [List.foldlM_cons, raisesOnly_bind]
    exact ⟨step s a hs, fun t ht => ih (keep s a t hs ht)⟩

theorem raisesOnly_foldlM {f : σ → α → Except ε σ} (step : ∀ s a, RaisesOnly C (f s a)) (l : List α)
    (s : σ) : RaisesOnly C (l.foldlM f s) :=
  raisesOnly_foldlM_of (P := fun _ => True) (fun s a _ => step s a) (fun _ _ _ _ _ => trivial) l
    trivial

theorem raisesOnly_mapError {δ : Type} {x : Except δ α} {wrap : δ → ε} :
    RaisesOnly C (x.mapError wrap) ↔ RaisesOnly (fun e => C (wrap e)) x := by
  cases x <;> simp [Except.mapError]

theorem raisesOnly_map {x : Except ε α} {f : α → β} :
    RaisesOnly C (f <$> x) ↔ RaisesOnly C x := by
  cases x <;> simp [Functor.map, Except.map]

/-- `D` holds of every element up to the first one that is not `p`, and of that one. -/
def UpToFirst (p D : α → Prop) : List α → Prop
  | [] => True
  | a :: l => D a ∧ (p a → UpToFirst p D l)

theorem upToFirst_congr {p q D E : α → Prop} (hp : ∀ a, p a ↔ q a) (hD : ∀ a, D a ↔ E a)
    (l : List α) : UpToFirst p D l ↔ UpToFirst q E l := by
  induction l with
  | nil => rfl
  | cons a l ih => rw [UpToFirst, UpToFirst, hp, hD, ih]

theorem upToFirst_of_forall {p D : α → Prop} (h : ∀ a, D a) (l : List α) : UpToFirst p D l := by
  induction l with
  | nil => trivial
  | cons a l ih => exact ⟨h a, fun _ => ih⟩

/-- Where an element that is not `p` is as good as any other or not allowed at all. -/
theorem upToFirst_or {c : Prop} {p : α → Prop} {l : List α} :
    UpToFirst p (fun a => c ∨ p a) l ↔ c ∨ ∀ a ∈ l, p a := by
  by_cases hc : c
  · simpa [hc] using upToFirst_of_forall (fun _ => trivial) l
  · simp only [hc, false_or]
    induction l with
    | nil => simp [UpToFirst]
    | cons a l ih =>
      rw [UpToFirst, ih, List.forall_mem_cons]
      exact and_congr_right fun ha => forall_prop_of_true ha

theorem exists_ok_map {x : Except ε α} {f : α → β} : (∃ b, f <$> x = .ok b) ↔ ∃ a, x = .ok a := by
  cases x <;> simp [Functor.map, Except.map]

theorem exists_ok_mapM {f : α → Except ε β} {l : List α} :
    (∃ l', l.mapM f = .ok l') ↔ ∀ a ∈ l, ∃ b, f a = .ok b := by
  induction l with
  | nil => simp [pure, Except.pure]
  | cons a l ih =>
    rw [List.forall_mem_cons, ← ih, List.mapM_cons]
    constructor
    · rintro ⟨l', h⟩
      obtain ⟨b, hb, h⟩ := bind_eq_ok.mp h
      obtain ⟨l'', hl, -⟩ := bind_eq_ok.mp h
      exact ⟨⟨b, hb⟩, l'', hl⟩
    · rintro ⟨⟨b, hb⟩, l', hl⟩
      exact ⟨b :: l', by rw [hb, ok_bind, hl]; rfl⟩

/-- Only the first element that fails can raise. -/
theorem raisesOnly_mapM {f : α → Except ε β} {l : List α} :
    RaisesOnly C (l.mapM f) ↔
      UpToFirst (fun a => ∃ b, f a = .ok b) (fun a => RaisesOnly C (f a)) l := by
  induction l with
  | nil => simp [UpToFirst, pure, Except.pure]
  | cons a l ih =>
    rw [UpToFirst, ← ih, List.mapM_cons, raisesOnly_bind]
    refine and_congr_right fun _ => ?_
    constructor
    · rintro h ⟨b, hb⟩
      exact (raisesOnly_bind.mp (h b hb)).1
    · intro h b hb
      exact raisesOnly_bind.mpr ⟨h ⟨b, hb⟩, fun _ _ => raisesOnly_ok _⟩

end

/-- A check of a concrete computation: it succeeds, with a value that passes. -/
def okAnd (x : Except ε α) (p : α → Bool) : Bool :=
  match x with
  | .ok a => p a
  | .error _ => false

theorem exists_of_okAnd {x : Except ε α} {p : α → Bool} (h : okAnd x p = true) :
    ∃ a, x = .ok a ∧ p a = true := by
  cases x with
  | ok a => exact ⟨a, rfl, h⟩
  | error e => cases h

/-- A loop keeps what each of its successful steps keeps. -/
theorem foldlM_keeps {P : σ → Prop} {f : σ → α → Except ε σ} {l : List α}
    (keep : ∀ s a t, a ∈ l → P s → f s a = .ok t → P t) {s t : σ}
    (h : l.foldlM f s = .ok t) (hs : P s) : P t := by
  induction l generalizing s with
  | nil => exact pure_eq_ok.mp h ▸ hs
  | cons a l ih =>
    rw [List.foldlM_cons] at h
    obtain ⟨u, hu, ht⟩ := bind_eq_ok.mp h
    have hPu : P u := keep s a u List.mem_cons_self hs hu
    exact ih (fun s a t ha => keep s a t (List.mem_cons_of_mem _ ha)) ht hPu

/-- A loop relates its start to its end by every preorder that contains its steps. -/
theorem foldlM_rel {R : σ → σ → Prop} (refl : ∀ s, R s s)
    (trans : ∀ {s t u}, R s t → R t u → R s u) {f : σ → α → Except ε σ} {l : List α}
    (step : ∀ s a t, a ∈ l → f s a = .ok t → R s t) {s t : σ}
    (h : l.foldlM f s = .ok t) : R s t :=
  foldlM_keeps (P := R s) (fun u a v ha hu hv => trans hu (step u a v ha hv)) h (refl s)

/-- A loop commutes with every map of the states that its steps commute with. -/
theorem foldlM_comm {f : σ → α → Except ε σ} {m : σ → σ} {l : List α}
    (comm : ∀ s a, a ∈ l → f (m s) a = m <$> f s a) (s : σ) :
    l.foldlM f (m s) = m <$> l.foldlM f s := by
  induction l generalizing s with
  | nil => rfl
  | cons a l ih =>
    rw [List.foldlM_cons, List.foldlM_cons, comm s a List.mem_cons_self]
    cases f s a with
    | error e => rfl
    | ok t => exact ih (fun s a ha => comm s a (List.mem_cons_of_mem _ ha)) t

/-- A loop succeeds when each of its steps does, in every state that satisfies an invariant. -/
theorem foldlM_succeeds {P : σ → Prop} {f : σ → α → Except ε σ} {l : List α}
    (step : ∀ s a, a ∈ l → P s → ∃ t, f s a = .ok t ∧ P t) {s : σ} (hs : P s) :
    ∃ t, l.foldlM f s = .ok t ∧ P t := by
  induction l generalizing s with
  | nil => exact ⟨s, rfl, hs⟩
  | cons a l ih =>
    obtain ⟨u, hu, hPu⟩ := step s a List.mem_cons_self hs
    obtain ⟨t, ht, hPt⟩ := ih (fun s a ha => step s a (List.mem_cons_of_mem _ ha)) hPu
    exact ⟨t, by rw [List.foldlM_cons, hu, ok_bind, ht], hPt⟩

/-- The computation succeeds, with a value that is `P`. -/
def Achieves (P : α → Prop) (x : Except ε α) : Prop := ∃ a, x = .ok a ∧ P a

section
variable {P : α → Prop} {x : Except ε α}

theorem achieves_ok {a : α} (h : P a) : Achieves P (.ok a : Except ε α) := ⟨a, rfl, h⟩

theorem Achieves.bind {Q : β → Prop} {f : α → Except ε β} (hx : Achieves P x)
    (hf : ∀ a, P a → Achieves Q (f a)) : Achieves Q (x >>= f) := by
  obtain ⟨a, rfl, ha⟩ := hx
  exact hf a ha

theorem Achieves.imp {Q : α → Prop} (hx : Achieves P x) (h : ∀ a, P a → Q a) : Achieves Q x := by
  obtain ⟨a, hok, ha⟩ := hx
  exact ⟨a, hok, h a ha⟩

end

/-- A loop whose steps all achieve an invariant achieves it. -/
theorem achieves_foldlM {P : σ → Prop} {f : σ → α → Except ε σ} {l : List α}
    (step : ∀ s a, a ∈ l → P s → Achieves P (f s a)) {s : σ} (hs : P s) :
    Achieves P (l.foldlM f s) := foldlM_succeeds step hs

/-- Where only elements of one kind can be stepped over, a loop that ends met no others. -/
theorem foldlM_ok_forall {P : σ → Prop} {q : α → Prop} {f : σ → α → Except ε σ} {l : List α}
    (step : ∀ s a t, P s → f s a = .ok t → q a ∧ P t) {s t : σ} (h : l.foldlM f s = .ok t)
    (hs : P s) : ∀ a ∈ l, q a := by
  induction l generalizing s with
  | nil => simp
  | cons a l ih =>
    rw [List.foldlM_cons] at h
    obtain ⟨u, hu, ht⟩ := bind_eq_ok.mp h
    obtain ⟨ha, hPu⟩ := step s a u hs hu
    exact List.forall_mem_cons.mpr ⟨ha, ih ht hPu⟩

/-- The loop ends, in the state of the loop over the elements with this property. -/
def Skips (f : σ → α → Except ε σ) (p : α → Bool) (s : σ) (l : List α) : Prop :=
  ∃ t, l.foldlM f s = .ok t ∧ (l.filter p).foldlM f s = .ok t

/-- A loop whose steps fail on the other elements ends only if there are none. -/
theorem skips_iff {f : σ → α → Except ε σ} {p : α → Bool} {s : σ} {l : List α}
    (fails : ∀ s a t, f s a = .ok t → p a = true) :
    Skips f p s l ↔ (∀ a ∈ l, p a = true) ∧ ∃ t, l.foldlM f s = .ok t := by
  constructor
  · rintro ⟨t, h, -⟩
    exact ⟨foldlM_ok_forall (P := fun _ => True) (fun s a t _ h => ⟨fails s a t h, trivial⟩) h
      trivial, t, h⟩
  · rintro ⟨hall, t, h⟩
    exact ⟨t, h, by rwa [List.filter_eq_self.mpr hall]⟩

/-- Two loops over the same list whose steps simulate each other. -/
theorem foldlM_simulates {τ : Type} {R : σ → τ → Prop} {f : σ → α → Except ε σ}
    {g : τ → α → Except ε τ} {l : List α}
    (step : ∀ s t a s', a ∈ l → R s t → f s a = .ok s' → ∃ t', g t a = .ok t' ∧ R s' t')
    {s s' : σ} {t : τ} (hR : R s t) (h : l.foldlM f s = .ok s') :
    ∃ t', l.foldlM g t = .ok t' ∧ R s' t' := by
  induction l generalizing s t with
  | nil => cases h; exact ⟨t, rfl, hR⟩
  | cons a l ih =>
    rw [List.foldlM_cons] at h
    obtain ⟨s₁, hs₁, h⟩ := bind_eq_ok.mp h
    obtain ⟨t₁, ht₁, hR₁⟩ := step s t a s₁ List.mem_cons_self hR hs₁
    obtain ⟨t', ht', hR'⟩ := ih (fun s t a s' ha => step s t a s' (List.mem_cons_of_mem _ ha)) hR₁ h
    exact ⟨t', by rw [List.foldlM_cons, ht₁, ok_bind, ht'], hR'⟩

/-- Two loops whose steps agree wherever the first one has no effect agree on a run without effect.
Effects (`R`) are never taken back, so a run that shows none (`C`) has none in any of its steps. -/
theorem foldlM_agrees {τ : Type} {R C : σ → σ → Prop} {p : σ → τ} {f : σ → α → Except ε σ}
    {g : τ → α → Except ε τ} {l : List α} (refl : ∀ s, R s s)
    (trans : ∀ {s t u}, R s t → R t u → R s u)
    (split : ∀ {s t u}, R s t → R t u → C s u → C s t ∧ C t u)
    (step : ∀ s a t, f s a = .ok t → R s t)
    (agree : ∀ s a t, a ∈ l → f s a = .ok t → C s t → g (p s) a = .ok (p t)) {s t : σ}
    (h : l.foldlM f s = .ok t) (hC : C s t) : l.foldlM g (p s) = .ok (p t) := by
  induction l generalizing s with
  | nil => rw [pure_eq_ok.mp h]; rfl
  | cons a l ih =>
    rw [List.foldlM_cons] at h
    obtain ⟨u, hu, ht⟩ := bind_eq_ok.mp h
    have hrest : R u t := foldlM_rel refl trans (fun s a t _ => step s a t) ht
    obtain ⟨hhead, htail⟩ := split (step s a u hu) hrest hC
    rw [List.foldlM_cons, agree s a u List.mem_cons_self hu hhead, ok_bind]
    exact ih (fun s a t ha => agree s a t (List.mem_cons_of_mem _ ha)) ht htail

/-- Such a loop does nothing at all if its steps without effect do nothing. -/
theorem foldlM_idle {R C : σ → σ → Prop} {f : σ → α → Except ε σ} {l : List α} (refl : ∀ s, R s s)
    (trans : ∀ {s t u}, R s t → R t u → R s u)
    (split : ∀ {s t u}, R s t → R t u → C s u → C s t ∧ C t u)
    (step : ∀ s a t, f s a = .ok t → R s t)
    (idle : ∀ s a t, a ∈ l → f s a = .ok t → C s t → t = s) {s t : σ}
    (h : l.foldlM f s = .ok t) (hC : C s t) : t = s := by
  have hstays : l.foldlM (fun s _ => .ok s) s = (.ok s : Except ε σ) := by
    clear h idle
    induction l with
    | nil => rfl
    | cons a l ih => rw [List.foldlM_cons, ok_bind, ih]
  have hloop : l.foldlM (fun s _ => .ok s) s = (.ok t : Except ε σ) :=
    foldlM_agrees (p := id) refl trans split step
      (fun s a t ha hf hC => by rw [idle s a t ha hf hC]) h hC
  exact Except.ok.inj (hloop.symm.trans hstays)

/-- Every step that the loop reaches meets the condition in the state it starts from. -/
def Along (f : σ → α → Except ε σ) (C : σ → α → Prop) : σ → List α → Prop
  | _, [] => True
  | s, a :: l => C s a ∧ ∀ t, f s a = .ok t → Along f C t l

instance decidableForallOk (x : Except ε σ) (P : σ → Prop) [DecidablePred P] :
    Decidable (∀ t, x = .ok t → P t) :=
  match x with
  | .ok u => decidable_of_iff (P u) ⟨fun hu _ ht => Except.ok.inj ht ▸ hu, fun h => h u rfl⟩
  | .error _ => .isTrue (fun _ ht => nomatch ht)

instance decidableAlong (f : σ → α → Except ε σ) (C : σ → α → Prop) [∀ s a, Decidable (C s a)] :
    ∀ s l, Decidable (Along f C s l)
  | _, [] => .isTrue trivial
  | s, a :: l =>
    have : DecidablePred fun t => Along f C t l := fun t => decidableAlong f C t l
    inferInstanceAs (Decidable (C s a ∧ ∀ t, f s a = .ok t → Along f C t l))

/-- Every element meets the condition given those that come before it. -/
def AfterPrefix (D : List α → α → Prop) (before l : List α) : Prop :=
  ∀ mid a rest, l = mid ++ a :: rest → D (before ++ mid) a

@[simp] theorem afterPrefix_nil (D : List α → α → Prop) (before : List α) :
    AfterPrefix D before [] := by simp [AfterPrefix]

@[simp] theorem afterPrefix_cons {D : List α → α → Prop} {before l : List α} {a : α} :
    AfterPrefix D before (a :: l) ↔ D before a ∧ AfterPrefix D (before ++ [a]) l := by
  constructor
  · intro h
    refine ⟨by simpa using h [] a l rfl, fun mid b rest heq => ?_⟩
    simpa using h (a :: mid) b rest (by rw [heq, List.cons_append])
  · rintro ⟨ha, hl⟩ mid b rest heq
    cases mid with
    | nil =>
      obtain ⟨rfl, -⟩ := List.cons.inj heq
      simpa using ha
    | cons c mid =>
      obtain ⟨rfl, rfl⟩ := List.cons.inj heq
      simpa using hl mid b rest rfl

/-- A condition on the state is one on the elements so far, if these determine what matters of the
state. -/
theorem along_iff_afterPrefix {R : List α → σ → Prop} {f : σ → α → Except ε σ} {C : σ → α → Prop}
    {D : List α → α → Prop} (same : ∀ before s a, R before s → (C s a ↔ D before a))
    (step : ∀ before s a, R before s → C s a → ∃ t, f s a = .ok t ∧ R (before ++ [a]) t)
    {before l : List α} {s : σ} (hR : R before s) : Along f C s l ↔ AfterPrefix D before l := by
  induction l generalizing before s with
  | nil => simp [Along]
  | cons a l ih =>
    rw [Along, afterPrefix_cons, same before s a hR]
    refine and_congr_right fun ha => ?_
    obtain ⟨t, ht, hRt⟩ := step before s a hR ((same before s a hR).mpr ha)
    rw [← ih hRt]
    constructor
    · exact fun h => h t ht
    · intro h u hu
      rw [ht] at hu
      exact Except.ok.inj hu ▸ h

/-- A loop keeps what its steps keep under a condition that they all meet. -/
theorem foldlM_keeps_along {P : σ → Prop} {f : σ → α → Except ε σ} {C : σ → α → Prop} {l : List α}
    (keep : ∀ s a t, a ∈ l → C s a → P s → f s a = .ok t → P t) {s t : σ}
    (along : Along f C s l) (h : l.foldlM f s = .ok t) (hs : P s) : P t := by
  induction l generalizing s with
  | nil => exact pure_eq_ok.mp h ▸ hs
  | cons a l ih =>
    rw [List.foldlM_cons] at h
    obtain ⟨u, hu, ht⟩ := bind_eq_ok.mp h
    have hPu : P u := keep s a u List.mem_cons_self along.1 hs hu
    exact ih (fun s a t ha => keep s a t (List.mem_cons_of_mem _ ha)) (along.2 u hu) ht hPu

/-- A loop achieves what its steps achieve under a condition that they all meet. -/
theorem Along.achieves {P : σ → Prop} {f : σ → α → Except ε σ} {C : σ → α → Prop} {l : List α}
    (step : ∀ s a, P s → C s a → Achieves P (f s a)) {s : σ} (along : Along f C s l) (hs : P s) :
    Achieves P (l.foldlM f s) := by
  induction l generalizing s with
  | nil => exact achieves_ok hs
  | cons a l ih =>
    obtain ⟨t, ht, hPt⟩ := step s a hs along.1
    rw [List.foldlM_cons, ht]
    exact ih (along.2 t ht) hPt

/-- A condition that an invariant turns into another one along a loop. -/
theorem Along.imp {P : σ → Prop} {f : σ → α → Except ε σ} {C D : σ → α → Prop} {l : List α}
    (keep : ∀ s a t, P s → f s a = .ok t → P t) (imp : ∀ s a, P s → C s a → D s a) {s : σ}
    (along : Along f C s l) (hs : P s) : Along f D s l := by
  induction l generalizing s with
  | nil => trivial
  | cons a l ih =>
    refine ⟨imp s a hs along.1, ?_⟩
    intro t ht
    exact ih (along.2 t ht) (keep s a t hs ht)

theorem Along.take {f : σ → α → Except ε σ} {C : σ → α → Prop} {l : List α} {s : σ}
    (along : Along f C s l) (k : ℕ) : Along f C s (l.take k) := by
  induction l generalizing s k with
  | nil => simpa using along
  | cons a l ih =>
    cases k with
    | zero => trivial
    | succ k => exact ⟨along.1, fun t ht => ih (along.2 t ht) k⟩

/-- Loops whose steps agree along one of them agree. -/
theorem foldlM_congr_along {f g : σ → α → Except ε σ} {l : List α} {s : σ}
    (same : Along f (fun s a => g s a = f s a) s l) : l.foldlM g s = l.foldlM f s := by
  induction l generalizing s with
  | nil => rfl
  | cons a l ih =>
    rw [List.foldlM_cons, List.foldlM_cons, same.1]
    cases hstep : f s a with
    | error e => rfl
    | ok t => exact ih (same.2 t hstep)

/-- Steps that leave the state as it is where they are taken can be left out. -/
theorem foldlM_filter_along {f : σ → α → Except ε σ} {p : α → Bool} {l : List α} {s : σ}
    (idle : Along f (fun s a => p a = false → f s a = .ok s) s l) :
    (l.filter p).foldlM f s = l.foldlM f s := by
  induction l generalizing s with
  | nil => rfl
  | cons a l ih =>
    rw [List.foldlM_cons]
    cases hp : p a with
    | false =>
      rw [List.filter_cons_of_neg (by simp [hp]), idle.1 hp, ok_bind]
      exact ih (idle.2 s (idle.1 hp))
    | true =>
      rw [List.filter_cons_of_pos hp, List.foldlM_cons]
      cases hstep : f s a with
      | error e => rfl
      | ok t => exact ih (idle.2 t hstep)

/-- A loop that comes to satisfy a property does so in one of its steps. -/
theorem foldlM_turns {P : σ → Prop} {f : σ → α → Except ε σ} {l : List α} {s t : σ} (hs : ¬ P s)
    (h : l.foldlM f s = .ok t) (ht : P t) :
    ∃ before a after u v, l = before ++ a :: after ∧ before.foldlM f s = .ok u ∧ ¬ P u ∧
      f u a = .ok v ∧ P v := by
  induction l generalizing s with
  | nil => exact absurd (pure_eq_ok.mp h ▸ ht) hs
  | cons a l ih =>
    rw [List.foldlM_cons] at h
    obtain ⟨u, hu, ht'⟩ := bind_eq_ok.mp h
    by_cases hPu : P u
    · exact ⟨[], a, l, s, u, rfl, rfl, hs, hu, hPu⟩
    · obtain ⟨before, b, after, v, w, rfl, hbefore, hv, hstep, hw⟩ := ih hPu ht'
      refine ⟨a :: before, b, after, v, w, rfl, ?_, hv, hstep, hw⟩
      rw [List.foldlM_cons, hu, ok_bind, hbefore]

/-- The property holds in every state that the loop reaches. -/
def Throughout (f : σ → α → Except ε σ) (P : σ → Prop) : σ → List α → Prop
  | s, [] => P s
  | s, a :: l => P s ∧ ∀ t, f s a = .ok t → Throughout f P t l

theorem Throughout.start {P : σ → Prop} {f : σ → α → Except ε σ} {s : σ} {l : List α}
    (h : Throughout f P s l) : P s := by
  cases l with
  | nil => exact h
  | cons a l => exact h.1

/-- Where each step keeps the property exactly under the condition, the property holds throughout a
loop exactly if all its steps meet the condition. -/
theorem throughout_iff_along {I P : σ → Prop} {f : σ → α → Except ε σ} {C : σ → α → Prop}
    {l : List α} (step : ∀ s a t, a ∈ l → I s → P s → f s a = .ok t → I t ∧ (P t ↔ C s a)) {s t : σ}
    (h : l.foldlM f s = .ok t) (hI : I s) (hs : P s) : Throughout f P s l ↔ Along f C s l := by
  induction l generalizing s with
  | nil => exact iff_of_true hs trivial
  | cons a l ih =>
    rw [List.foldlM_cons] at h
    obtain ⟨u, hu, ht⟩ := bind_eq_ok.mp h
    obtain ⟨hIu, hiff⟩ := step s a u List.mem_cons_self hI hs hu
    have hrest (hPu : P u) : Throughout f P u l ↔ Along f C u l :=
      ih (fun s a t ha => step s a t (List.mem_cons_of_mem _ ha)) ht hIu hPu
    rw [Throughout, Along]
    constructor
    · rintro ⟨-, hall⟩
      have hlater := hall u hu
      refine ⟨hiff.mp hlater.start, fun v hv => ?_⟩
      obtain rfl : u = v := Except.ok.inj (hu.symm.trans hv)
      exact (hrest hlater.start).mp hlater
    · rintro ⟨hC, hall⟩
      refine ⟨hs, fun v hv => ?_⟩
      obtain rfl : u = v := Except.ok.inj (hu.symm.trans hv)
      exact (hrest (hiff.mpr hC)).mpr (hall u hu)

/-- Conditions that are equivalent as long as they are met. -/
theorem along_congr {P : σ → Prop} {f : σ → α → Except ε σ} {C D : σ → α → Prop} {l : List α}
    (step : ∀ s a t, a ∈ l → P s → f s a = .ok t → (C s a ↔ D s a) ∧ (C s a → P t)) {s t : σ}
    (h : l.foldlM f s = .ok t) (hs : P s) : Along f C s l ↔ Along f D s l := by
  induction l generalizing s with
  | nil => rfl
  | cons a l ih =>
    rw [List.foldlM_cons] at h
    obtain ⟨u, hu, ht⟩ := bind_eq_ok.mp h
    obtain ⟨hiff, hkeep⟩ := step s a u List.mem_cons_self hs hu
    rw [Along, Along, ← hiff]
    simp only [hu, Except.ok.injEq, forall_eq']
    refine and_congr_right fun hC => ?_
    exact ih (fun s a t ha => step s a t (List.mem_cons_of_mem _ ha)) ht (hkeep hC)

theorem along_append {f : σ → α → Except ε σ} {C : σ → α → Prop} {l₁ l₂ : List α} {s t : σ}
    (h : l₁.foldlM f s = .ok t) :
    Along f C s (l₁ ++ l₂) ↔ Along f C s l₁ ∧ Along f C t l₂ := by
  induction l₁ generalizing s with
  | nil => simp [Along, pure_eq_ok.mp h]
  | cons a l₁ ih =>
    rw [List.foldlM_cons] at h
    obtain ⟨u, hu, ht⟩ := bind_eq_ok.mp h
    simp only [List.cons_append, Along, hu, Except.ok.injEq, forall_eq', ih ht, and_assoc]

/-- A property that is lost for good where a step does not meet the condition. -/
theorem along_iff_end {P : σ → Prop} {f : σ → α → Except ε σ} {C : σ → α → Prop} {l : List α}
    (lost : ∀ s a t, a ∈ l → f s a = .ok t → P t → P s)
    (step : ∀ s a t, a ∈ l → P s → f s a = .ok t → (P t ↔ C s a)) {s t : σ}
    (h : l.foldlM f s = .ok t) (hs : P s) : Along f C s l ↔ P t := by
  induction l generalizing s with
  | nil => exact iff_of_true trivial (pure_eq_ok.mp h ▸ hs)
  | cons a l ih =>
    rw [List.foldlM_cons] at h
    obtain ⟨u, hu, ht⟩ := bind_eq_ok.mp h
    have hrest (hu : P u) : Along f C u l ↔ P t :=
      ih (fun s a t ha => lost s a t (List.mem_cons_of_mem _ ha))
        (fun s a t ha => step s a t (List.mem_cons_of_mem _ ha)) ht hu
    have hstep := step s a u List.mem_cons_self hs hu
    simp only [Along, hu, Except.ok.injEq, forall_eq']
    constructor
    · rintro ⟨hC, hall⟩
      exact (hrest (hstep.mpr hC)).mp hall
    · intro hPt
      have hPu : P u := foldlM_keeps (P := fun v => P v → P u)
        (fun v a w ha hv hw hPw => hv (lost v a w (List.mem_cons_of_mem _ ha) hw hPw)) ht id hPt
      exact ⟨hstep.mp hPu, (hrest hPu).mpr hPt⟩

/-- A condition on the elements alone. -/
theorem along_const {f : σ → α → Except ε σ} {C : α → Prop} {l : List α} {s t : σ}
    (h : l.foldlM f s = .ok t) : Along f (fun _ a => C a) s l ↔ ∀ a ∈ l, C a := by
  induction l generalizing s with
  | nil => simp [Along]
  | cons a l ih =>
    rw [List.foldlM_cons] at h
    obtain ⟨u, hu, ht⟩ := bind_eq_ok.mp h
    simp only [Along, hu, Except.ok.injEq, forall_eq', ih ht, List.forall_mem_cons]

/-- The pure counterpart of `foldlM_keeps`. -/
theorem foldl_keeps {P : σ → Prop} {f : σ → α → σ} {l : List α}
    (keep : ∀ s a, a ∈ l → P s → P (f s a)) {s : σ} (hs : P s) : P (l.foldl f s) := by
  induction l generalizing s with
  | nil => exact hs
  | cons a l ih =>
    exact ih (fun s a ha => keep s a (List.mem_cons_of_mem _ ha)) (keep s a List.mem_cons_self hs)

/-- The pure counterpart of `Along`. -/
def Meets (f : σ → α → σ) (C : σ → α → Prop) : σ → List α → Prop
  | _, [] => True
  | s, a :: l => C s a ∧ Meets f C (f s a) l

instance decidableMeets (f : σ → α → σ) (C : σ → α → Prop) [∀ s a, Decidable (C s a)] :
    ∀ s l, Decidable (Meets f C s l)
  | _, [] => .isTrue trivial
  | s, a :: l =>
    have := decidableMeets f C (f s a) l
    inferInstanceAs (Decidable (C s a ∧ Meets f C (f s a) l))

theorem foldl_keeps_meets {P : σ → Prop} {f : σ → α → σ} {C : σ → α → Prop} {l : List α}
    (keep : ∀ s a, C s a → P s → P (f s a)) {s : σ} (meets : Meets f C s l) (hs : P s) :
    P (l.foldl f s) := by
  induction l generalizing s with
  | nil => exact hs
  | cons a l ih => exact ih meets.2 (keep s a meets.1 hs)

/-- A weaker condition, in the states that an invariant allows. -/
theorem Meets.imp {P : σ → Prop} {f : σ → α → σ} {C D : σ → α → Prop} {l : List α}
    (step : ∀ s a, P s → C s a → D s a ∧ P (f s a)) {s : σ} (meets : Meets f C s l) (hs : P s) :
    Meets f D s l := by
  induction l generalizing s with
  | nil => trivial
  | cons a l ih =>
    obtain ⟨hD, hnext⟩ := step s a hs meets.1
    exact ⟨hD, ih meets.2 hnext⟩

end Fallible

end Library
