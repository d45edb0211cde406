import Mathlib.Data.List.Nodup
import Mathlib.Tactic.Common

/-!
# Insertion-ordered dictionaries

A dictionary is a list of bindings with pairwise distinct keys, in the order in which the keys
were first inserted. Assigning to a present key keeps its position; a new key goes to the end.
The main simp set reads a lookup or a key back through `set`, `erase` and the value maps.
-/

namespace Library

variable {κ α β σ : Type}

/-- Bindings in insertion order; the distinctness of the keys is part of the value. -/
structure Dict (κ α : Type) where
  entries : List (κ × α)
  nodup : (entries.map Prod.fst).Nodup
  deriving DecidableEq

namespace Dict

def empty : Dict κ α := ⟨[], List.nodup_nil⟩

instance : EmptyCollection (Dict κ α) := ⟨empty⟩
instance : Inhabited (Dict κ α) := ⟨empty⟩

def keys (d : Dict κ α) : List κ := d.entries.map Prod.fst

def values (d : Dict κ α) : List α := d.entries.map Prod.snd

/-- `k ∈ d` is membership of the key, as for a dictionary. -/
instance : Membership κ (Dict κ α) := ⟨fun d k => k ∈ d.keys⟩

theorem mem_iff {d : Dict κ α} {k : κ} : k ∈ d ↔ k ∈ d.keys := Iff.rfl

@[ext] theorem ext {d e : Dict κ α} (h : d.entries = e.entries) : d = e := by
  cases d; cases e; simpa using h

@[simp] theorem keys_empty : (∅ : Dict κ α).keys = [] := rfl
@[simp] theorem entries_empty : (∅ : Dict κ α).entries = [] := rfl
@[simp] theorem not_mem_empty (k : κ) : k ∉ (∅ : Dict κ α) := List.not_mem_nil

theorem mem_keys_of_mem {d : Dict κ α} {e : κ × α} (h : e ∈ d.entries) : e.1 ∈ d :=
  List.mem_map_of_mem h

theorem exists_of_mem {d : Dict κ α} {k : κ} (h : k ∈ d) : ∃ a, (k, a) ∈ d.entries := by
  obtain ⟨⟨k', a⟩, hmem, rfl⟩ := List.mem_map.mp h
  exact ⟨a, hmem⟩

/-! ## Value maps -/

/-- Rewrite every value in place, knowing its key. -/
def mapWithKey (f : κ → α → β) (d : Dict κ α) : Dict κ β where
  entries := d.entries.map fun e => (e.1, f e.1 e.2)
  nodup := by simpa [Function.comp_def] using d.nodup

def mapValues (f : α → β) (d : Dict κ α) : Dict κ β := d.mapWithKey fun _ => f

@[simp] theorem keys_mapWithKey (f : κ → α → β) (d : Dict κ α) :
    (d.mapWithKey f).keys = d.keys := by simp [keys, mapWithKey, Function.comp_def]

@[simp] theorem mem_mapWithKey {f : κ → α → β} {d : Dict κ α} {k : κ} :
    k ∈ d.mapWithKey f ↔ k ∈ d := by simp [mem_iff]

@[simp] theorem keys_mapValues (f : α → β) (d : Dict κ α) : (d.mapValues f).keys = d.keys :=
  keys_mapWithKey _ d

@[simp] theorem mem_mapValues {f : α → β} {d : Dict κ α} {k : κ} : k ∈ d.mapValues f ↔ k ∈ d :=
  mem_mapWithKey

theorem entries_mapValues (f : α → β) (d : Dict κ α) :
    (d.mapValues f).entries = d.entries.map fun e => (e.1, f e.2) := rfl

@[simp] theorem mapValues_mapValues {γ : Type} (f : α → β) (g : β → γ) (d : Dict κ α) :
    (d.mapValues f).mapValues g = d.mapValues (g ∘ f) := by
  apply ext
  simp [entries_mapValues, Function.comp_def]

@[simp] theorem mapValues_id (d : Dict κ α) : d.mapValues id = d := by
  apply ext
  simp [entries_mapValues]

theorem mapWithKey_eq_self {d : Dict κ α} {f : κ → α → α}
    (h : ∀ e ∈ d.entries, f e.1 e.2 = e.2) : d.mapWithKey f = d := by
  apply ext
  calc d.entries.map (fun e => (e.1, f e.1 e.2))
      = d.entries.map id := List.map_congr_left fun e he => by simp [h e he]
    _ = d.entries := List.map_id _

theorem mapValues_congr {d : Dict κ α} {f g : α → β} (h : ∀ a ∈ d.values, f a = g a) :
    d.mapValues f = d.mapValues g := by
  apply ext
  exact List.map_congr_left fun e he => congrArg (Prod.mk e.1) (h e.2 (List.mem_map_of_mem he))

theorem mapValues_eq_self {d : Dict κ α} {f : α → α}
    (h : ∀ e ∈ d.entries, f e.2 = e.2) : d.mapValues f = d :=
  mapWithKey_eq_self h

/-! ## Lookup, assignment, deletion -/

variable [DecidableEq κ]

instance (k : κ) (d : Dict κ α) : Decidable (k ∈ d) := inferInstanceAs (Decidable (k ∈ d.keys))

def get? (d : Dict κ α) (k : κ) : Option α := (d.entries.find? fun e => e.1 = k).map Prod.snd

/-- `d.get(k, default)`. -/
def getD (d : Dict κ α) (k : κ) (default : α) : α := (d.get? k).getD default

/-- `d[k] = a`. -/
def set (d : Dict κ α) (k : κ) (a : α) : Dict κ α :=
  if h : k ∈ d then
    ⟨d.entries.map fun e => if e.1 = k then (k, a) else e, by
      have keep : (Prod.fst ∘ fun e : κ × α => if e.1 = k then (k, a) else e) = Prod.fst := by
        funext e
        by_cases he : e.1 = k <;> simp [he]
      simpa [keep] using d.nodup⟩
  else
    ⟨d.entries ++ [(k, a)], by
      have hk : k ∉ d.entries.map Prod.fst := h
      simpa using d.nodup.append (List.nodup_singleton k) (by simpa using hk)⟩

/-- `d.pop(k, None)`: no effect on an absent key. -/
def erase (d : Dict κ α) (k : κ) : Dict κ α where
  entries := d.entries.filter fun e => e.1 ≠ k
  nodup := d.nodup.sublist (List.filter_sublist.map Prod.fst)

/-- Mutate the value under a key, if there is one. -/
def modify (d : Dict κ α) (k : κ) (f : α → α) : Dict κ α :=
  d.mapWithKey fun k' a => if k' = k then f a else a

/-- `{k: a for k, a in entries}`: the last binding of a key wins. -/
def ofList (l : List (κ × α)) : Dict κ α := l.foldl (fun d e => d.set e.1 e.2) ∅

theorem get?_eq_some_iff {d : Dict κ α} {k : κ} {a : α} :
    d.get? k = some a ↔ (k, a) ∈ d.entries := by
  simp only [get?, Option.map_eq_some_iff, List.find?_eq_some_iff_append]
  constructor
  · rintro ⟨⟨k', a'⟩, ⟨hk, l, r, hl, -⟩, rfl⟩
    simp only [decide_eq_true_eq] at hk
    subst hk
    simp [hl]
  · intro h
    obtain ⟨l, r, hl⟩ := List.append_of_mem h
    refine ⟨(k, a), ⟨by simp, l, r, hl, ?_⟩, rfl⟩
    intro e he
    have nodup := d.nodup
    rw [hl, List.map_append, List.map_cons] at nodup
    have : k ∉ l.map Prod.fst := fun hk =>
      (List.nodup_append.mp nodup).2.2 k hk k (by simp) rfl
    simpa using fun hk => this (List.mem_map.mpr ⟨e, he, hk⟩)

theorem get?_eq_none_iff {d : Dict κ α} {k : κ} : d.get? k = none ↔ k ∉ d := by
  constructor
  · intro h hk
    obtain ⟨a, ha⟩ := exists_of_mem hk
    rw [get?_eq_some_iff.mpr ha] at h
    exact Option.some_ne_none a h
  · intro h
    cases ha : d.get? k with
    | none => rfl
    | some a => exact absurd (mem_keys_of_mem (get?_eq_some_iff.mp ha)) h

theorem get?_mapWithKey (f : κ → α → β) (d : Dict κ α) (k : κ) :
    (d.mapWithKey f).get? k = (d.get? k).map (f k) := by
  cases h : d.get? k with
  | none =>
    rw [get?_eq_none_iff] at h
    exact get?_eq_none_iff.mpr (mt mem_mapWithKey.mp h)
  | some a =>
    rw [get?_eq_some_iff] at h
    exact get?_eq_some_iff.mpr (List.mem_map.mpr ⟨(k, a), h, rfl⟩)

theorem get?_mapValues (f : α → β) (d : Dict κ α) (k : κ) :
    (d.mapValues f).get? k = (d.get? k).map f := get?_mapWithKey _ d k

theorem mem_of_get?_eq_some {d : Dict κ α} {k : κ} {a : α} (h : d.get? k = some a) : k ∈ d :=
  mem_keys_of_mem (get?_eq_some_iff.mp h)

theorem mem_entries_set {d : Dict κ α} {k : κ} {a : α} {e : κ × α} :
    e ∈ (d.set k a).entries ↔ e = (k, a) ∨ (e ∈ d.entries ∧ e.1 ≠ k) := by
  unfold set
  split
  case isTrue h =>
    simp only [List.mem_map]
    constructor
    · rintro ⟨e', he', rfl⟩
      by_cases hk : e'.1 = k <;> simp [hk, he']
    · rintro (rfl | ⟨he, hk⟩)
      · obtain ⟨b, hb⟩ := exists_of_mem h
        exact ⟨(k, b), hb, by simp⟩
      · exact ⟨e, he, by simp [hk]⟩
  case isFalse h =>
    simp only [List.mem_append, List.mem_singleton]
    constructor
    · rintro (he | rfl)
      · exact .inr ⟨he, fun hk => h (hk ▸ mem_keys_of_mem he)⟩
      · exact .inl rfl
    · rintro (rfl | ⟨he, -⟩)
      · exact .inr rfl
      · exact .inl he

@[simp] theorem mem_set {d : Dict κ α} {k k' : κ} {a : α} : k' ∈ d.set k a ↔ k' = k ∨ k' ∈ d := by
  constructor
  · intro h
    obtain ⟨b, hb⟩ := exists_of_mem h
    rcases mem_entries_set.mp hb with heq | ⟨he, -⟩
    · exact .inl (congrArg Prod.fst heq)
    · exact .inr (mem_keys_of_mem he)
  · intro h
    by_cases hk : k' = k
    · subst hk
      exact mem_keys_of_mem (mem_entries_set.mpr (.inl rfl))
    · obtain ⟨b, hb⟩ := exists_of_mem (h.resolve_left hk)
      exact mem_keys_of_mem (mem_entries_set.mpr (.inr ⟨hb, hk⟩))

theorem keys_set_of_mem {d : Dict κ α} {k : κ} (h : k ∈ d) (a : α) : (d.set k a).keys = d.keys := by
  have keep : (Prod.fst ∘ fun e : κ × α => if e.1 = k then (k, a) else e) = Prod.fst := by
    funext e
    by_cases he : e.1 = k <;> simp [he]
  simp [keys, set, h, keep]

@[simp] theorem get?_set_self (d : Dict κ α) (k : κ) (a : α) : (d.set k a).get? k = some a :=
  get?_eq_some_iff.mpr (mem_entries_set.mpr (.inl rfl))

theorem get?_set_ne (d : Dict κ α) {k k' : κ} (h : k' ≠ k) (a : α) :
    (d.set k a).get? k' = d.get? k' := by
  ext b
  rw [get?_eq_some_iff, get?_eq_some_iff, mem_entries_set]
  constructor
  · rintro (heq | ⟨he, -⟩)
    · exact absurd (congrArg Prod.fst heq) h
    · exact he
  · exact fun he => .inr ⟨he, h⟩

@[simp] theorem set_set (d : Dict κ α) (k : κ) (a b : α) : (d.set k a).set k b = d.set k b := by
  apply ext
  by_cases h : k ∈ d
  · have hset : k ∈ d.set k a := mem_set.mpr (.inl rfl)
    simp only [set, dif_pos h] at hset ⊢
    simp only [dif_pos hset, List.map_map]
    apply List.map_congr_left
    intro e he
    by_cases hk : e.1 = k <;> simp [hk]
  · have hset : k ∈ d.set k a := mem_set.mpr (.inl rfl)
    have hne : ∀ e ∈ d.entries, e.1 ≠ k := fun e he hk => h (hk ▸ mem_keys_of_mem he)
    simp only [set, dif_neg h] at hset ⊢
    simp only [dif_pos hset, List.map_append, List.map_cons, List.map_nil, if_true]
    congr 1
    calc d.entries.map (fun e => if e.1 = k then (k, b) else e)
        = d.entries.map id := List.map_congr_left fun e he => if_neg (hne e he)
      _ = d.entries := List.map_id _

/-- Assigning the value that is there changes nothing. -/
theorem set_eq_self {d : Dict κ α} {k : κ} {a : α} (h : d.get? k = some a) : d.set k a = d := by
  apply ext
  rw [set, dif_pos (mem_of_get?_eq_some h)]
  have hsame : ∀ e ∈ d.entries, (if e.1 = k then (k, a) else e) = id e := by
    rintro ⟨k', b⟩ he
    by_cases hk : k' = k
    · subst hk
      obtain rfl : b = a := by
        rw [get?_eq_some_iff.mpr he] at h
        exact Option.some.inj h
      simp
    · simp [hk]
  exact (List.map_congr_left hsame).trans (List.map_id _)

/-- An assignment that no reader of the values through `f` can see. -/
theorem mapValues_set_eq {f : α → β} {d : Dict κ α} {k : κ} {a b : α} (h : (k, b) ∈ d.entries)
    (same : f a = f b) : (d.set k a).mapValues f = d.mapValues f := by
  apply ext
  rw [entries_mapValues, set, dif_pos (mem_keys_of_mem h), entries_mapValues, List.map_map]
  refine List.map_congr_left fun e he => ?_
  by_cases hk : e.1 = k
  · subst hk
    obtain rfl : b = e.2 :=
      Option.some.inj ((get?_eq_some_iff.mpr h).symm.trans (get?_eq_some_iff.mpr he))
    simp [same]
  · simp [hk]

theorem mem_entries_erase {d : Dict κ α} {k : κ} {e : κ × α} :
    e ∈ (d.erase k).entries ↔ e ∈ d.entries ∧ e.1 ≠ k := by simp [erase]

@[simp] theorem mem_erase {d : Dict κ α} {k k' : κ} : k' ∈ d.erase k ↔ k' ∈ d ∧ k' ≠ k := by
  constructor
  · intro h
    obtain ⟨a, ha⟩ := exists_of_mem h
    exact ⟨mem_keys_of_mem (mem_entries_erase.mp ha).1, (mem_entries_erase.mp ha).2⟩
  · rintro ⟨h, hk⟩
    obtain ⟨a, ha⟩ := exists_of_mem h
    exact mem_keys_of_mem (mem_entries_erase.mpr ⟨ha, hk⟩)

@[simp] theorem get?_erase_self (d : Dict κ α) (k : κ) : (d.erase k).get? k = none := by
  rw [get?_eq_none_iff]
  simp

theorem get?_erase_ne (d : Dict κ α) {k k' : κ} (h : k' ≠ k) :
    (d.erase k).get? k' = d.get? k' := by
  ext b
  rw [get?_eq_some_iff, get?_eq_some_iff, mem_entries_erase]
  exact and_iff_left h

/-! ## Dictionaries of bindings

A list of bindings with distinct keys is the dictionary it builds, and a dictionary can be mapped
by a fallible function. -/

theorem set_of_not_mem {d : Dict κ α} {k : κ} (h : k ∉ d) (a : α) :
    (d.set k a).entries = d.entries ++ [(k, a)] := by simp [set, h]

theorem entries_foldl_set {l : List (κ × α)} {d : Dict κ α}
    (h : ((d.entries ++ l).map Prod.fst).Nodup) :
    (l.foldl (fun d e => d.set e.1 e.2) d).entries = d.entries ++ l := by
  induction l generalizing d with
  | nil => simp
  | cons e l ih =>
    have hnew : e.1 ∉ d := by
      intro hk
      rw [List.map_append, List.nodup_append] at h
      exact h.2.2 e.1 hk e.1 (by simp) rfl
    have hset : (d.set e.1 e.2).entries = d.entries ++ [e] := set_of_not_mem hnew e.2
    rw [List.foldl_cons, ih (by simpa [hset] using h), hset, List.append_assoc]
    rfl

theorem ofList_of_nodup {l : List (κ × α)} (h : (l.map Prod.fst).Nodup) : ofList l = ⟨l, h⟩ :=
  ext (by simpa [ofList] using entries_foldl_set (d := ∅) (by simpa using h))

/-- A dictionary built from bindings holds some of them. -/
theorem mem_of_mem_ofList {l : List (κ × α)} {e : κ × α} (h : e ∈ (ofList l).entries) : e ∈ l := by
  have added (l : List (κ × α)) (d : Dict κ α)
      (h : e ∈ (l.foldl (fun d e => d.set e.1 e.2) d).entries) : e ∈ d.entries ∨ e ∈ l := by
    induction l generalizing d with
    | nil => exact .inl h
    | cons b l ih =>
      rcases ih _ h with h | h
      · rcases mem_entries_set.mp h with rfl | ⟨h, -⟩
        · exact .inr List.mem_cons_self
        · exact .inl h
      · exact .inr (List.mem_cons_of_mem _ h)
  exact (added l ∅ h).resolve_left List.not_mem_nil

@[simp] theorem ofList_entries (d : Dict κ α) : ofList d.entries = d := ofList_of_nodup d.nodup

@[simp] theorem get?_mk_nil {k : κ} (h : (([] : List (κ × α)).map Prod.fst).Nodup) :
    (⟨[], h⟩ : Dict κ α).get? k = none := rfl

@[simp] theorem get?_mk_cons {k k' : κ} {a : α} {l : List (κ × α)}
    (h : (((k', a) :: l).map Prod.fst).Nodup) :
    (⟨(k', a) :: l, h⟩ : Dict κ α).get? k =
      if k' = k then some a else (⟨l, (List.nodup_cons.mp h).2⟩ : Dict κ α).get? k := by
  by_cases hk : k' = k <;> simp [get?, hk]

/-- `{k: f(a) for k, a in d.items()}`, where `f` may fail. -/
def traverse {ε : Type} (f : α → Except ε β) (d : Dict κ α) : Except ε (Dict κ β) := do
  let entries ← d.entries.mapM fun e => do
    let b ← f e.2
    .ok (e.1, b)
  .ok (ofList entries)

end Dict

end Library
