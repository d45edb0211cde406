import DistributedSmb.Library.Dict
import DistributedSmb.Library.Fallible
import Mathlib.Data.Rat.Defs

/-!
# JSON documents

A document is a tree; an object lists its members in the order of the text. A later member with
the name of an earlier one replaces its value. What a typed reader makes of a document is `none`
when the document has another shape. The round trip of a list, a dictionary or an optional value
follows from the one of its parts.
-/

namespace Library

inductive Json where
  | null
  | bool (b : Bool)
  | num (q : ℚ)
  | str (s : String)
  | arr (items : List Json)
  | obj (members : List (String × Json))

namespace Json

variable {α β : Type}

def isNull : Json → Bool
  | null => true
  | _ => false

/-- `bool(j)` of a dynamically typed language: zero and what is empty are false. -/
def truthy : Json → Bool
  | null => false
  | bool b => b
  | num q => q ≠ 0
  | str s => s ≠ ""
  | arr items => !items.isEmpty
  | obj members => !members.isEmpty

def bool? : Json → Option Bool
  | bool b => some b
  | _ => none

def num? : Json → Option ℚ
  | num q => some q
  | _ => none

/-- A number without a fractional part. -/
def int? : Json → Option ℤ
  | num q => if q.den = 1 then some q.num else none
  | _ => none

def nat? (j : Json) : Option ℕ :=
  j.int?.bind fun z => if 0 ≤ z then some z.toNat else none

def str? : Json → Option String
  | str s => some s
  | _ => none

def items? : Json → Option (List Json)
  | arr items => some items
  | _ => none

def dict? : Json → Option (Dict String Json)
  | obj members => some (Dict.ofList members)
  | _ => none

/-- `null` stands for nothing. -/
def orNull? (read : Json → Option α) : Json → Option (Option α)
  | null => some none
  | j => (read j).map some

def ofOption (write : α → Json) : Option α → Json
  | none => null
  | some a => write a

/-- The object of a dictionary. -/
def ofDict (d : Dict String Json) : Json := obj d.entries

def list? (read : Json → Option α) (j : Json) : Option (List α) :=
  j.items?.bind fun items => items.mapM read

@[simp] theorem bool?_bool (b : Bool) : (bool b).bool? = some b := rfl
@[simp] theorem truthy_bool (b : Bool) : (bool b).truthy = b := rfl
@[simp] theorem num?_num (q : ℚ) : (num q).num? = some q := rfl
@[simp] theorem str?_str (s : String) : (str s).str? = some s := rfl

@[simp] theorem int?_num (z : ℤ) : (num z).int? = some z := by simp [int?]

@[simp] theorem nat?_num (n : ℕ) : (num n).nat? = some n := by simp [nat?, int?]

@[simp] theorem dict?_ofDict (d : Dict String Json) : (ofDict d).dict? = some d :=
  congrArg some (Dict.ofList_entries d)

/-- An object whose member names are distinct is read as it stands. -/
@[simp] theorem dict?_obj {members : List (String × Json)} (h : (members.map Prod.fst).Nodup) :
    (obj members).dict? = some ⟨members, h⟩ := congrArg some (Dict.ofList_of_nodup h)

theorem orNull?_ofOption {read : Json → Option α} {write : α → Json}
    (h : ∀ a, read (write a) = some a) (notNull : ∀ a, write a ≠ null) (a : Option α) :
    orNull? read (ofOption write a) = some a := by
  cases a with
  | none => rfl
  | some a =>
    change orNull? read (write a) = some (some a)
    cases hw : write a with
    | null => exact absurd hw (notNull a)
    | _ => simp [orNull?, ← hw, h]

@[simp] theorem orNull?_num (q : Option ℚ) : orNull? num? (ofOption num q) = some q := by
  apply orNull?_ofOption
  · exact fun _ => rfl
  · simp

@[simp] theorem orNull?_str (s : Option String) : orNull? str? (ofOption str s) = some s := by
  apply orNull?_ofOption
  · exact fun _ => rfl
  · simp

@[simp] theorem orNull?_int (z : Option ℤ) :
    orNull? int? (ofOption (fun z : ℤ => num z) z) = some z := by
  apply orNull?_ofOption
  · exact int?_num
  · simp

theorem mapM_map {γ : Type} {read : β → Option α} {write : γ → β} {f : γ → α} {l : List γ}
    (h : ∀ c ∈ l, read (write c) = some (f c)) : (l.map write).mapM read = some (l.map f) := by
  induction l with
  | nil => rfl
  | cons c l ih =>
    obtain ⟨hc, hl⟩ := List.forall_mem_cons.mp h
    simp [List.mapM_cons, ih hl, hc]

theorem list?_arr_map {γ : Type} {read : Json → Option α} {write : γ → Json} {f : γ → α}
    {l : List γ} (h : ∀ c ∈ l, read (write c) = some (f c)) :
    (arr (l.map write)).list? read = some (l.map f) := mapM_map h

end Json

/-! ## Dictionaries of values -/

namespace Dict

variable {α β ε : Type}

def field (d : Dict String Json) (name : String) (read : Json → Option α) : Option α :=
  (d.get? name).bind read

/-- A member that may be missing. -/
def fieldD (d : Dict String Json) (name : String) (read : Json → Option α) (default : α) :
    Option α :=
  match d.get? name with
  | none => some default
  | some j => read j

theorem field_eq {d : Dict String Json} {name : String} {j : Json} (h : d.get? name = some j)
    (read : Json → Option α) : d.field name read = read j := by rw [field, h, Option.bind_some]

theorem fieldD_eq {d : Dict String Json} {name : String} {j : Json} (h : d.get? name = some j)
    (read : Json → Option α) (default : α) : d.fieldD name read default = read j := by
  rw [fieldD, h]

section
variable {name name' : String} {j : Json} {l : List (String × Json)} (read : Json → Option α)

@[simp] theorem field_mk_nil (h : (([] : List (String × Json)).map Prod.fst).Nodup) :
    (⟨[], h⟩ : Dict String Json).field name read = none := rfl

@[simp] theorem field_mk_cons (h : (((name', j) :: l).map Prod.fst).Nodup) :
    (⟨(name', j) :: l, h⟩ : Dict String Json).field name read =
      if name' = name then read j else
        (⟨l, (List.nodup_cons.mp h).2⟩ : Dict String Json).field name read := by
  rw [field, get?_mk_cons]
  by_cases hname : name' = name
  · rw [if_pos hname, if_pos hname, Option.bind_some]
  · rw [if_neg hname, if_neg hname]
    rfl

@[simp] theorem fieldD_mk_nil (h : (([] : List (String × Json)).map Prod.fst).Nodup) (default : α) :
    (⟨[], h⟩ : Dict String Json).fieldD name read default = some default := rfl

@[simp] theorem fieldD_mk_cons (h : (((name', j) :: l).map Prod.fst).Nodup) (default : α) :
    (⟨(name', j) :: l, h⟩ : Dict String Json).fieldD name read default =
      if name' = name then read j else
        (⟨l, (List.nodup_cons.mp h).2⟩ : Dict String Json).fieldD name read default := by
  rw [fieldD, get?_mk_cons]
  by_cases hname : name' = name
  · rw [if_pos hname, if_pos hname]
  · rw [if_neg hname, if_neg hname]
    rfl

end

/-- Read every value of a dictionary. -/
def read? (read : β → Option α) (d : Dict String β) : Option (Dict String α) :=
  (d.entries.mapM fun e => (read e.2).map (Prod.mk e.1)).map ofList

theorem read?_mapValues {γ : Type} {read : β → Option α} {write : γ → β} {f : γ → α}
    (h : ∀ c, read (write c) = some (f c)) (d : Dict String γ) :
    (d.mapValues write).read? read = some (d.mapValues f) := by
  have hone : ∀ e : String × γ, (read (write e.2)).map (Prod.mk e.1) = some (e.1, f e.2) := by
    intro e
    rw [h, Option.map_some]
  have hlist : (d.entries.map fun e => (e.1, write e.2)).mapM
      (fun e => (read e.2).map (Prod.mk e.1)) = some (d.entries.map fun e => (e.1, f e.2)) :=
    Json.mapM_map fun e _ => hone e
  rw [read?, entries_mapValues, hlist, Option.map_some, ← entries_mapValues, ofList_entries]

theorem read?_mapValues_self {read : β → Option α} {write : α → β}
    (h : ∀ a, read (write a) = some a) (d : Dict String α) :
    (d.mapValues write).read? read = some d := by
  rw [read?_mapValues h, mapValues_eq_self fun _ _ => rfl]

theorem traverse_mapValues {γ : Type} {read : β → Except ε α} {write : γ → β} {f : γ → α}
    (h : ∀ c, read (write c) = .ok (f c)) (d : Dict String γ) :
    (d.mapValues write).traverse read = .ok (d.mapValues f) := by
  have hone : ∀ e : String × γ, (do
      let a ← read (write e.2)
      .ok (e.1, a)) = (.ok (e.1, f e.2) : Except ε _) := by
    intro e
    rw [h, Fallible.ok_bind]
  have hlist : (d.entries.map fun e => (e.1, write e.2)).mapM (fun e => do
      let a ← read e.2
      .ok (e.1, a)) = .ok (d.entries.map fun e => (e.1, f e.2)) :=
    Fallible.mapM_map hone d.entries
  rw [traverse, entries_mapValues, hlist, Fallible.ok_bind, ← entries_mapValues, ofList_entries]

theorem traverse_eq (f : α → Except ε β) (d : Dict String α) :
    d.traverse f = ofList <$> d.entries.mapM fun e => Prod.mk e.1 <$> f e.2 := by
  have hstep : ∀ e : String × α, (do
      let b ← f e.2
      .ok (e.1, b)) = Prod.mk e.1 <$> f e.2 := by
    intro e
    cases f e.2 <;> rfl
  rw [traverse]
  simp only [hstep]
  cases d.entries.mapM fun e => Prod.mk e.1 <$> f e.2 <;> rfl

theorem exists_ok_traverse {f : α → Except ε β} {d : Dict String α} :
    (∃ d', d.traverse f = .ok d') ↔ ∀ e ∈ d.entries, ∃ b, f e.2 = .ok b := by
  rw [traverse_eq, Fallible.exists_ok_map, Fallible.exists_ok_mapM]
  exact forall₂_congr fun e _ => Fallible.exists_ok_map

/-- Only the first value that fails can raise. -/
theorem raisesOnly_traverse {C : ε → Prop} {f : α → Except ε β} {d : Dict String α} :
    Fallible.RaisesOnly C (d.traverse f) ↔
      Fallible.UpToFirst (fun e => ∃ b, f e.2 = .ok b) (fun e => Fallible.RaisesOnly C (f e.2))
        d.entries := by
  rw [traverse_eq, Fallible.raisesOnly_map, Fallible.raisesOnly_mapM]
  exact Fallible.upToFirst_congr (fun e => Fallible.exists_ok_map)
    (fun e => Fallible.raisesOnly_map) _

end Dict

end Library
