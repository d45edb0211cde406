import DistributedSmb.Network.Serializer

/-!
# What a decoder raises

Python reads the objects of a world state one after the other, and the first one that does not
have the shape its constructor expects decides which exception leaves the decoder. Only
`ValueError`s are caught around UDP messages; around WebSocket messages `TypeError`s are too.
-/

namespace DistributedSmb

open Library Fallible

/-- The exceptions a caller catches: every `ValueError`, and `TypeError` where it is `lenient`. -/
def Caught (lenient : Prop) (e : PyError) : Prop := e.isValueError ∨ lenient ∧ e = .typeError

section
variable {lenient : Prop}

@[simp] theorem caught_typeError : Caught lenient .typeError ↔ lenient := by
  simp [Caught, PyError.isValueError]

@[simp] theorem caught_valueError (message : String) : Caught lenient (.valueError message) :=
  .inl rfl

@[simp] theorem not_caught_keyError (key : String) : ¬ Caught lenient (.keyError key) := by
  simp [Caught, PyError.isValueError]

@[simp] theorem not_caught_attributeError (name : String) :
    ¬ Caught lenient (.attributeError name) := by simp [Caught, PyError.isValueError]

/-! ## Constructors -/

/-- The keyword arguments that a constructor takes. -/
def Signature.Accepts (sig : Signature) (v : Json) : Prop :=
  ∃ kw, v.dict? = some kw ∧ (∀ key ∈ kw.keys, key ∈ sig.required ++ sig.optional) ∧
    ∀ key ∈ sig.required, key ∈ kw

theorem Signature.call_spec (sig : Signature) (v : Json) :
    (∃ kw, v.dict? = some kw ∧ sig.call v = .ok kw ∧ sig.Accepts v) ∨
      (sig.call v = .error .typeError ∧ ¬ sig.Accepts v) := by
  cases hdict : v.dict? with
  | none =>
    refine .inr ⟨by rw [call, unpackMapping, hdict]; rfl, ?_⟩
    rintro ⟨kw, hkw, -⟩
    rw [hdict] at hkw
    cases hkw
  | some kw =>
    by_cases h : (∀ key ∈ kw.keys, key ∈ sig.required ++ sig.optional) ∧
      ∀ key ∈ sig.required, key ∈ kw
    · exact .inl ⟨kw, rfl, by rw [call, unpackMapping, hdict, ok_bind, if_pos h], kw, hdict, h⟩
    · refine .inr ⟨by rw [call, unpackMapping, hdict, ok_bind, if_neg h], ?_⟩
      rintro ⟨kw', hkw', hfit⟩
      rw [hdict] at hkw'
      cases hkw'
      exact h hfit

theorem Signature.exists_ok_call {sig : Signature} {v : Json} :
    (∃ a, sig.call v = .ok a) ↔ sig.Accepts v := by
  obtain ⟨kw, -, hcall, haccepts⟩ | ⟨hcall, hnot⟩ := sig.call_spec v
  · simp [hcall, haccepts]
  · simp [hcall, hnot]

theorem Signature.raisesOnly_call {sig : Signature} {v : Json} :
    RaisesOnly (Caught lenient) (sig.call v) ↔ lenient ∨ sig.Accepts v := by
  obtain ⟨kw, -, hcall, haccepts⟩ | ⟨hcall, hnot⟩ := sig.call_spec v
  · simp [hcall, haccepts]
  · simp [hcall, hnot]

/-- What `set(v)` can be taken of. -/
def SetFits (v : Json) : Prop := ∃ items, iterate v = .ok items ∧ items.all hashable

theorem iterate_error {v : Json} {e : PyError} (h : iterate v = .error e) : e = .typeError := by
  cases v <;> cases h <;> rfl

theorem setOf_spec (v : Json) :
    (∃ items, setOf v = .ok items ∧ SetFits v) ∨ (setOf v = .error .typeError ∧ ¬ SetFits v) := by
  cases hiter : iterate v with
  | error e =>
    obtain rfl := iterate_error hiter
    refine .inr ⟨by rw [setOf, hiter]; rfl, ?_⟩
    rintro ⟨items, hitems, -⟩
    rw [hiter] at hitems
    cases hitems
  | ok items =>
    by_cases hall : items.all hashable = true
    · exact .inl ⟨items, by rw [setOf, hiter, ok_bind, if_pos hall], items, hiter, hall⟩
    · refine .inr ⟨by rw [setOf, hiter, ok_bind, if_neg hall], ?_⟩
      rintro ⟨items', hitems', hall'⟩
      rw [hiter] at hitems'
      cases hitems'
      exact hall hall'

def GateFits (v : Json) : Prop :=
  CooperativeGate.signature.Accepts v ∧
    ∃ members contributions, v.dict? = some members ∧
      members.get? "contributions" = some contributions ∧ SetFits contributions

/-- A missing `contributions` is a `KeyError`, everything else a `TypeError`. -/
def GateReadable (lenient : Prop) (v : Json) : Prop :=
  (∀ members, v.dict? = some members → "contributions" ∈ members) ∧ (lenient ∨ GateFits v)

theorem accepts_set (sig : Signature) {v : Json} {members : Dict String Json}
    (hdict : v.dict? = some members) {key : String} (hkey : key ∈ members) (a : Json) :
    sig.Accepts (Json.ofDict (members.set key a)) ↔ sig.Accepts v := by
  simp only [Signature.Accepts, hdict, Json.dict?_ofDict, Option.some.injEq, exists_eq_left',
    Dict.mem_iff, Dict.keys_set_of_mem hkey]

theorem CooperativeGate.new_spec (v : Json) :
    (∃ a, CooperativeGate.new v = .ok a ∧ GateFits v) ∨
      (CooperativeGate.new v = .error .typeError ∧ ¬ GateFits v ∧
        ∀ members, v.dict? = some members → "contributions" ∈ members) ∨
      (CooperativeGate.new v = .error (.keyError "contributions") ∧ ¬ GateFits v ∧
        ∃ members, v.dict? = some members ∧ "contributions" ∉ members) := by
  cases hdict : v.dict? with
  | none =>
    refine .inr (.inl ⟨by rw [new, unpackMapping, hdict]; rfl, ?_, by simp⟩)
    rintro ⟨-, members, -, hmembers, -⟩
    rw [hdict] at hmembers
    cases hmembers
  | some members =>
    have hnew : CooperativeGate.new v = (do
        let contributions ← lookUp members "contributions"
        let contributions ← setOf contributions
        signature.call (Json.ofDict (members.set "contributions" (.arr contributions)))) := by
      rw [new, unpackMapping, hdict, ok_bind]
    cases hget : members.get? "contributions" with
    | none =>
      refine .inr (.inr ⟨by rw [hnew, lookUp, hget]; rfl, ?_, members, rfl,
        Dict.get?_eq_none_iff.mp hget⟩)
      rintro ⟨-, members', c, hmembers', hc, -⟩
      rw [hdict] at hmembers'
      cases hmembers'
      rw [hget] at hc
      cases hc
    | some contributions =>
      have hmem := Dict.mem_of_get?_eq_some hget
      have hhas : ∀ m, some members = some m → "contributions" ∈ m := by
        rintro _ ⟨⟩
        exact hmem
      have hfits : GateFits v ↔ signature.Accepts v ∧ SetFits contributions := by
        simp [GateFits, hdict, hget]
      rw [lookUp, hget, ok_bind] at hnew
      obtain ⟨items, hset, hsetFits⟩ | ⟨hset, hnot⟩ := setOf_spec contributions
      · rw [hset, ok_bind] at hnew
        have haccepts := accepts_set signature hdict hmem (.arr items)
        obtain ⟨kw, -, hcall, hok⟩ | ⟨hcall, hbad⟩ :=
          signature.call_spec (Json.ofDict (members.set "contributions" (.arr items)))
        · exact .inl ⟨kw, hnew.trans hcall, hfits.mpr ⟨haccepts.mp hok, hsetFits⟩⟩
        · exact .inr (.inl ⟨hnew.trans hcall, fun h => hbad (haccepts.mpr (hfits.mp h).1), hhas⟩)
      · rw [hset] at hnew
        exact .inr (.inl ⟨hnew, fun h => hnot (hfits.mp h).2, hhas⟩)

theorem GateFits.contributions {v : Json} (h : GateFits v) :
    ∀ members, v.dict? = some members → "contributions" ∈ members := by
  obtain ⟨-, members', c, hdict, hget, -⟩ := h
  intro members hmembers
  obtain rfl : members' = members := Option.some.inj (hdict.symm.trans hmembers)
  exact Dict.mem_of_get?_eq_some hget

theorem CooperativeGate.exists_ok_new {v : Json} :
    (∃ a, CooperativeGate.new v = .ok a) ↔ GateFits v := by
  obtain ⟨a, hnew, hfits⟩ | ⟨hnew, hnot, -⟩ | ⟨hnew, hnot, -⟩ := new_spec v
  · simp [hnew, hfits]
  · simp [hnew, hnot]
  · simp [hnew, hnot]

theorem CooperativeGate.raisesOnly_new {v : Json} :
    RaisesOnly (Caught lenient) (CooperativeGate.new v) ↔ GateReadable lenient v := by
  obtain ⟨a, hnew, hfits⟩ | ⟨hnew, hnot, hhas⟩ | ⟨hnew, hnot, members, hdict, hmissing⟩ :=
    new_spec v
  · simpa [hnew] using show GateReadable lenient v from ⟨hfits.contributions, .inr hfits⟩
  · simpa [hnew, GateReadable, hnot] using fun _ => hhas
  · simp [hnew, GateReadable, hdict, hmissing]

/-- The type of an enemy, where it is given, is one of ours. -/
def TypeKnown (kw : Attributes) : Prop := (kw.fieldD "enemy_type" enemyTypeOf? .koopa).isSome

def EnemyFits (v : Json) : Prop :=
  Enemy.signature.Accepts v ∧
    ∃ kw, v.dict? = some kw ∧ TypeKnown kw ∧ Enemy.speedKnown kw

/-- An unknown type is a `ValueError`, everything else a `TypeError`. -/
def EnemyReadable (lenient : Prop) (v : Json) : Prop :=
  lenient ∨ Enemy.signature.Accepts v ∧
    ∀ kw, v.dict? = some kw → TypeKnown kw → Enemy.speedKnown kw

theorem Enemy.new_spec (v : Json) :
    (Enemy.new v = .error .typeError ∧ ¬ Enemy.signature.Accepts v) ∨
      ∃ kw, v.dict? = some kw ∧ Enemy.signature.Accepts v ∧ Enemy.new v = (do
        Enemy.postInit kw
        .ok kw) := by
  obtain ⟨kw, hdict, hcall, haccepts⟩ | ⟨hcall, hnot⟩ := Enemy.signature.call_spec v
  · exact .inr ⟨kw, hdict, haccepts, by rw [new, hcall, ok_bind]⟩
  · exact .inl ⟨by rw [new, hcall]; rfl, hnot⟩

theorem Enemy.exists_ok_new {v : Json} : (∃ a, Enemy.new v = .ok a) ↔ EnemyFits v := by
  obtain ⟨hnew, hnot⟩ | ⟨kw, hdict, haccepts, hnew⟩ := new_spec v
  · simp [hnew, EnemyFits, hnot]
  · cases htype : kw.fieldD "enemy_type" enemyTypeOf? .koopa <;>
      cases hspeed : speedKnown kw <;>
      simp [hnew, EnemyFits, haccepts, hdict, TypeKnown, postInit, htype, hspeed]

theorem Enemy.raisesOnly_new {v : Json} :
    RaisesOnly (Caught lenient) (Enemy.new v) ↔ EnemyReadable lenient v := by
  obtain ⟨hnew, hnot⟩ | ⟨kw, hdict, haccepts, hnew⟩ := new_spec v
  · simp [hnew, EnemyReadable, hnot]
  · cases htype : kw.fieldD "enemy_type" enemyTypeOf? .koopa <;>
      cases hspeed : speedKnown kw <;>
      simp [hnew, EnemyReadable, haccepts, hdict, TypeKnown, postInit, htype, hspeed]

/-! ## World states -/

/-- A part of the environment, or what a missing one counts as. -/
def environmentPart (w : Dict String Json) (name : String) (default : Json) : Json :=
  ((w.getD "environment" (.obj [])).dict?.getD ∅).getD name default

def ItemsFit (fits : Json → Prop) (v : Json) : Prop :=
  ∀ d, v.dict? = some d → ∀ e ∈ d.entries, fits e.2

/-- Every item up to the first one that does not fit. -/
def ItemsReadable (fits readable : Json → Prop) (v : Json) : Prop :=
  ∀ d, v.dict? = some d → UpToFirst (fun e => fits e.2) (fun e => readable e.2) d.entries

def PlayersFit (w : Dict String Json) : Prop :=
  ItemsFit Player.signature.Accepts (w.getD "characters" .null)

def BlocksFit (w : Dict String Json) : Prop :=
  ∃ items, iterate (environmentPart w "destructible_blocks" (.arr [])) = .ok items ∧
    ∀ item ∈ items, DestructibleBlock.signature.Accepts item

def PowerUpsFit (w : Dict String Json) : Prop :=
  ItemsFit ExclusivePowerUp.signature.Accepts (environmentPart w "power_ups" (.obj []))

def GatesFit (w : Dict String Json) : Prop :=
  ItemsFit GateFits (environmentPart w "cooperative_gates" (.obj []))

def EnemiesFit (w : Dict String Json) : Prop :=
  ItemsFit EnemyFits (environmentPart w "enemies" (.obj []))

def IsObject (v : Json) : Prop := v.dict?.isSome

/-! What the members of a world state must be like, from the last part that is read to the first:
what comes after something that does not fit is not read any more. -/

def EnemiesReadable (lenient : Prop) (w : Dict String Json) : Prop :=
  let enemies := environmentPart w "enemies" (.obj [])
  IsObject enemies ∧ ItemsReadable EnemyFits (EnemyReadable lenient) enemies ∧
    (EnemiesFit w → "sequence_number" ∈ w)

def GatesReadable (lenient : Prop) (w : Dict String Json) : Prop :=
  let gates := environmentPart w "cooperative_gates" (.obj [])
  IsObject gates ∧ ItemsReadable GateFits (GateReadable lenient) gates ∧
    (GatesFit w → EnemiesReadable lenient w)

def PowerUpsReadable (lenient : Prop) (w : Dict String Json) : Prop :=
  IsObject (environmentPart w "power_ups" (.obj [])) ∧ (lenient ∨ PowerUpsFit w) ∧
    (PowerUpsFit w → GatesReadable lenient w)

def BlocksReadable (lenient : Prop) (w : Dict String Json) : Prop :=
  (lenient ∨ BlocksFit w) ∧ (BlocksFit w → PowerUpsReadable lenient w)

def WorldReadable (lenient : Prop) (w : Dict String Json) : Prop :=
  IsObject (w.getD "environment" (.obj [])) ∧ IsObject (w.getD "characters" .null) ∧
    (lenient ∨ PlayersFit w) ∧ (PlayersFit w → BlocksReadable lenient w)

theorem raisesOnly_items {f : Json → Except PyError Attributes} {fits readable : Json → Prop}
    (succeeds : ∀ v, (∃ a, f v = .ok a) ↔ fits v)
    (raises : ∀ v, RaisesOnly (Caught lenient) (f v) ↔ readable v) {β : Type}
    {rest : Dict String Attributes → Except PyError β} {Q : Prop}
    (hrest : ∀ d, RaisesOnly (Caught lenient) (rest d) ↔ Q) (v : Json) :
    RaisesOnly (Caught lenient) (do
        let d ← dictItems v
        let d ← d.traverse f
        rest d) ↔
      IsObject v ∧ ItemsReadable fits readable v ∧ (ItemsFit fits v → Q) := by
  cases hdict : v.dict? with
  | none => simp [dictItems, hdict, IsObject]
  | some d =>
    have hraises : RaisesOnly (Caught lenient) (d.traverse f) ↔ ItemsReadable fits readable v := by
      rw [Dict.raisesOnly_traverse, ItemsReadable, hdict]
      simp only [Option.some.injEq, forall_eq']
      exact upToFirst_congr (fun _ => succeeds _) (fun _ => raises _) _
    have hsucceeds : (∃ d', d.traverse f = .ok d') ↔ ItemsFit fits v := by
      rw [Dict.exists_ok_traverse, ItemsFit, hdict]
      simp only [Option.some.injEq, forall_eq']
      exact forall₂_congr fun e _ => succeeds e.2
    rw [dictItems, hdict, ok_bind, raisesOnly_bind_iff hraises hsucceeds fun d _ => hrest d]
    simp [IsObject, hdict]

/-- The same for constructors whose every refusal is a `TypeError`. -/
theorem raisesOnly_calls {sig : Signature} {β : Type}
    {rest : Dict String Attributes → Except PyError β} {Q : Prop}
    (hrest : ∀ d, RaisesOnly (Caught lenient) (rest d) ↔ Q) (v : Json) :
    RaisesOnly (Caught lenient) (do
        let d ← dictItems v
        let d ← d.traverse sig.call
        rest d) ↔
      IsObject v ∧ (lenient ∨ ItemsFit sig.Accepts v) ∧ (ItemsFit sig.Accepts v → Q) := by
  rw [raisesOnly_items (fun _ => sig.exists_ok_call) (fun _ => sig.raisesOnly_call) hrest]
  cases hdict : v.dict? with
  | none => simp [IsObject, hdict]
  | some d => simp [ItemsReadable, ItemsFit, hdict, upToFirst_or]

theorem raisesOnly_blocks {β : Type} {rest : List Attributes → Except PyError β} {Q : Prop}
    (hrest : ∀ l, RaisesOnly (Caught lenient) (rest l) ↔ Q) {w : Dict String Json} {v : Json}
    (hv : v = environmentPart w "destructible_blocks" (.arr [])) :
    RaisesOnly (Caught lenient) (do
        let items ← iterate v
        let items ← items.mapM DestructibleBlock.new
        rest items) ↔ (lenient ∨ BlocksFit w) ∧ (BlocksFit w → Q) := by
  subst hv
  cases hiter : iterate (environmentPart w "destructible_blocks" (.arr [])) with
  | error e =>
    obtain rfl := iterate_error hiter
    simp [BlocksFit, hiter]
  | ok items =>
    have hfits : BlocksFit w ↔ ∀ item ∈ items, DestructibleBlock.signature.Accepts item := by
      simp [BlocksFit, hiter]
    have hraises : RaisesOnly (Caught lenient) (items.mapM DestructibleBlock.new) ↔
        lenient ∨ BlocksFit w := by
      rw [raisesOnly_mapM, hfits, ← upToFirst_or]
      exact upToFirst_congr (fun _ => Signature.exists_ok_call)
        (fun _ => Signature.raisesOnly_call) _
    have hsucceeds : (∃ l, items.mapM DestructibleBlock.new = .ok l) ↔ BlocksFit w := by
      rw [exists_ok_mapM, hfits]
      exact forall₂_congr fun _ _ => Signature.exists_ok_call
    rw [ok_bind, raisesOnly_bind_iff hraises hsucceeds fun l _ => hrest l]

theorem raisesOnly_decodeWorldState (w : Dict String Json) :
    RaisesOnly (Caught lenient) (decodeWorldState w) ↔ WorldReadable lenient w := by
  cases henv : (w.getD "environment" (.obj [])).dict? with
  | none => simp [decodeWorldState, dictGet, henv, WorldReadable, IsObject]
  | some env =>
    have hpart (name : String) (default : Json) :
        environmentPart w name default = env.getD name default := by simp [environmentPart, henv]
    have hdecode : decodeWorldState w = WorldState.fromDict (w.set "environment"
        (.ofDict (normalizedEnvironment (environmentPart w "destructible_blocks" (.arr []))
          (environmentPart w "power_ups" (.obj []))
          (environmentPart w "cooperative_gates" (.obj []))
          (environmentPart w "enemies" (.obj []))))) := by
      simp [decodeWorldState, dictGet, henv, hpart]
    have hcharacters := Dict.get?_set_ne w (show "characters" ≠ "environment" by decide)
    have hsequence := Dict.get?_set_ne w (show "sequence_number" ≠ "environment" by decide)
    rw [hdecode, WorldState.fromDict, lookUp, hcharacters]
    cases hget : w.get? "characters" with
    | none => simp [WorldReadable, Dict.getD, hget, IsObject, Json.dict?]
    | some characters =>
      rw [ok_bind]
      refine (raisesOnly_calls (Q := BlocksReadable lenient w) (fun players => ?_) _).trans ?_
      · rw [lookUp, Dict.get?_set_self, ok_bind]
        simp only [subscript, Json.dict?_ofDict, lookUp, normalizedEnvironment, Dict.get?_mk_cons,
          String.reduceEq, if_true, if_false, ok_bind, dictGet, Dict.getD, Option.getD_some,
          hsequence]
        refine raisesOnly_blocks (Q := PowerUpsReadable lenient w) (fun blocks => ?_) rfl
        refine raisesOnly_calls (Q := GatesReadable lenient w) (fun powerUps => ?_) _
        refine raisesOnly_items (Q := EnemiesReadable lenient w)
          (fun _ => CooperativeGate.exists_ok_new) (fun _ => CooperativeGate.raisesOnly_new)
          (fun gates => ?_) _
        refine raisesOnly_items (Q := "sequence_number" ∈ w)
          (fun _ => Enemy.exists_ok_new) (fun _ => Enemy.raisesOnly_new) (fun enemies => ?_) _
        cases hnumber : w.get? "sequence_number" with
        | none => simpa using Dict.get?_eq_none_iff.mp hnumber
        | some number => simpa using Dict.mem_of_get?_eq_some hnumber
      · have hobject : IsObject (w.getD "environment" (.obj [])) := by
          rw [IsObject, henv]
          rfl
        have hgetD : w.getD "characters" .null = characters := by
          rw [Dict.getD, hget, Option.getD_some]
        rw [WorldReadable, PlayersFit, hgetD, and_iff_right hobject]

end

/-! ## Checks

Every check of the repository raises a `ValueError`. -/

section
variable {lenient : Prop}

@[simp] theorem caught_messageValidationError (message : String) :
    Caught lenient (.messageValidationError message) := .inl rfl

@[simp] theorem caught_rosterValidationError (message : String) :
    Caught lenient (.rosterValidationError message) := .inl rfl

@[simp] theorem caught_deserializationError (message : String) :
    Caught lenient (.deserializationError message) := .inl rfl

@[simp] theorem raisesOnly_requireText (field value : String) :
    RaisesOnly (Caught lenient) (requireText field value) := by
  rw [requireText]
  split <;> simp

@[simp] theorem raisesOnly_requirePort (message : String) (port : ℕ) :
    RaisesOnly (Caught lenient) (requirePort message port) := by
  rw [requirePort]
  split <;> simp

@[simp] theorem raisesOnly_require (condition : Prop) [Decidable condition] (message : String) :
    RaisesOnly (Caught lenient) (require condition message) := by
  rw [require]
  split <;> simp

theorem raisesOnly_requireReserved (joinIndex : ℤ) :
    RaisesOnly (Caught lenient) (requireReserved joinIndex) := by
  simp [requireReserved, requireJoinIndex, raisesOnly_bind]

theorem raisesOnly_sessionJoin_checked (m : SessionJoin) :
    RaisesOnly (Caught lenient) m.checked := by
  cases h : m.rejoinJoinIndex <;>
    simp [SessionJoin.checked, requireLobbyPort, requireSlot, raisesOnly_bind, h]

theorem raisesOnly_sessionRecreate_checked (m : SessionRecreate) :
    RaisesOnly (Caught lenient) m.checked := by
  have hreserved : RaisesOnly (Caught lenient) (forM m.reservedJoinIndices requireReserved) := by
    induction m.reservedJoinIndices with
    | nil => exact raisesOnly_ok _
    | cons i l ih => exact raisesOnly_bind.mpr ⟨raisesOnly_requireReserved i, fun _ _ => ih⟩
  simp [SessionRecreate.checked, requireLobbyPort, requireSlot, raisesOnly_bind, hreserved]

@[simp] theorem raisesOnly_pure {α : Type} (a : α) :
    RaisesOnly (Caught lenient) (pure a : Except PyError α) := raisesOnly_ok a

theorem WsPayload.raisesOnly_postInit (m : WsPayload) :
    RaisesOnly (Caught lenient) m.postInit := by
  cases m with
  | sessionJoin m => simpa [postInit, raisesOnly_map] using raisesOnly_sessionJoin_checked m
  | sessionRecreate m =>
    simpa [postInit, raisesOnly_map] using raisesOnly_sessionRecreate_checked m
  | rosterUpdate roster =>
    rw [postInit, WsMessage.validate]
    split <;> simp
  | _ =>
    simp [postInit, raisesOnly_bind, SessionCreate.checked, requireLobbyPort,
      ServerMessage.validate, requireJoinIndex, WsMessage.validate, NewHostClaim.checked,
      ElectionAck.checked, ReconnectionAck.checked]

theorem UdpMessage.raisesOnly_postInit (m : UdpMessage) :
    RaisesOnly (Caught lenient) m.postInit := by
  cases m with
  | election m =>
    cases m <;>
      simp [postInit, raisesOnly_bind, NewHostClaim.checked, ElectionAck.checked,
        ReconnectionAck.checked]
  | _ =>
    simp [postInit, raisesOnly_bind, PlayerInputPacket.checked, HostDiscoveryProbe.checked,
      HostIdentityResponse.checked]

@[simp] theorem raisesOnly_built (m : WsPayload) : RaisesOnly (Caught lenient) (built m) := by
  simpa [built, raisesOnly_bind] using m.raisesOnly_postInit

@[simp] theorem raisesOnly_builtUdp (m : UdpMessage) :
    RaisesOnly (Caught lenient) (builtUdp m) := by
  simpa [builtUdp, raisesOnly_bind] using m.raisesOnly_postInit

@[simp] theorem raisesOnly_validated {α : Type} (invalid : String) (fields : Option α) :
    RaisesOnly (Caught lenient) (validated invalid fields) := by
  cases fields <;> simp [validated]

@[simp] theorem raisesOnly_blockDestroyedAt (position : List ℤ) :
    RaisesOnly (Caught lenient) (blockDestroyedAt position) := by
  obtain _ | ⟨x, _ | ⟨y, _ | ⟨z, rest⟩⟩⟩ := position <;> simp [blockDestroyedAt]

theorem raisesOnly_addEntry (roster : GlobalRoster) (fields : String × Ip × ℕ × ℕ × String × Bool) :
    RaisesOnly (Caught lenient) (addEntry roster fields) := by
  obtain ⟨playerId, host, udpPort, joinIndex, status, isHost⟩ := fields
  have hstatus : RaisesOnly (Caught lenient) (connectionStatusOf status) := by
    rw [connectionStatusOf]
    split
    · simp
    · split <;> simp
  have hentry (e : RosterEntry) : RaisesOnly (Caught lenient) e.postInit := by
    rw [RosterEntry.postInit]
    split
    · simp
    · split
      · simp
      · split <;> simp
  have hadd (e : RosterEntry) : RaisesOnly (Caught lenient) (roster.addPlayer e) := by
    rw [GlobalRoster.addPlayer]
    split <;> simp
  simp [addEntry, raisesOnly_bind, hstatus, hentry, hadd]

end

/-! ## Documents -/

section
variable (py : Runtime)

/-- A document that a WebSocket receiver survives: an object, and a readable world if it carries
one. -/
def WsReadable (document : Json) : Prop :=
  ∃ data, document.dict? = some data ∧
    (MessageType.of data = some .initialStateSync →
      ∀ w, initialStateSyncSchema data = some w → WorldReadable True w)

/-- A document that a caller catching `ValueError` survives. -/
def UdpReadable (document : Json) : Prop :=
  ∃ data, document.dict? = some data ∧
    (MessageType.of data = some .playerInput → ∀ playerId sequenceNumber inputState,
      playerInputSchema py data = some (playerId, sequenceNumber, inputState) →
        ∀ key ∈ inputState.keys, key ∈ ["left", "right", "jump", "down"]) ∧
    (MessageType.of data = some .worldState → ∀ sequenceNumber w,
      worldStateSchema py data = some (sequenceNumber, w) → WorldReadable False w)

theorem raisesOnly_decodeWs (data : Dict String Json) :
    RaisesOnly (Caught True) (decodeWs py data) ↔
      (MessageType.of data = some .initialStateSync →
        ∀ w, initialStateSyncSchema data = some w → WorldReadable True w) := by
  cases htype : MessageType.of data with
  | none => simp [decodeWs, htype]
  | some t =>
    cases t with
    | initialStateSync =>
      cases hschema : initialStateSyncSchema data with
      | none => simp [decodeWs, htype, hschema, validated]
      | some w =>
        simp [decodeWs, htype, hschema, validated, raisesOnly_bind, raisesOnly_decodeWorldState]
    | rosterUpdate =>
      simp [decodeWs, htype, raisesOnly_bind, raisesOnly_foldlM raisesOnly_addEntry]
    | _ => simp [decodeWs, htype, raisesOnly_bind]

theorem raisesOnly_decodeUdp (data : Dict String Json) :
    RaisesOnly (Caught False) (decodeUdp py data) ↔
    (MessageType.of data = some .playerInput → ∀ playerId sequenceNumber inputState,
      playerInputSchema py data = some (playerId, sequenceNumber, inputState) →
        ∀ key ∈ inputState.keys, key ∈ ["left", "right", "jump", "down"]) ∧
    (MessageType.of data = some .worldState → ∀ sequenceNumber w,
      worldStateSchema py data = some (sequenceNumber, w) → WorldReadable False w) := by
  cases htype : MessageType.of data with
  | none => simp [decodeUdp, htype]
  | some t =>
    cases t with
    | playerInput =>
      cases hschema : playerInputSchema py data with
      | none => simp [decodeUdp, htype, hschema, validated]
      | some fields =>
        obtain ⟨playerId, sequenceNumber, inputState⟩ := fields
        have haccepts : InputState.signature.Accepts (.ofDict inputState) ↔
            ∀ key ∈ inputState.keys, key ∈ ["left", "right", "jump", "down"] := by
          simp [Signature.Accepts, InputState.signature]
        simp [decodeUdp, htype, hschema, validated, raisesOnly_bind, Signature.raisesOnly_call,
          haccepts]
    | worldState =>
      cases hschema : worldStateSchema py data with
      | none => simp [decodeUdp, htype, hschema, validated]
      | some fields =>
        obtain ⟨sequenceNumber, w⟩ := fields
        simp [decodeUdp, htype, hschema, validated, raisesOnly_bind, raisesOnly_decodeWorldState]
    | _ => simp [decodeUdp, htype, raisesOnly_bind]

theorem raisesOnly_decodeWsMessage (document : Json) :
    RaisesOnly (Caught True) (decodeWsMessage py document) ↔ WsReadable document := by
  cases hdict : document.dict? with
  | none => simp [decodeWsMessage, WsReadable, hdict]
  | some data => simp [decodeWsMessage, WsReadable, hdict, raisesOnly_decodeWs]

theorem raisesOnly_decodeMessage (document : Json) :
    RaisesOnly (Caught False) (decodeMessage py document) ↔ UdpReadable py document := by
  cases hdict : document.dict? with
  | none => simp [decodeMessage, UdpReadable, hdict]
  | some data => simp [decodeMessage, UdpReadable, hdict, raisesOnly_decodeUdp]

/-- What is no text or no document is refused with a `ValueError`. -/
theorem JsonText.raisesOnly_decodeMessage (text : JsonText) (payload : ByteArray) :
    RaisesOnly (Caught False) (text.decodeMessage py payload) ↔
      ∀ document, text.decode payload = .ok document → UdpReadable py document := by
  have hdecode : RaisesOnly (Caught False) (text.decode payload) := by
    rw [JsonText.decode]
    split
    case h_1 string _ => exact fun e he => .inl (text.loads_error string e he)
    case h_2 => simp
  simp only [JsonText.decodeMessage, raisesOnly_bind, hdecode, true_and]
  exact forall₂_congr fun document _ => DistributedSmb.raisesOnly_decodeMessage py document

end

end DistributedSmb
