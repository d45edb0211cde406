import DistributedSmb.Domain.World
import DistributedSmb.Library.Json
import Mathlib.Data.Finset.Sort
import Mathlib.Data.String.Basic

/-!
# World states as dictionaries

`WorldState.to_dict` and `WorldState.from_dict`. Python does not check the types of attributes, so
`fromDict` returns the objects with whatever values they were given; `RawWorld.typed` is the
world state that these objects are when every attribute has its declared type.
-/

namespace DistributedSmb

open Library

/-! ## Python's operations on a value of any type -/

/-- `**v` -/
def unpackMapping (v : Json) : Except PyError (Dict String Json) :=
  match v.dict? with
  | some d => .ok d
  | none => .error .typeError

/-- `v.items()` -/
def dictItems (v : Json) : Except PyError (Dict String Json) :=
  match v.dict? with
  | some d => .ok d
  | none => .error (.attributeError "items")

/-- `d[key]` for a dictionary. -/
def lookUp (d : Dict String Json) (key : String) : Except PyError Json :=
  match d.get? key with
  | some v => .ok v
  | none => .error (.keyError key)

/-- `v[key]` for any value: only a dictionary has a text as index. -/
def subscript (v : Json) (key : String) : Except PyError Json :=
  match v.dict? with
  | some d => lookUp d key
  | none => .error .typeError

/-- `v.get(key, default)` -/
def dictGet (v : Json) (key : String) (default : Json) : Except PyError Json :=
  match v.dict? with
  | some d => .ok (d.getD key default)
  | none => .error (.attributeError "get")

/-- What a loop over `v` visits. -/
def iterate : Json → Except PyError (List Json)
  | .arr items => .ok items
  | .str s => .ok (s.toList.map fun c => .str c.toString)
  | .obj members => .ok ((Dict.ofList members).keys.map .str)
  | _ => .error .typeError

def hashable : Json → Bool
  | .arr _ | .obj _ => false
  | _ => true

/-- `set(v)`, as the list of what was put in. -/
def setOf (v : Json) : Except PyError (List Json) := do
  let items ← iterate v
  if items.all hashable then .ok items else .error .typeError

/-! ## Constructors -/

/-- The attributes of an object, those left to their defaults excepted. -/
abbrev Attributes := Dict String Json

/-- The keyword arguments of a dataclass, in the order of its fields. -/
structure Signature where
  required : List String
  optional : List String
  distinct : (required ++ optional).Nodup := by decide

/-- `Cls(**v)`: unknown and missing arguments are refused, values are not looked at. -/
def Signature.call (sig : Signature) (v : Json) : Except PyError Attributes := do
  let kw ← unpackMapping v
  if (∀ key ∈ kw.keys, key ∈ sig.required ++ sig.optional) ∧ ∀ key ∈ sig.required, key ∈ kw then
    .ok kw
  else .error .typeError

namespace Player

def signature : Signature where
  required := ["player_id"]
  optional := ["x", "y", "vx", "vy", "width", "height", "on_ground", "is_crouching", "prev_x",
    "prev_y", "join_index", "powerup_effect_expires_at"]

def asdict (p : Player) : Json :=
  .obj
    [("player_id", .str p.playerId), ("x", .num p.x), ("y", .num p.y), ("vx", .num p.vx),
      ("vy", .num p.vy), ("width", .num p.width), ("height", .num p.height),
      ("on_ground", .bool p.onGround), ("is_crouching", .bool p.isCrouching),
      ("prev_x", .num p.prevX), ("prev_y", .num p.prevY), ("join_index", .num p.joinIndex),
      ("powerup_effect_expires_at", Json.ofOption .num p.powerupEffectExpiresAt)]

def new (v : Json) : Except PyError Attributes := signature.call v

def typed (a : Attributes) : Option Player := do
  let playerId ← a.field "player_id" Json.str?
  let x ← a.fieldD "x" Json.num? 0
  let y ← a.fieldD "y" Json.num? 0
  let vx ← a.fieldD "vx" Json.num? 0
  let vy ← a.fieldD "vy" Json.num? 0
  let width ← a.fieldD "width" Json.int? playerWidth
  let height ← a.fieldD "height" Json.int? playerHeight
  let onGround ← a.fieldD "on_ground" Json.bool? false
  let isCrouching ← a.fieldD "is_crouching" Json.bool? false
  let prevX ← a.fieldD "prev_x" Json.num? 0
  let prevY ← a.fieldD "prev_y" Json.num? 0
  let joinIndex ← a.fieldD "join_index" Json.nat? 0
  let powerupEffectExpiresAt ← a.fieldD "powerup_effect_expires_at" (Json.orNull? Json.num?) none
  some ⟨playerId, x, y, vx, vy, width, height, onGround, isCrouching, prevX, prevY, joinIndex,
    powerupEffectExpiresAt⟩

end Player

namespace DestructibleBlock

def signature : Signature where
  required := ["x", "y"]
  optional := ["width", "height", "destroyed"]

def asdict (b : DestructibleBlock) : Json :=
  .obj
    [("x", .num b.x), ("y", .num b.y), ("width", .num b.width), ("height", .num b.height),
      ("destroyed", .bool b.destroyed)]

def new (v : Json) : Except PyError Attributes := signature.call v

def typed (a : Attributes) : Option DestructibleBlock := do
  let x ← a.field "x" Json.int?
  let y ← a.field "y" Json.int?
  let width ← a.fieldD "width" Json.int? 32
  let height ← a.fieldD "height" Json.int? 32
  let destroyed ← a.fieldD "destroyed" Json.bool? false
  some ⟨x, y, width, height, destroyed⟩

end DestructibleBlock

namespace ExclusivePowerUp

def signature : Signature where
  required := ["x", "y", "powerup_id"]
  optional := ["width", "height", "collected", "owner"]

def asdict (u : ExclusivePowerUp) : Json :=
  .obj
    [("x", .num u.x), ("y", .num u.y), ("powerup_id", .str u.powerupId), ("width", .num u.width),
      ("height", .num u.height), ("collected", .bool u.collected),
      ("owner", Json.ofOption .str u.owner)]

def new (v : Json) : Except PyError Attributes := signature.call v

def typed (a : Attributes) : Option ExclusivePowerUp := do
  let x ← a.field "x" Json.int?
  let y ← a.field "y" Json.int?
  let powerupId ← a.field "powerup_id" Json.str?
  let width ← a.fieldD "width" Json.int? 32
  let height ← a.fieldD "height" Json.int? 32
  let collected ← a.fieldD "collected" Json.bool? false
  let owner ← a.fieldD "owner" (Json.orNull? Json.str?) none
  some ⟨x, y, powerupId, width, height, collected, owner⟩

end ExclusivePowerUp

/-- The order in which a set is listed is not specified. -/
structure SetOrder where
  list : Finset String → List String
  toFinset_list : ∀ s, (list s).toFinset = s

def sortedOrder : SetOrder where
  list s := s.sort (· ≤ ·)
  toFinset_list s := s.sort_toFinset _

namespace CooperativeGate

def signature : Signature where
  required := ["x", "y", "gate_id"]
  optional := ["width", "height", "state", "contributions", "coins_required", "blocks_required",
    "enemies_required", "is_final"]

/-- With the contributions as `to_dict` leaves them, as a list. -/
def asdict (order : SetOrder) (g : CooperativeGate) : Json :=
  .obj
    [("x", .num g.x), ("y", .num g.y), ("gate_id", .str g.gateId), ("width", .num g.width),
      ("height", .num g.height), ("state", .str g.state),
      ("contributions", .arr ((order.list g.contributions).map .str)),
      ("coins_required", .num g.coinsRequired), ("blocks_required", .num g.blocksRequired),
      ("enemies_required", .num g.enemiesRequired), ("is_final", .bool g.isFinal)]

/-- `CooperativeGate(**{**v, "contributions": set(v["contributions"])})` -/
def new (v : Json) : Except PyError Attributes := do
  let members ← unpackMapping v
  let contributions ← lookUp members "contributions"
  let contributions ← setOf contributions
  signature.call (Json.ofDict (members.set "contributions" (.arr contributions)))

def typed (a : Attributes) : Option CooperativeGate := do
  let x ← a.field "x" Json.int?
  let y ← a.field "y" Json.int?
  let gateId ← a.field "gate_id" Json.str?
  let width ← a.fieldD "width" Json.int? 32
  let height ← a.fieldD "height" Json.int? 32
  let state ← a.fieldD "state" Json.str? "closed"
  let contributions ← a.fieldD "contributions" (Json.list? Json.str?) []
  let coinsRequired ← a.fieldD "coins_required" Json.int? 0
  let blocksRequired ← a.fieldD "blocks_required" Json.int? 0
  let enemiesRequired ← a.fieldD "enemies_required" Json.int? 0
  let isFinal ← a.fieldD "is_final" Json.bool? true
  some ⟨x, y, gateId, width, height, state, contributions.toFinset, coinsRequired, blocksRequired,
    enemiesRequired, isFinal⟩

end CooperativeGate

def EnemyType.value : EnemyType → String
  | koopa => "koopa"
  | goomba => "goomba"

/-- `EnemyType(value)` -/
def enemyTypeOf? : Json → Option EnemyType
  | .str s => if s = "koopa" then some .koopa else if s = "goomba" then some .goomba else none
  | _ => none

namespace Enemy

def signature : Signature where
  required := ["enemy_id", "x", "y"]
  optional := ["width", "height", "vx", "left_bound", "right_bound", "movement_speed",
    "enemy_type"]

def asdict (e : Enemy) : Json :=
  .obj
    [("enemy_id", .str e.enemyId), ("x", .num e.x), ("y", .num e.y), ("width", .num e.width),
      ("height", .num e.height), ("vx", .num e.vx), ("left_bound", .num e.leftBound),
      ("right_bound", .num e.rightBound),
      ("movement_speed", Json.ofOption .num e.movementSpeed),
      ("enemy_type", .str e.enemyType.value)]

/-- `abs(vx)` needs a number, and is only taken where no speed is given. -/
def speedKnown (a : Attributes) : Bool :=
  let vx := a.getD "vx" (.num 50)
  !(a.getD "movement_speed" .null).isNull || vx.num?.isSome || vx.bool?.isSome

def postInit (a : Attributes) : Except PyError Unit := do
  if (a.fieldD "enemy_type" enemyTypeOf? .koopa).isNone then
    .error (.valueError "not a valid EnemyType")
  if speedKnown a then .ok () else .error .typeError

def new (v : Json) : Except PyError Attributes := do
  let a ← signature.call v
  postInit a
  .ok a

def typed (a : Attributes) : Option Enemy := do
  let enemyId ← a.field "enemy_id" Json.str?
  let x ← a.field "x" Json.num?
  let y ← a.field "y" Json.num?
  let width ← a.fieldD "width" Json.int? enemyWidth
  let height ← a.fieldD "height" Json.int? enemyHeight
  let vx ← a.fieldD "vx" Json.num? 50
  let leftBound ← a.fieldD "left_bound" Json.num? 0
  let rightBound ← a.fieldD "right_bound" Json.num? 0
  let movementSpeed ← a.fieldD "movement_speed" (Json.orNull? Json.num?) none
  let enemyType ← a.fieldD "enemy_type" enemyTypeOf? .koopa
  some (make ⟨enemyId, x, y, width, height, vx, leftBound, rightBound, movementSpeed, enemyType⟩)

end Enemy

/-! ## Worlds -/

/-- The objects that `from_dict` builds. The attributes it reads with `get` stay in `rest`. -/
structure RawWorld where
  sequenceNumber : Json
  characters : Dict PlayerId Attributes
  destructibleBlocks : List Attributes
  powerUps : Dict PowerUpId Attributes
  enemies : Dict EnemyId Attributes
  cooperativeGates : Dict GateId Attributes
  rest : Dict String Json

def EnvironmentalState.toDict (order : SetOrder) (env : EnvironmentalState) : Dict String Json where
  entries :=
    [("destructible_blocks", .arr (env.destructibleBlocks.map DestructibleBlock.asdict)),
      ("power_ups", .ofDict (env.powerUps.mapValues ExclusivePowerUp.asdict)),
      ("enemies", .ofDict (env.enemies.mapValues Enemy.asdict)),
      ("cooperative_gates",
        .ofDict (env.cooperativeGates.mapValues (CooperativeGate.asdict order)))]
  nodup := by simp

namespace WorldState

def toDict (order : SetOrder) (w : WorldState) : Dict String Json where
  entries :=
    [("sequence_number", .num w.sequenceNumber),
      ("characters", .ofDict (w.characters.mapValues Player.asdict)),
      ("environment", .ofDict (w.environment.toDict order)),
      ("coins_collected", .num w.coinsCollected),
      ("coins_to_win", .num w.coinsToWin),
      ("blocks_destroyed", .num w.blocksDestroyed),
      ("blocks_to_win", .num w.blocksToWin),
      ("enemies_defeated", .num w.enemiesDefeated),
      ("enemies_to_win", .num w.enemiesToWin),
      ("initial_enemy_count", .num w.initialEnemyCount),
      ("victory", .bool w.victory),
      ("victory_player_id", Json.ofOption .str w.victoryPlayerId),
      ("respawn_timers", .ofDict (w.respawnTimers.mapValues .num))]
  nodup := by simp

def fromDict (data : Dict String Json) : Except PyError RawWorld := do
  let characters ← lookUp data "characters"
  let characters ← dictItems characters
  let characters ← characters.traverse Player.new
  let environment ← lookUp data "environment"
  let destructibleBlocks ← subscript environment "destructible_blocks"
  let destructibleBlocks ← iterate destructibleBlocks
  let destructibleBlocks ← destructibleBlocks.mapM DestructibleBlock.new
  let powerUps ← subscript environment "power_ups"
  let powerUps ← dictItems powerUps
  let powerUps ← powerUps.traverse ExclusivePowerUp.new
  let cooperativeGates ← subscript environment "cooperative_gates"
  let cooperativeGates ← dictItems cooperativeGates
  let cooperativeGates ← cooperativeGates.traverse CooperativeGate.new
  let enemies ← dictGet environment "enemies" (.obj [])
  let enemies ← dictItems enemies
  let enemies ← enemies.traverse Enemy.new
  let sequenceNumber ← lookUp data "sequence_number"
  .ok
    { sequenceNumber := sequenceNumber
      characters := characters
      destructibleBlocks := destructibleBlocks
      powerUps := powerUps
      enemies := enemies
      cooperativeGates := cooperativeGates
      rest := data }

end WorldState

def RawWorld.typed (raw : RawWorld) : Option WorldState := do
  let sequenceNumber ← raw.sequenceNumber.int?
  let characters ← raw.characters.read? Player.typed
  let destructibleBlocks ← raw.destructibleBlocks.mapM DestructibleBlock.typed
  let powerUps ← raw.powerUps.read? ExclusivePowerUp.typed
  let enemies ← raw.enemies.read? Enemy.typed
  let cooperativeGates ← raw.cooperativeGates.read? CooperativeGate.typed
  let coinsCollected ← raw.rest.fieldD "coins_collected" Json.int? 0
  let coinsToWin ← raw.rest.fieldD "coins_to_win" Json.int? 5
  let blocksDestroyed ← raw.rest.fieldD "blocks_destroyed" Json.int? 0
  let blocksToWin ← raw.rest.fieldD "blocks_to_win" Json.int? 0
  let enemiesDefeated ← raw.rest.fieldD "enemies_defeated" Json.int? 0
  let enemiesToWin ← raw.rest.fieldD "enemies_to_win" Json.int? 0
  let initialEnemyCount ← raw.rest.fieldD "initial_enemy_count" Json.int? raw.enemies.entries.length
  let victory ← raw.rest.fieldD "victory" Json.bool? false
  let victoryPlayerId ← raw.rest.fieldD "victory_player_id" (Json.orNull? Json.str?) none
  let respawnTimers ← raw.rest.fieldD "respawn_timers"
    (fun j => j.dict?.bind (Dict.read? Json.num?)) ∅
  some
    { sequenceNumber := sequenceNumber
      characters := characters
      environment := ⟨destructibleBlocks, powerUps, enemies, cooperativeGates⟩
      coinsCollected := coinsCollected
      coinsToWin := coinsToWin
      blocksDestroyed := blocksDestroyed
      blocksToWin := blocksToWin
      enemiesDefeated := enemiesDefeated
      enemiesToWin := enemiesToWin
      initialEnemyCount := initialEnemyCount
      victory := victory
      victoryPlayerId := victoryPlayerId
      respawnTimers := respawnTimers }

/-! ## Reading back what was written -/

theorem Signature.dict?_asdict (sig : Signature) {members : List (String × Json)}
    (h : members.map Prod.fst = sig.required ++ sig.optional) :
    (Json.obj members).dict? = some ⟨members, h ▸ sig.distinct⟩ := Json.dict?_obj _

/-- A constructor accepts what `asdict` writes. -/
theorem Signature.call_asdict {sig : Signature} {members : List (String × Json)}
    (h : members.map Prod.fst = sig.required ++ sig.optional) :
    sig.call (.obj members) = .ok ⟨members, h ▸ sig.distinct⟩ := by
  have hkeys : (⟨members, h ▸ sig.distinct⟩ : Attributes).keys = sig.required ++ sig.optional := h
  rw [Signature.call, unpackMapping, sig.dict?_asdict h, Fallible.ok_bind, if_pos]
  refine ⟨fun key hkey => hkeys ▸ hkey, ?_⟩
  intro key hkey
  rw [Dict.mem_iff, hkeys]
  exact List.mem_append_left _ hkey

theorem Player.new_asdict (p : Player) :
    ∃ a, Player.new p.asdict = .ok a ∧ Player.typed a = some p := by
  refine ⟨_, Signature.call_asdict rfl, ?_⟩
  simp [Player.typed]

theorem DestructibleBlock.new_asdict (b : DestructibleBlock) :
    ∃ a, DestructibleBlock.new b.asdict = .ok a ∧ DestructibleBlock.typed a = some b := by
  refine ⟨_, Signature.call_asdict rfl, ?_⟩
  simp [DestructibleBlock.typed]

theorem ExclusivePowerUp.new_asdict (u : ExclusivePowerUp) :
    ∃ a, ExclusivePowerUp.new u.asdict = .ok a ∧ ExclusivePowerUp.typed a = some u := by
  refine ⟨_, Signature.call_asdict rfl, ?_⟩
  simp [ExclusivePowerUp.typed]

theorem Enemy.speedKnown_of_vx {a : Attributes} {q : ℚ} (h : a.get? "vx" = some (.num q)) :
    Enemy.speedKnown a = true := by simp [speedKnown, Dict.getD, h]

@[simp] theorem enemyTypeOf?_value (t : EnemyType) : enemyTypeOf? (.str t.value) = some t := by
  cases t <;> rfl

/-- Rebuilding an enemy fills in its movement speed. -/
theorem Enemy.new_asdict (e : Enemy) :
    ∃ a, Enemy.new e.asdict = .ok a ∧ Enemy.typed a = some e.make := by
  obtain ⟨a, ha, hcall⟩ : ∃ a, a = _ ∧ signature.call e.asdict = .ok a :=
    ⟨_, rfl, Signature.call_asdict rfl⟩
  have hvx : a.get? "vx" = some (.num e.vx) := by simp [ha]
  have htype : a.fieldD "enemy_type" enemyTypeOf? .koopa = some e.enemyType := by
    simp [ha]
  refine ⟨a, ?_, ?_⟩
  · rw [new, hcall, Fallible.ok_bind, postInit, htype, speedKnown_of_vx hvx]
    rfl
  · rw [typed, htype]
    simp [ha]

/-- The order in which the contributions were listed is forgotten again. -/
theorem CooperativeGate.new_asdict (order : SetOrder) (g : CooperativeGate) :
    ∃ a, CooperativeGate.new (g.asdict order) = .ok a ∧ CooperativeGate.typed a = some g := by
  have hset : setOf (.arr ((order.list g.contributions).map .str)) =
      .ok ((order.list g.contributions).map .str) := by
    simp [setOf, iterate, hashable]
  have hlist := Json.list?_arr_map (f := id) (l := order.list g.contributions)
    fun s _ => Json.str?_str s
  obtain ⟨a, ha, hdict, hcall⟩ : ∃ a : Attributes, a = _ ∧ (g.asdict order).dict? = some a ∧
      signature.call (g.asdict order) = .ok a :=
    ⟨_, rfl, signature.dict?_asdict rfl, Signature.call_asdict rfl⟩
  have hcontributions : a.get? "contributions" =
      some (.arr ((order.list g.contributions).map .str)) := by simp [ha]
  have hobj : Json.ofDict a = g.asdict order := by rw [ha]; rfl
  refine ⟨a, ?_, ?_⟩
  · simp only [new, unpackMapping, hdict, Fallible.ok_bind, lookUp, hcontributions, hset,
      Dict.set_eq_self hcontributions, hobj, hcall]
  · have hfield : a.fieldD "contributions" (Json.list? Json.str?) [] =
        some (order.list g.contributions) := by
      rw [Dict.fieldD, hcontributions]
      simpa using hlist
    rw [typed, hfield]
    simp [ha,
      order.toFinset_list]

/-! ## The round trip -/

/-- Every enemy of the world came out of its constructor, which fills in the movement speed. -/
def WorldState.Constructed (w : WorldState) : Prop :=
  ∀ e ∈ w.environment.enemies.entries, e.2.make = e.2

/-- The members of a document hold this environment, in whatever order they stand. -/
structure EnvironmentalState.Represents (order : SetOrder) (env : EnvironmentalState)
    (d : Dict String Json) : Prop where
  destructibleBlocks : d.get? "destructible_blocks" =
    some (.arr (env.destructibleBlocks.map DestructibleBlock.asdict))
  powerUps : d.get? "power_ups" =
    some (.ofDict (env.powerUps.mapValues ExclusivePowerUp.asdict))
  enemies : d.get? "enemies" = some (.ofDict (env.enemies.mapValues Enemy.asdict))
  cooperativeGates : d.get? "cooperative_gates" =
    some (.ofDict (env.cooperativeGates.mapValues (CooperativeGate.asdict order)))

structure WorldState.Represents (order : SetOrder) (w : WorldState) (d : Dict String Json) :
    Prop where
  sequenceNumber : d.get? "sequence_number" = some (.num w.sequenceNumber)
  characters : d.get? "characters" = some (.ofDict (w.characters.mapValues Player.asdict))
  environment : ∃ env, d.get? "environment" = some (.ofDict env) ∧
    w.environment.Represents order env
  coinsCollected : d.get? "coins_collected" = some (.num w.coinsCollected)
  coinsToWin : d.get? "coins_to_win" = some (.num w.coinsToWin)
  blocksDestroyed : d.get? "blocks_destroyed" = some (.num w.blocksDestroyed)
  blocksToWin : d.get? "blocks_to_win" = some (.num w.blocksToWin)
  enemiesDefeated : d.get? "enemies_defeated" = some (.num w.enemiesDefeated)
  enemiesToWin : d.get? "enemies_to_win" = some (.num w.enemiesToWin)
  initialEnemyCount : d.get? "initial_enemy_count" = some (.num w.initialEnemyCount)
  victory : d.get? "victory" = some (.bool w.victory)
  victoryPlayerId : d.get? "victory_player_id" = some (Json.ofOption .str w.victoryPlayerId)
  respawnTimers : d.get? "respawn_timers" = some (.ofDict (w.respawnTimers.mapValues .num))

theorem EnvironmentalState.represents_toDict (order : SetOrder) (env : EnvironmentalState) :
    env.Represents order (env.toDict order) := by
  constructor <;> simp [toDict]

theorem WorldState.represents_toDict (order : SetOrder) (w : WorldState) :
    w.Represents order (w.toDict order) := by
  constructor
  case environment =>
    refine ⟨_, ?_, w.environment.represents_toDict order⟩
    simp [toDict]
  all_goals simp [toDict]

/-- Another listing of the environment in its place. -/
theorem WorldState.Represents.set_environment {order : SetOrder} {w : WorldState}
    {d env : Dict String Json} (h : w.Represents order d)
    (henv : w.environment.Represents order env) :
    w.Represents order (d.set "environment" (.ofDict env)) := by
  have keep {key : String} (hkey : key ≠ "environment") := Dict.get?_set_ne d hkey (.ofDict env)
  exact
    { environment := ⟨env, Dict.get?_set_self _ _ _, henv⟩
      sequenceNumber := (keep (by decide)).trans h.sequenceNumber
      characters := (keep (by decide)).trans h.characters
      coinsCollected := (keep (by decide)).trans h.coinsCollected
      coinsToWin := (keep (by decide)).trans h.coinsToWin
      blocksDestroyed := (keep (by decide)).trans h.blocksDestroyed
      blocksToWin := (keep (by decide)).trans h.blocksToWin
      enemiesDefeated := (keep (by decide)).trans h.enemiesDefeated
      enemiesToWin := (keep (by decide)).trans h.enemiesToWin
      initialEnemyCount := (keep (by decide)).trans h.initialEnemyCount
      victory := (keep (by decide)).trans h.victory
      victoryPlayerId := (keep (by decide)).trans h.victoryPlayerId
      respawnTimers := (keep (by decide)).trans h.respawnTimers }

theorem WorldState.Represents.fromDict {order : SetOrder} {w : WorldState} {d : Dict String Json}
    (h : w.Represents order d) (hw : w.Constructed) :
    ∃ raw, WorldState.fromDict d = .ok raw ∧ raw.typed = some w := by
  choose player hplayer htplayer using Player.new_asdict
  choose block hblock htblock using DestructibleBlock.new_asdict
  choose powerUp hpowerUp htpowerUp using ExclusivePowerUp.new_asdict
  choose enemy henemy htenemy using Enemy.new_asdict
  choose gate hgate htgate using CooperativeGate.new_asdict order
  obtain ⟨env, henvironment, henv⟩ := h.environment
  refine ⟨⟨.num w.sequenceNumber, w.characters.mapValues player,
    w.environment.destructibleBlocks.map block, w.environment.powerUps.mapValues powerUp,
    w.environment.enemies.mapValues enemy, w.environment.cooperativeGates.mapValues gate, d⟩,
    ?_, ?_⟩
  · have hblocks : (w.environment.destructibleBlocks.map DestructibleBlock.asdict).mapM
        DestructibleBlock.new = .ok (w.environment.destructibleBlocks.map block) :=
      Fallible.mapM_map hblock _
    simp [WorldState.fromDict, lookUp, dictItems, subscript, dictGet, iterate, Dict.getD,
      h.characters, henvironment, henv.destructibleBlocks, henv.powerUps, henv.enemies,
      henv.cooperativeGates, h.sequenceNumber, Dict.traverse_mapValues hplayer, hblocks,
      Dict.traverse_mapValues hpowerUp, Dict.traverse_mapValues henemy,
      Dict.traverse_mapValues hgate]
  · have hmake : w.environment.enemies.mapValues Enemy.make = w.environment.enemies :=
      Dict.mapValues_eq_self hw
    have htimers : (w.respawnTimers.mapValues Json.num).read? Json.num? = some w.respawnTimers :=
      Dict.read?_mapValues_self Json.num?_num _
    simp [RawWorld.typed, Dict.fieldD, h.coinsCollected, h.coinsToWin, h.blocksDestroyed,
      h.blocksToWin, h.enemiesDefeated, h.enemiesToWin, h.initialEnemyCount, h.victory,
      h.victoryPlayerId, h.respawnTimers, Json.mapM_map fun b _ => htblock b,
      Dict.read?_mapValues_self htplayer, Dict.read?_mapValues_self htpowerUp,
      Dict.read?_mapValues_self htgate, Dict.read?_mapValues htenemy, hmake, htimers]

/-- `from_dict(to_dict(w)) = w` -/
theorem WorldState.fromDict_toDict (order : SetOrder) {w : WorldState} (hw : w.Constructed) :
    ∃ raw, WorldState.fromDict (w.toDict order) = .ok raw ∧ raw.typed = some w :=
  (w.represents_toDict order).fromDict hw

end DistributedSmb
