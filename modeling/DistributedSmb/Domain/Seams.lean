import DistributedSmb.Domain.Respawns
import Mathlib.Tactic.Linarith

/-!
# Floors made of flush pieces

Platforms are resolved one by one, each along the side of least overlap with the player. A floor
that is split in two is one floor for every player that the first piece it runs into stops where
the whole floor would. It is not for a player that reaches the seam by less than it has sunk into
the floor: that player is stopped by the side of a piece that the floor does not have.
-/

namespace DistributedSmb

open Library

/-! ## One platform -/

/-- The edge of a box that stops a player. -/
inductive Contact where
  | top (edge : ℚ)
  | bottom (edge : ℚ)
  | left (edge : ℚ)
  | right (edge : ℚ)
  deriving DecidableEq

/-- The edge on the side of least overlap. -/
def nearest (p : Player) (b : Box) : Contact :=
  let overlapLeft := (p.x + p.width) - b.x
  let overlapRight := (b.x + b.width) - p.x
  let overlapTop := (p.y + p.height) - b.y
  let overlapBottom := (b.y + b.height) - p.y
  if overlapTop ≤ overlapBottom ∧ overlapTop ≤ overlapLeft ∧ overlapTop ≤ overlapRight then
    .top b.y
  else if overlapBottom ≤ overlapLeft ∧ overlapBottom ≤ overlapRight then .bottom (b.y + b.height)
  else if overlapLeft ≤ overlapRight then .left b.x
  else .right (b.x + b.width)

/-- The player moves against the edge; only an upper edge is asked where the player was before. -/
def Player.against (p : Player) : Contact → Bool
  | .top edge => p.vy > 0 ∧ p.prevY + p.height ≤ edge
  | .bottom _ => p.vy < 0
  | .left _ => p.vx > 0
  | .right _ => p.vx < 0

/-- The player collides with the box and moves against its side of least overlap. -/
def stops (p : Player) (b : Box) : Bool := checkCollision p b && p.against (nearest p b)

/-- The edge of a box at which a player is stopped, if it is. -/
def contact (p : Player) (b : Box) : Option Contact :=
  if stops p b then some (nearest p b) else none

namespace Contact

def stop (p : Player) : Contact → Player
  | top edge => { p with y := edge - p.height, vy := 0, onGround := true }
  | bottom edge => { p with y := edge, vy := 0 }
  | left edge => { p with x := edge - p.width, vx := 0 }
  | right edge => { p with x := edge, vx := 0 }

/-- The player moves against an edge of the box. -/
def On (p : Player) (b : Box) : Contact → Prop
  | top edge => 0 < p.vy ∧ edge = b.y
  | bottom edge => p.vy < 0 ∧ edge = b.y + b.height
  | left edge => 0 < p.vx ∧ edge = b.x
  | right edge => p.vx < 0 ∧ edge = b.x + b.width

end Contact

/-- One round of the loop over the platforms. -/
def touch (p : Player) (b : Box) : Player := if checkCollision p b then resolveCollision p b else p

theorem handleCollisions_eq (platforms : List Platform) (p : Player) :
    p.handleCollisions platforms =
      platforms.foldl (fun p platform => touch p platform.box) { p with onGround := false } := rfl

theorem contact_eq_none_iff {p : Player} {b : Box} : contact p b = none ↔ stops p b = false := by
  cases h : stops p b <;> simp [contact, h]

theorem contact_eq_some_iff {p : Player} {b : Box} {c : Contact} :
    contact p b = some c ↔ stops p b = true ∧ nearest p b = c := by
  cases h : stops p b <;> simp [contact, h]

theorem touch_of_none {p : Player} {b : Box} (h : contact p b = none) : touch p b = p := by
  have hstops := contact_eq_none_iff.mp h
  simp only [stops, nearest, touch, resolveCollision, resolveTopCollision, resolveBottomCollision,
    resolveLeftCollision, resolveRightCollision] at hstops ⊢
  grind [Player.against]

theorem touch_of_some {p : Player} {b : Box} {c : Contact} (h : contact p b = some c) :
    touch p b = c.stop p := by
  obtain ⟨hstops, rfl⟩ := contact_eq_some_iff.mp h
  simp only [stops, nearest, touch, resolveCollision, resolveTopCollision, resolveBottomCollision,
    resolveLeftCollision, resolveRightCollision] at hstops ⊢
  grind [Contact.stop, Player.against]

theorem on_of_contact {p : Player} {b : Box} {c : Contact} (h : contact p b = some c) :
    c.On p b := by
  obtain ⟨hstops, rfl⟩ := contact_eq_some_iff.mp h
  simp only [stops, nearest] at hstops ⊢
  grind [Contact.On, Player.against]

theorem contact_of_apart {p : Player} {b : Box} (h : checkCollision p b = false) :
    contact p b = none := by
  simp [contact, stops, h]

namespace Contact

variable {p : Player} {b b' : Box} {c c' : Contact}

/-- A stop takes the speed that led to it. -/
theorem stop_ne (h : c.On p b) : c.stop p ≠ p := by
  intro heq
  have hvx := congrArg Player.vx heq
  have hvy := congrArg Player.vy heq
  cases c <;> simp only [On, stop] at h hvx hvy <;> linarith [h.1]

theorem stop_injective (h : c.On p b) (h' : c'.On p b') (heq : c.stop p = c'.stop p) : c = c' := by
  have hx := congrArg Player.x heq
  have hy := congrArg Player.y heq
  have hvx := congrArg Player.vx heq
  have hvy := congrArg Player.vy heq
  cases c <;> cases c' <;> simp only [On, stop] at h h' hx hy hvx hvy <;> grind

end Contact

/-! ## Two pieces for one platform -/

/-- The box `f` is a part of `b` of the same height. -/
structure Box.PieceOf (f b : Box) : Prop where
  y : f.y = b.y
  height : f.height = b.height
  left : b.x ≤ f.x
  right : f.x + f.width ≤ b.x + b.width

/-- A player that an edge of the whole stopped touches no piece any more. -/
theorem contact_stop_eq_none {p : Player} {b f : Box} {c : Contact} (h : c.On p b)
    (piece : f.PieceOf b) : contact (c.stop p) f = none := by
  obtain ⟨hy, hheight, hleft, hright⟩ := piece
  refine contact_of_apart (decide_eq_false fun hcollide => ?_)
  cases c <;> simp only [Contact.On, Contact.stop] at h hcollide <;> grind

/-- The speed that a stop has taken and the place it has given are not changed by another piece. -/
theorem touch_stop {p : Player} {b f : Box} {c : Contact} (h : c.On p b) :
    match c with
    | .top _ | .bottom _ =>
      (touch (c.stop p) f).vy = 0 ∧ (touch (c.stop p) f).y = (c.stop p).y
    | .left _ | .right _ =>
      (touch (c.stop p) f).vx = 0 ∧ (touch (c.stop p) f).x = (c.stop p).x := by
  cases hcontact : contact (c.stop p) f with
  | none =>
    rw [touch_of_none hcontact]
    cases c <;> exact ⟨rfl, rfl⟩
  | some c' =>
    have hon := on_of_contact hcontact
    rw [touch_of_some hcontact]
    cases c <;> cases c' <;> simp only [Contact.On, Contact.stop] at hon ⊢ <;> grind

/-- The seam between two pieces does not show: the first of them that stops the player has its
nearest edge in common with the whole, and one of them stops the player if the whole does. -/
def SeamHolds (b first second : Box) (p : Player) : Prop :=
  if stops p first then stops p b ∧ nearest p first = nearest p b
  else if stops p second then stops p b ∧ nearest p second = nearest p b
  else ¬ stops p b

instance (b first second : Box) (p : Player) : Decidable (SeamHolds b first second p) :=
  inferInstanceAs (Decidable (if stops p first then _ else if stops p second then _ else _))

theorem seamHolds_iff {b first second : Box} {p : Player} :
    SeamHolds b first second p ↔ (contact p first).or (contact p second) = contact p b := by
  cases hf : stops p first <;> cases hs : stops p second <;> cases hb : stops p b <;>
    simp [SeamHolds, contact, hf, hs, hb]

theorem contact_eq_of_touch {p : Player} {b b' : Box} (h : touch p b = touch p b') :
    contact p b = contact p b' := by
  cases hb : contact p b with
  | none =>
    cases hb' : contact p b' with
    | none => rfl
    | some c =>
      rw [touch_of_none hb, touch_of_some hb'] at h
      exact absurd h.symm (Contact.stop_ne (on_of_contact hb'))
  | some c =>
    cases hb' : contact p b' with
    | none =>
      rw [touch_of_some hb, touch_of_none hb'] at h
      exact absurd h (Contact.stop_ne (on_of_contact hb))
    | some c' =>
      rw [touch_of_some hb, touch_of_some hb'] at h
      rw [Contact.stop_injective (on_of_contact hb) (on_of_contact hb') h]

/-- Two pieces do to a player what the whole does, exactly if the seam holds. -/
theorem touch_pieces_iff {b first second : Box} (hfirst : first.PieceOf b)
    (hsecond : second.PieceOf b) (p : Player) :
    touch (touch p first) second = touch p b ↔ SeamHolds b first second p := by
  rw [seamHolds_iff]
  cases hcontact : contact p first with
  | none =>
    rw [touch_of_none hcontact, Option.none_or]
    constructor
    · exact contact_eq_of_touch
    · intro heq
      cases hb : contact p b with
      | none => rw [touch_of_none (heq.trans hb), touch_of_none hb]
      | some c => rw [touch_of_some (heq.trans hb), touch_of_some hb]
  | some c =>
    have hon := on_of_contact hcontact
    rw [touch_of_some hcontact, Option.some_or]
    constructor
    · intro heq
      have kept := touch_stop hon (f := second)
      rw [heq] at kept
      cases hb : contact p b with
      | none =>
        rw [touch_of_none hb] at kept
        cases c <;> simp only [Contact.On] at hon kept <;> grind
      | some c' =>
        have hon' := on_of_contact hb
        rw [touch_of_some hb] at kept
        obtain ⟨hy, hheight, -, -⟩ := hfirst
        cases c <;> cases c' <;> simp only [Contact.On, Contact.stop] at hon hon' kept <;> grind
    · intro heq
      rw [touch_of_some heq.symm]
      exact touch_of_none (contact_stop_eq_none (on_of_contact heq.symm) hsecond)

/-- The part of a platform to the left of `x`. -/
def Platform.leftOf (p : Platform) (x : ℤ) : Platform := { p with width := x - p.x }

/-- The part of a platform to the right of `x`. -/
def Platform.rightOf (p : Platform) (x : ℤ) : Platform :=
  { p with x := x, width := p.x + p.width - x }

/-- `first` and `second` are the two parts, in either order. -/
def Platform.Splits (p first second : Platform) : Prop :=
  ∃ x, p.x ≤ x ∧ x ≤ p.x + p.width ∧
    (first = p.leftOf x ∧ second = p.rightOf x ∨ first = p.rightOf x ∧ second = p.leftOf x)

theorem Platform.Splits.pieces {p first second : Platform} (h : p.Splits first second) :
    first.box.PieceOf p.box ∧ second.box.PieceOf p.box := by
  obtain ⟨x, hleft, hright, h⟩ := h
  have hleft' : (p.x : ℚ) ≤ x := by exact_mod_cast hleft
  have hright' : (x : ℚ) ≤ p.x + p.width := by exact_mod_cast hright
  have leftPiece : (p.leftOf x).box.PieceOf p.box := by
    refine ⟨rfl, rfl, le_rfl, ?_⟩
    simp only [box, leftOf]
    push_cast
    linarith
  have rightPiece : (p.rightOf x).box.PieceOf p.box := by
    refine ⟨rfl, rfl, hleft', ?_⟩
    simp only [box, rightOf]
    push_cast
    linarith
  rcases h with ⟨rfl, rfl⟩ | ⟨rfl, rfl⟩
  · exact ⟨leftPiece, rightPiece⟩
  · exact ⟨rightPiece, leftPiece⟩

/-- The player as the loop over the platforms reaches the one after `before`. -/
def Player.reaching (before : List Platform) (p : Player) : Player := p.handleCollisions before

theorem handleCollisions_pieces {before after : List Platform} {floor first second : Platform}
    (splits : floor.Splits first second) {p : Player}
    (h : SeamHolds floor.box first.box second.box (p.reaching before)) :
    p.handleCollisions (before ++ first :: second :: after) =
      p.handleCollisions (before ++ floor :: after) := by
  obtain ⟨hfirst, hsecond⟩ := splits.pieces
  have hpieces := (touch_pieces_iff hfirst hsecond _).mpr h
  simp only [handleCollisions_eq, List.foldl_append, List.foldl_cons]
  exact congrArg (after.foldl (fun p platform => touch p platform.box)) hpieces

/-! ## The tick -/

namespace GameEngine

def withPlatforms (g : GameEngine) (platforms : List Platform) : GameEngine :=
  { g with platforms := platforms }

theorem withPlatforms_platforms (g : GameEngine) (platforms : List Platform) :
    (g.withPlatforms platforms).platforms = platforms := rfl

theorem mapPlayers_withPlatforms (f : Player → Player) (g : GameEngine)
    (platforms : List Platform) :
    (g.withPlatforms platforms).mapPlayers f = (g.mapPlayers f).withPlatforms platforms := rfl

theorem queuePlayerDeath_withPlatforms (now : ℚ) (cause : EnemyId) (g : GameEngine) (p : Player)
    (platforms : List Platform) : (g.withPlatforms platforms).queuePlayerDeath now cause p =
      (g.queuePlayerDeath now cause p).withPlatforms platforms := rfl

theorem fightEnemy_withPlatforms {now : ℚ} {e : Enemy} {l : List (PlayerId × Player)}
    {g g' : GameEngine} (h : fightEnemy now e g l = .ok g') (platforms : List Platform) :
    fightEnemy now e (g.withPlatforms platforms) l = .ok (g'.withPlatforms platforms) := by
  induction l generalizing g with
  | nil => cases h; rfl
  | cons entry rest ih =>
    obtain ⟨key, p⟩ := entry
    simp only [fightEnemy] at h ⊢
    split at h
    case isTrue hapart =>
      rw [if_pos hapart]
      exact ih h
    case isFalse htouch =>
      rw [if_neg htouch]
      split at h
      case isTrue hdefeat =>
        rw [if_pos hdefeat]
        obtain ⟨g₁, hdelete, h⟩ := Fallible.bind_eq_ok.mp h
        cases h
        simp only [deleteEnemy] at hdelete
        split at hdelete
        case isTrue hstored =>
          cases hdelete
          have hdelete' : (g.withPlatforms platforms).deleteEnemy e.enemyId = .ok _ :=
            if_pos hstored
          rw [hdelete']
          rfl
        case isFalse => cases hdelete
      case isFalse hdeath =>
        rw [if_neg hdeath, queuePlayerDeath_withPlatforms]
        exact ih h

theorem handleVoidDeaths_withPlatforms (now : ℚ) (g : GameEngine) (platforms : List Platform) :
    (g.withPlatforms platforms).handleVoidDeaths now =
      (g.handleVoidDeaths now).withPlatforms platforms := by
  simp only [handleVoidDeaths, apply_ite (withPlatforms · platforms)]
  refine if_congr Iff.rfl rfl (List.foldl_hom (withPlatforms · platforms) fun g p => ?_)
  simp only [apply_ite (withPlatforms · platforms)]
  rfl

theorem processRespawns_withPlatforms (now : ℚ) (g : GameEngine) (platforms : List Platform) :
    (g.withPlatforms platforms).processRespawns now =
      (g.processRespawns now).withPlatforms platforms := by
  simp only [processRespawns, apply_ite (withPlatforms · platforms)]
  refine if_congr Iff.rfl rfl (List.foldl_hom (withPlatforms · platforms) fun g timer => ?_)
  simp only [apply_ite (withPlatforms · platforms)]
  rfl

theorem handleVictoryCondition_withPlatforms (g : GameEngine) (platforms : List Platform) :
    (g.withPlatforms platforms).handleVictoryCondition =
      g.handleVictoryCondition.withPlatforms platforms := by
  simp only [handleVictoryCondition, apply_ite (withPlatforms · platforms)]
  refine if_congr Iff.rfl rfl ?_
  have hwinner : winner (g.withPlatforms platforms).worldState = winner g.worldState := rfl
  rw [hwinner]
  cases winner g.worldState <;> rfl

/-- Only the collisions with the platforms read them. -/
theorem stage_withPlatforms {args : TickArgs} {stage : TickStage} {g g' : GameEngine}
    (other : stage ≠ .handleCollisions) (h : stage.run args g = .ok g')
    (platforms : List Platform) :
    stage.run args (g.withPlatforms platforms) = .ok (g'.withPlatforms platforms) := by
  cases stage with
  | handleCollisions => exact absurd rfl other
  | handleBlockCollisions =>
    obtain ⟨r, hsweep, h⟩ := Fallible.bind_eq_ok.mp h
    cases h
    exact Fallible.bind_eq_ok.mpr ⟨r, hsweep, rfl⟩
  | handlePowerupCollisions =>
    simp only [TickStage.run, handlePowerupCollisions] at h ⊢
    split at h
    case isTrue hskipped =>
      cases h
      exact if_pos hskipped
    case isFalse hhost =>
      obtain ⟨r, hsweep, h⟩ := Fallible.bind_eq_ok.mp h
      cases h
      refine (if_neg hhost).trans ?_
      exact Fallible.bind_eq_ok.mpr ⟨r, hsweep, rfl⟩
  | handleEnemyCollisions =>
    simp only [TickStage.run, handleEnemyCollisions] at h ⊢
    split at h
    case isTrue hskipped =>
      cases h
      exact if_pos hskipped
    case isFalse hhost =>
      refine (if_neg hhost).trans ?_
      let fight (g : GameEngine) (e : Enemy) :=
        fightEnemy args.now e g g.worldState.characters.entries
      have step (g g₂ : GameEngine) (e : Enemy) (g' : GameEngine)
          (hR : g₂ = g.withPlatforms platforms) (h : fight g e = .ok g') :
          ∃ g₂', fight g₂ e = .ok g₂' ∧ g₂' = g'.withPlatforms platforms := by
        subst hR
        exact ⟨_, fightEnemy_withPlatforms h platforms, rfl⟩
      obtain ⟨g₂, hloop, rfl⟩ := Fallible.foldlM_simulates
        (fun g g₂ e g' _ => step g g₂ e g') rfl h
      exact hloop
  | handleVoidDeaths =>
    cases h
    exact congrArg Except.ok (handleVoidDeaths_withPlatforms args.now g platforms)
  | handleVictoryCondition =>
    cases h
    exact congrArg Except.ok (handleVictoryCondition_withPlatforms g platforms)
  | processRespawns =>
    cases h
    exact congrArg Except.ok (processRespawns_withPlatforms args.now g platforms)
  | _ => cases h; rfl

/-- The engine when `tick` reaches the collisions with the platforms. -/
def approach (args : TickArgs) (g : GameEngine) : GameEngine :=
  (((g.mapPlayers Player.recordPrevious).mapPlayers
      (Player.expirePowerupEffect args.now)).applyInputs
    args.inputs).mapPlayers fun p => DistributedSmb.applyPhysics p args.dt

theorem approach_withPlatforms (args : TickArgs) (g : GameEngine) (platforms : List Platform) :
    (g.withPlatforms platforms).approach args = (g.approach args).withPlatforms platforms := rfl

theorem stages_eq (args : TickArgs) (g : GameEngine) :
    tickStages.foldlM (TickStage.run args) g =
      (tickStages.drop 5).foldlM (TickStage.run args)
        ((g.approach args).mapPlayers (Player.handleCollisions g.platforms)) := by
  have first : (tickStages.take 5).foldlM (TickStage.run args) g =
      .ok ((g.approach args).mapPlayers (Player.handleCollisions g.platforms)) := rfl
  calc tickStages.foldlM (TickStage.run args) g
      = (tickStages.take 5 ++ tickStages.drop 5).foldlM (TickStage.run args) g := by
        rw [List.take_append_drop]
    _ = _ := by rw [List.foldlM_append, first, Fallible.ok_bind]

theorem mapPlayers_congr {f f' : Player → Player} {g : GameEngine}
    (h : ∀ p ∈ g.worldState.characters.values, f p = f' p) : g.mapPlayers f = g.mapPlayers f' := by
  simp only [mapPlayers, Dict.mapValues_congr h]

/-- No player of the tick notices the seam between the two pieces of `floor`, the platform after
`before`. -/
def Smooth (before : List Platform) (floor first second : Platform) (g : GameEngine)
    (args : TickArgs) : Prop :=
  g.worldState.victory = true ∨
    ∀ p ∈ (g.approach args).worldState.characters.values,
      SeamHolds floor.box first.box second.box (p.reaching before)

instance (before : List Platform) (floor first second : Platform) (g : GameEngine)
    (args : TickArgs) : Decidable (Smooth before floor first second g args) :=
  inferInstanceAs (Decidable (_ ∨ ∀ p ∈ (g.approach args).worldState.characters.values,
    SeamHolds floor.box first.box second.box (p.reaching before)))

section

variable {before after : List Platform} {floor first second : Platform} {g g' : GameEngine}

theorem tick_withPieces (splits : floor.Splits first second)
    (start : g.platforms = before ++ floor :: after) {args : TickArgs}
    (smooth : g.Smooth before floor first second args) (h : g.tick args = .ok g') :
    (g.withPlatforms (before ++ first :: second :: after)).tick args =
      .ok (g'.withPlatforms (before ++ first :: second :: after)) := by
  unfold tick at h ⊢
  split at h
  case isTrue hvictory =>
    cases h
    exact (if_pos hvictory).trans rfl
  case isFalse hplaying =>
    refine (if_neg hplaying).trans ?_
    obtain ⟨g₁, hstages, h⟩ := Fallible.bind_eq_ok.mp h
    cases h
    have hplayers (p : Player) (hp : p ∈ (g.approach args).worldState.characters.values) :
        p.handleCollisions (before ++ first :: second :: after) =
          p.handleCollisions g.platforms := by
      rw [start]
      exact handleCollisions_pieces splits (smooth.resolve_left hplaying p hp)
    rw [stages_eq, ← mapPlayers_congr hplayers] at hstages
    obtain ⟨g₂, hpieces, rfl⟩ := Fallible.foldlM_simulates
      (R := fun g g₂ => g₂ = g.withPlatforms (before ++ first :: second :: after))
      (g := TickStage.run args)
      (fun g g₂ stage g' hstage hR h => by
        have other : stage ≠ .handleCollisions := by
          rintro rfl
          exact absurd hstage (by decide)
        exact ⟨_, hR ▸ stage_withPlatforms other h _, rfl⟩) rfl hstages
    rw [stages_eq, approach_withPlatforms, mapPlayers_withPlatforms, withPlatforms_platforms,
      hpieces]
    rfl

/-- Over any run in which no player notices the seam, the two pieces are the whole platform. -/
theorem seam_unnoticed (splits : floor.Splits first second) {ticks : List TickArgs}
    (start : g.platforms = before ++ floor :: after)
    (smooth : Fallible.Along tick (Smooth before floor first second) g ticks)
    (h : ticks.foldlM tick g = .ok g') :
    ticks.foldlM tick (g.withPlatforms (before ++ first :: second :: after)) =
      .ok (g'.withPlatforms (before ++ first :: second :: after)) := by
  induction ticks generalizing g with
  | nil => cases h; rfl
  | cons args ticks ih =>
    rw [List.foldlM_cons] at h ⊢
    obtain ⟨g₁, htick, hrest⟩ := Fallible.bind_eq_ok.mp h
    have kept : g₁.platforms = g.platforms := congrArg Prod.fst (tick_setting htick)
    rw [tick_withPieces splits start smooth.1 htick, Fallible.ok_bind]
    exact ih (kept.trans start) (smooth.2 g₁ htick) hrest

end

/-! ## The ground of the first level -/

def ground : Platform := ⟨0, 928, 1400, 32⟩

theorem ground_splits : ground.Splits ⟨0, 928, 672, 32⟩ ⟨672, 928, 728, 32⟩ :=
  ⟨672, by decide, by decide, .inl ⟨rfl, rfl⟩⟩

/-- One player above the ground. -/
def groundWith (p : Player) : GameEngine :=
  { worldState := { characters := Dict.ofList [(p.playerId, p)] }
    platforms := [ground]
    worldWidth := 6912
    worldHeight := 960 }

/-- It walks to the right over the seam. -/
def walking : GameEngine :=
  groundWith { playerId := "host-a", x := 590, y := 853, onGround := true }

def walkingTicks : List TickArgs :=
  List.replicate 3 ⟨1 / 60, Dict.ofList [("host-a", { right := true })], none, 5⟩

theorem walking_over_the_seam :
    ∃ g', walkingTicks.foldlM tick walking = .ok g' ∧
      walkingTicks.foldlM tick (walking.withPlatforms [⟨0, 928, 672, 32⟩, ⟨672, 928, 728, 32⟩]) =
        .ok (g'.withPlatforms [⟨0, 928, 672, 32⟩, ⟨672, 928, 728, 32⟩]) := by
  have smooth : Fallible.Along tick
      (Smooth [] ground ⟨0, 928, 672, 32⟩ ⟨672, 928, 728, 32⟩) walking walkingTicks := by
    decide +kernel
  obtain ⟨g', hrun, -⟩ := Fallible.exists_of_okAnd (x := walkingTicks.foldlM tick walking)
    (p := fun _ => true) (by decide +kernel)
  exact ⟨g', hrun, seam_unnoticed ground_splits rfl smooth hrun⟩

/-- It lands to the right of the seam, moving left, and reaches over the seam by 2 while it sinks
3 into the ground. -/
def landing : GameEngine :=
  groundWith { playerId := "host-a", x := 675, y := 851, vx := -300, vy := 275 }

def landingTick : TickArgs := ⟨1 / 60, Dict.ofList [("host-a", { left := true })], none, 5⟩

/-- Where the player is after a tick and how fast. -/
def placeOf (g : GameEngine) (pid : PlayerId) : Option (ℚ × ℚ × ℚ × ℚ × Bool) :=
  (g.worldState.characters.get? pid).map fun p => (p.x, p.y, p.vx, p.vy, p.onGround)

theorem landing_at_the_seam_stops :
    ∃ g₁ g₂, landing.tick landingTick = .ok g₁ ∧
      (landing.withPlatforms [⟨0, 928, 672, 32⟩, ⟨672, 928, 728, 32⟩]).tick landingTick = .ok g₂ ∧
      g₁.placeOf "host-a" = some (670, 853, -300, 0, true) ∧
      g₂.placeOf "host-a" = some (672, 853, 0, 0, true) := by
  obtain ⟨g₁, hground, hwhole⟩ := Fallible.exists_of_okAnd (x := landing.tick landingTick)
    (p := fun g => decide (g.placeOf "host-a" = some (670, 853, -300, 0, true)))
    (by decide +kernel)
  obtain ⟨g₂, hpieces, hsplit⟩ := Fallible.exists_of_okAnd
    (x := (landing.withPlatforms [⟨0, 928, 672, 32⟩, ⟨672, 928, 728, 32⟩]).tick landingTick)
    (p := fun g => decide (g.placeOf "host-a" = some (672, 853, 0, 0, true)))
    (by decide +kernel)
  exact ⟨g₁, g₂, hground, hpieces, of_decide_eq_true hwhole, of_decide_eq_true hsplit⟩

end GameEngine

end DistributedSmb
