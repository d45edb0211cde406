import DistributedSmb.Domain.Entity

/-!
# Collisions and physics

`domain/collisions.py` and `domain/physics.py`: one player against one box, and one integration
step. Every function moves a player and leaves its identity alone.
-/

namespace DistributedSmb

def Player.box (p : Player) : Box := ⟨p.x, p.y, p.width, p.height⟩

def checkCollision (p : Player) (b : Box) : Bool :=
  p.x < b.x + b.width ∧ p.x + p.width > b.x ∧ p.y < b.y + b.height ∧ p.y + p.height > b.y

/-- Landing on the platform. -/
def resolveTopCollision (p : Player) (b : Box) : Player :=
  if p.vy > 0 ∧ p.prevY + p.height ≤ b.y then
    { p with y := b.y - p.height, vy := 0, onGround := true }
  else p

/-- Hitting it with the head. -/
def resolveBottomCollision (p : Player) (b : Box) : Player :=
  if p.vy < 0 then { p with y := b.y + b.height, vy := 0 } else p

def resolveLeftCollision (p : Player) (b : Box) : Player :=
  if p.vx > 0 then { p with x := b.x - p.width, vx := 0 } else p

def resolveRightCollision (p : Player) (b : Box) : Player :=
  if p.vx < 0 then { p with x := b.x + b.width, vx := 0 } else p

/-- The side of least overlap handles the collision; on a tie the first of top, bottom, left,
right, as `min` over that list returns its first minimum. -/
def resolveCollision (p : Player) (b : Box) : Player :=
  let overlapLeft := (p.x + p.width) - b.x
  let overlapRight := (b.x + b.width) - p.x
  let overlapTop := (p.y + p.height) - b.y
  let overlapBottom := (b.y + b.height) - p.y
  if overlapTop ≤ overlapBottom ∧ overlapTop ≤ overlapLeft ∧ overlapTop ≤ overlapRight then
    resolveTopCollision p b
  else if overlapBottom ≤ overlapLeft ∧ overlapBottom ≤ overlapRight then
    resolveBottomCollision p b
  else if overlapLeft ≤ overlapRight then resolveLeftCollision p b
  else resolveRightCollision p b

def applyPhysics (p : Player) (dt : ℚ) : Player :=
  let vy := p.vy + gravity * dt
  { p with vy := vy, x := p.x + p.vx * dt, y := p.y + vy * dt }

/-- `p` and `q` are the same participant: same id and join index. -/
def Player.SameAs (p q : Player) : Prop := p.playerId = q.playerId ∧ p.joinIndex = q.joinIndex

theorem Player.SameAs.refl (p : Player) : p.SameAs p := ⟨rfl, rfl⟩

theorem Player.SameAs.trans {p q r : Player} (h : p.SameAs q) (g : q.SameAs r) : p.SameAs r :=
  ⟨h.1.trans g.1, h.2.trans g.2⟩

theorem resolveTopCollision_sameAs (p : Player) (b : Box) : (resolveTopCollision p b).SameAs p := by
  unfold resolveTopCollision
  split <;> exact ⟨rfl, rfl⟩

theorem resolveBottomCollision_sameAs (p : Player) (b : Box) :
    (resolveBottomCollision p b).SameAs p := by
  unfold resolveBottomCollision
  split <;> exact ⟨rfl, rfl⟩

theorem resolveLeftCollision_sameAs (p : Player) (b : Box) :
    (resolveLeftCollision p b).SameAs p := by
  unfold resolveLeftCollision
  split <;> exact ⟨rfl, rfl⟩

theorem resolveRightCollision_sameAs (p : Player) (b : Box) :
    (resolveRightCollision p b).SameAs p := by
  unfold resolveRightCollision
  split <;> exact ⟨rfl, rfl⟩

theorem resolveCollision_sameAs (p : Player) (b : Box) : (resolveCollision p b).SameAs p := by
  simp only [resolveCollision]
  split
  · exact resolveTopCollision_sameAs p b
  · split
    · exact resolveBottomCollision_sameAs p b
    · split
      · exact resolveLeftCollision_sameAs p b
      · exact resolveRightCollision_sameAs p b

@[simp] theorem resolveCollision_playerId (p : Player) (b : Box) :
    (resolveCollision p b).playerId = p.playerId := (resolveCollision_sameAs p b).1

end DistributedSmb
