import DistributedSmb.Agents.Perceptor
import DistributedSmb.Library.Clipping
import Mathlib.Algebra.Field.Rat

/-!
# Lines of sight

The intersection of a segment with a rectangle is exact, so an enemy sees along a line exactly when
no obstacle takes up a part of it. Whether an obstacle is visible depends on the other obstacles as
a multiset only: taking some away shows more, and their order does not matter.
-/

namespace DistributedSmb

open Library

namespace EnemyPerceptor

variable {s : EnemyPerceptor} {origin target : Position} {direction : SightDirection}
  {left top right bottom : ℚ} {o : ObstacleObservation}
  {obstacles obstacles' : List ObstacleObservation}

/-! ## The intersection -/

/-- The segment parameters at which the segment is inside the closed rectangle. -/
def insideParameters (start stop : Position) (left top right bottom : ℚ) : Set ℚ :=
  {t | (0 ≤ t ∧ t ≤ 1) ∧
    (left ≤ start.x + t * (stop.x - start.x) ∧ start.x + t * (stop.x - start.x) ≤ right) ∧
    top ≤ start.y + t * (stop.y - start.y) ∧ start.y + t * (stop.y - start.y) ≤ bottom}

theorem clip_spans {first delta minimum maximum : ℚ} {i : ℚ × ℚ} {S : Set ℚ}
    (ordered : minimum ≤ maximum) (h : Spans (some i) S) :
    Spans (clip first delta minimum maximum i) (S ∩ slab first delta minimum maximum) := by
  by_cases hflat : delta = 0
  · subst hflat
    simpa only [clip, if_true] using h.clip_flat
  · simp only [clip, if_neg hflat]
    exact h.clip_sloped hflat ordered rfl rfl

theorem intersection_spans (start stop : Position) (hx : left ≤ right) (hy : top ≤ bottom) :
    Spans (segmentRectangleIntersection start stop left top right bottom)
      (insideParameters start stop left top right bottom) := by
  have hunit : Spans (some ((0 : ℚ), (1 : ℚ))) (Set.Icc 0 1) := ⟨zero_le_one, rfl⟩
  have hslabs : insideParameters start stop left top right bottom =
      Set.Icc 0 1 ∩ slab start.x (stop.x - start.x) left right ∩
        slab start.y (stop.y - start.y) top bottom := by
    ext t
    exact and_assoc.symm
  rw [hslabs]
  exact (clip_spans hx hunit).bind fun i => clip_spans hy

theorem blocksLine_iff (hwidth : 0 ≤ o.width) (hheight : 0 ≤ o.height) :
    blocksLine origin target o = true ↔ ∃ a b, (a ≤ b ∧ Set.Icc a b =
      insideParameters origin target o.x o.y (o.x + o.width) (o.y + o.height)) ∧
        a < 1 - 1 / 10 ^ 9 ∧ b > 1 / 10 ^ 9 := by
  have hx : o.x ≤ o.x + o.width := le_add_of_nonneg_right hwidth
  have hy : o.y ≤ o.y + o.height := le_add_of_nonneg_right hheight
  have hspans := intersection_spans origin target hx hy
  simp only [← hspans.eq_some_iff, blocksLine]
  split
  case h_1 entry exit hmeet => simp [hmeet]
  case h_2 hmiss => simp [hmiss]

theorem hasClearLine_iff {ignored : Option ℕ} :
    hasClearLine origin target obstacles ignored = true ↔
      ∀ index o, obstacles[index]? = some o → some index ≠ ignored →
        blocksLine origin target o = false := by
  simp only [hasClearLine, List.all_eq_true, Prod.forall, List.mem_zipIdx_iff_getElem?,
    Bool.or_eq_true, decide_eq_true_iff, Bool.not_eq_true', or_iff_not_imp_left]
  exact forall_comm

/-- The intersection is the set of all parameters inside the rectangle, and a line is clear when
no obstacle but the ignored one takes up a part of it away from its ends. -/
theorem line_of_sight_is_exact (start stop : Position) (hx : left ≤ right) (hy : top ≤ bottom)
    (obstacles : List ObstacleObservation) (ignored : Option ℕ)
    (hsizes : ∀ o ∈ obstacles, 0 ≤ o.width ∧ 0 ≤ o.height) :
    (segmentRectangleIntersection start stop left top right bottom = none ↔
      ¬∃ t, t ∈ insideParameters start stop left top right bottom) ∧
    (∀ a b, segmentRectangleIntersection start stop left top right bottom = some (a, b) →
      Set.Icc a b = insideParameters start stop left top right bottom) ∧
    (hasClearLine start stop obstacles ignored = true ↔
      ¬∃ index o a b, obstacles[index]? = some o ∧ some index ≠ ignored ∧
        (a ≤ b ∧ Set.Icc a b =
          insideParameters start stop o.x o.y (o.x + o.width) (o.y + o.height)) ∧
        a < 1 - 1 / 10 ^ 9 ∧ b > 1 / 10 ^ 9) := by
  have hspans := intersection_spans start stop hx hy
  refine ⟨?_, fun a b hsome => (hspans.eq_some_iff.mp hsome).2, ?_⟩
  · rw [hspans.eq_none_iff, Set.eq_empty_iff_forall_notMem, not_exists]
  · rw [hasClearLine_iff]
    constructor
    · rintro hclear ⟨index, o, a, b, ho, hother, hinside, hpart⟩
      obtain ⟨hwidth, hheight⟩ := hsizes o (List.mem_of_getElem? ho)
      have hblocks := (blocksLine_iff hwidth hheight).mpr ⟨a, b, hinside, hpart⟩
      rw [hclear index o ho hother] at hblocks
      exact Bool.false_ne_true hblocks
    · intro hnone index o ho hother
      obtain ⟨hwidth, hheight⟩ := hsizes o (List.mem_of_getElem? ho)
      refine Bool.eq_false_iff.mpr fun hblocks => ?_
      obtain ⟨a, b, hinside, hpart⟩ := (blocksLine_iff hwidth hheight).mp hblocks
      exact hnone ⟨index, o, a, b, ho, hother, hinside, hpart⟩

/-- A segment through the left half of a square that ends in its middle. -/
theorem line_into_square_is_exact :
    segmentRectangleIntersection ⟨0, 5⟩ ⟨20, 5⟩ 10 0 30 10 = some (1 / 2, 1) ∧
      Set.Icc (1 / 2) 1 = insideParameters ⟨0, 5⟩ ⟨20, 5⟩ 10 0 30 10 := by
  have hmeets : segmentRectangleIntersection ⟨0, 5⟩ ⟨20, 5⟩ 10 0 30 10 = some (1 / 2, 1) := by
    decide +kernel
  have hx : (10 : ℚ) ≤ 30 := by decide +kernel
  have hy : (0 : ℚ) ≤ 10 := by decide +kernel
  have hexact := line_of_sight_is_exact ⟨0, 5⟩ ⟨20, 5⟩ hx hy [⟨.platform, 0, 0, 5, 5⟩] none
    (by decide +kernel)
  exact ⟨hmeets, hexact.2.1 _ _ hmeets⟩

/-! ## Obstacles as a multiset -/

/-- None of these obstacles is in the line. -/
def isClearOf (origin target : Position) (others : List ObstacleObservation) : Bool :=
  others.all fun o => !blocksLine origin target o

/-- An obstacle is visible when it is in sight and the others leave the line to it clear. -/
def canSeeObstacle (s : EnemyPerceptor) (origin : Position) (direction : SightDirection)
    (obstacles : List ObstacleObservation) (o : ObstacleObservation) : Bool :=
  s.isInSight origin (centerOf o) direction && isClearOf origin (centerOf o) (obstacles.erase o)

theorem isClearOf_of_subset (h : obstacles' ⊆ obstacles)
    (hclear : isClearOf origin target obstacles) : isClearOf origin target obstacles' := by
  rw [isClearOf, List.all_eq_true] at *
  exact fun o ho => hclear o (h ho)

theorem isClearOf_perm (h : obstacles'.Perm obstacles) :
    isClearOf origin target obstacles' = isClearOf origin target obstacles :=
  Bool.eq_iff_iff.mpr ⟨isClearOf_of_subset h.symm.subset, isClearOf_of_subset h.subset⟩

theorem hasClearLine_none :
    hasClearLine origin target obstacles none = isClearOf origin target obstacles := by
  rw [Bool.eq_iff_iff, hasClearLine_iff, isClearOf, List.all_eq_true]
  constructor
  · intro h o ho
    obtain ⟨index, hindex⟩ := List.mem_iff_getElem?.mp ho
    rw [h index o hindex (Option.some_ne_none index)]
    rfl
  · intro h index o ho _
    simpa using h o (List.mem_of_getElem? ho)

/-- To ignore an index is to take one copy of the obstacle away. -/
theorem hasClearLine_some {index : ℕ} (ho : obstacles[index]? = some o) :
    hasClearLine origin target obstacles (some index) =
      isClearOf origin target (obstacles.erase o) := by
  obtain ⟨hlt, heq⟩ := List.getElem?_eq_some_iff.mp ho
  have htaken : (obstacles.eraseIdx index).Perm (obstacles.erase o) := by
    have hboth := (List.getElem_cons_eraseIdx_perm hlt).trans
      (List.perm_cons_erase (List.mem_of_getElem? ho))
    rw [heq] at hboth
    exact hboth.cons_inv
  rw [← isClearOf_perm htaken, Bool.eq_iff_iff, hasClearLine_iff, isClearOf, List.all_eq_true]
  constructor
  · intro h o' ho'
    obtain ⟨index', hne, hindex'⟩ := List.mem_eraseIdx_iff_getElem?.mp ho'
    rw [h index' o' hindex' (by simpa using hne)]
    rfl
  · intro h index' o' ho' hne
    simpa using h o' (List.mem_eraseIdx_iff_getElem?.mpr ⟨index', by simpa using hne, ho'⟩)

theorem visibleObstacles_eq :
    s.visibleObstacles origin direction obstacles =
      obstacles.filter (s.canSeeObstacle origin direction obstacles) := by
  have hsame (r : ObstacleObservation × ℕ) (hr : r ∈ obstacles.zipIdx) :
      (s.isInSight origin (centerOf r.1) direction &&
        hasClearLine origin (centerOf r.1) obstacles (some r.2)) =
          (s.canSeeObstacle origin direction obstacles ∘ Prod.fst) r := by
    rw [hasClearLine_some (List.mem_zipIdx_iff_getElem?.mp hr)]
    rfl
  rw [visibleObstacles, List.filter_congr hsame, ← List.filter_map, List.zipIdx_map_fst]

theorem canSeeObstacle_of_sublist (h : obstacles'.Sublist obstacles)
    (hsees : s.canSeeObstacle origin direction obstacles o = true) :
    s.canSeeObstacle origin direction obstacles' o = true := by
  rw [canSeeObstacle, Bool.and_eq_true] at *
  exact ⟨hsees.1, isClearOf_of_subset (h.erase o).subset hsees.2⟩

theorem canSeeObstacle_perm (h : obstacles'.Perm obstacles) :
    s.canSeeObstacle origin direction obstacles' = s.canSeeObstacle origin direction obstacles := by
  funext o
  rw [canSeeObstacle, canSeeObstacle, isClearOf_perm (h.erase o)]

theorem canSeePlayer_of_sublist {p : Player} (h : obstacles'.Sublist obstacles)
    (hsees : s.canSeePlayer p origin direction obstacles = true) :
    s.canSeePlayer p origin direction obstacles' = true := by
  simp only [canSeePlayer, Bool.and_eq_true, hasClearLine_none] at *
  exact ⟨hsees.1, isClearOf_of_subset h.subset hsees.2⟩

theorem canSeePlayer_perm (p : Player) (h : obstacles'.Perm obstacles) :
    s.canSeePlayer p origin direction obstacles' = s.canSeePlayer p origin direction obstacles := by
  simp only [canSeePlayer, hasClearLine_none, isClearOf_perm h]

/-! ## Changes of the scene -/

/-- The scene of an engine: what there is to see, and what there is to hide behind. -/
def withScene (s : EnemyPerceptor) (characters : Dict PlayerId Player) (platforms : List Platform)
    (blocks : List DestructibleBlock) : EnemyPerceptor :=
  { s with
    engine :=
      { s.engine with
        platforms := platforms
        worldState :=
          { s.engine.worldState with
            characters := characters
            environment :=
              { s.engine.worldState.environment with destructibleBlocks := blocks } } } }

/-- The same blocks, some of them destroyed. -/
def SomeDestroyed (blocks blocks' : List DestructibleBlock) : Prop :=
  List.Forall₂ (fun b b' => b' = b ∨ b' = { b with destroyed := true }) blocks blocks'

theorem standing_sublist {blocks blocks' : List DestructibleBlock}
    (h : SomeDestroyed blocks blocks') :
    (blocks'.filter fun b => !b.destroyed).Sublist (blocks.filter fun b => !b.destroyed) := by
  induction h with
  | nil => exact List.Sublist.refl _
  | @cons b b' blocks blocks' hb _ ih =>
    rcases hb with rfl | rfl
    · rw [List.filter_cons, List.filter_cons]
      split
      · exact ih.cons_cons b'
      · exact ih
    · rw [List.filter_cons, List.filter_cons, if_neg (by simp)]
      split
      · exact ih.cons b
      · exact ih

variable {characters : Dict PlayerId Player} {platforms : List Platform}
  {blocks : List DestructibleBlock}

theorem candidates_sublist (hplatforms : platforms.Sublist s.engine.platforms)
    (hblocks : SomeDestroyed s.engine.worldState.environment.destructibleBlocks blocks) :
    (s.withScene characters platforms blocks).obstacleCandidates.Sublist s.obstacleCandidates :=
  (hplatforms.map _).append ((standing_sublist hblocks).map _)

theorem candidates_perm (hplatforms : platforms.Perm s.engine.platforms)
    (hblocks : blocks.Perm s.engine.worldState.environment.destructibleBlocks) :
    (s.withScene characters platforms blocks).obstacleCandidates.Perm s.obstacleCandidates :=
  (hplatforms.map _).append ((hblocks.filter _).map _)

theorem eq_of_playerId_eq {w : WorldState} (keyed : w.Keyed) {p q : Player}
    (hp : p ∈ w.characters.values) (hq : q ∈ w.characters.values) (same : p.playerId = q.playerId) :
    p = q := by
  obtain ⟨e, he, rfl⟩ := List.mem_map.mp hp
  obtain ⟨e', he', rfl⟩ := List.mem_map.mp hq
  have hkey : e.1 = e'.1 := (keyed e he).symm.trans (same.trans (keyed e' he'))
  exact congrArg Prod.snd (List.inj_on_of_nodup_map w.characters.nodup he he' hkey)

theorem sorted_perm {players players' : List Player} (h : players.Perm players') :
    (players.insertionSort fun p q => p.playerId ≤ q.playerId).Perm
      (players'.insertionSort fun p q => p.playerId ≤ q.playerId) :=
  ((List.perm_insertionSort (fun p q : Player => p.playerId ≤ q.playerId) players).trans h).trans
    (List.perm_insertionSort (fun p q : Player => p.playerId ≤ q.playerId) players').symm

/-- Characters that are stored under their own ids have one order by id. -/
theorem sorted_unique {w : WorldState} (keyed : w.Keyed)
    (h : characters.values.Perm w.characters.values) :
    (characters.values.insertionSort fun p q => p.playerId ≤ q.playerId) =
      w.characters.values.insertionSort fun p q => p.playerId ≤ q.playerId := by
  let before (p q : Player) : Prop := p.playerId ≤ q.playerId
  have : Std.Total before := ⟨fun p q => le_total p.playerId q.playerId⟩
  have : IsTrans Player before := ⟨fun p q r => le_trans⟩
  refine (sorted_perm h).eq_of_pairwise (fun p q hp hq hle hge => ?_)
    (List.pairwise_insertionSort before _) (List.pairwise_insertionSort before _)
  rw [List.mem_insertionSort] at hp hq
  exact eq_of_playerId_eq keyed (h.mem_iff.mp hp) hq (le_antisymm hle hge)

theorem observe_eq_ok {enemyId : EnemyId} {seen : GoombaPerception} :
    s.observe enemyId = .ok seen ↔
      ∃ e, s.engine.enemies.get? enemyId = some e ∧ s.perceive e = seen := by
  unfold observe
  split
  case h_1 hnone => simp [hnone]
  case h_2 e hsome => simp [hsome]

theorem perceive_after_clearing (e : Enemy) (hplatforms : platforms.Sublist s.engine.platforms)
    (hblocks : SomeDestroyed s.engine.worldState.environment.destructibleBlocks blocks) :
    let cleared := s.withScene s.engine.worldState.characters platforms blocks
    (s.perceive e).visiblePlayers.Sublist (cleared.perceive e).visiblePlayers ∧
      ∀ o ∈ (s.perceive e).visibleObstacles,
        (cleared.perceive e).visibleObstacles.count o = cleared.obstacleCandidates.count o := by
  intro cleared
  have hfewer : cleared.obstacleCandidates.Sublist s.obstacleCandidates :=
    candidates_sublist hplatforms hblocks
  constructor
  · exact (List.monotone_filter_right _ fun p => canSeePlayer_of_sublist hfewer).map _
  · intro o ho
    simp only [perceive, visibleObstacles_eq, List.mem_filter] at ho ⊢
    exact List.count_filter (canSeeObstacle_of_sublist hfewer ho.2)

theorem perceive_reordered (e : Enemy)
    (hcharacters : characters.entries.Perm s.engine.worldState.characters.entries)
    (hplatforms : platforms.Perm s.engine.platforms)
    (hblocks : blocks.Perm s.engine.worldState.environment.destructibleBlocks) :
    let reordered := s.withScene characters platforms blocks
    (reordered.perceive e).visiblePlayers.Perm (s.perceive e).visiblePlayers ∧
      (s.engine.worldState.Keyed →
        (reordered.perceive e).visiblePlayers = (s.perceive e).visiblePlayers) ∧
      (reordered.perceive e).visibleObstacles.Perm (s.perceive e).visibleObstacles := by
  intro reordered
  have hsame : reordered.obstacleCandidates.Perm s.obstacleCandidates :=
    candidates_perm hplatforms hblocks
  have hvalues : characters.values.Perm s.engine.worldState.characters.values := hcharacters.map _
  have hsees (p : Player) (origin : Position) (direction : SightDirection) :
      reordered.canSeePlayer p origin direction reordered.obstacleCandidates =
        s.canSeePlayer p origin direction s.obstacleCandidates := canSeePlayer_perm p hsame
  refine ⟨?_, fun keyed => ?_, ?_⟩
  · simp only [perceive, hsees]
    exact ((sorted_perm hvalues).filter _).map _
  · simp only [perceive, hsees]
    exact congrArg _ (congrArg _ (sorted_unique keyed hvalues))
  · simp only [perceive, visibleObstacles_eq]
    rw [canSeeObstacle_perm hsame]
    exact hsame.filter _

/-- With platforms removed or blocks destroyed, everything that was visible and is left is visible,
every copy of it; and the order of the characters and of the obstacles does not matter. -/
theorem perception_is_monotone_and_order_free {enemyId : EnemyId} {seen : GoombaPerception}
    (h : s.observe enemyId = .ok seen) :
    (∀ platforms blocks, platforms.Sublist s.engine.platforms →
      SomeDestroyed s.engine.worldState.environment.destructibleBlocks blocks →
        let cleared := s.withScene s.engine.worldState.characters platforms blocks
        ∃ seen', cleared.observe enemyId = .ok seen' ∧
          seen.visiblePlayers.Sublist seen'.visiblePlayers ∧
          ∀ o ∈ seen.visibleObstacles,
            seen'.visibleObstacles.count o = cleared.obstacleCandidates.count o) ∧
    (∀ characters platforms blocks,
      characters.entries.Perm s.engine.worldState.characters.entries →
      platforms.Perm s.engine.platforms →
      blocks.Perm s.engine.worldState.environment.destructibleBlocks →
        ∃ seen', (s.withScene characters platforms blocks).observe enemyId = .ok seen' ∧
          seen'.visiblePlayers.Perm seen.visiblePlayers ∧
          (s.engine.worldState.Keyed → seen'.visiblePlayers = seen.visiblePlayers) ∧
          seen'.visibleObstacles.Perm seen.visibleObstacles) := by
  obtain ⟨e, hthere, rfl⟩ := observe_eq_ok.mp h
  constructor
  · intro platforms blocks hplatforms hblocks
    exact ⟨_, observe_eq_ok.mpr ⟨e, hthere, rfl⟩, perceive_after_clearing e hplatforms hblocks⟩
  · intro characters platforms blocks hcharacters hplatforms hblocks
    exact ⟨_, observe_eq_ok.mpr ⟨e, hthere, rfl⟩,
      perceive_reordered e hcharacters hplatforms hblocks⟩

/-- Two walls, and a player in front of each of them. -/
def wallScene : EnemyPerceptor := ofEngine
  { platforms := [⟨200, 80, 20, 100⟩, ⟨260, 80, 20, 100⟩]
    worldState :=
      { characters := Dict.ofList
          [("visible", { playerId := "visible", x := 145, y := 100 }),
           ("behind-wall", { playerId := "behind-wall", x := 205, y := 100 })]
        environment :=
          { enemies := Dict.ofList [("enemy-1", { enemyId := "enemy-1", x := 100, y := 100 })] } } }

theorem wall_removed :
    ∃ seen seen', wallScene.observe "enemy-1" = .ok seen ∧ seen.visiblePlayers ≠ [] ∧
      (wallScene.withScene wallScene.engine.worldState.characters
        [⟨260, 80, 20, 100⟩] []).observe "enemy-1" = .ok seen' ∧
      seen.visiblePlayers.Sublist seen'.visiblePlayers := by
  obtain ⟨seen, hseen, hany⟩ := Fallible.exists_of_okAnd
    (p := fun seen : GoombaPerception => seen.visiblePlayers ≠ [])
    (show Fallible.okAnd (wallScene.observe "enemy-1") _ = true by decide +kernel)
  obtain ⟨seen', hseen', hstill, -⟩ := (perception_is_monotone_and_order_free hseen).1
    [⟨260, 80, 20, 100⟩] [] (by decide) .nil
  exact ⟨seen, seen', hseen, of_decide_eq_true hany, hseen', hstill⟩

def twin (x : ℚ) : Player := { playerId := "twin", x := x, y := 100 }

/-- Two characters of one id, stored under different keys. -/
def twinScene : EnemyPerceptor := ofEngine
  { worldState :=
      { characters := Dict.ofList [("first", twin 145), ("second", twin 205)]
        environment :=
          { enemies := Dict.ofList [("enemy-1", { enemyId := "enemy-1", x := 100, y := 100 })] } } }

/-- Sorting by id leaves them in the order of the dictionary. -/
theorem twins_follow_dictionary :
    ∃ characters, characters.entries.Perm twinScene.engine.worldState.characters.entries ∧
      ∃ seen seen', twinScene.observe "enemy-1" = .ok seen ∧
        (twinScene.withScene characters [] []).observe "enemy-1" = .ok seen' ∧
        seen.visiblePlayers.map (·.position.x) = [145, 205] ∧
        seen'.visiblePlayers.map (·.position.x) = [205, 145] := by
  have swapped : (Dict.ofList [("second", twin 205), ("first", twin 145)]).entries.Perm
      twinScene.engine.worldState.characters.entries := .swap _ _ _
  obtain ⟨seen, hseen, hfirst⟩ := Fallible.exists_of_okAnd
    (p := fun seen : GoombaPerception => seen.visiblePlayers.map (·.position.x) = [145, 205])
    (show Fallible.okAnd (twinScene.observe "enemy-1") _ = true by decide +kernel)
  obtain ⟨seen', hseen', hsecond⟩ := Fallible.exists_of_okAnd
    (p := fun seen' : GoombaPerception => seen'.visiblePlayers.map (·.position.x) = [205, 145])
    (show Fallible.okAnd ((twinScene.withScene
      (Dict.ofList [("second", twin 205), ("first", twin 145)])
      [] []).observe "enemy-1") _ = true by decide +kernel)
  exact ⟨_, swapped, seen, seen', hseen, hseen', of_decide_eq_true hfirst,
    of_decide_eq_true hsecond⟩

end EnemyPerceptor

end DistributedSmb
