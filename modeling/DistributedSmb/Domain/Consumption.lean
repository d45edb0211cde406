import DistributedSmb.Domain.Objectives

/-!
# Blocks and power-ups are consumed once

Several players may touch the same block or power-up, in one tick and in many. Every event about
one of them uses up an object that was intact before it, and what is used up stays as it is.
-/

namespace DistributedSmb

open Library

def GameEvent.destroys (position : ℤ × ℤ) : GameEvent → Bool
  | .blockDestroyed destroyed => destroyed = position
  | _ => false

def GameEvent.collects (powerupId : PowerUpId) : GameEvent → Bool
  | .powerUpCollected collected _ => collected = powerupId
  | _ => false

namespace GameEngine

def powerUps (g : GameEngine) : Dict PowerUpId ExclusivePowerUp := g.worldState.environment.powerUps

def blocks (g : GameEngine) : List DestructibleBlock := g.worldState.environment.destructibleBlocks

def isIntactAt (position : ℤ × ℤ) (b : DestructibleBlock) : Bool :=
  b.position = position && !b.destroyed

def isFree (powerupId : PowerUpId) (u : ExclusivePowerUp) : Bool :=
  u.powerupId = powerupId && !u.collected

/-- What was queued between two states was used up between them, and what was used up before is
untouched. -/
structure Consumes (g g' : GameEngine) : Prop where
  events : g.events <+: g'.events
  blocks : ∀ position, (g.queued g').countP (GameEvent.destroys position) +
    g'.blocks.countP (isIntactAt position) = g.blocks.countP (isIntactAt position)
  powerUps : ∀ powerupId, (g.queued g').countP (GameEvent.collects powerupId) +
    g'.powerUps.values.countP (isFree powerupId) = g.powerUps.values.countP (isFree powerupId)
  destroyed : ∀ b ∈ g.blocks, b.destroyed = true → b ∈ g'.blocks
  collected : ∀ e ∈ g.powerUps.entries, e.2.collected = true → e ∈ g'.powerUps.entries
  taken : ∀ e' ∈ g'.powerUps.entries, ∃ u, (e'.1, u) ∈ g.powerUps.entries ∧
    (e'.2 = u ∨ e'.2.collected = true)

theorem Consumes.refl (g : GameEngine) : g.Consumes g where
  events := List.prefix_rfl
  blocks position := by simp [queued]
  powerUps powerupId := by simp [queued]
  destroyed _ hb _ := hb
  collected _ he _ := he
  taken e he := ⟨e.2, he, .inl rfl⟩

theorem Consumes.trans {g g' g'' : GameEngine} (h : g.Consumes g') (h' : g'.Consumes g'') :
    g.Consumes g'' where
  events := h.events.trans h'.events
  blocks position := by
    have := h.blocks position
    have := h'.blocks position
    rw [queued_trans h.events h'.events, List.countP_append]
    omega
  powerUps powerupId := by
    have := h.powerUps powerupId
    have := h'.powerUps powerupId
    rw [queued_trans h.events h'.events, List.countP_append]
    omega
  destroyed b hb hd := h'.destroyed b (h.destroyed b hb hd) hd
  collected e he hc := h'.collected e (h.collected e he hc) hc
  taken e'' he'' := by
    obtain ⟨u', hu', hsame'⟩ := h'.taken e'' he''
    obtain ⟨u, hu, hsame⟩ := h.taken _ hu'
    rcases hsame' with rfl | hc
    · exact ⟨u, hu, hsame⟩
    · exact ⟨u, hu, .inr hc⟩

/-! ## Blocks -/

theorem bumpBlock_conserves {p p' : Player} {b b' : DestructibleBlock} {out : List GameEvent}
    (h : bumpBlock p b = .ok (p', b', out)) (position : ℤ × ℤ) :
    out.countP (GameEvent.destroys position) + [b'].countP (isIntactAt position) =
      [b].countP (isIntactAt position) := by
  unfold bumpBlock at h
  split at h
  case isTrue hintact =>
    have intact : b.destroyed = false := by simp_all
    split at h
    · rw [destroy_of_intact intact] at h
      cases h
      by_cases hposition : b.position = position <;>
        simp [GameEvent.destroys, isIntactAt, intact, hposition]
    · cases h; simp
  case isFalse => cases h; simp

/-- A destroyed block is passed over. -/
theorem bumpBlock_destroyed {p p' : Player} {b b' : DestructibleBlock} {out : List GameEvent}
    (destroyed : b.destroyed = true) (h : bumpBlock p b = .ok (p', b', out)) : b' = b := by
  rw [bumpBlock, if_neg (by simp [destroyed])] at h
  cases h
  rfl

theorem bumpBlocks_consumes {blocks blocks' : List DestructibleBlock} {pid : PlayerId}
    {p p' : Player} {out : List GameEvent} (h : bumpBlocks blocks pid p = .ok (blocks', p', out)) :
    (∀ position, out.countP (GameEvent.destroys position) + blocks'.countP (isIntactAt position) =
      blocks.countP (isIntactAt position)) ∧
    ∀ b ∈ blocks, b.destroyed = true → b ∈ blocks' := by
  obtain ⟨⟨q, l, events⟩, hsweep, h⟩ := Fallible.bind_eq_ok.mp h
  cases h
  refine ⟨fun position => Sweep.conserves (fun _ _ _ _ _ hb => bumpBlock_conserves hb position)
    hsweep, fun b hb hd => ?_⟩
  obtain ⟨s₁, s₂, b', out, -, hbump, hmem⟩ := Sweep.visits (P := fun _ => True)
    (fun _ _ _ _ _ _ _ => trivial) hsweep trivial hb
  rwa [bumpBlock_destroyed hd hbump] at hmem

theorem handleBlockCollisions_consumes {g g' : GameEngine} (h : g.handleBlockCollisions = .ok g') :
    g.Consumes g' := by
  obtain ⟨events, hqueued, hkind⟩ := handleBlockCollisions_queues h
  obtain ⟨⟨blocks, characters, out⟩, hsweep, h⟩ := Fallible.bind_eq_ok.mp h
  cases h
  obtain rfl : out = events := List.append_cancel_left hqueued
  have hstate := Dict.sweep_state_rel
    (Q := fun (blocks : List DestructibleBlock) (out : List GameEvent) blocks' =>
      (∀ position, out.countP (GameEvent.destroys position) +
        blocks'.countP (isIntactAt position) = blocks.countP (isIntactAt position)) ∧
      ∀ b ∈ blocks, b.destroyed = true → b ∈ blocks')
    (fun _ => ⟨by simp, fun _ hb _ => hb⟩)
    (fun h h' => ⟨fun position => by
        have := h.1 position
        have := h'.1 position
        rw [List.countP_append]
        omega,
      fun b hb hd => h'.2 b (h.2 b hb hd) hd⟩)
    (fun _ _ _ _ _ _ hb => bumpBlocks_consumes hb) hsweep
  have nothing (powerupId : PowerUpId) : out.countP (GameEvent.collects powerupId) = 0 := by
    refine List.countP_eq_zero.mpr fun event he => ?_
    have := hkind event he
    cases event <;> simp_all [GameEvent.collects, TickStage.emits]
  refine ⟨List.prefix_append _ _, fun position => ?_, fun powerupId => ?_, hstate.2,
    fun _ he _ => he, fun e he => ⟨e.2, he, .inl rfl⟩⟩
  · rw [queued_append rfl]
    exact hstate.1 position
  · rw [queued_append rfl, nothing, Nat.zero_add]
    rfl

/-! ## Power-ups -/

theorem awardPowerup_conserves {now : ℚ} {characters characters' : Dict PlayerId Player}
    {key : PowerUpId} {u u' : ExclusivePowerUp} {out : List GameEvent}
    (h : awardPowerup now characters key u = .ok (characters', u', out)) (powerupId : PowerUpId) :
    out.countP (GameEvent.collects powerupId) + [u'].countP (isFree powerupId) =
      [u].countP (isFree powerupId) := by
  unfold awardPowerup at h
  split at h
  case isTrue => cases h; simp
  case isFalse hfree =>
    dsimp only at h
    split at h
    · cases h; simp
    · simp only [ExclusivePowerUp.collect, hfree, Bool.false_eq_true, if_false,
        Fallible.ok_bind] at h
      cases h
      simp [GameEvent.collects, isFree, hfree]

/-- A collected power-up is passed over. -/
theorem awardPowerup_collected {now : ℚ} {characters characters' : Dict PlayerId Player}
    {key : PowerUpId} {u u' : ExclusivePowerUp} {out : List GameEvent}
    (collected : u.collected = true)
    (h : awardPowerup now characters key u = .ok (characters', u', out)) : u' = u := by
  rw [awardPowerup, if_pos collected] at h
  cases h
  rfl

theorem handlePowerupCollisions_consumes {now : ℚ} {g g' : GameEngine}
    (h : g.handlePowerupCollisions now = .ok g') : g.Consumes g' := by
  obtain ⟨events, hqueued, hkind⟩ := handlePowerupCollisions_queues h
  unfold handlePowerupCollisions at h
  split at h
  · cases h; exact .refl g
  obtain ⟨⟨characters, powerUps, out⟩, hsweep, h⟩ := Fallible.bind_eq_ok.mp h
  cases h
  obtain rfl : out = events := List.append_cancel_left hqueued
  have nothing (position : ℤ × ℤ) : out.countP (GameEvent.destroys position) = 0 := by
    refine List.countP_eq_zero.mpr fun event he => ?_
    have := hkind event he
    cases event <;> simp_all [GameEvent.destroys, TickStage.emits]
  refine ⟨List.prefix_append _ _, fun position => ?_, fun powerupId => ?_, fun _ hb _ => hb,
    fun e he hc => ?_, fun e he => ?_⟩
  · rw [queued_append rfl, nothing, Nat.zero_add]
    rfl
  · rw [queued_append rfl]
    exact Dict.sweep_conserves (fun _ _ _ _ _ _ hu => awardPowerup_conserves hu powerupId) hsweep
  · obtain ⟨s₁, s₂, u', out, -, haward, hmem⟩ := Dict.sweep_visits (P := fun _ => True)
      (fun _ _ _ _ _ _ _ _ => trivial) hsweep trivial he
    rwa [awardPowerup_collected hc haward] at hmem
  · exact Dict.mem_entries_sweep (R := fun u u' => u' = u ∨ u'.collected = true)
      (fun _ _ _ _ _ _ hu => by
        rcases awardPowerup_cases hu with ⟨-, rfl, -⟩ | ⟨_, _, _, _, _, -, rfl, -⟩
        · exact .inl rfl
        · exact .inr rfl) hsweep he

/-! ## The tick -/

theorem consumes_of_quiet {g g' : GameEngine} {stage : TickStage} (queues : Queues stage.emits g g')
    (others : stage ≠ .handleBlockCollisions ∧ stage ≠ .handlePowerupCollisions)
    (blocks : g'.blocks = g.blocks) (powerUps : g'.powerUps = g.powerUps) : g.Consumes g' := by
  obtain ⟨events, hqueued, hkind⟩ := queues
  have nothing (kind : GameEvent → Bool)
      (h : ∀ e, kind e = true → (∃ position, e = .blockDestroyed position) ∨
        ∃ powerupId pid, e = .powerUpCollected powerupId pid) : (g.queued g').countP kind = 0 := by
    rw [queued_append hqueued, List.countP_eq_zero]
    intro event he hevent
    have hemitted := hkind event he
    rcases h event hevent with ⟨position, rfl⟩ | ⟨powerupId, pid, rfl⟩ <;>
      cases stage <;> simp [TickStage.emits] at hemitted others
  refine ⟨⟨events, hqueued.symm⟩, fun position => ?_, fun powerupId => ?_, fun b hb _ => ?_,
    fun e he _ => ?_, fun e he => ⟨e.2, powerUps ▸ he, .inl rfl⟩⟩
  · rw [nothing _ fun e he => ?_, blocks, Nat.zero_add]
    cases e <;> simp [GameEvent.destroys] at he ⊢
  · rw [nothing _ fun e he => ?_, powerUps, Nat.zero_add]
    cases e <;> simp [GameEvent.collects] at he ⊢
  · rwa [blocks]
  · rwa [powerUps]

theorem stage_consumes {args : TickArgs} {stage : TickStage} {g g' : GameEngine}
    (h : stage.run args g = .ok g') : g.Consumes g' := by
  by_cases hblocks : stage = .handleBlockCollisions
  · subst hblocks
    exact handleBlockCollisions_consumes h
  by_cases hpowerUps : stage = .handlePowerupCollisions
  · subst hpowerUps
    exact handlePowerupCollisions_consumes h
  exact consumes_of_quiet (stage_queues h) ⟨hblocks, hpowerUps⟩ ((stage_leaves h).blocks hblocks)
    ((stage_leaves h).powerUps hpowerUps)

theorem Consumes.countTick {g g' : GameEngine} (h : g.Consumes g') : g.Consumes g'.countTick :=
  ⟨h.events, h.blocks, h.powerUps, h.destroyed, h.collected, h.taken⟩

theorem tick_consumes {g g' : GameEngine} {args : TickArgs} (h : g.tick args = .ok g') :
    g.Consumes g' := by
  unfold tick at h
  split at h
  · cases h
    exact (Consumes.refl g).countTick
  · obtain ⟨g₁, hstages, h⟩ := Fallible.bind_eq_ok.mp h
    cases h
    have hconsumes : g.Consumes g₁ := Fallible.foldlM_rel Consumes.refl Consumes.trans
      (fun _ _ _ _ h => stage_consumes h) hstages
    exact hconsumes.countTick

/-! ## The owner -/

/-- The player touches the power-up, and nobody who does has a lower join index. -/
def Wins (characters : Dict PlayerId Player) (u : ExclusivePowerUp) (pid : PlayerId) : Prop :=
  ∃ p ∈ characters.values, p.playerId = pid ∧ checkCollision p u.box = true ∧
    ∀ q ∈ characters.values, checkCollision q u.box = true → p.joinIndex ≤ q.joinIndex

def withoutEffect (p : Player) : Player := { p with powerupEffectExpiresAt := none }

/-- The characters without their effects, which is all that an award changes. -/
def standing (characters : Dict PlayerId Player) : Dict PlayerId Player :=
  characters.mapValues withoutEffect

theorem mem_values_of_standing {cs cs' : Dict PlayerId Player} (same : standing cs = standing cs')
    {p : Player} (hp : p ∈ cs.values) : ∃ p' ∈ cs'.values, p'.playerId = p.playerId ∧
      p'.joinIndex = p.joinIndex ∧ ∀ box, checkCollision p' box = checkCollision p box := by
  obtain ⟨e, he, rfl⟩ := List.mem_map.mp hp
  have hmem : (e.1, withoutEffect e.2) ∈ (standing cs).entries := List.mem_map.mpr ⟨e, he, rfl⟩
  rw [same] at hmem
  obtain ⟨e', he', heq⟩ := List.mem_map.mp hmem
  have hsame : withoutEffect e'.2 = withoutEffect e.2 := congrArg Prod.snd heq
  have hid : (withoutEffect e'.2).playerId = (withoutEffect e.2).playerId := by rw [hsame]
  have hindex : (withoutEffect e'.2).joinIndex = (withoutEffect e.2).joinIndex := by rw [hsame]
  have htouch (box : Box) :
      checkCollision (withoutEffect e'.2) box = checkCollision (withoutEffect e.2) box := by
    rw [hsame]
  exact ⟨e'.2, List.mem_map_of_mem he', hid, hindex, htouch⟩

theorem Wins.of_standing {cs cs' : Dict PlayerId Player} {u : ExclusivePowerUp} {pid : PlayerId}
    (same : standing cs = standing cs') (h : Wins cs u pid) : Wins cs' u pid := by
  obtain ⟨p, hp, hid, htouch, hfirst⟩ := h
  obtain ⟨p', hp', hid', hindex', htouch'⟩ := mem_values_of_standing same hp
  refine ⟨p', hp', hid'.trans hid, (htouch' _).trans htouch, fun q hq hq' => ?_⟩
  obtain ⟨r, hr, -, hindex, htouches⟩ := mem_values_of_standing same.symm hq
  rw [hindex', ← hindex]
  exact hfirst r hr ((htouches _).trans hq')

/-- An award goes to a winner, and at most starts its effect. -/
theorem awardPowerup_awards {now : ℚ} {characters characters' : Dict PlayerId Player}
    {key : PowerUpId} {u u' : ExclusivePowerUp} {out : List GameEvent}
    (h : awardPowerup now characters key u = .ok (characters', u', out)) :
    standing characters' = standing characters ∧
      (u' = u ∨ ∃ pid, u'.owner = some pid ∧ Wins characters u pid) := by
  unfold awardPowerup at h
  split at h
  case isTrue => cases h; exact ⟨rfl, .inl rfl⟩
  case isFalse hfree =>
    dsimp only at h
    split at h
    · cases h; exact ⟨rfl, .inl rfl⟩
    · rename_i pid p hwinner
      obtain ⟨hmem, htouch⟩ := List.mem_filter.mp (List.minOn?_mem hwinner)
      simp only [ExclusivePowerUp.collect, hfree, Bool.false_eq_true, if_false,
        Fallible.ok_bind] at h
      cases h
      refine ⟨Dict.mapValues_set_eq hmem (by split <;> rfl), .inr ⟨p.playerId, rfl, p,
        List.mem_map_of_mem hmem, rfl, htouch, fun q hq hq' => ?_⟩⟩
      obtain ⟨e, he, rfl⟩ := List.mem_map.mp hq
      have hcolliding : e ∈ characters.entries.filter fun e => checkCollision e.2 u.box :=
        List.mem_filter.mpr ⟨he, hq'⟩
      have hfirst := List.apply_get_minOn?_le_of_mem
        (f := fun e : PlayerId × Player => e.2.joinIndex) hcolliding
      simpa only [hwinner, Option.get_some] using hfirst

theorem handlePowerupCollisions_owner {now : ℚ} {g g' : GameEngine}
    (h : g.handlePowerupCollisions now = .ok g') {powerupId : PowerUpId} {u u' : ExclusivePowerUp}
    (hu : (powerupId, u) ∈ g.powerUps.entries) (hu' : (powerupId, u') ∈ g'.powerUps.entries) :
    u' = u ∨ ∃ pid, u'.owner = some pid ∧ Wins g.worldState.characters u pid := by
  have unique {d : Dict PowerUpId ExclusivePowerUp} {a b : ExclusivePowerUp}
      (ha : (powerupId, a) ∈ d.entries) (hb : (powerupId, b) ∈ d.entries) : a = b :=
    Option.some.inj ((Dict.get?_eq_some_iff.mpr ha).symm.trans (Dict.get?_eq_some_iff.mpr hb))
  unfold handlePowerupCollisions at h
  split at h
  · cases h
    exact .inl (unique hu' hu)
  obtain ⟨⟨characters, powerUps, out⟩, hsweep, h⟩ := Fallible.bind_eq_ok.mp h
  cases h
  obtain ⟨cs, cs', a, out, hsame, haward, hmem⟩ := Dict.sweep_visits
    (P := fun cs => standing cs = standing g.worldState.characters)
    (fun _ _ _ _ _ _ hs haward => (awardPowerup_awards haward).1.trans hs) hsweep rfl hu
  obtain rfl : u' = a := unique hu' hmem
  rcases (awardPowerup_awards haward).2 with hsame' | ⟨pid, howner, hwins⟩
  · exact .inl hsame'
  · exact .inr ⟨pid, howner, hwins.of_standing hsame⟩

/-- Whoever collects a power-up in a tick wins it among the players as the collisions with the
blocks left them. -/
theorem tick_owner {g g' : GameEngine} {args : TickArgs} (h : g.tick args = .ok g')
    {powerupId : PowerUpId} {u u' : ExclusivePowerUp}
    (hu : (powerupId, u) ∈ g.powerUps.entries) (hu' : (powerupId, u') ∈ g'.powerUps.entries)
    (collected : u' ≠ u) :
    ∃ g₁ pid, (tickStages.take 6).foldlM (TickStage.run args) g = .ok g₁ ∧
      u'.owner = some pid ∧ Wins g₁.worldState.characters u pid := by
  unfold tick at h
  split at h
  · cases h
    have hsame := (Dict.get?_eq_some_iff.mpr hu').symm.trans (Dict.get?_eq_some_iff.mpr hu)
    exact absurd (Option.some.inj hsame) collected
  have hsplit : tickStages = tickStages.take 6 ++ .handlePowerupCollisions :: tickStages.drop 7 :=
    rfl
  rw [hsplit, List.foldlM_append] at h
  obtain ⟨g₃, hstages, h⟩ := Fallible.bind_eq_ok.mp h
  cases h
  obtain ⟨g₁, hbefore, hstages⟩ := Fallible.bind_eq_ok.mp hstages
  rw [List.foldlM_cons] at hstages
  obtain ⟨g₂, hstage, hafter⟩ := Fallible.bind_eq_ok.mp hstages
  -- the other stages leave the power-ups alone
  have same {stages : List TickStage} {g g' : GameEngine}
      (others : .handlePowerupCollisions ∉ stages)
      (h : stages.foldlM (TickStage.run args) g = .ok g') : g'.powerUps = g.powerUps :=
    Fallible.foldlM_keeps (P := fun g₁ : GameEngine => g₁.powerUps = g.powerUps)
      (fun _ stage _ hmem hg₁ h =>
        ((stage_leaves h).powerUps fun heq => others (heq ▸ hmem)).trans hg₁) h rfl
  rw [← same (by decide) hbefore] at hu
  have hafter' : g₃.powerUps = g₂.powerUps := same (by decide) hafter
  have hu₂ : (powerupId, u') ∈ g₂.powerUps.entries := hafter' ▸ hu'
  rcases handlePowerupCollisions_owner hstage hu hu₂ with heq | ⟨pid, howner, hwins⟩
  · exact absurd heq collected
  · exact ⟨g₁, pid, hbefore, howner, hwins⟩

/-! ## Runs -/

theorem ticks_consume {g g' : GameEngine} {ticks : List TickArgs}
    (h : ticks.foldlM tick g = .ok g') : g.Consumes g' :=
  Fallible.foldlM_rel Consumes.refl Consumes.trans (fun _ _ _ _ h => tick_consumes h) h

/-- A level was loaded whose blocks stand at distinct positions and whose power-ups belong to
nobody. -/
structure Intact (g : GameEngine) (level : Level) : Prop where
  loaded : ∃ w : WorldState, g.worldState = w.loadLevel level
  positions : (level.blocks.map DestructibleBlock.position).Nodup
  unowned : ∀ u ∈ level.powerups, u.owner = none

/-- Who owns a power-up has collected it. -/
def OwnersCollected (g : GameEngine) : Prop :=
  ∀ e ∈ g.powerUps.entries, e.2.owner ≠ none → e.2.collected = true

theorem OwnersCollected.mono {g g' : GameEngine} (h : g.OwnersCollected) (hg : g.Consumes g') :
    g'.OwnersCollected := by
  intro e' he' howner
  obtain ⟨u, hu, hsame | hc⟩ := hg.taken e' he'
  · rw [hsame] at howner ⊢
    exact h _ hu howner
  · exact hc

theorem Intact.mem_powerUps {g : GameEngine} {level : Level} (h : g.Intact level)
    {e : PowerUpId × ExclusivePowerUp} (he : e ∈ g.powerUps.entries) :
    e.2 ∈ level.powerups ∧ e.2.powerupId = e.1 := by
  obtain ⟨w, hloaded⟩ := h.loaded
  rw [powerUps, hloaded] at he
  obtain ⟨u, hu, rfl⟩ := List.mem_map.mp (Dict.mem_of_mem_ofList he)
  exact ⟨hu, rfl⟩

theorem Intact.ownersCollected {g : GameEngine} {level : Level} (h : g.Intact level) :
    g.OwnersCollected :=
  fun _ he howner => absurd (h.unowned _ (h.mem_powerUps he).1) howner

theorem Intact.countP_blocks_le {g : GameEngine} {level : Level} (h : g.Intact level)
    (position : ℤ × ℤ) : g.blocks.countP (isIntactAt position) ≤ 1 := by
  have hblocks : g.blocks = level.blocks := by
    obtain ⟨w, hloaded⟩ := h.loaded
    rw [blocks, hloaded]
    rfl
  rw [hblocks]
  refine le_trans ?_ (List.nodup_iff_count_le_one.mp h.positions position)
  rw [List.count, List.countP_map]
  refine List.countP_mono_left fun b _ hb => ?_
  simpa using (Bool.and_eq_true_iff.mp hb).1

theorem Intact.countP_powerUps_le {g : GameEngine} {level : Level} (h : g.Intact level)
    (powerupId : PowerUpId) : g.powerUps.values.countP (isFree powerupId) ≤ 1 := by
  refine le_trans ?_ (List.nodup_iff_count_le_one.mp g.powerUps.nodup powerupId)
  rw [Dict.values, List.count, List.countP_map, List.countP_map]
  refine List.countP_mono_left fun e he hfree => ?_
  simpa [(h.mem_powerUps he).2] using (Bool.and_eq_true_iff.mp hfree).1

/-- At any point of a run from a loaded level, around any tick of it: no tick raises, no block and
no power-up is reported twice, what is destroyed or collected stays as it is with its owner, and
whoever collects a power-up touches it and joined first of those who do. -/
theorem consumed_once {g : GameEngine} {level : Level} (h : g.Intact level)
    (before : List TickArgs) (args : TickArgs) (after : List TickArgs) :
    ∃ g₁ g₂ g₃, before.foldlM tick g = .ok g₁ ∧ g₁.tick args = .ok g₂ ∧
      after.foldlM tick g₂ = .ok g₃ ∧
      (∀ position, (g.queued g₃).countP (GameEvent.destroys position) ≤ 1) ∧
      (∀ powerupId, (g.queued g₃).countP (GameEvent.collects powerupId) ≤ 1) ∧
      (∀ b ∈ g₂.blocks, b.destroyed = true → b ∈ g₃.blocks) ∧
      (∀ powerupId u, g₂.powerUps.get? powerupId = some u → u.collected = true →
        g₃.powerUps.get? powerupId = some u) ∧
      (∀ powerupId u pid, g₂.powerUps.get? powerupId = some u → u.owner = some pid →
        ∃ u', g₃.powerUps.get? powerupId = some u' ∧ u'.owner = some pid) ∧
      (∀ powerupId u u', g₁.powerUps.get? powerupId = some u → u.collected = false →
        g₂.powerUps.get? powerupId = some u' → u'.collected = true →
        ∃ g' pid, (tickStages.take 6).foldlM (TickStage.run args) g₁ = .ok g' ∧
          u'.owner = some pid ∧ Wins g'.worldState.characters u pid) := by
  have keyed := enemiesKeyed_of_loaded h.loaded
  obtain ⟨g₁, hbefore, keyed⟩ := ticks_succeed_of_keyed before keyed
  obtain ⟨g₂, htick, keyed⟩ := tick_succeeds_of_keyed args keyed
  obtain ⟨g₃, hafter, -⟩ := ticks_succeed_of_keyed after keyed
  have hstart := (ticks_consume hbefore).trans (tick_consumes htick)
  have hrest := ticks_consume hafter
  have hrun := hstart.trans hrest
  have kept (powerupId : PowerUpId) (u : ExclusivePowerUp)
      (hu : g₂.powerUps.get? powerupId = some u) (hc : u.collected = true) :
      g₃.powerUps.get? powerupId = some u :=
    Dict.get?_eq_some_iff.mpr (hrest.collected _ (Dict.get?_eq_some_iff.mp hu) hc)
  refine ⟨g₁, g₂, g₃, hbefore, htick, hafter, fun position => ?_, fun powerupId => ?_,
    hrest.destroyed, kept, fun powerupId u pid hu howner => ?_,
    fun powerupId u u' hu hfree hu' hc => ?_⟩
  · have := hrun.blocks position
    have := h.countP_blocks_le position
    omega
  · have := hrun.powerUps powerupId
    have := h.countP_powerUps_le powerupId
    omega
  · have hcollected := h.ownersCollected.mono hstart _ (Dict.get?_eq_some_iff.mp hu)
    exact ⟨u, kept powerupId u hu (hcollected (by simp [howner])), howner⟩
  · refine tick_owner htick (Dict.get?_eq_some_iff.mp hu) (Dict.get?_eq_some_iff.mp hu') ?_
    rintro rfl
    exact absurd hc (by simp [hfree])

/-- Two players stand on one coin, the later one first in the dictionary. -/
def contestedCoin : GameEngine where
  worldState := WorldState.loadLevel
    { characters := .ofList
        [("player2", { playerId := "player2", x := 88, y := 500, joinIndex := 1 }),
          ("player1", { playerId := "player1", x := 80, y := 500 })] } coinGateLevel
  worldWidth := 1000
  worldHeight := 600
  level := coinGateLevel

/-- The first player gets it, once. -/
theorem contested_coin_has_one_owner : ∃ g₂ g₃, contestedCoin.tick ⟨1 / 60, ∅, none, 0⟩ = .ok g₂ ∧
    [(⟨1 / 60, ∅, none, 1⟩ : TickArgs)].foldlM tick g₂ = .ok g₃ ∧
    (∃ u', g₃.powerUps.get? "coin-1" = some u' ∧ u'.owner = some "player1") ∧
    (contestedCoin.queued g₃).countP (GameEvent.collects "coin-1") ≤ 1 := by
  have intact : contestedCoin.Intact coinGateLevel :=
    ⟨⟨_, rfl⟩, by decide, by simp [coinGateLevel]⟩
  obtain ⟨g₁, g₂, g₃, hbefore, htick, hafter, -, honce, -, -, howner, -⟩ :=
    consumed_once intact [] ⟨1 / 60, ∅, none, 0⟩ [⟨1 / 60, ∅, none, 1⟩]
  obtain rfl : contestedCoin = g₁ := Except.ok.inj hbefore
  obtain ⟨g', hg', hwon⟩ := Fallible.exists_of_okAnd
    (x := contestedCoin.tick ⟨1 / 60, ∅, none, 0⟩)
    (p := fun g' => (g'.powerUps.get? "coin-1").bind ExclusivePowerUp.owner = some "player1")
    (by decide +kernel)
  obtain rfl : g' = g₂ := Except.ok.inj (hg'.symm.trans htick)
  obtain ⟨u, hu, hfirst⟩ := Option.bind_eq_some_iff.mp (of_decide_eq_true hwon)
  exact ⟨g', g₃, htick, hafter, howner "coin-1" u "player1" hu hfirst, honce "coin-1"⟩

end GameEngine

end DistributedSmb
