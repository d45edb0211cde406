import DistributedSmb.Agents.Perceptor

/-!
# Agents in the simulation

`AgentGameIntegration`: which enemies are controlled, by a fixed action, by a controller or over
the SPADE bridge, and the tick that asks for one request for each of them and runs the simulation.
What a tick finds outside, among it the answers of the controllers, is in `AgentTick`.
-/

namespace DistributedSmb

open Library

def agentQueueCapacity : ℕ := 64

/-! ## The bridge -/

/-- `queue.Queue`; a `maxsize` of 0 is no bound. -/
structure AgentQueue (α : Type) where
  maxsize : ℕ := agentQueueCapacity
  items : List α := []
  fits : 0 < maxsize → items.length ≤ maxsize := by simp

namespace AgentQueue

variable {α : Type}

/-- `_put_latest`: a full queue drops its oldest item. Also returns how many items it dropped. -/
def putLatest (q : AgentQueue α) (value : α) : AgentQueue α × ℕ :=
  if hfull : 0 < q.maxsize ∧ q.items.length = q.maxsize then
    ({ maxsize := q.maxsize
       items := q.items.tail ++ [value]
       fits := fun _ => by
        rw [List.length_append, List.length_tail, List.length_singleton]
        omega }, 1)
  else
    ({ maxsize := q.maxsize
       items := q.items ++ [value]
       fits := fun hbounded => by
        have := q.fits hbounded
        rw [List.length_append, List.length_singleton]
        omega }, 0)

/-- `get_nowait` until it is empty. -/
def drained (q : AgentQueue α) : AgentQueue α where
  maxsize := q.maxsize
  items := []
  fits _ := Nat.zero_le _

end AgentQueue

structure SpadeAgentBridge where
  perceptions : AgentQueue GoombaPerceptionMessage := {}
  actionRequests : AgentQueue ActionRequest := {}
  droppedPerceptions : ℕ := 0
  droppedActions : ℕ := 0

namespace SpadeAgentBridge

def fresh : SpadeAgentBridge := {}

def publish (b : SpadeAgentBridge) (message : GoombaPerceptionMessage) : SpadeAgentBridge :=
  let (perceptions, dropped) := b.perceptions.putLatest message
  { b with perceptions := perceptions, droppedPerceptions := b.droppedPerceptions + dropped }

/-- `none` is whatever is no `ActionRequest`. -/
def submitAction (b : SpadeAgentBridge) : Option ActionRequest → Except AgentError SpadeAgentBridge
  | none => .error (.typeError "SPADE must submit ActionRequest instances")
  | some request =>
    let (actionRequests, dropped) := b.actionRequests.putLatest request
    .ok { b with actionRequests := actionRequests, droppedActions := b.droppedActions + dropped }

def discardPerceptions (b : SpadeAgentBridge) : SpadeAgentBridge :=
  { b with perceptions := b.perceptions.drained }

end SpadeAgentBridge

/-! ## Control -/

/-- A fixed action, or an object that decides. -/
inductive Controller where
  | action (action : EnemyAction)
  | object
  deriving DecidableEq

/-- `actionMaxAgeTicks` is what `__post_init__` has made of it; a Python set of ids is a dictionary
without values. -/
structure AgentGameIntegration where
  engine : GameEngine
  enabled : Bool := false
  perceptionIntervalTicks : ℕ := 5
  interval_pos : 0 < perceptionIntervalTicks := by decide
  actionMaxAgeTicks : ℕ := 2 * perceptionIntervalTicks
  controllers : Dict EnemyId Controller := ∅
  spadeControlledEnemyIds : Dict EnemyId Unit := ∅
  bridge : SpadeAgentBridge := {}
  lastResults : Dict EnemyId ActionResult := ∅
  latestSpadeActions : Dict EnemyId ActionRequest := ∅

/-- The order in which Python walks a set. -/
structure WalkingOrder where
  walk : List EnemyId → List EnemyId
  perm : ∀ ids, (walk ids).Perm ids

/-- The order in which the ids were stored. -/
def WalkingOrder.stored : WalkingOrder := ⟨id, fun _ => .refl _⟩

/-- The interval of an integration that is built without one. -/
theorem defaultInterval_pos : 0 < 5 := by decide

/-- What a tick is called with and finds outside: the clock of the simulation, the order of the
controlled ids, and what the controllers answer; `none` is whatever is no `ActionRequest`. -/
structure AgentTick where
  dt : ℚ
  playerInputs : Dict PlayerId InputState
  actionRequests : Option (Dict EnemyId (Option ActionRequest)) := none
  now : ℚ
  order : WalkingOrder
  decide : EnemyId → GoombaPerception → Except AgentError (Option ActionRequest)

def AgentTick.engineArgs (c : AgentTick) (commands : Option (Dict EnemyId EnemyMovementCommand)) :
    GameEngine.TickArgs := ⟨c.dt, c.playerInputs, commands, c.now⟩

/-- Raised before the simulation was stepped, with what is left behind, or after that. -/
inductive TickFailure where
  | before (error : AgentError) (left : AgentGameIntegration)
  | during (error : AgentError)

/-- The commands for the engine and the results so far. -/
structure Plan where
  directions : Dict EnemyId EnemyMovementCommand := ∅
  pendingResults : Dict EnemyId ActionResult := ∅
  deriving DecidableEq

namespace AgentGameIntegration

variable (s : AgentGameIntegration)

def perceptor : EnemyPerceptor := .ofEngine s.engine

def controlEnemy (enemyId : EnemyId) (controller : Controller) :
    Except AgentError AgentGameIntegration :=
  if enemyId ∉ s.engine.enemies then .error (.enemyNotFoundError (doesNotExist enemyId))
  else
    .ok { s with
      spadeControlledEnemyIds := s.spadeControlledEnemyIds.erase enemyId
      controllers := s.controllers.set enemyId controller }

def controlEnemyWithSpade (enemyId : EnemyId) : Except AgentError AgentGameIntegration :=
  if enemyId ∉ s.engine.enemies then .error (.enemyNotFoundError (doesNotExist enemyId))
  else if enemyId ∈ s.controllers then
    .error (.valueError s!"Enemy {quoted enemyId} already has a synchronous controller")
  else .ok { s with spadeControlledEnemyIds := s.spadeControlledEnemyIds.set enemyId () }

def releaseEnemy (enemyId : EnemyId) : AgentGameIntegration :=
  { s with
    controllers := s.controllers.erase enemyId
    spadeControlledEnemyIds := s.spadeControlledEnemyIds.erase enemyId
    latestSpadeActions := s.latestSpadeActions.erase enemyId }

/-- `controllers.keys() | spade_controlled_enemy_ids`. -/
def controlledIds : List EnemyId :=
  s.controllers.keys ++ s.spadeControlledEnemyIds.keys.filter (· ∉ s.controllers)

/-! ## SPADE actions -/

/-- The observation sequence of a request that is for a selected enemy, and whose observation is
neither in the future nor too old. -/
def admits (currentSequence : ℤ) (request : ActionRequest) : Option ℤ :=
  request.observationSequence.filter fun observationSequence =>
    request.enemyId ∈ s.spadeControlledEnemyIds ∧ observationSequence ≤ currentSequence ∧
      currentSequence - observationSequence ≤ s.actionMaxAgeTicks

/-- One round of `_drain_spade_actions`. -/
def drainOne (currentSequence : ℤ) (s : AgentGameIntegration) (request : ActionRequest) :
    AgentGameIntegration :=
  match s.admits currentSequence request with
  | none => s
  | some observationSequence =>
    let previous := (s.latestSpadeActions.get? request.enemyId).bind (·.observationSequence)
    if previous.all (· ≤ observationSequence) then
      { s with latestSpadeActions := s.latestSpadeActions.set request.enemyId request }
    else s

def discardQueuedActions : AgentGameIntegration :=
  { s with bridge := { s.bridge with actionRequests := s.bridge.actionRequests.drained } }

def drainSpadeActions (currentSequence : ℤ) : AgentGameIntegration :=
  s.bridge.actionRequests.items.foldl (drainOne currentSequence) s.discardQueuedActions

/-- The latest action, unless it is too old by now: then it is forgotten and the enemy stops. -/
def spadeActionFor (enemyId : EnemyId) (currentSequence : ℤ) :
    ActionRequest × AgentGameIntegration :=
  let current := (s.latestSpadeActions.get? enemyId).filter fun request =>
    request.observationSequence.any (currentSequence - · ≤ s.actionMaxAgeTicks)
  match current with
  | some request => (request, s)
  | none =>
    ({ enemyId := enemyId, action := .enemyAction .stop },
      { s with latestSpadeActions := s.latestSpadeActions.erase enemyId })

end AgentGameIntegration

/-! ## Translation -/

def translateAction : RequestedAction → Except AgentError (MovementCommand × ActionStatus × String)
  | .enemyAction .moveLeft => .ok (.moveLeft, .applied, "")
  | .enemyAction .moveRight => .ok (.moveRight, .applied, "")
  | .enemyAction .stop => .ok (.stop, .applied, "")
  | .enemyAction .jump => .ok (.stop, .unsupported, "Enemies do not support jumping")
  | .other repr => do
    let repr ← repr
    .ok (.stop, .invalidAction, s!"Unsupported action {repr}")

def engineCommand : MovementCommand → EnemyMovementCommand
  | .moveLeft => .moveLeft
  | .moveRight => .moveRight
  | .stop => .stop

/-- The command that a requested action comes to; what the engine cannot do is a stop. -/
def RequestedAction.direction : RequestedAction → EnemyMovementCommand
  | .enemyAction .moveLeft => .moveLeft
  | .enemyAction .moveRight => .moveRight
  | _ => .stop

theorem engineCommand_of_translateAction {action : RequestedAction}
    {r : MovementCommand × ActionStatus × String} (h : translateAction action = .ok r) :
    engineCommand r.1 = action.direction := by
  cases action with
  | enemyAction action => cases action <;> cases h <;> rfl
  | other repr =>
    obtain ⟨repr, -, h⟩ := Fallible.bind_eq_ok.mp h
    cases h
    rfl

/-! ## The tick -/

/-- The requests passed to a tick, all of which must be `ActionRequest`s. -/
def AgentTick.requests (c : AgentTick) : Except AgentError (Dict EnemyId ActionRequest) :=
  (c.actionRequests.getD ∅).traverse fun
    | some request => .ok request
    | none => .error (.typeError "action_requests values must be ActionRequest instances")

/-- The results for requests that name no controlled enemy. -/
def Plan.rejectUnselected (plan : Plan) (controlled : List EnemyId)
    (requests : Dict EnemyId ActionRequest) : Plan :=
  let rejected := requests.entries.filter fun (enemyId, _) => enemyId ∉ controlled
  { plan with
    pendingResults :=
      rejected.foldl
        (fun results (enemyId, request) =>
          results.set enemyId
            { enemyId := enemyId
              requestedAction := some request.action
              status := .invalidTarget
              message := s!"Enemy {quoted enemyId} is not selected for agent control" })
        plan.pendingResults }

/-- Without directions the engine is not given any. -/
def Plan.commands (plan : Plan) : Option (Dict EnemyId EnemyMovementCommand) :=
  if plan.directions.entries = [] then none else some plan.directions

namespace AgentGameIntegration

variable (s : AgentGameIntegration)

def positionOf (enemyId : EnemyId) : Option Position :=
  (s.engine.enemies.get? enemyId).map fun e => ⟨e.x, e.y⟩

/-- The request that controls an enemy in this tick: the one passed, the fixed action, the answer
of the controller, or the SPADE action. -/
def requestFor (c : AgentTick) (requests : Dict EnemyId ActionRequest) (currentSequence : ℤ)
    (enemyId : EnemyId) : Except TickFailure (ActionRequest × AgentGameIntegration) :=
  match requests.get? enemyId, s.controllers.get? enemyId with
  | some request, _ => .ok (request, s)
  | none, some (.action action) =>
    .ok ({ enemyId := enemyId, action := .enemyAction action }, s)
  | none, some .object => do
    let perception ← (s.perceptor.observe enemyId).mapError (.before · s)
    match ← (c.decide enemyId perception).mapError (.before · s) with
    | some request => .ok (request, s)
    | none => .error (.before (.typeError "Enemy controllers must return an ActionRequest") s)
  | none, none => .ok (s.spadeActionFor enemyId currentSequence)

/-- What a request does to the enemy that it controls. -/
def planFor (enemyId : EnemyId) (e : Enemy) (request : ActionRequest) (plan : Plan) :
    Except AgentError Plan :=
  let positionBefore : Position := ⟨e.x, e.y⟩
  if request.enemyId ≠ enemyId then
    .ok
      { directions := plan.directions.set enemyId .stop
        pendingResults :=
          plan.pendingResults.set enemyId
            { enemyId := enemyId
              requestedAction := some request.action
              status := .invalidTarget
              engineCommand := some .stop
              positionBefore := some positionBefore
              message := "An agent may only control its selected enemy" } }
  else do
    let (command, status, message) ← translateAction request.action
    .ok
      { directions := plan.directions.set enemyId (engineCommand command)
        pendingResults :=
          plan.pendingResults.set enemyId
            { enemyId := enemyId
              requestedAction :=
                match request.action with
                | .enemyAction action => some (.enemyAction action)
                | .other _ => none
              status := status
              engineCommand := some command
              positionBefore := some positionBefore
              message := message } }

/-- One round of the loop over the controlled ids. -/
def controlOne (c : AgentTick) (requests : Dict EnemyId ActionRequest) (currentSequence : ℤ) :
    AgentGameIntegration × Plan → EnemyId → Except TickFailure (AgentGameIntegration × Plan)
  | (s, plan), enemyId =>
    match s.engine.enemies.get? enemyId with
    | none =>
      .ok (s, { plan with
        pendingResults :=
          plan.pendingResults.set enemyId
            { enemyId := enemyId
              requestedAction := (requests.get? enemyId).map (·.action)
              status := .invalidTarget
              message := doesNotExist enemyId } })
    | some e => do
      let (request, s) ← s.requestFor c requests currentSequence enemyId
      let plan ← (planFor enemyId e request plan).mapError (.before · s)
      .ok (s, plan)

/-- `_publish_perceptions`, in the order of the sorted ids. -/
def publishPerceptions (sequence : ℤ) : Except AgentError AgentGameIntegration :=
  let ids := s.spadeControlledEnemyIds.keys.insertionSort (· ≤ ·)
  ids.foldlM
    (fun s enemyId =>
      if enemyId ∉ s.engine.enemies then .ok s
      else do
        let perception ← s.perceptor.observe enemyId
        .ok { s with bridge := s.bridge.publish ⟨sequence, perception⟩ }) s

/-- Perceptions are published every `perception_interval_ticks` ticks. -/
def publishAtCadence (sequence : ℤ) : Except AgentError AgentGameIntegration :=
  if sequence % s.perceptionIntervalTicks = 0 then s.publishPerceptions sequence else .ok s

/-- A tick of the simulation that leaves the agents aside. -/
def tickDisabled (c : AgentTick) (requests : Dict EnemyId ActionRequest) :
    Except TickFailure AgentGameIntegration := do
  let engine ← (s.engine.tick (c.engineArgs none)).mapError (.during ∘ .engine)
  .ok
    { s.discardQueuedActions with
      engine := engine
      bridge := s.discardQueuedActions.bridge.discardPerceptions
      latestSpadeActions := ∅
      lastResults :=
        requests.mapWithKey fun enemyId request =>
          { enemyId := enemyId
            requestedAction := some request.action
            status := .disabled
            message := "Agent control is disabled" } }

/-- The step of the simulation under the plan, and what is read off the world after it. -/
def step (c : AgentTick) (plan : Plan) : Except TickFailure AgentGameIntegration := do
  let engine ← (s.engine.tick (c.engineArgs plan.commands)).mapError (.during ∘ .engine)
  let s := { s with engine := engine }
  let s ← (s.publishAtCadence engine.worldState.sequenceNumber).mapError .during
  .ok
    { s with
      lastResults :=
        plan.pendingResults.mapWithKey fun enemyId result =>
          { result with positionAfter := s.positionOf enemyId } }

def tick (c : AgentTick) : Except TickFailure AgentGameIntegration := do
  let requests ← c.requests.mapError (.before · s)
  if !s.enabled then s.tickDisabled c requests
  else
    let currentSequence := s.engine.worldState.sequenceNumber
    let s := s.drainSpadeActions currentSequence
    let controlledIds := s.controlledIds
    let (s, plan) ←
      (c.order.walk controlledIds).foldlM (controlOne c requests currentSequence) (s, {})
    s.step c (plan.rejectUnselected controlledIds requests)

/-! ## What the parts of a tick do -/

/-- Only what is remembered of the SPADE actions differs. -/
def Remembers (s s' : AgentGameIntegration) : Prop :=
  ∃ latest, s' = { s with latestSpadeActions := latest }

variable {s} {s' : AgentGameIntegration} {c : AgentTick} {requests : Dict EnemyId ActionRequest}
  {n : ℤ} {enemyId : EnemyId} {plan plan' : Plan}

theorem Remembers.refl (s : AgentGameIntegration) : s.Remembers s := ⟨_, rfl⟩

theorem Remembers.trans {s s₁ s₂ : AgentGameIntegration} (h : s.Remembers s₁)
    (h' : s₁.Remembers s₂) : s.Remembers s₂ := by
  obtain ⟨latest, rfl⟩ := h
  obtain ⟨latest', rfl⟩ := h'
  exact ⟨latest', rfl⟩

theorem Remembers.engine (h : s.Remembers s') : s'.engine = s.engine := by
  obtain ⟨latest, rfl⟩ := h
  rfl

theorem drainOne_remembers (n : ℤ) (s : AgentGameIntegration) (request : ActionRequest) :
    s.Remembers (drainOne n s request) := by
  unfold drainOne
  split
  · exact .refl s
  · extract_lets previous
    split
    · exact ⟨_, rfl⟩
    · exact .refl s

theorem drainSpadeActions_remembers (s : AgentGameIntegration) (n : ℤ) :
    s.discardQueuedActions.Remembers (s.drainSpadeActions n) :=
  Fallible.foldl_keeps (P := s.discardQueuedActions.Remembers)
    (fun s₁ request _ h => h.trans (drainOne_remembers n s₁ request)) (.refl _)

theorem drainSpadeActions_engine (s : AgentGameIntegration) (n : ℤ) :
    (s.drainSpadeActions n).engine = s.engine := (s.drainSpadeActions_remembers n).engine

theorem drainSpadeActions_controlledIds (s : AgentGameIntegration) (n : ℤ) :
    (s.drainSpadeActions n).controlledIds = s.controlledIds := by
  obtain ⟨latest, heq⟩ := s.drainSpadeActions_remembers n
  rw [heq]
  rfl

theorem spadeActionFor_remembers (s : AgentGameIntegration) (enemyId : EnemyId) (n : ℤ) :
    s.Remembers (s.spadeActionFor enemyId n).2 := by
  simp only [spadeActionFor]
  split
  · exact .refl s
  · exact ⟨_, rfl⟩

theorem requestFor_remembers {request : ActionRequest}
    (h : s.requestFor c requests n enemyId = .ok (request, s')) : s.Remembers s' := by
  unfold requestFor at h
  split at h
  · cases h; exact .refl s
  · cases h; exact .refl s
  · obtain ⟨perception, -, h⟩ := Fallible.bind_eq_ok.mp h
    obtain ⟨answer, -, h⟩ := Fallible.bind_eq_ok.mp h
    cases answer <;> cases h
    exact .refl s
  · have hremembers := spadeActionFor_remembers s enemyId n
    rw [Except.ok.inj h] at hremembers
    exact hremembers

theorem planFor_directions {e : Enemy} {request : ActionRequest}
    (h : planFor enemyId e request plan = .ok plan') :
    plan'.directions = plan.directions.set enemyId
      (if request.enemyId = enemyId then request.action.direction else .stop) := by
  unfold planFor at h
  extract_lets positionBefore at h
  split at h
  case isTrue hother =>
    cases h
    rw [if_neg hother]
  case isFalse hown =>
    obtain ⟨⟨command, status, message⟩, htranslated, h⟩ := Fallible.bind_eq_ok.mp h
    cases h
    rw [if_pos (not_not.mp hown), ← engineCommand_of_translateAction htranslated]

/-- An enemy that is missing gets no command; one that is there gets the command that its request
comes to. -/
theorem controlOne_spec (h : controlOne c requests n (s, plan) enemyId = .ok (s', plan')) :
    (enemyId ∉ s.engine.enemies ∧ s' = s ∧ plan'.directions = plan.directions) ∨
      ∃ request, enemyId ∈ s.engine.enemies ∧
        s.requestFor c requests n enemyId = .ok (request, s') ∧
        plan'.directions = plan.directions.set enemyId
          (if request.enemyId = enemyId then request.action.direction else .stop) := by
  simp only [controlOne] at h
  split at h
  case h_1 hmissing =>
    cases h
    exact .inl ⟨Dict.get?_eq_none_iff.mp hmissing, rfl, rfl⟩
  case h_2 e hthere =>
    obtain ⟨⟨request, s₁⟩, hrequest, h⟩ := Fallible.bind_eq_ok.mp h
    obtain ⟨plan₁, hplan, h⟩ := Fallible.bind_eq_ok.mp h
    cases h
    refine .inr ⟨request, Dict.mem_of_get?_eq_some hthere, hrequest, ?_⟩
    cases hplanned : planFor enemyId e request plan with
    | error error =>
      rw [hplanned] at hplan
      cases hplan
    | ok plan₁ =>
      rw [hplanned] at hplan
      cases hplan
      exact planFor_directions hplanned

theorem controlOne_remembers (h : controlOne c requests n (s, plan) enemyId = .ok (s', plan')) :
    s.Remembers s' := by
  rcases controlOne_spec h with ⟨-, rfl, -⟩ | ⟨request, -, hrequest, -⟩
  · exact .refl s'
  · exact requestFor_remembers hrequest

/-- The loop over the controlled ids. -/
theorem controlAll_remembers {ids : List EnemyId}
    (h : ids.foldlM (controlOne c requests n) (s, plan) = .ok (s', plan')) : s.Remembers s' :=
  Fallible.foldlM_rel (R := fun r r' : AgentGameIntegration × Plan => r.1.Remembers r'.1)
    (fun r => .refl r.1) Remembers.trans (fun _ _ _ _ => controlOne_remembers) h

/-- The loop commands only the enemies that it comes to. -/
theorem controlAll_directions_of_not_mem {ids : List EnemyId}
    (h : ids.foldlM (controlOne c requests n) (s, plan) = .ok (s', plan')) (other : enemyId ∉ ids) :
    plan'.directions.get? enemyId = plan.directions.get? enemyId := by
  refine Fallible.foldlM_keeps (P := fun r : AgentGameIntegration × Plan =>
    r.2.directions.get? enemyId = plan.directions.get? enemyId)
    (fun r id r' hid hkept hround => ?_) h rfl
  have hne : enemyId ≠ id := fun heq => other (heq ▸ hid)
  rcases controlOne_spec hround with ⟨-, -, hsame⟩ | ⟨request, -, -, hset⟩
  · rw [hsame, hkept]
  · rw [hset, Dict.get?_set_ne _ hne, hkept]

theorem mem_walk_controlledIds {order : WalkingOrder} :
    enemyId ∈ order.walk s.controlledIds ↔
      enemyId ∈ s.controllers ∨ enemyId ∈ s.spadeControlledEnemyIds := by
  rw [(order.perm _).mem_iff, controlledIds, List.mem_append, List.mem_filter, decide_eq_true_iff,
    ← Dict.mem_iff, ← Dict.mem_iff]
  tauto

theorem commandFor_commands (c : AgentTick) (plan : Plan) (enemyId : EnemyId) :
    (c.engineArgs plan.commands).commandFor enemyId = plan.directions.get? enemyId := by
  simp only [GameEngine.TickArgs.commandFor, AgentTick.engineArgs, Plan.commands]
  split
  case isTrue hempty => simp [Dict.get?, hempty]
  case isFalse => rfl

theorem publishPerceptions_eq {sequence : ℤ} (h : s.publishPerceptions sequence = .ok s') :
    ∃ bridge, s' = { s with bridge := bridge } := by
  refine Fallible.foldlM_keeps
    (P := fun s₁ : AgentGameIntegration => ∃ bridge, s₁ = { s with bridge := bridge })
    (fun s₁ enemyId s₂ _ hkept h => ?_) h ⟨s.bridge, rfl⟩
  split at h
  · cases h; exact hkept
  · obtain ⟨perception, -, h⟩ := Fallible.bind_eq_ok.mp h
    obtain ⟨bridge, rfl⟩ := hkept
    cases h
    exact ⟨_, rfl⟩

theorem publishAtCadence_eq {sequence : ℤ} (h : s.publishAtCadence sequence = .ok s') :
    ∃ bridge, s' = { s with bridge := bridge } := by
  unfold publishAtCadence at h
  split at h
  · exact publishPerceptions_eq h
  · cases h
    exact ⟨_, rfl⟩

theorem tickDisabled_engine (h : s.tickDisabled c requests = .ok s') :
    s.engine.tick (c.engineArgs none) = .ok s'.engine := by
  obtain ⟨g, hstep, h⟩ := Fallible.bind_eq_ok.mp h
  cases h
  exact Fallible.mapError_eq_ok.mp hstep

/-- The step moves the simulation, publishes and reports. -/
theorem step_eq (h : s.step c plan = .ok s') :
    ∃ engine bridge results, s.engine.tick (c.engineArgs plan.commands) = .ok engine ∧
      s' = { s with engine := engine, bridge := bridge, lastResults := results } := by
  obtain ⟨g, hstep, h⟩ := Fallible.bind_eq_ok.mp h
  obtain ⟨s₁, hpublished, h⟩ := Fallible.bind_eq_ok.mp h
  cases h
  obtain ⟨bridge, rfl⟩ := publishAtCadence_eq (Fallible.mapError_eq_ok.mp hpublished)
  exact ⟨g, bridge, _, Fallible.mapError_eq_ok.mp hstep, rfl⟩

theorem step_engine (h : s.step c plan = .ok s') :
    s.engine.tick (c.engineArgs plan.commands) = .ok s'.engine := by
  obtain ⟨engine, bridge, results, hstep, rfl⟩ := step_eq h
  exact hstep

/-- A tick with the agents: the queue is drained, every controlled enemy is given its command, and
the simulation is stepped under these commands. -/
theorem tick_enabled (enabled : s.enabled = true) (h : s.tick c = .ok s') :
    ∃ requests s₁ plan plan', c.requests = .ok requests ∧
      (c.order.walk s.controlledIds).foldlM
        (controlOne c requests s.engine.worldState.sequenceNumber)
        (s.drainSpadeActions s.engine.worldState.sequenceNumber, {}) = .ok (s₁, plan) ∧
      plan'.directions = plan.directions ∧ s₁.engine = s.engine ∧ s₁.step c plan' = .ok s' := by
  obtain ⟨requests, hrequests, h⟩ := Fallible.bind_eq_ok.mp h
  rw [if_neg (by simp [enabled])] at h
  obtain ⟨⟨s₁, plan⟩, hloop, h⟩ := Fallible.bind_eq_ok.mp h
  refine ⟨requests, s₁, plan, _, Fallible.mapError_eq_ok.mp hrequests, ?_, ?_, ?_, h⟩
  · rw [drainSpadeActions_controlledIds] at hloop
    exact hloop
  · rfl
  · exact (controlAll_remembers hloop).engine.trans (drainSpadeActions_engine s _)

/-! ## What a tick that raises leaves behind -/

/-- Raised before the step, with something left that satisfies `P`. -/
def Left (P : AgentGameIntegration → Prop) : TickFailure → Prop
  | .before _ left => P left
  | .during _ => False

variable {P : AgentGameIntegration → Prop}

theorem requestFor_raises (hs : P s) :
    Fallible.RaisesOnly (Left P) (s.requestFor c requests n enemyId) := by
  unfold requestFor
  split
  · exact Fallible.raisesOnly_ok _
  · exact Fallible.raisesOnly_ok _
  · refine Fallible.raisesOnly_bind.mpr ⟨Fallible.raisesOnly_mapError.mpr fun _ _ => hs, ?_⟩
    intro perception _
    refine Fallible.raisesOnly_bind.mpr ⟨Fallible.raisesOnly_mapError.mpr fun _ _ => hs, ?_⟩
    intro answer _
    cases answer with
    | none => exact Fallible.raisesOnly_error.mpr hs
    | some request => exact Fallible.raisesOnly_ok _
  · exact Fallible.raisesOnly_ok _

theorem controlOne_raises (hs : P s)
    (kept : ∀ request s', s.requestFor c requests n enemyId = .ok (request, s') → P s') :
    Fallible.RaisesOnly (Left P) (controlOne c requests n (s, plan) enemyId) := by
  simp only [controlOne]
  split
  · exact Fallible.raisesOnly_ok _
  · refine Fallible.raisesOnly_bind.mpr ⟨requestFor_raises hs, ?_⟩
    rintro ⟨request, s₁⟩ hrequest
    refine Fallible.raisesOnly_bind.mpr ⟨Fallible.raisesOnly_mapError.mpr fun _ _ => ?_, ?_⟩
    · exact kept request s₁ hrequest
    · exact fun plan _ => Fallible.raisesOnly_ok _

/-- What the requests keep, the loop over the controlled ids keeps, whether it raises or not. -/
theorem controlAll_keeps
    (kept : ∀ s request s' enemyId, P s → s.requestFor c requests n enemyId = .ok (request, s') →
      P s') (ids : List EnemyId) (hs : P s) :
    Fallible.RaisesOnly (Left P) (ids.foldlM (controlOne c requests n) (s, plan)) ∧
      ∀ s' plan', ids.foldlM (controlOne c requests n) (s, plan) = .ok (s', plan') → P s' := by
  have round (r r' : AgentGameIntegration × Plan) (enemyId : EnemyId) (hr : P r.1)
      (h : controlOne c requests n r enemyId = .ok r') : P r'.1 := by
    rcases controlOne_spec h with ⟨-, hsame, -⟩ | ⟨request, -, hrequest, -⟩
    · rwa [hsame]
    · exact kept _ _ _ _ hr hrequest
  constructor
  · exact Fallible.raisesOnly_foldlM_of (P := fun r : AgentGameIntegration × Plan => P r.1)
      (fun r enemyId hr => controlOne_raises hr fun request s' => kept r.1 request s' enemyId hr)
      (fun r enemyId r' => round r r' enemyId) ids hs
  · intro s' plan' h
    exact Fallible.foldlM_keeps (P := fun r : AgentGameIntegration × Plan => P r.1)
      (fun r enemyId r' _ => round r r' enemyId) h hs

theorem step_raises :
    Fallible.RaisesOnly (fun failure => ∃ error, failure = .during error) (s.step c plan) := by
  refine Fallible.raisesOnly_bind.mpr ⟨Fallible.raisesOnly_mapError.mpr fun _ _ => ⟨_, rfl⟩, ?_⟩
  intro engine _
  refine Fallible.raisesOnly_bind.mpr ⟨Fallible.raisesOnly_mapError.mpr fun _ _ => ⟨_, rfl⟩, ?_⟩
  exact fun _ _ => Fallible.raisesOnly_ok _

end AgentGameIntegration

end DistributedSmb
