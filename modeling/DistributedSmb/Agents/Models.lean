import DistributedSmb.Domain.Entity

/-!
# Agent contracts

`agents/models.py`: what agents see of the game, what they ask for and what becomes of it. Python
does not check the fields of a request: its action may be no `EnemyAction`, and its observation
sequence may be no integer.
-/

namespace DistributedSmb

/-- What `AgentGameIntegration` raises. A controller may raise anything. -/
inductive AgentError where
  | typeError (message : String)
  | valueError (message : String)
  | enemyNotFoundError (message : String)
  | engine (error : PyError)
  | raised (description : String)
  deriving DecidableEq, Repr

/-- `repr` of an id without quotes, backslashes and control characters. -/
def quoted (enemyId : EnemyId) : String := "'" ++ enemyId ++ "'"

def doesNotExist (enemyId : EnemyId) : String := s!"Enemy {quoted enemyId} does not exist"

/-! ## Perceptions -/

/-- Top-left world coordinates in pixels. -/
structure Position where
  x : ℚ
  y : ℚ
  deriving DecidableEq, Repr

inductive ObstacleKind where
  | platform | block
  deriving DecidableEq, Repr

inductive SightDirection where
  | left | right
  deriving DecidableEq, Repr

structure ObstacleObservation where
  kind : ObstacleKind
  x : ℚ
  y : ℚ
  width : ℚ
  height : ℚ
  deriving DecidableEq, Repr

structure PlayerPerception where
  playerId : PlayerId
  position : Position
  width : ℚ
  height : ℚ
  deriving DecidableEq, Repr

structure GoombaPerception where
  goombaId : EnemyId
  position : Position
  direction : SightDirection
  visiblePlayers : List PlayerPerception := []
  visibleObstacles : List ObstacleObservation := []
  deriving DecidableEq, Repr

structure GoombaPerceptionMessage where
  simulationSequence : ℤ
  perception : GoombaPerception
  deriving DecidableEq, Repr

/-! ## Requests and results -/

inductive EnemyAction where
  | moveLeft | moveRight | stop | jump
  deriving DecidableEq, Repr

inductive MovementCommand where
  | moveLeft | moveRight | stop
  deriving DecidableEq, Repr

/-- The action of a request; anything else than an `EnemyAction` is known by its `repr`, which may
raise. -/
inductive RequestedAction where
  | enemyAction (action : EnemyAction)
  | other (repr : Except AgentError String)
  deriving DecidableEq

/-- `observationSequence` is `none` for everything but an `int` that is no `bool`. -/
structure ActionRequest where
  enemyId : EnemyId
  action : RequestedAction
  observationSequence : Option ℤ := none
  deriving DecidableEq

inductive ActionStatus where
  | applied | unsupported | invalidAction | invalidTarget | disabled
  deriving DecidableEq, Repr

structure ActionResult where
  enemyId : EnemyId
  requestedAction : Option RequestedAction
  status : ActionStatus
  engineCommand : Option MovementCommand := none
  positionBefore : Option Position := none
  positionAfter : Option Position := none
  message : String := ""
  deriving DecidableEq

end DistributedSmb
