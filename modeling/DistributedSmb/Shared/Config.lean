import Mathlib.Data.Rat.Defs
import Mathlib.Tactic.Common

/-!
# Shared constants and errors

The constants of `shared/config.py` that the model reads, with their values, and the exceptions
the modelled code raises. Times are rational seconds, coordinates rational pixels.
-/

namespace DistributedSmb

abbrev PlayerId := String
abbrev EnemyId := String
abbrev PowerUpId := String
abbrev GateId := String
abbrev Ip := String

/-- The exceptions of the modelled code, with the text or the key they carry. A `TypeError` is
always the interpreter's, and its text is left out. -/
inductive PyError where
  | valueError (message : String)
  | keyError (key : String)
  | rosterValidationError (message : String)
  | messageValidationError (message : String)
  | deserializationError (message : String)
  | typeError
  | attributeError (name : String)
  deriving DecidableEq, Repr

/-- The repository's own exceptions are all subclasses of `ValueError`. -/
def PyError.isValueError : PyError → Bool
  | valueError _ | rosterValidationError _ | messageValidationError _ | deserializationError _ =>
    true
  | keyError _ | typeError | attributeError _ => false

def maxPlayers : ℕ := 4

/-- Join indices count from 0, player ids from 1. -/
def playerIdFor (joinIndex : ℤ) : PlayerId := s!"player{joinIndex + 1}"

def hostPlayerId : PlayerId := "player1"

def defaultHost : Ip := "127.0.0.1"
def hostUdpPort : ℕ := 50010
def gameEventWsPort : ℕ := 50003

/-- `TICK_INTERVAL = 1.0 / TICK_RATE`. -/
def tickInterval : ℚ := 1 / 60

def udpInputTimeout : ℚ := 10
def hostTimeoutS : ℚ := 5
def tElectionBaseS : ℚ := 1 / 2
def tElectionDeltaS : ℚ := 3 / 10
def electionClaimTimeoutS : ℚ := 2
def hostVerifyTimeoutS : ℚ := 10
def hostVerifyResendIntervalS : ℚ := 1 / 2
def reconnectionFallbackTimeoutS : ℚ := 4

def playerWidth : ℤ := 75
def playerHeight : ℤ := 75
def enemyWidth : ℤ := 51
def enemyHeight : ℤ := 51
def respawnDelayS : ℚ := 3
def starEffectS : ℚ := 10

def inputHistorySize : ℕ := 60
def predictionLeadEwmaAlpha : ℚ := 1 / 100
def predictionLeadCalibrationFrames : ℕ := 120
def predictionLeadDriftTolerance : ℚ := 3
def reconcileGlideRate : ℚ := 3 / 10
def reconcileMaxGlidePx : ℚ := 8
def snapshotTimeout : ℚ := 15 / 100
def maxExtrapolationTime : ℚ := 35 / 100
def hostRosterBroadcastInterval : ℕ := 120

/-- `physics.py`: the constants scaled by `WORLD_SCALE = 1.5`. -/
def gravity : ℚ := 1500
def moveSpeed : ℚ := 300
def jumpForce : ℚ := -675

end DistributedSmb
