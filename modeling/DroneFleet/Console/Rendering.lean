import DroneFleet.Response

/-!
Responses as an operator reads them: a line for each matrix, drone or outcome, in the order in which
the response lists them.
-/
namespace DroneFleet

def Drone.line (drone : Drone) : String :=
  "drone " ++ toString drone.id ++ " '" ++ drone.name ++ "' [" ++ drone.model ++ "] at " ++
    drone.pose.text ++ " in matrix " ++ toString drone.matrixId

def MatrixView.lines (view : MatrixView) : List String :=
  ("matrix " ++ toString view.id ++ "  " ++ toString view.bounds.maxX.toNat ++ "x" ++
    toString view.bounds.maxY.toNat ++ "  (" ++ toString view.drones.length ++ " drones)") ::
      view.drones.map fun drone => "  " ++ drone.line

namespace Outcome

/-- Why a command was rejected; at the boundary no drone is in the way. -/
def cause : RejectReason → Option Nat → String
  | .collisionRisk, some blocker => "collision risk with drone " ++ toString blocker
  | .collisionRisk, none => "collision risk"
  | .boundaryViolation, _ => "boundary violation"

def phrase : Outcome → String
  | completed pose => "completed at " ++ pose.text
  | rejected failedAt reason pose blockedBy =>
    "rejected at command " ++ toString failedAt ++ " (" ++ cause reason blockedBy ++ "), holding " ++
      pose.text
  | notAttempted => "not attempted"

def line (id : Nat) (outcome : Outcome) : String :=
  "drone " ++ toString id ++ ": " ++ outcome.phrase

end Outcome

namespace Response

def lines : Response → List String
  | matrix view => view.lines
  | matrices [] => ["no matrices"]
  | matrices views => views.flatMap MatrixView.lines
  | drone record => [record.line]
  | drones [] => ["no drones"]
  | drones records => records.map Drone.line
  | deleted id => ["deleted " ++ toString id]
  | single report => [report.outcome.line report.drone.id]
  | batch report => report.outcomes.map fun entry => entry.outcome.line entry.droneId
  | error kind message => ["error [" ++ kind.title ++ "]: " ++ message]

def rendered (response : Response) : String :=
  String.join (response.lines.map (· ++ "\n"))

def refused? : Response → Option String
  | error kind _ => some ("request refused: " ++ kind.title)
  | _ => none

end Response

end DroneFleet
