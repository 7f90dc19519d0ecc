import DroneFleet.Report
import DroneFleet.Request

/-!
Answers, and the envelope in which requests and answers travel. The answer to a request carries the
sequence number of that request.
-/
namespace DroneFleet

inductive Response where
  | matrix (view : MatrixView)
  | matrices (views : List MatrixView)
  | drone (record : Drone)
  | drones (records : List Drone)
  | deleted (id : Nat)
  | single (report : SingleReport)
  | batch (report : BatchReport)
  | error (kind : RefusalKind) (message : String)
deriving DecidableEq, Repr

namespace Response

def ofRefusal (refusal : Refusal) : Response := error refusal.kind refusal.message

def ofResult : Except Refusal Response → Response
  | .ok response => response
  | .error refusal => ofRefusal refusal

def isError : Response → Bool
  | error _ _ => true
  | _ => false

end Response

structure Header where
  clientId : String
  sequenceId : Nat
  timestampMs : Nat
deriving DecidableEq, Repr

inductive Payload where
  | request (request : Request)
  | response (response : Response)
deriving DecidableEq, Repr

structure Envelope where
  header : Header
  payload : Payload
deriving DecidableEq, Repr

end DroneFleet
