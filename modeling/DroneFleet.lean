import DroneFleet.Console.Arguments
import DroneFleet.Console.Client
import DroneFleet.Console.Rendering
import DroneFleet.Fleet.Contention
import DroneFleet.Main
import DroneFleet.Proofs.Command.Reading
import DroneFleet.Proofs.Console.Rendering
import DroneFleet.Proofs.Console.Wording
import DroneFleet.Proofs.Contention.Completion
import DroneFleet.Proofs.Contention.Errors
import DroneFleet.Proofs.Crowd.Consistency
import DroneFleet.Proofs.Crowd.Grounding
import DroneFleet.Proofs.Crowd.Listings
import DroneFleet.Proofs.Crowd.Lookup
import DroneFleet.Proofs.Crowd.Reports
import DroneFleet.Proofs.Crowd.Serialization
import DroneFleet.Proofs.Fleet.Independence
import DroneFleet.Proofs.Fleet.Registers
import DroneFleet.Proofs.Fleet.Seeds
import DroneFleet.Proofs.Frame.RoundTrip
import DroneFleet.Proofs.Matrix.Courses
import DroneFleet.Proofs.Matrix.Encounters
import DroneFleet.Proofs.Matrix.Legs
import DroneFleet.Proofs.Matrix.Operations
import DroneFleet.Proofs.Matrix.Rehearsals
import DroneFleet.Proofs.Matrix.Returns
import DroneFleet.Proofs.Matrix.Turns
import DroneFleet.Proofs.Session.Attendance
import DroneFleet.Proofs.Session.Calls
import DroneFleet.Proofs.Session.Connecting
import DroneFleet.Proofs.Session.Link
import DroneFleet.Proofs.Session.Stopping
import DroneFleet.Proofs.Session.Unanswered
import DroneFleet.Proofs.Wire.Layouts
import DroneFleet.Server.Arguments
import DroneFleet.Server.Basic
