import DroneFleet.Console.Arguments
import DroneFleet.Proofs.CommandLine.Reading
import DroneFleet.Proofs.Wire.Request

/-!
Every request that an operator can ask for has words, and the console reads them as that request
(`Console.Arguments.parse_wording`). Values stand where neither a hyphen in front of them nor a sign in
them can be taken for anything else, so they may be arbitrary.
-/
namespace DroneFleet

open CommandLine

inductive CommandInput.Spelled : CommandInput → Prop
  | text (letters : String) : Spelled (.text letters)

namespace Request

/-- What can be put in words: commands are spelled, and drones are named where a list of them is wanted. -/
def Sayable : Request → Prop
  | droneCommands _ commands => commands.Spelled
  | matrixDroneCommands _ droneIds commands => droneIds ≠ [] ∧ commands.Spelled
  | batchCommands _ entries => entries ≠ [] ∧ ∀ entry ∈ entries, entry.commands.Spelled
  | _ => True

def wording : Request → Wording
  | listMatrices => ⟨["matrix", "list"], [], []⟩
  | getMatrix id => ⟨["matrix", "get"], [], [("id", [.natural id])]⟩
  | createMatrix maxX maxY =>
    ⟨["matrix", "create"], [("max-x", [.word maxX]), ("max-y", [.word maxY])], []⟩
  | updateMatrix id maxX maxY =>
    ⟨["matrix", "update"], [("max-x", [.word maxX]), ("max-y", [.word maxY])],
      [("id", [.natural id])]⟩
  | deleteMatrix id => ⟨["matrix", "delete"], [], [("id", [.natural id])]⟩
  | listDrones => ⟨["drone", "list"], [], []⟩
  | getDrone id => ⟨["drone", "get"], [], [("id", [.natural id])]⟩
  | createDrone drone =>
    ⟨["drone", "create"],
      [("matrix", [.natural drone.matrixId]), ("name", [.text drone.name]),
        ("model", [.text drone.model]), ("x", [.word drone.pose.x]), ("y", [.word drone.pose.y]),
        ("orientation", [.orientation drone.pose.orientation])], []⟩
  | updateDrone id changes =>
    ⟨["drone", "update"],
      [("matrix", changes.matrixId.toList.map .natural), ("name", changes.name.toList.map .text),
        ("model", changes.model.toList.map .text), ("x", changes.x.toList.map .word),
        ("y", changes.y.toList.map .word),
        ("orientation", changes.orientation.toList.map .orientation)],
      [("id", [.natural id])]⟩
  | deleteDrone id => ⟨["drone", "delete"], [], [("id", [.natural id])]⟩
  | droneCommands droneId commands =>
    ⟨["fly"], [], [("drone-id", [.natural droneId]), ("commands", [.text commands.spelling])]⟩
  | matrixDroneCommands matrixId droneIds commands =>
    ⟨["fly-many"],
      [("matrix", matrixId.toList.map .natural), ("drones", droneIds.map .natural)],
      [("commands", [.text commands.spelling])]⟩
  | batchCommands matrixId entries =>
    ⟨["batch"], [("matrix", matrixId.toList.map .natural)], [("entries", entries.map .entry)]⟩

theorem holds_given {value : Option Nat} (small : ∀ number ∈ value.toList, number ≤ Text.word64Limit) :
    ∀ number ∈ value, Kind.natural.Holds (.natural number) :=
  fun number given => .natural (small number (Option.mem_toList.mpr given))

theorem suits {request : Request} (sayable : request.Sayable)
    (small : ∀ number ∈ request.numbers, number ≤ Text.word64Limit) :
    request.wording.Suits Console.Arguments.grammar := by
  cases request with
  | listMatrices | listDrones =>
    exact .mk (.inner rfl (by decide) (.inner rfl (by decide) (.here _))) (by decide)
      ⟨⟨rfl, by decide, by decide⟩, .nil, .single .nil⟩
  | getMatrix id | deleteMatrix id | getDrone id | deleteDrone id =>
    have number : Kind.natural.Holds (.natural id) := .natural (small id (by simp [numbers]))
    exact .mk (.inner rfl (by decide) (.inner rfl (by decide) (.here _))) (by decide)
      ⟨⟨rfl, by decide, by decide⟩, .nil, .single (.cons (.needed "id" number) .nil)⟩
  | createMatrix maxX maxY =>
    exact .mk (.inner rfl (by decide) (.inner rfl (by decide) (.here _))) (by decide)
      ⟨⟨rfl, by decide, by decide⟩,
        .cons (.needed "max-x" (.word maxX)) (.cons (.needed "max-y" (.word maxY)) .nil), .single .nil⟩
  | updateMatrix id maxX maxY =>
    have number : Kind.natural.Holds (.natural id) := .natural (small id (by simp [numbers]))
    exact .mk (.inner rfl (by decide) (.inner rfl (by decide) (.here _))) (by decide)
      ⟨⟨rfl, by decide, by decide⟩,
        .cons (.needed "max-x" (.word maxX)) (.cons (.needed "max-y" (.word maxY)) .nil),
        .single (.cons (.needed "id" number) .nil)⟩
  | createDrone drone =>
    have number : Kind.natural.Holds (.natural drone.matrixId) :=
      .natural (small drone.matrixId (by simp [numbers]))
    have model : Argument.Given (.optional "model" .text)
        ("model", (some drone.model).toList.map .text) := .optional "model" fun model _ => .text model
    have options : List.Forall₂ Argument.Given _ (wording (.createDrone drone)).options :=
      .cons (.needed "matrix" number) <|
      .cons (.needed "name" (.text drone.name)) <|
      .cons model <|
      .cons (.needed "x" (.word drone.pose.x)) <|
      .cons (.needed "y" (.word drone.pose.y)) <|
      .cons (.needed "orientation" (.orientation drone.pose.orientation)) .nil
    exact .mk (.inner rfl (by decide) (.inner rfl (by decide) (.here _))) (by decide)
      ⟨⟨rfl, by decide, by decide⟩, options, .single .nil⟩
  | updateDrone id changes =>
    obtain ⟨first, others⟩ := List.forall_mem_cons.mp small
    have number : Kind.natural.Holds (.natural id) := .natural first
    have options : List.Forall₂ Argument.Given _ (wording (.updateDrone id changes)).options :=
      .cons (.optional "matrix" (holds_given others)) <|
      .cons (.optional "name" fun name _ => .text name) <|
      .cons (.optional "model" fun model _ => .text model) <|
      .cons (.optional "x" fun x _ => .word x) <|
      .cons (.optional "y" fun y _ => .word y) <|
      .cons (.optional "orientation" fun orientation _ => .orientation orientation) .nil
    exact .mk (.inner rfl (by decide) (.inner rfl (by decide) (.here _))) (by decide)
      ⟨⟨rfl, by decide, by decide⟩, options, .single (.cons (.needed "id" number) .nil)⟩
  | droneCommands droneId commands =>
    have number : Kind.natural.Holds (.natural droneId) :=
      .natural (small droneId (by simp [numbers]))
    exact .mk (.inner rfl (by decide) (.here _)) (by decide)
      ⟨⟨rfl, by decide, by decide⟩, .nil,
        .single (.cons (.needed "drone-id" number)
          (.cons (.needed "commands" (.text commands.spelling)) .nil))⟩
  | matrixDroneCommands matrixId droneIds commands =>
    obtain ⟨matrices, drones⟩ := List.forall_mem_append.mp small
    have held : ∀ value ∈ droneIds.map Value.natural, Kind.natural.Holds value :=
      List.forall_mem_map.mpr fun droneId listed => .natural (drones droneId listed)
    exact .mk (.inner rfl (by decide) (.here _)) (by decide)
      ⟨⟨rfl, by decide, by decide⟩,
        .cons (.optional "matrix" (holds_given matrices))
          (.cons (.listed rfl rfl held (by simpa using sayable.1)) .nil),
        .single (.cons (.needed "commands" (.text commands.spelling)) .nil)⟩
  | batchCommands matrixId entries =>
    obtain ⟨matrices, drones⟩ := List.forall_mem_append.mp small
    have held : ∀ value ∈ entries.map Value.entry, Kind.entry.Holds value := by
      refine List.forall_mem_map.mpr fun entry listed => ?_
      have number := drones entry.droneId (List.mem_flatMap.mpr ⟨entry, listed, List.mem_singleton_self _⟩)
      obtain ⟨droneId, commands⟩ := entry
      obtain ⟨letters⟩ := sayable.2 _ listed
      exact .entry number letters
    exact .mk (.inner rfl (by decide) (.here _)) (by decide)
      ⟨⟨rfl, by decide, by decide⟩, .cons (.optional "matrix" (holds_given matrices)) .nil,
        .many rfl rfl rfl rfl (by simpa using sayable.1) held⟩

end Request

namespace Console.Arguments

open Parsed

theorem request?_wording {request : Request} (sayable : request.Sayable) {parsed : Parsed}
    (path : parsed.path = request.wording.path)
    (values : ∀ name, parsed.values? name =
      ((request.wording.options ++ request.wording.operands).lookup name).filter (· ≠ [])) :
    request? parsed = some request := by
  cases request with
  | listMatrices | listDrones => simp only [request?, path, Request.wording]
  | getMatrix id | deleteMatrix id | getDrone id | deleteDrone id =>
    have number : parsed.natural? "id" = some id := natural?_given (values "id")
    simp only [request?, path, Request.wording, number]
    rfl
  | createMatrix maxX maxY =>
    have width : parsed.word? "max-x" = some maxX := word?_given (values "max-x")
    have height : parsed.word? "max-y" = some maxY := word?_given (values "max-y")
    simp only [request?, path, Request.wording, width, height]
    rfl
  | updateMatrix id maxX maxY =>
    have number : parsed.natural? "id" = some id := natural?_given (values "id")
    have width : parsed.word? "max-x" = some maxX := word?_given (values "max-x")
    have height : parsed.word? "max-y" = some maxY := word?_given (values "max-y")
    simp only [request?, path, Request.wording, number, width, height]
    rfl
  | createDrone drone =>
    have owner : parsed.natural? "matrix" = some drone.matrixId := natural?_given (values "matrix")
    have name : parsed.text? "name" = some drone.name := text?_given (values "name")
    have model : parsed.text? "model" = some drone.model := text?_given (values "model")
    have x : parsed.word? "x" = some drone.pose.x := word?_given (values "x")
    have y : parsed.word? "y" = some drone.pose.y := word?_given (values "y")
    have orientation : parsed.orientation? "orientation" = some drone.pose.orientation :=
      orientation?_given (values "orientation")
    simp only [request?, path, Request.wording, owner, name, model, x, y, orientation]
    rfl
  | updateDrone id changes =>
    have number : parsed.natural? "id" = some id := natural?_given (values "id")
    have owner : parsed.natural? "matrix" = changes.matrixId := natural?_given (values "matrix")
    have name : parsed.text? "name" = changes.name := text?_given (values "name")
    have model : parsed.text? "model" = changes.model := text?_given (values "model")
    have x : parsed.word? "x" = changes.x := word?_given (values "x")
    have y : parsed.word? "y" = changes.y := word?_given (values "y")
    have orientation : parsed.orientation? "orientation" = changes.orientation :=
      orientation?_given (values "orientation")
    simp only [request?, path, Request.wording, number, owner, name, model, x, y, orientation]
    rfl
  | droneCommands droneId commands =>
    obtain ⟨letters⟩ := sayable
    have number : parsed.natural? "drone-id" = some droneId := natural?_given (values "drone-id")
    have text : parsed.text? "commands" = some letters := text?_given (values "commands")
    simp only [request?, path, Request.wording, number, text]
    rfl
  | matrixDroneCommands matrixId droneIds commands =>
    obtain ⟨listed, ⟨letters⟩⟩ := sayable
    have matrix : parsed.natural? "matrix" = matrixId := natural?_given (values "matrix")
    have drones : parsed.naturals? "drones" = some droneIds := naturals?_given listed (values "drones")
    have text : parsed.text? "commands" = some letters := text?_given (values "commands")
    simp only [request?, path, Request.wording, matrix, drones, text]
    rfl
  | batchCommands matrixId entries =>
    have matrix : parsed.natural? "matrix" = matrixId := natural?_given (values "matrix")
    have all : parsed.entries? "entries" = some entries := entries?_given sayable.1 (values "entries")
    simp only [request?, path, Request.wording, matrix, all]
    rfl

theorem lookup_wording (request : Request) : ∀ name ∈ grammar.options.map (·.name),
    (request.wording.options ++ request.wording.operands).lookup name = none := by
  simp only [grammar, Grammar.options, List.map_cons, List.map_nil, List.forall_mem_cons]
  cases request <;> exact ⟨rfl, rfl, rfl, rfl, rfl, nofun⟩

/-- What an operator can ask for can be said, whatever the texts and the numbers in it are. -/
theorem parse_wording {request : Request} (sayable : request.Sayable)
    (small : ∀ number ∈ request.numbers, number ≤ Text.word64Limit) :
    parse request.wording.words = .ok ⟨"127.0.0.1:7070", 5, 3, false, false, request⟩ := by
  obtain ⟨parsed, reads, path, values⟩ := parse_words (request.suits sayable small)
  have usual : ∀ name ∈ grammar.options.map (·.name), parsed.values? name = none := by
    intro name among
    rw [values, lookup_wording request name among]
    rfl
  simp only [parse, reads, bind, Except.bind, request?_wording sayable path values, text?, natural?,
    word?, value?, has]
  simp only [grammar, Grammar.options, List.map_cons, List.map_nil, List.forall_mem_cons,
    Argument.optional, Argument.flag] at usual
  obtain ⟨server, timeout, retries, json, verbose, _⟩ := usual
  simp only [server, timeout, retries, json, verbose]
  rfl

def signs : Request :=
  .batchCommands (some Text.word64Limit)
    [⟨7, .text "--matrix=1,2"⟩, ⟨7, .text ""⟩, ⟨0, .text ":-A=,"⟩]

/-- A sign in the commands is taken for no option, no comma between values and no second colon. -/
theorem parse_wording_signs :
    signs.Sayable ∧ (∀ number ∈ signs.numbers, number ≤ Text.word64Limit) ∧
      parse ["batch", "--matrix=18446744073709551615", "--", "7:--matrix=1,2", "7:", "0::-A=,"] =
        .ok ⟨"127.0.0.1:7070", 5, 3, false, false, signs⟩ := by
  have sayable : signs.Sayable := ⟨List.cons_ne_nil _ _, by simp [CommandInput.Spelled.text]⟩
  have small : ∀ number ∈ signs.numbers, number ≤ Text.word64Limit := by decide
  exact ⟨sayable, small, parse_wording sayable small⟩

end Console.Arguments

end DroneFleet
