import Storyline.Codec.Kind
import Storyline.Codec.Spot
import Storyline.Event
import Storyline.Signal

set_option autoImplicit false

/-!
Signals and events as JSON.
-/

namespace Storyline

def StopReason.ofJson? : Json.Place → Json → Option StopReason := Json.choice? StopReason.all StopReason.name

namespace Signal

def toJson : Signal → Json
  | .continue => .text "continue"
  | .skipHold pressed => .object [("skip_hold", .object [("pressed", .bool pressed)])]
  | .toggleSkip => .text "toggle_skip"
  | .toggleAutoPlay => .text "toggle_auto_play"
  | .stop => .text "stop"

def ofJson? (json : Json) : Option Signal :=
  match json.variant? with
  | some ("skip_hold", some data) => do
    let fields ← data.record? ["pressed"] 1
    let pressed ← Json.required? fields "pressed" Json.bool?
    return .skipHold pressed
  | _ =>
    match json.unitVariant? .direct with
    | some "continue" => some .continue
    | some "toggle_skip" => some .toggleSkip
    | some "toggle_auto_play" => some .toggleAutoPlay
    | some "stop" => some .stop
    | _ => none

end Signal

namespace Event

def parameters : Event → List (String × Json)
  | .started spot => [("spot", spot.toJson)]
  | .stopped spot reason => [("spot", Json.ofOption Spot.toJson spot), ("reason", .text reason.name)]
  | .commandExecuting spot command lane | .commandExecuted spot command lane =>
    [("spot", spot.toJson), ("command", .text command), ("lane", .text lane.name)]
  | .waitingForInput waiting => [("waiting", .bool waiting)]
  | .skipChanged enabled | .autoPlayChanged enabled => [("enabled", .bool enabled)]
  | .completed => []
  | .transientFinished script => [("script", .text script)]

def toJson (event : Event) : Json := .object (("event", .text event.name) :: event.parameters)

def ofCommand? (make : Spot → String → Lane → Event) (json : Json) : Option Event := do
  let fields ← json.record? ["spot", "command", "lane"] 3
  let spot ← Json.required? fields "spot" Spot.ofJson?
  let command ← Json.required? fields "command" Json.text?
  let lane ← Json.required? fields "lane" (Lane.ofJson? .tagged)
  return make spot command lane

def ofFlag? (name : String) (make : Bool → Event) (json : Json) : Option Event := do
  let fields ← json.record? [name] 1
  let flag ← Json.required? fields name Json.bool?
  return make flag

def ofParameters? (name : String) (json : Json) : Option Event :=
  match name with
  | "started" => do
    let fields ← json.record? ["spot"] 1
    let spot ← Json.required? fields "spot" Spot.ofJson?
    return .started spot
  | "stopped" => do
    let fields ← json.record? ["spot", "reason"] 2
    let spot ← Json.defaulted? fields "spot" none (Json.optional? Spot.ofJson?)
    let reason ← Json.required? fields "reason" (StopReason.ofJson? .tagged)
    return .stopped spot reason
  | "command_executing" => ofCommand? .commandExecuting json
  | "command_executed" => ofCommand? .commandExecuted json
  | "waiting_for_input" => ofFlag? "waiting" .waitingForInput json
  | "skip_changed" => ofFlag? "enabled" .skipChanged json
  | "auto_play_changed" => ofFlag? "enabled" .autoPlayChanged json
  | "completed" => (json.record? [] 0).map fun _ => .completed
  | "transient_finished" => do
    let fields ← json.record? ["script"] 1
    let script ← Json.required? fields "script" Json.text?
    return .transientFinished script
  | _ => none

def ofJson? (json : Json) : Option Event := (json.tagged? "event").bind fun given => ofParameters? given.1 given.2

end Event

end Storyline
