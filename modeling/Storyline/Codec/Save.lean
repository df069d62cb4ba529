import Storyline.Codec.Expr
import Storyline.Codec.Spot
import Storyline.Save

set_option autoImplicit false

/-!
Saves and snapshots as JSON.
-/

namespace Storyline

namespace Save

def toJson (save : Save) : Json :=
  .object [("playing", .bool save.playing), ("executed_played_command", .bool save.executed),
    ("waiting_for_input", .bool save.waiting), ("gosub_return_stack", .array (save.returns.map Spot.toJson)),
    ("playback_spot", Json.ofOption Spot.toJson save.spot)]

def ofJson? (json : Json) : Option Save := do
  let fields ← json.record?
    ["playing", "executed_played_command", "waiting_for_input", "gosub_return_stack", "playback_spot"] 5
  let playing ← Json.required? fields "playing" Json.bool?
  let executed ← Json.required? fields "executed_played_command" Json.bool?
  let waiting ← Json.required? fields "waiting_for_input" Json.bool?
  let returns ← Json.defaulted? fields "gosub_return_stack" [] (Json.list? Spot.ofJson?)
  let spot ← Json.defaulted? fields "playback_spot" none (Json.optional? Spot.ofJson?)
  return ⟨playing, executed, waiting, returns, spot⟩

end Save

namespace Snapshot

def toJson (snapshot : Snapshot) : Json :=
  .object [("id", .integer snapshot.id), ("spot", snapshot.spot.toJson), ("player", snapshot.player.toJson),
    ("variables", snapshot.store.toJson), ("rollback_allowed", .bool snapshot.permitted)]

def ofJson? (json : Json) : Option Snapshot := do
  let fields ← json.record? ["id", "spot", "player", "variables", "rollback_allowed"] 4
  let id ← Json.defaulted? fields "id" 0 Json.natural?
  let spot ← Json.required? fields "spot" Spot.ofJson?
  let player ← Json.required? fields "player" Save.ofJson?
  let store ← Json.required? fields "variables" Variables.ofJson?
  let permitted ← Json.defaulted? fields "rollback_allowed" false Json.bool?
  return ⟨id, spot, player, store, permitted⟩

end Snapshot

end Storyline
