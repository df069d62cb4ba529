import Storyline.Json.Record
import Storyline.Spot

set_option autoImplicit false

/-!
Spots as JSON.
-/

namespace Storyline.Spot

def toJson (spot : Spot) : Json :=
  .object [("script", .text spot.script), ("line", .integer spot.line.toNat), ("inline", .integer spot.inline.toNat)]

def ofJson? (json : Json) : Option Spot := do
  let fields ← json.record? ["script", "line", "inline"] 3
  let script ← Json.required? fields "script" Json.text?
  let line ← Json.required? fields "line" Json.uint32?
  let inline ← Json.required? fields "inline" Json.uint32?
  return ⟨script, line, inline⟩

end Storyline.Spot
