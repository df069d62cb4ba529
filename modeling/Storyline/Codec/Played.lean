import Storyline.Json.Record
import Storyline.Played

set_option autoImplicit false

/-!
The played register as JSON. Reading takes the ranges as they are.
-/

namespace Storyline

namespace IndexRange

def toJson (range : IndexRange) : Json := .object [("start", .integer range.start), ("end", .integer range.stop)]

def ofJson? (json : Json) : Option IndexRange := do
  let fields ← json.record? ["start", "end"] 2
  let start ← Json.required? fields "start" Json.natural?
  let stop ← Json.required? fields "end" Json.natural?
  return ⟨start, stop⟩

end IndexRange

namespace Played

def toJson (played : Played) : Json :=
  .object (played.scripts.map fun entry => (entry.1, .array (entry.2.map IndexRange.toJson)))

def ofJson? (json : Json) : Option Played :=
  (json.table? (Json.list? IndexRange.ofJson?)).map fun table =>
    ⟨table.foldl (fun scripts entry => put entry.1 entry.2 scripts) []⟩

end Played

end Storyline
