import Storyline.Json.Value

set_option autoImplicit false

/-!
Tables of a settings file while it is read. A table may be opened by a header once, and a table made by dotted keys only by
dotted keys again; a key is given once.
-/

namespace Storyline.Toml

inductive Origin where
  | explicit
  | implicit
  | dotted
deriving DecidableEq, Repr

inductive Node where
  | value (json : Json)
  | table (origin : Origin) (entries : List (String × Node))
  | tables (items : List (List (String × Node)))

abbrev Entries := List (String × Node)

namespace Node

mutual
def toJson : Node → Json
  | .value json => json
  | .table _ entries => .object (entriesJson entries)
  | .tables items => .array (itemsJson items)
def entriesJson : List (String × Node) → List (String × Json)
  | [] => []
  | (name, node) :: entries => (name, toJson node) :: entriesJson entries
def itemsJson : List (List (String × Node)) → List Json
  | [] => []
  | entries :: items => .object (entriesJson entries) :: itemsJson items
end

end Node

namespace Entries

def get? (entries : Entries) (name : String) : Option Node :=
  (entries.find? fun entry => entry.1 = name).map Prod.snd

def put (entries : Entries) (name : String) (node : Node) : Entries :=
  entries.filter (fun entry => entry.1 ≠ name) ++ [(name, node)]

def updateLast (change : Entries → Option Entries) : List Entries → Option (List Entries)
  | [] => none
  | [newest] => (change newest).map fun changed => [changed]
  | first :: rest => (updateLast change rest).map (first :: ·)

def within (path : List String) (change : Entries → Option Entries) (entries : Entries) : Option Entries :=
  match path with
  | [] => change entries
  | name :: path =>
    match get? entries name with
    | none => (within path change []).map fun inner => put entries name (.table .implicit inner)
    | some (.table origin inner) =>
      (within path change inner).map fun inner => put entries name (.table origin inner)
    | some (.tables items) =>
      (updateLast (within path change) items).map fun items => put entries name (.tables items)
    | some (.value _) => none

def openTable (name : String) (entries : Entries) : Option Entries :=
  match get? entries name with
  | none => some (put entries name (.table .explicit []))
  | some (.table .implicit inner) => some (put entries name (.table .explicit inner))
  | some _ => none

def openItem (name : String) (entries : Entries) : Option Entries :=
  match get? entries name with
  | none => some (put entries name (.tables [[]]))
  | some (.tables items) => some (put entries name (.tables (items ++ [[]])))
  | some _ => none

/-- Gives a key its value. The way of a dotted key makes tables or goes through tables that no header has opened, and ends
in a table that dotted keys made. -/
def assign (path : List String) (name : String) (json : Json) (entries : Entries) : Option Entries :=
  match path with
  | [] => if (get? entries name).isSome then none else some (put entries name (.value json))
  | first :: path =>
    match get? entries first with
    | none => (assign path name json []).map fun inner => put entries first (.table .dotted inner)
    | some (.table origin inner) =>
      if origin = .dotted || (origin = .implicit && !path.isEmpty) then
        (assign path name json inner).map fun inner => put entries first (.table origin inner)
      else none
    | some (.tables items) =>
      if path.isEmpty then none
      else (updateLast (assign path name json) items).map fun items => put entries first (.tables items)
    | some (.value _) => none

def assignKey (key : List String) (json : Json) (entries : Entries) : Option Entries :=
  key.getLast?.bind fun name => assign key.dropLast name json entries

end Entries

end Storyline.Toml
