import Storyline.Codec.Kind
import Storyline.Json.Reader
import Storyline.Playlist

set_option autoImplicit false

/-!
Compiled scripts: the JSON form in which scripts are stored, and the playlists built from it. A command names its kind; all
fields that every command has apart, its fields are the parameters of that kind. Applications register makers for kinds of
their own, which go before the built-in ones.
-/

namespace Storyline

structure CompiledCommand where
  line : UInt32
  inline : UInt32 := 0
  indent : Nat := 0
  guard : Option Expr := none
  wait : Bool := true
  command : String
  parameters : List (String × Json) := []

structure CompiledScript where
  name : String
  commands : List CompiledCommand := []

namespace CompiledCommand

def ownFields : List String := ["line", "inline", "indent", "guard", "wait", "command"]

def parametersOf (fields : List (String × Json)) : List (String × Json) :=
  Json.distinctFields [] (fields.filter fun field => !ownFields.contains field.1)

def ofJson? (json : Json) : Option CompiledCommand :=
  match json with
  | .object _ => do
    let fields ← json.record? ownFields 6
    let line ← Json.required? fields "line" Json.uint32?
    let inline ← Json.defaulted? fields "inline" 0 Json.uint32?
    let indent ← Json.defaulted? fields "indent" 0 Json.uint16?
    let guard ← Json.defaulted? fields "guard" none (Json.optional? (Expr.ofJson? .direct))
    let wait ← Json.defaulted? fields "wait" true Json.bool?
    let command ← Json.required? fields "command" Json.text?
    let others := fields.filter fun field => !ownFields.contains field.1
    if Json.readableFields others then some ⟨line, inline, indent, guard, wait, command, parametersOf fields⟩ else none
  | _ => none

def toJson (compiled : CompiledCommand) : Json :=
  .object ([("line", .integer compiled.line.toNat), ("inline", .integer compiled.inline.toNat),
    ("indent", .integer compiled.indent)]
    ++ (match compiled.guard with | none => [] | some guard => [("guard", guard.toJson)])
    ++ [("wait", .bool compiled.wait), ("command", .text compiled.command)] ++ compiled.parameters)

end CompiledCommand

namespace CompiledScript

def ofJson? (json : Json) : Option CompiledScript := do
  let fields ← json.record? ["name", "commands"] 1
  let name ← Json.required? fields "name" Json.text?
  let commands ← Json.defaulted? fields "commands" [] (Json.list? CompiledCommand.ofJson?)
  return ⟨name, commands⟩

def toJson (compiled : CompiledScript) : Json :=
  .object [("name", .text compiled.name), ("commands", .array (compiled.commands.map CompiledCommand.toJson))]

end CompiledScript

abbrev Registry := List (String × (List (String × Json) → Except Error Custom))

namespace Registry

def maker? (registry : Registry) (name : String) : Option (List (String × Json) → Except Error Custom) :=
  (registry.find? fun entry => entry.1 = name).map Prod.snd

def kind (registry : Registry) (compiled : CompiledCommand) : Except Error Kind :=
  match registry.maker? compiled.command with
  | some make => (make compiled.parameters).map Kind.custom
  | none =>
    match Kind.ofJson? (.object (compiled.parameters ++ [("command", .text compiled.command)])) with
    | some kind => .ok kind
    | none => .error .json

def command (registry : Registry) (script : String) (compiled : CompiledCommand) : Except Error Command :=
  (registry.kind compiled).map fun kind =>
    { indent := compiled.indent
      spot := ⟨script, compiled.line, compiled.inline⟩
      guard := compiled.guard
      wait := compiled.wait
      kind := kind }

/-- All commands are made first, then their nesting is checked. -/
def playlist (registry : Registry) (compiled : CompiledScript) : Except Error Playlist :=
  (compiled.commands.mapM (registry.command compiled.name)).bind fun commands =>
    (Playlist.build compiled.name commands).mapError Error.structural

def ofJson (registry : Registry) (json : Json) : Except Error Playlist :=
  match CompiledScript.ofJson? json with
  | some compiled => registry.playlist compiled
  | none => .error .json

def ofText (registry : Registry) (text : String) : Except Error Playlist :=
  match Json.parse text with
  | some json => registry.ofJson json
  | none => .error .json

end Registry

end Storyline
