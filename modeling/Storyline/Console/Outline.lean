import Storyline.Decimal.Text
import Storyline.Playlist
import Storyline.Text.Quoted

set_option autoImplicit false

/-!
What the console program tells about a script without playing it.
-/

namespace Storyline.Console

def padLeft (width : Nat) (text : String) : String := String.ofList (List.replicate (width - text.length) ' ') ++ text

def padRight (width : Nat) (text : String) : String := text ++ String.ofList (List.replicate (width - text.length) ' ')

def describeKind : Kind → String
  | .set name op _ => "set " ++ name ++ " " ++ op.symbol ++ " ..."
  | .print line =>
    match line.author with
    | some author => "print " ++ author ++ ": " ++ Text.quoted line.text
    | none => "print " ++ Text.quoted line.text
  | .wait millis => "wait " ++ toString millis.toNat ++ "ms"
  | .label name => "label " ++ name
  | .goto target => "goto " ++ target.text
  | .gosub target => "gosub " ++ target.text
  | .random weights => "random [" ++ String.intercalate ", " (weights.map weightText) ++ "]"
  | .delay millis => "delay " ++ toString millis.toNat ++ "ms"
  | .transition millis => "transition " ++ toString millis.toNat ++ "ms"
  | kind => kind.name

def describe (command : Command) : String :=
  describeKind command.kind ++ (if command.guard.isSome then " [if]" else "")
    ++ (if command.wait then "" else " [detached]")

def outlineLine (index : Nat) (command : Command) : String :=
  padLeft 4 (toString index) ++ "  " ++ padLeft 4 (toString command.spot.line.toNat) ++ "."
    ++ padRight 2 (toString command.spot.inline.toNat) ++ " "
    ++ String.ofList (List.replicate (2 * command.indent) ' ') ++ describe command

def outline (playlist : Playlist) : List String :=
  (playlist.script ++ " (" ++ toString playlist.length ++ " commands)")
    :: playlist.commands.toList.zipIdx.map fun (command, index) => outlineLine index command

def summary (playlist : Playlist) : String :=
  let blocks := (playlist.commands.toList.filter Command.isHost).length
  "ok: " ++ playlist.script ++ " (" ++ toString playlist.length ++ " commands, " ++ toString blocks ++ " blocks)"

end Storyline.Console
