import Storyline.Console.Program

set_option autoImplicit false

/-!
Which files a run of the console program can need. A program that cannot read files while it plays reads these beforehand:
jumps lead only to scripts that some known script names.
-/

namespace Storyline.Console

abbrev Known := List (String × Except FileError String)

def Known.files (known : Known) : Files where
  read path := ((known.find? fun entry => entry.1 = path).map Prod.snd).getD (.error .missing)

def configPaths (surroundings : Surroundings) (named : Option String) : List String :=
  match named with
  | some path => [path]
  | none =>
    configName :: (surroundings.configDirectory.map fun directory =>
      Path.join (Path.join directory "narrata") configName).toList

def jumpNames (playlist : Playlist) : List String :=
  playlist.commands.toList.filterMap fun command =>
    match command.kind with
    | .goto target => target.script
    | .gosub target => target.script
    | _ => none

def Known.missing (known : Known) (directory : String) : List String :=
  let names := known.flatMap fun entry =>
    match entry.2.toOption.bind fun text => (Registry.ofText [] text).toOption with
    | some playlist => jumpNames playlist
    | none => []
  ((names.map (scriptPath directory)).filter fun path => !known.any fun entry => entry.1 = path).eraseDups

end Storyline.Console
