import Storyline.Codec.Config
import Storyline.Console.Files
import Storyline.Console.Help
import Storyline.Console.Session
import Storyline.Library
import Storyline.Remedy

set_option autoImplicit false

/-!
The console program: what it writes and how it ends, for given arguments, files and input.
-/

namespace Storyline.Console

structure Surroundings where
  files : Files
  logged : String → Except FileError Files := fun _ => .ok files
  configVariable : Option String := none
  configDirectory : Option String := none
  entropy : UInt64 := 0

inductive Failure where
  | story (cause : Error)
  | unreadable (path : String) (cause : FileError)
  | log (path : String) (cause : FileError)
  | halted
deriving DecidableEq, Repr

def Failure.report : Failure → String
  | .story cause => cause.report
  | .unreadable path cause => "Error: failed to read " ++ path ++ ": " ++ cause.message
  | .log path cause =>
    "Error: failed to initialize logging: cannot open log file " ++ path ++ ": " ++ cause.message ++ ": "
      ++ cause.message
  | .halted => "Error: playback halted on a structural error"

structure Outcome where
  code : Nat := 0
  out : String := ""
  err : String := ""
deriving DecidableEq, Repr

namespace Outcome

def ofLines (lines : List String) : Outcome := { out := String.join (lines.map (· ++ "\n")) }

def fail (outcome : Outcome) (failure : Failure) : Outcome :=
  { outcome with code := 1, err := outcome.err ++ failure.report ++ "\n" }

end Outcome

def loadScript (files : Files) (path : String) : Except Failure Playlist :=
  match files.read path with
  | .error cause => .error (.unreadable path cause)
  | .ok text => (Registry.ofText [] text).mapError Failure.story

def inspect (files : Files) (path : String) (tell : Playlist → List String) : Outcome :=
  match loadScript files path with
  | .ok playlist => .ofLines (tell playlist)
  | .error failure => ({} : Outcome).fail failure

/-! ### Settings -/

def configName : String := "narrata.toml"

def configPath? (surroundings : Surroundings) (named : Option String) : Option String :=
  let own := surroundings.configDirectory.map fun directory =>
    Path.join (Path.join directory "narrata") configName
  named.or ((some configName).filter surroundings.files.isFile |>.or (own.filter surroundings.files.isFile))

def loadConfig (surroundings : Surroundings) (named : Option String) : Except Error Config :=
  match configPath? surroundings named with
  | none => .ok {}
  | some path =>
    match surroundings.files.read path with
    | .error cause => .error (.config (.read path cause))
    | .ok text => (Config.ofText text).mapError Error.config

def settings (surroundings : Surroundings) (options : Options) : Except Failure Config := do
  let config ← (loadConfig surroundings options.config).mapError Failure.story
  let logging := { config.logging with
    level := options.logLevel.getD config.logging.level
    format := options.logFormat.getD config.logging.format }
  let config := { config with logging := logging }
  (config.validate.mapError fun cause => Failure.story (.config cause)).map fun _ => config

def openLog (surroundings : Surroundings) (config : Config) : Except Failure Files :=
  match config.logging.file with
  | none => .ok surroundings.files
  | some path => (surroundings.logged path).mapError fun cause => .log path cause

/-! ### Playing -/

/-- Where scripts are looked for that were not named: beside the first one, or in the directory of the settings. -/
def searchPath (config : Config) (scripts : List String) : String :=
  match (scripts.head?.map Path.parent).filter fun directory => directory ≠ "" with
  | some directory => directory
  | none => config.general.scriptsDir

def scriptPath (directory name : String) : String := Path.join directory (name ++ ".json")

def searchDir (files : Files) (directory : String) : SearchDir where
  path := directory
  read name :=
    let path := scriptPath directory name
    if files.isFile path then some (files.read path) else none

def loadScripts (files : Files) : List String → Library → Except Error (Option String × Library)
  | [], library => .ok (none, library)
  | path :: paths, library =>
    (library.insertText (files.read path)).bind fun loaded =>
      (loadScripts files paths loaded.2).map fun rest => (some loaded.1.playlist.script, rest.2)

def openSession (config : Config) (library : Library) (entropy : UInt64) : Session :=
  let player : Player := {
    config := config.player
    rollbackConfig := config.rollback
    presenter := presenter
    library := library
    history := .ofCapacity config.rollback.capacity
    draws := Random.ofSeed (config.player.seed.getD entropy)
    playback := { mode := { skipMode := config.player.skipMode } }
    overrun := 1 }
  { world := (({ player := player } : World).perform .bind).2 }

def setModes (auto skip : Bool) (session : Session) : Session :=
  let auto := if auto then { session with world := (session.world.perform (.setAutoPlay true)).2 } else session
  if skip then
    match auto.world.perform (.setSkip true) with
    | (some (.flag true), world) => { auto with world := world }
    | (_, world) => { auto with world := world }.complain "skip refused: nothing has been read yet"
  else auto

def startSession (files : Files) (entropy : UInt64) (config : Config) (scripts : List String) (label : Option String)
    (auto : Bool) (skip : Option SkipMode) : Except (Outcome × Failure) Session :=
  let library : Library := { search := some (searchDir files (searchPath config scripts)) }
  match loadScripts files scripts library with
  | .error cause => .error ({}, .story cause)
  | .ok (first, library) =>
    let config := { config with player := { config.player with skipMode := skip.getD config.player.skipMode } }
    let session := setModes auto skip.isSome (openSession config library entropy)
    match session.world.perform (.play (first.getD "") (label.or config.general.startLabel)) with
    | (some (.failed cause), _) => .error ({ err := session.err }, .story cause)
    | (_, world) => .ok { session with world := world }

def endSession (session : Session) : Outcome :=
  match session.stopped with
  | none => { out := session.out, err := session.err }
  | some reason =>
    let outcome : Outcome := { out := session.out ++ session.closing reason, err := session.err }
    if reason = .structural then outcome.fail .halted else outcome

def playScripts (fuel : Nat) (surroundings : Surroundings) (answers : Option (List String)) (options : Options)
    (scripts : List String) (label : Option String) (auto : Bool) (skip : Option SkipMode) : Outcome :=
  match settings surroundings options with
  | .error failure => ({} : Outcome).fail failure
  | .ok config =>
    match openLog surroundings config with
    | .error failure => ({} : Outcome).fail failure
    | .ok files =>
      match startSession files surroundings.entropy config scripts label auto skip with
      | .error (outcome, failure) => outcome.fail failure
      | .ok session => endSession (session.play fuel answers)

def run (fuel : Nat) (surroundings : Surroundings) (answers : Option (List String)) (arguments : List String) :
    Outcome :=
  match Invocation.ofArguments arguments surroundings.configVariable with
  | .misuse => { code := 2 }
  | .version => .ofLines [programName ++ " " ++ programVersion]
  | .help topic => .ofLines (helpLines surroundings.configVariable topic)
  | .run _ (.check path) => inspect surroundings.files path fun playlist => [summary playlist]
  | .run _ (.outline path) => inspect surroundings.files path outline
  | .run options (.play scripts label auto skip) =>
    playScripts fuel surroundings answers options scripts label auto skip

end Storyline.Console
