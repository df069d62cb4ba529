import Storyline.Console.Demand
import Storyline.Console.Log

set_option autoImplicit false

/-!
The console program itself: reads files, standard input and the clock, and writes what the session shows.
-/

namespace Storyline.Console

def fileErrorOf (given : UInt32) : FileError :=
  let code := if 0x80000000 ≤ given then 0 - given else given
  if code = 17 then .exists
  else if code = 20 then .notDirectory
  else if code = 21 then .isDirectory
  else .missing

def fileError : IO.Error → FileError
  | .alreadyExists _ code _ => fileErrorOf code
  | .inappropriateType _ code _ => fileErrorOf code
  | .resourceExhausted _ code _ => fileErrorOf code
  | .userError _ => .notText
  | _ => .missing

def readPath (path : String) : IO (String × Except FileError String) := do
  try
    return (path, .ok (← IO.FS.readFile path))
  catch cause =>
    return (path, .error (fileError cause))

def openLogAt (path : String) : IO (Except FileError Unit) := do
  try
    if Path.parent path ≠ "" then IO.FS.createDirAll (Path.parent path)
    let _ ← IO.FS.Handle.mk path .append
    return .ok ()
  catch cause =>
    return .error (fileError cause)

def openLogOf (config : Config) : IO (Except Failure Unit) :=
  match config.logging.file with
  | none => return .ok ()
  | some path => return (← openLogAt path).mapError fun cause => .log path cause

partial def readAll (directory : String) (known : Known) (paths : List String) : IO Known := do
  let known := known ++ (← paths.mapM readPath)
  match known.missing directory with
  | [] => return known
  | more => readAll directory known more

def configDirectory : IO (Option String) := do
  match ← IO.getEnv "XDG_CONFIG_HOME" with
  | some directory => if directory.startsWith "/" then return some directory
  | none => pure ()
  return (← IO.getEnv "HOME").map fun home => Path.join home ".config"

structure Terminal where
  start : Nat
  logging : LogConfig
  reading : Task (Except IO.Error String)

def readLine : IO (Task (Except IO.Error String)) := do
  let input ← IO.getStdin
  IO.asTask input.getLine Task.Priority.dedicated

def flush (terminal : Terminal) (logged : Nat) (session : Session) : IO Session := do
  let output ← IO.getStdout
  output.putStr session.out
  output.flush
  IO.eprint session.err
  let log := session.player.log
  for line in logLines terminal.logging (log.take (log.length - logged)).reverse do
    IO.eprintln line
    match terminal.logging.file with
    | some path => (← IO.FS.Handle.mk path .append).putStrLn line
    | none => pure ()
  return { session with out := "", err := "" }

partial def await (terminal : Terminal) (session : Session) : IO (Terminal × Session) := do
  let now := (← IO.monoMsNow) - terminal.start
  let deadline := session.world.deadline?
  let due := deadline.any fun time => decide (time ≤ now)
  if !session.closed && (← IO.hasFinished terminal.reading) then
    let present := { session with world := session.world.jumpTo (min now (deadline.getD now)) }
    match terminal.reading.get with
    | Except.ok "" => return (terminal, present.close)
    | Except.ok line => return ({ terminal with reading := ← readLine }, present.type line)
    | Except.error _ => return (terminal, present.close)
  else if due then return (terminal, (session.pass?).getD session)
  else
    IO.sleep 1
    await terminal session

partial def serve (fuel : Nat) (terminal : Terminal) (session : Session) : IO Session := do
  let logged := session.player.log.length
  let session ← flush terminal logged (session.rest fuel)
  if session.stopped.isSome then return session
  else if !session.typed.isEmpty then serve fuel terminal session.sendTyped
  else if session.closed && session.world.deadline?.isNone then return session
  else
    let (terminal, session) ← await terminal session
    serve fuel terminal session

def finish (outcome : Outcome) : IO UInt32 := do
  IO.print outcome.out
  IO.eprint outcome.err
  return outcome.code.toUInt32

def playHere (surroundings : Surroundings) (options : Options) (scripts : List String) (label : Option String)
    (auto : Bool) (skip : Option SkipMode) : IO UInt32 := do
  let known : Known ← (configPaths surroundings options.config).mapM readPath
  match settings { surroundings with files := known.files } options with
  | .error failure => finish (({} : Outcome).fail failure)
  | .ok config =>
    match ← openLogOf config with
    | .error failure => finish (({} : Outcome).fail failure)
    | .ok () =>
      let known ← readAll (searchPath config scripts) [] scripts
      match startSession known.files surroundings.entropy config scripts label auto skip with
      | .error (outcome, failure) => finish (outcome.fail failure)
      | .ok session =>
        let terminal : Terminal := { start := ← IO.monoMsNow, logging := config.logging, reading := ← readLine }
        finish (endSession (← serve 1000000000 terminal session))

def runHere (arguments : List String) : IO UInt32 := do
  let named ← IO.getEnv "NARRATA_CONFIG"
  let surroundings : Surroundings := {
    files := Known.files []
    configVariable := named
    configDirectory := ← configDirectory
    entropy := (← IO.rand 0 0x4000000000000000).toUInt64 }
  match Invocation.ofArguments arguments named with
  | .run options (.play scripts label auto skip) => playHere surroundings options scripts label auto skip
  | .run _ (.check path) | .run _ (.outline path) =>
    let known : Known := [← readPath path]
    finish (run 0 { surroundings with files := known.files } none arguments)
  | .misuse => do
    IO.eprintln ("Usage: " ++ programName ++ " [OPTIONS] <COMMAND>")
    return 2
  | _ => finish (run 0 surroundings none arguments)

end Storyline.Console

def main (arguments : List String) : IO UInt32 := Storyline.Console.runHere arguments
