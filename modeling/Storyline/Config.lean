import Storyline.Mode
import Storyline.Text.Blank
import Storyline.Error

set_option autoImplicit false

/-!
Settings of a player and of the console program, with their defaults and the checks that they have to pass.
-/

namespace Storyline

inductive LogFormat where
  | pretty
  | json
deriving DecidableEq, Repr

namespace LogFormat

def name : LogFormat → String
  | .pretty => "pretty"
  | .json => "json"

def all : List LogFormat := [.pretty, .json]

def ofInput (input : String) : Except String LogFormat :=
  match all.find? fun format => format.name = Text.lowercase input with
  | some format => .ok format
  | none => .error ("unknown log format: " ++ input ++ ". Expected one of: pretty, json")

end LogFormat

inductive LogLevel where
  | trace
  | debug
  | info
  | warn
  | error
deriving DecidableEq, Repr

namespace LogLevel

def name : LogLevel → String
  | .trace => "trace"
  | .debug => "debug"
  | .info => "info"
  | .warn => "warn"
  | .error => "error"

def ofInput (input : String) : Except String LogLevel :=
  match Text.lowercase (Text.trim input) with
  | "trace" => .ok .trace
  | "debug" => .ok .debug
  | "info" => .ok .info
  | "warn" | "warning" => .ok .warn
  | "error" => .ok .error
  | _ => .error ("unknown log level: " ++ input ++ ". Expected one of: trace, debug, info, warn, error")

end LogLevel

structure GeneralConfig where
  scriptsDir : String := "."
  startLabel : Option String := none
deriving DecidableEq, Repr

structure PlayerConfig where
  skipMode : SkipMode := .readOnly
  autoPlayDelayMillis : UInt64 := 1500
  voicePollMillis : UInt64 := 50
  seed : Option UInt64 := none
  eventCapacity : Nat := 256
deriving DecidableEq, Repr

structure RollbackConfig where
  capacity : Nat := 128
  captureEveryCommand : Bool := true
deriving DecidableEq, Repr

structure LogConfig where
  level : String := "info"
  format : LogFormat := .pretty
  file : Option String := none
deriving DecidableEq, Repr

structure Config where
  general : GeneralConfig := {}
  player : PlayerConfig := {}
  rollback : RollbackConfig := {}
  logging : LogConfig := {}
deriving DecidableEq, Repr

namespace Config

def validate (config : Config) : Except ConfigError Unit :=
  if config.player.voicePollMillis = 0 then .error (.invalid "player.voice_poll_ms must be greater than zero")
  else if config.player.eventCapacity = 0 then .error (.invalid "player.event_capacity must be greater than zero")
  else if config.rollback.capacity = 0 then .error (.invalid "rollback.capacity must be greater than zero")
  else match LogLevel.ofInput config.logging.level with
    | .ok _ => .ok ()
    | .error message => .error (.invalid message)

end Config

end Storyline
