import Storyline.Json.Writer
import Storyline.Player.State

set_option autoImplicit false

/-!
Log lines of the console program.
-/

namespace Storyline.Console

def severity : LogLevel → Nat
  | .trace => 0
  | .debug => 1
  | .info => 2
  | .warn => 3
  | .error => 4

def levelTag : LogLevel → String
  | .trace => "TRACE"
  | .debug => "DEBUG"
  | .info => "INFO"
  | .warn => "WARN"
  | .error => "ERROR"

def logLine (format : LogFormat) (entry : LogEntry) : String :=
  match format with
  | .pretty => levelTag entry.level ++ " " ++ entry.text
  | .json => (Json.object [("level", .text (levelTag entry.level)), ("message", .text entry.text)]).compact

def logLines (config : LogConfig) (entries : List LogEntry) : List String :=
  match LogLevel.ofInput config.level with
  | .error _ => []
  | .ok level =>
    (entries.filter fun entry => decide (severity level ≤ severity entry.level)).map (logLine config.format)

end Storyline.Console
