import Storyline.Error

set_option autoImplicit false

/-!
Advice on how to mend an error, and the report that shows an error together with it.
-/

namespace Storyline

structure Remedy where
  summary : String
  commands : List (String × String) := []
  alternatives : List String := []

namespace Remedy

def render (remedy : Remedy) : String :=
  let commands := remedy.commands.map fun command => "    - " ++ command.1 ++ ": " ++ command.2
  let alternatives := remedy.alternatives.map fun alternative => "    - " ++ alternative
  let lines := ["To fix:", "  " ++ remedy.summary]
    ++ (if commands.isEmpty then [] else "  Commands:" :: commands)
    ++ (if alternatives.isEmpty then [] else "  Alternatives:" :: alternatives)
  String.join (lines.map (· ++ "\n"))

def outline : String × String := ("Inspect structure", "nar outline <script.json>")

end Remedy

def StructuralError.remedy : StructuralError → Remedy
  | .indentJump .. | .notAHost .. | .indentedStart .. =>
    { summary := "Indent a line only under a block command (if, while, random, group, delay, await, transition)."
      commands := [Remedy.outline] }
  | .hostNotFound .. | .orphanBranch .. =>
    { summary := "Place the nested line directly under its block command."
      commands := [Remedy.outline] }
  | .emptyBlock .. => { summary := "Add at least one indented command under the conditional or loop." }
  | .deferredNavigation .. =>
    { summary := "Move the label outside the delay block; deferred bodies run detached."
      alternatives := ["Jump to the delay command itself instead."] }

def ScriptError.remedy : ScriptError → Remedy
  | .notFound _ =>
    { summary := "Register the script with the library before playing it."
      alternatives := ["Check the script name in goto/gosub targets."] }
  | .labelNotFound .. =>
    { summary := "Add the missing @label line or fix the target name."
      commands := [Remedy.outline] }
  | .spotNotFound _ =>
    { summary := "The saved position no longer exists; the script changed since the save was made." }
  | .empty _ => { summary := "Add at least one command to the script." }

def ConfigError.remedy : ConfigError → Remedy
  | .read .. =>
    { summary := "Check that the config file exists and is readable."
      commands := [("Use defaults", "nar play --config /dev/null <script.json>")] }
  | .parse => { summary := "Fix the TOML syntax in narrata.toml." }
  | .invalid _ => { summary := "Adjust the reported value in narrata.toml." }

namespace Error

def remedy? : Error → Option Remedy
  | .structural cause => some cause.remedy
  | .script cause => some cause.remedy
  | .config cause => some cause.remedy
  | .expr _ => some
    { summary := "Check the guard or assignment expression on the reported line."
      alternatives := ["Make sure every variable is assigned with @set before it is read."] }
  | .file _ => some
    { summary := "Check filesystem permissions and paths, then retry."
      alternatives := ["Verify the compiled script path exists and is readable."] }
  | .json => some
    { summary := "Validate the compiled script JSON and retry."
      commands := [("Validate JSON", "python -m json.tool < script.json")]
      alternatives := ["Recompile the script with a matching compiler version."] }
  | .cancelled _ => none
  | .command _ => none

def report (error : Error) : String :=
  "Error: " ++ error.message ++ ((error.remedy?.map fun remedy => "\n\n" ++ remedy.render).getD "")

end Error

end Storyline
