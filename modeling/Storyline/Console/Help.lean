import Storyline.Console.Arguments
import Storyline.Console.Outline

set_option autoImplicit false

/-!
Help on the console program and its actions.
-/

namespace Storyline.Console

def programName : String := "nar"

def programVersion : String := "0.1.0"

structure HelpEntry where
  form : String
  purpose : String

def HelpEntry.lines (entries : List HelpEntry) : List String :=
  let width := (entries.map fun entry => entry.form.length).foldl max 0
  entries.map fun entry => "  " ++ padRight width entry.form ++ "  " ++ entry.purpose

namespace Verb

def all : List Verb := [.check, .outline, .play]

def name : Verb → String
  | .check => "check"
  | .outline => "outline"
  | .play => "play"

def purpose : Verb → String
  | .check => "Validate a compiled script and report structural errors"
  | .outline => "Print the indentation-structured command outline with indices"
  | .play => "Play the first script; further scripts are loaded as jump targets"

def scripts : Verb → HelpEntry
  | .check | .outline => ⟨"<SCRIPT>", "Compiled script JSON"⟩
  | .play => ⟨"<SCRIPTS>...", "Compiled script JSON files"⟩

end Verb

def configHelp (environment : Option String) : HelpEntry :=
  ⟨"    --config <CONFIG>",
    "Config file (defaults: $NARRATA_CONFIG, ./narrata.toml, user config dir) [env: NARRATA_CONFIG="
      ++ environment.getD "" ++ "]"⟩

def logLevelHelp : HelpEntry :=
  ⟨"    --log-level <LOG_LEVEL>", "Log level override (trace, debug, info, warn, error)"⟩

def logFormatHelp : HelpEntry := ⟨"    --log-format <LOG_FORMAT>", "Log format override"⟩

def helpHelp : HelpEntry := ⟨"-h, --help", "Print help"⟩

def optionsHelp (environment : Option String) : Topic → List HelpEntry
  | .program => [configHelp environment, logLevelHelp, logFormatHelp, helpHelp, ⟨"-V, --version", "Print version"⟩]
  | .action .play =>
    [configHelp environment, ⟨"    --label <LABEL>", "Label to start from"⟩,
      ⟨"    --auto", "Start with auto-play enabled"⟩, logLevelHelp, logFormatHelp,
      ⟨"    --skip <SKIP>", "Skip policy; skipping starts immediately"⟩, helpHelp]
  | .action _ => [configHelp environment, logLevelHelp, logFormatHelp, helpHelp]
  | .help => []

def Topic.purpose : Topic → String
  | .program => "Play and inspect compiled narrative scripts"
  | .action verb => verb.purpose
  | .help => "Print this message or the help of the given subcommand(s)"

def Topic.usage : Topic → String
  | .program => "[OPTIONS] <COMMAND>"
  | .action verb => verb.name ++ " [OPTIONS] " ++ verb.scripts.form
  | .help => "help [COMMAND]..."

def Topic.operands : Topic → String × List HelpEntry
  | .program =>
    ("Commands:", Verb.all.map (fun verb => ⟨verb.name, verb.purpose⟩) ++ [⟨"help", Topic.help.purpose⟩])
  | .action verb => ("Arguments:", [verb.scripts])
  | .help => ("Arguments:", [⟨"[COMMAND]...", "Print help for the subcommand(s)"⟩])

def helpLines (environment : Option String) (topic : Topic) : List String :=
  let options :=
    match optionsHelp environment topic with
    | [] => []
    | entries => ["", "Options:"] ++ HelpEntry.lines entries
  [topic.purpose, "", "Usage: " ++ programName ++ " " ++ topic.usage, "", topic.operands.1]
    ++ HelpEntry.lines topic.operands.2 ++ options

end Storyline.Console
