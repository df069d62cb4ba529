import Storyline.Config

set_option autoImplicit false

/-!
The command line of the console program. Options with a value take it after an equals sign or from the next argument, which
may then not look like an option; no option is given twice at one level. Options of the program itself stand before or after
the name of the action.
-/

namespace Storyline.Console

structure Options where
  config : Option String := none
  logLevel : Option String := none
  logFormat : Option LogFormat := none
deriving DecidableEq, Repr

inductive Verb where
  | check
  | outline
  | play
deriving DecidableEq, Repr

inductive Action where
  | check (script : String)
  | outline (script : String)
  | play (scripts : List String) (label : Option String) (auto : Bool) (skip : Option SkipMode)
deriving DecidableEq, Repr

inductive Topic where
  | program
  | action (verb : Verb)
  | help
deriving DecidableEq, Repr

inductive Invocation where
  | run (options : Options) (action : Action)
  | help (topic : Topic)
  | version
  | misuse
deriving DecidableEq, Repr

structure Draft where
  before : Options := {}
  verb : Option Verb := none
  after : Options := {}
  label : Option String := none
  auto : Bool := false
  skip : Option SkipMode := none
  scripts : List String := []

namespace Draft

def options (draft : Draft) : Options := if draft.verb.isSome then draft.after else draft.before

def withOptions (draft : Draft) (options : Options) : Draft :=
  if draft.verb.isSome then { draft with after := options } else { draft with before := options }

def takesValue (draft : Draft) (name : String) : Bool :=
  name = "config" || name = "log-level" || name = "log-format"
    || (draft.verb = some .play && (name = "label" || name = "skip"))

def setOption? (draft : Draft) (name value : String) : Option Draft :=
  let options := draft.options
  match name with
  | "config" =>
    if options.config.isSome || value = "" then none
    else some (draft.withOptions { options with config := some value })
  | "log-level" =>
    if options.logLevel.isSome then none else some (draft.withOptions { options with logLevel := some value })
  | "log-format" =>
    if options.logFormat.isSome then none
    else match LogFormat.ofInput value with
      | .ok format => some (draft.withOptions { options with logFormat := some format })
      | .error _ => none
  | "label" => if draft.label.isSome then none else some { draft with label := some value }
  | "skip" =>
    if draft.skip.isSome then none
    else match SkipMode.ofInput value with
      | .ok mode => some { draft with skip := some mode }
      | .error _ => none
  | _ => none

def setFlag? (draft : Draft) (name : String) : Option Draft :=
  if name = "auto" && draft.verb = some .play && !draft.auto then some { draft with auto := true } else none

def topic (draft : Draft) : Topic :=
  match draft.verb with
  | none => .program
  | some verb => .action verb

def verbOf? : String → Option Verb
  | "check" => some .check
  | "outline" => some .outline
  | "play" => some .play
  | _ => none

def addScript? (draft : Draft) (value : String) : Option Draft :=
  if value = "" || (draft.verb ≠ some .play && !draft.scripts.isEmpty) then none
  else some { draft with scripts := draft.scripts ++ [value] }

/-- An option of the action goes before the same option of the program, and that before the environment. -/
def merged (draft : Draft) (environment : Option String) : Options where
  config := (draft.after.config.or draft.before.config).or environment
  logLevel := draft.after.logLevel.or draft.before.logLevel
  logFormat := draft.after.logFormat.or draft.before.logFormat

def finish (draft : Draft) (environment : Option String) : Invocation :=
  let given := draft.before.config.isSome && draft.after.config.isSome
  if environment = some "" && !given then .misuse
  else match draft.verb, draft.scripts with
    | some .check, [script] => .run (draft.merged environment) (.check script)
    | some .outline, [script] => .run (draft.merged environment) (.outline script)
    | some .play, script :: scripts =>
      .run (draft.merged environment) (.play (script :: scripts) draft.label draft.auto draft.skip)
    | _, _ => .misuse

end Draft

def isOption (argument : String) : Bool := argument.startsWith "-" && argument ≠ "-"

def splitOption (argument : String) : String × Option String :=
  match (String.ofList (argument.toList.drop 2)).splitOn "=" with
  | [] => ("", none)
  | [name] => (name, none)
  | name :: values => (name, some (String.intercalate "=" values))

def readRest (environment : Option String) : Draft → List String → Invocation
  | draft, [] => draft.finish environment
  | draft, argument :: rest =>
    if draft.verb.isNone then .misuse
    else match draft.addScript? argument with
      | some draft => readRest environment draft rest
      | none => .misuse

def readHelp : List String → Invocation
  | [] => .help .program
  | ["help"] => .help .help
  | [name] =>
    match Draft.verbOf? name with
    | some verb => .help (.action verb)
    | none => .misuse
  | _ => .misuse

def read (environment : Option String) : Draft → List String → Invocation
  | draft, [] => draft.finish environment
  | draft, argument :: rest =>
    if argument = "--" then readRest environment draft rest
    else if argument.startsWith "--" then
      let (name, value) := splitOption argument
      if draft.takesValue name then
        match value, rest with
        | some value, rest =>
          match draft.setOption? name value with
          | some draft => read environment draft rest
          | none => .misuse
        | none, value :: rest =>
          if isOption value then .misuse
          else match draft.setOption? name value with
            | some draft => read environment draft rest
            | none => .misuse
        | none, [] => .misuse
      else if value.isSome then .misuse
      else if name = "help" then .help draft.topic
      else if name = "version" && draft.verb.isNone then .version
      else match draft.setFlag? name with
        | some draft => read environment draft rest
        | none => .misuse
    else if isOption argument then
      if argument.startsWith "-h" then .help draft.topic
      else if argument.startsWith "-V" && draft.verb.isNone then .version
      else .misuse
    else if draft.verb.isSome then
      match draft.addScript? argument with
      | some draft => read environment draft rest
      | none => .misuse
    else if argument = "help" then readHelp rest
    else match Draft.verbOf? argument with
      | some verb => read environment { draft with verb := some verb } rest
      | none => .misuse

def Invocation.ofArguments (arguments : List String) (environment : Option String) : Invocation :=
  read environment {} arguments

end Storyline.Console
