import Storyline.Config
import Storyline.Json.Record
import Storyline.Toml.Reader

set_option autoImplicit false

/-!
Settings as trees of fields, all of which may be missing.
-/

namespace Storyline

def SkipMode.ofJson? : Json.Place → Json → Option SkipMode :=
  Json.choice? [SkipMode.everything, SkipMode.readOnly] SkipMode.name

def LogFormat.ofJson? : Json.Place → Json → Option LogFormat := Json.choice? LogFormat.all LogFormat.name

def section? (place : Json.Place) (names : List String) : Json → Option (List (String × Json))
  | .array items =>
    if place = .settings then some (names.zip items) else Json.record? names 0 (.array items)
  | json => json.record? names 0

namespace GeneralConfig

def ofJson? (place : Json.Place) (json : Json) : Option GeneralConfig := do
  let fields ← section? place ["scripts_dir", "start_label"] json
  let scriptsDir ← Json.defaulted? fields "scripts_dir" "." Json.text?
  let startLabel ← Json.defaulted? fields "start_label" none (Json.optional? Json.text?)
  return ⟨scriptsDir, startLabel⟩

def toJson (config : GeneralConfig) : Json :=
  .object [("scripts_dir", .text config.scriptsDir), ("start_label", Json.ofOption Json.text config.startLabel)]

end GeneralConfig

namespace PlayerConfig

def ofJson? (place : Json.Place) (json : Json) (missing : PlayerConfig) : Option PlayerConfig := do
  let fields ← section? place ["skip_mode", "auto_play_delay_ms", "voice_poll_ms", "rng_seed", "event_capacity"] json
  let skipMode ← Json.defaulted? fields "skip_mode" missing.skipMode (SkipMode.ofJson? place)
  let delay ← Json.defaulted? fields "auto_play_delay_ms" missing.autoPlayDelayMillis Json.uint64?
  let poll ← Json.defaulted? fields "voice_poll_ms" missing.voicePollMillis Json.uint64?
  let seed ← Json.defaulted? fields "rng_seed" missing.seed (Json.optional? Json.uint64?)
  let capacity ← Json.defaulted? fields "event_capacity" missing.eventCapacity Json.natural?
  return ⟨skipMode, delay, poll, seed, capacity⟩

def toJson (config : PlayerConfig) : Json :=
  .object [("skip_mode", .text config.skipMode.name),
    ("auto_play_delay_ms", .integer config.autoPlayDelayMillis.toNat),
    ("voice_poll_ms", .integer config.voicePollMillis.toNat),
    ("rng_seed", Json.ofOption (fun seed => .integer seed.toNat) config.seed),
    ("event_capacity", .integer config.eventCapacity)]

end PlayerConfig

namespace RollbackConfig

def ofJson? (place : Json.Place) (json : Json) : Option RollbackConfig := do
  let fields ← section? place ["capacity", "capture_every_command"] json
  let capacity ← Json.defaulted? fields "capacity" 128 Json.natural?
  let capture ← Json.defaulted? fields "capture_every_command" true Json.bool?
  return ⟨capacity, capture⟩

def toJson (config : RollbackConfig) : Json :=
  .object [("capacity", .integer config.capacity), ("capture_every_command", .bool config.captureEveryCommand)]

end RollbackConfig

namespace LogConfig

def ofJson? (place : Json.Place) (json : Json) : Option LogConfig := do
  let fields ← section? place ["level", "format", "file"] json
  let level ← Json.defaulted? fields "level" "info" Json.text?
  let format ← Json.defaulted? fields "format" LogFormat.pretty (LogFormat.ofJson? place)
  let file ← Json.defaulted? fields "file" none (Json.optional? Json.text?)
  return ⟨level, format, file⟩

def toJson (config : LogConfig) : Json :=
  .object [("level", .text config.level), ("format", .text config.format.name),
    ("file", Json.ofOption Json.text config.file)]

end LogConfig

namespace Config

def ofJson? (place : Json.Place) (json : Json) : Option Config := do
  let fields ← section? place ["general", "player", "rollback", "logging"] json
  let general ← Json.defaulted? fields "general" {} (GeneralConfig.ofJson? place)
  let player ← Json.defaulted? fields "player" {} fun json => PlayerConfig.ofJson? place json {}
  let rollback ← Json.defaulted? fields "rollback" {} (RollbackConfig.ofJson? place)
  let logging ← Json.defaulted? fields "logging" {} (LogConfig.ofJson? place)
  return ⟨general, player, rollback, logging⟩

def toJson (config : Config) : Json :=
  .object [("general", config.general.toJson), ("player", config.player.toJson),
    ("rollback", config.rollback.toJson), ("logging", config.logging.toJson)]

def ofText (text : String) : Except ConfigError Config :=
  match (Toml.parse text).bind (ofJson? .settings) with
  | none => .error .parse
  | some config => config.validate.map fun _ => config

end Config

end Storyline
