import Storyline.Decimal.Text
import Storyline.Player.World

set_option autoImplicit false

/-!
Playing a story in a terminal. The session looks at what the player announced whenever all activities have come to rest: it asks
for input when the player waits for it, and ends when playback stops. Lines that are typed become signals; when input ends
the story plays itself.
-/

namespace Storyline.Console

def presenter : Presenter where
  say line reveal :=
    { opening := [match line.author with | some author => author ++ ": " ++ line.text | none => line.text]
      pause := some ("reveal", reveal) }
  capture := {}
  blend millis _ := { opening := ["~ transition ~"], pause := some ("transition", millis) }

structure Session where
  world : World
  seenEvents : Nat := 0
  seenLines : Nat := 0
  out : String := ""
  err : String := ""
  typed : List Signal := []
  line : String := ""
  prompts : Nat := 0
  closed : Bool := false
  stopped : Option StopReason := none

namespace Session

def player (session : Session) : Player := session.world.player

def print (session : Session) (text : String) : Session := { session with out := session.out ++ text }

def complain (session : Session) (text : String) : Session := { session with err := session.err ++ text ++ "\n" }

def showLines (session : Session) : Session :=
  let stage := session.player.stage
  let fresh := (stage.take (stage.length - session.seenLines)).reverse
  { session.print (String.join (fresh.map fun line => line.2 ++ "\n")) with seenLines := stage.length }

def observe (session : Session) (event : Event) : Session :=
  if session.stopped.isSome then session
  else match event with
    | .stopped _ reason => { session with stopped := some reason }
    | .waitingForInput true =>
      if session.player.playback.mode.autoPlay then session
      else { session.print "> " with prompts := session.prompts + 1 }
    | _ => session

def observeAll (session : Session) : Session :=
  let events := session.player.events
  let fresh := (events.take (events.length - session.seenEvents)).reverse
  let kept := (Event.backlog session.player.config.eventCapacity fresh).2
  kept.foldl observe { session with seenEvents := events.length }

def sendTyped (session : Session) : Session :=
  match session.world.perform (.send session.typed) with
  | (some (.count count), world) => { session with world := world, typed := session.typed.drop count }
  | (_, world) => { session with world := world }

def rest (fuel : Nat) (session : Session) : Session :=
  ({ session with world := World.settle fuel none session.world }.showLines).observeAll

def takeLine (session : Session) (line : String) : Session :=
  match Signal.ofInput line with
  | .ok signal => { session with typed := session.typed ++ [signal] }
  | .error message => session.complain (message ++ " (enter = continue, s = skip, a = auto, q = quit)")

def takeLines (session : Session) : List String → Session
  | [] => session
  | [begun] => { session with line := begun }
  | line :: lines => takeLines (session.takeLine line) lines

def type (session : Session) (text : String) : Session :=
  (session.takeLines ((session.line ++ text).splitOn "\n")).sendTyped

def close (session : Session) : Session :=
  let flushed := if session.line = "" then session else { session.takeLine session.line with line := "" }
  let sent := { flushed with closed := true }.sendTyped
  let mode := sent.player.playback.mode
  if mode.skip || mode.autoPlay then sent
  else { sent with world := (sent.world.perform (.setAutoPlay true)).2 }

def pass? (session : Session) : Option Session :=
  session.world.deadline?.map fun time => { session with world := session.world.jumpTo time }

/-- Plays to the end. Every prompt is answered by the next of the given texts; input ends at the first prompt without one, or
at once if nothing is ever typed. -/
def play (fuel : Nat) (answers : Option (List String)) (session : Session) : Session :=
  match fuel with
  | 0 => session
  | fuel + 1 =>
    let session := session.rest (fuel + 1)
    if session.stopped.isSome then session
    else if !session.typed.isEmpty then play fuel answers session.sendTyped
    else if session.closed then
      match session.pass? with
      | some session => play fuel answers session
      | none => session
    else match answers, session.prompts with
      | none, _ => play fuel none session.close
      | some _, 0 =>
        match session.pass? with
        | some session => play fuel answers session
        | none => session
      | some [], _ => play fuel (some []) session.close
      | some (answer :: answers), prompts + 1 =>
        play fuel (some answers) ({ session with prompts := prompts }.type answer)

def reasonText : StopReason → String
  | .requested => "stop"
  | .endOfScript => "end of script"
  | .structural => "structural error"
  | .reset => "reset"

def closing (session : Session) (reason : StopReason) : String :=
  let spot := match session.player.playback.spot? with
    | some spot => spot.text
    | none => "-"
  let percent := (Decimal.ofFloat (session.player.progress * 100)).whole
  "stopped (" ++ reasonText reason ++ ") at " ++ spot ++ "; progress " ++ percent ++ "%\n"

end Session

end Storyline.Console
