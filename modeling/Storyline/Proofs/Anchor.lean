import Storyline.Proofs.Interleaving
import Storyline.Proofs.Layout
import Storyline.Proofs.Tables

set_option autoImplicit false

/-!
The caret is at a command of a script that the library has. Scripts come into the library from files, under the name that
they were looked for, and stay there as long as no script is put in by hand.
-/

namespace Storyline

/-! ### Addresses -/

-- A script that was accepted, no two commands of which have the same spot.
structure Playlist.Addressed (p : Playlist) : Prop where
  accepted : ∃ registry compiled, Registry.playlist registry compiled = .ok p
  distinct : (p.commands.toList.map Command.spot).Nodup

-- The commands of a script are addressed by its name.
def Playlist.Named (p : Playlist) : Prop := ∀ command ∈ p.commands.toList, command.spot.script = p.script

namespace Registry

variable (registry : Registry)

theorem command_made (script : String) (compiled : CompiledCommand) (command : Command)
    (made : registry.command script compiled = .ok command) :
    registry.kind compiled = .ok command.kind ∧ command.spot.script = script := by
  unfold Registry.command at made
  cases kind : registry.kind compiled with
  | error cause => rw [kind] at made; cases made
  | ok what =>
      rw [kind] at made
      obtain rfl := Except.ok.inj made
      exact ⟨rfl, rfl⟩

theorem commands_made (script : String) (compiled : List CompiledCommand) (commands : List Command)
    (made : compiled.mapM (registry.command script) = .ok commands) :
    ∀ command ∈ commands, ∃ given, registry.command script given = .ok command := by
  induction compiled generalizing commands with
  | nil =>
      obtain rfl : [] = commands := Except.ok.inj made
      exact fun _ member => (List.not_mem_nil member).elim
  | cons first rest ih =>
      rw [List.mapM_cons] at made
      obtain ⟨command, head, made⟩ := bind_ok made
      obtain ⟨others, tail, made⟩ := bind_ok made
      obtain rfl : command :: others = commands := Except.ok.inj made
      intro other member
      rcases List.mem_cons.mp member with rfl | member
      · exact ⟨first, head⟩
      · exact ih others tail other member

theorem playlist_made (compiled : CompiledScript) (p : Playlist) (accepted : registry.playlist compiled = .ok p) :
    ∀ command ∈ p.commands.toList, ∃ given, registry.command p.script given = .ok command := by
  obtain ⟨commands, made, accepted⟩ := bind_ok accepted
  cases built : Playlist.build compiled.name commands with
  | error fault => rw [built] at accepted; cases accepted
  | ok list =>
      rw [built] at accepted
      obtain rfl : list = p := Except.ok.inj accepted
      rw [((Playlist.build_ok_iff _ _ _).mp built).1]
      exact fun command member =>
        registry.commands_made compiled.name compiled.commands commands made command (by simpa using member)

theorem playlist_named (compiled : CompiledScript) (p : Playlist) (accepted : registry.playlist compiled = .ok p) :
    p.Named := by
  intro command member
  obtain ⟨given, made⟩ := registry.playlist_made compiled p accepted command member
  exact (registry.command_made p.script given command made).2

end Registry

namespace Playlist.Addressed

variable {p : Playlist} (addressed : p.Addressed)
include addressed

theorem named : p.Named := by
  obtain ⟨registry, compiled, accepted⟩ := addressed.accepted
  exact registry.playlist_named compiled p accepted

theorem index_of_spot (index : Nat) (command : Command) (found : p.command? index = some command) :
    p.indexOf? command.spot = some index := by
  obtain ⟨bound, here⟩ := Array.getElem?_eq_some_iff.mp found
  have member : command ∈ p.commands.toList := here ▸ Array.getElem_mem_toList bound
  rw [indexOf?, if_pos (addressed.named command member), indexByLine?, Array.findIdx?_eq_some_iff_getElem]
  refine ⟨bound, by simp [here], fun other before same => ?_⟩
  have inside : other < p.commands.size := Nat.lt_trans before bound
  have line : p.commands[other].spot.line = command.spot.line ∧ p.commands[other].spot.inline = command.spot.inline := by
    simpa using same
  have script := addressed.named p.commands[other] (Array.getElem_mem_toList inside)
  have spots : p.commands[other].spot = command.spot := by
    calc p.commands[other].spot
        = ⟨p.commands[other].spot.script, p.commands[other].spot.line, p.commands[other].spot.inline⟩ := rfl
      _ = ⟨command.spot.script, command.spot.line, command.spot.inline⟩ := by
        rw [script, line.1, line.2, addressed.named command member]
  have inside' : other < (p.commands.toList.map Command.spot).length := by simpa using inside
  have bound' : index < (p.commands.toList.map Command.spot).length := by simpa using bound
  have equal : (p.commands.toList.map Command.spot)[other] = (p.commands.toList.map Command.spot)[index] := by
    simpa [here] using spots
  exact List.pairwise_iff_getElem.mp addressed.distinct other index inside' bound' before equal

end Playlist.Addressed

theorem Playlist.index_of_lt (p : Playlist) (spot : Spot) (index : Nat) (found : p.indexOf? spot = some index) :
    index < p.length := by
  unfold indexOf? at found
  split at found
  · exact (Array.findIdx?_eq_some_iff_getElem.mp found).1
  · cases found

theorem Playlist.index_of_label_lt (p : Playlist) (label : String) (index : Nat)
    (found : p.indexOfLabel? label = some index) : index < p.length :=
  (Array.findIdx?_eq_some_iff_getElem.mp found).1

theorem Registry.text_accepted (registry : Registry) (text : String) (playlist : Playlist)
    (read : registry.ofText text = .ok playlist) : ∃ compiled, registry.playlist compiled = .ok playlist := by
  unfold Registry.ofText Registry.ofJson at read
  split at read
  · split at read
    · exact ⟨_, read⟩
    · cases read
  · cases read

/-! ### The library -/

namespace Library

-- Every script has addresses, also those that are still in files, and these are found under their own names.
structure Addressed (library : Library) : Prop where
  stored : ∀ loaded ∈ library.scripts, loaded.playlist.Addressed
  filed : ∀ directory ∈ library.search, ∀ name text playlist, directory.read name = some (.ok text) →
    library.registry.ofText text = .ok playlist →
    playlist.script = name ∧ (playlist.commands.toList.map Command.spot).Nodup

def Has (library : Library) (loaded : Loaded) : Prop := library.get? loaded.playlist.script = some loaded

def Grows (before after : Library) : Prop := ∀ loaded, before.Has loaded → after.Has loaded

theorem put_places : Tables.Places (fun loaded : Loaded => loaded.playlist.script) put := ⟨fun _ => rfl, fun _ _ _ => rfl⟩

theorem load_addressed (library : Library) (addressed : library.Addressed) (playlist : Playlist) :
    (library.load playlist).2.Addressed := ⟨addressed.stored, addressed.filed⟩

theorem require_cases (library : Library) (name : String) (loaded : Loaded) (after : Library)
    (found : library.require name = .ok (loaded, after)) :
    library.get? name = some loaded ∧ after = library ∨
      library.get? name = none ∧ ∃ text playlist, library.search.bind (fun directory => directory.read name) = some (.ok text) ∧
        library.registry.ofText text = .ok playlist ∧ library.insert playlist = (loaded, after) := by
  unfold require at found
  split at found
  · next held here =>
      obtain ⟨rfl, rfl⟩ := Prod.mk.inj (Except.ok.inj found)
      exact .inl ⟨here, rfl⟩
  · next absent =>
      split at found
      · next text file =>
          cases text with
          | error cause => cases found
          | ok text =>
              simp only [insertText] at found
              cases read : library.registry.ofText text with
              | error cause => rw [read] at found; cases found
              | ok playlist =>
                  rw [read] at found
                  exact .inr ⟨absent, text, playlist, file, read, Except.ok.inj found⟩
      · cases found

theorem require_fits {fit : Playlist → Prop} (library : Library)
    (reads : ∀ compiled playlist, library.registry.playlist compiled = .ok playlist → fit playlist)
    (fits : ∀ loaded ∈ library.scripts, fit loaded.playlist) (name : String) (loaded : Loaded) (after : Library)
    (found : library.require name = .ok (loaded, after)) :
    fit loaded.playlist ∧ ∀ other ∈ after.scripts, fit other.playlist := by
  rcases library.require_cases name loaded after found with ⟨here, rfl⟩ | ⟨_, text, playlist, _, read, added⟩
  · exact ⟨fits loaded (List.mem_of_find?_eq_some here), fits⟩
  · obtain ⟨rfl, rfl⟩ := Prod.mk.inj added
    obtain ⟨compiled, built⟩ := Registry.text_accepted library.registry text playlist read
    have new := reads compiled playlist built
    refine ⟨new, fun other member => ?_⟩
    rcases Tables.mem_put put_places member with rfl | old
    · exact new
    · exact fits other old

theorem require_spec (library : Library) (addressed : library.Addressed) (name : String) (loaded : Loaded) (after : Library)
    (found : library.require name = .ok (loaded, after)) : after.Addressed ∧ after.Has loaded ∧ library.Grows after := by
  rcases library.require_cases name loaded after found with ⟨here, rfl⟩ | ⟨absent, text, playlist, file, read, added⟩
  · have script : loaded.playlist.script = name := by simpa using List.find?_some here
    exact ⟨addressed, by rw [Has, script]; exact here, fun _ => id⟩
  · obtain ⟨rfl, rfl⟩ := Prod.mk.inj added
    obtain ⟨directory, searched, file⟩ := Option.bind_eq_some_iff.mp file
    obtain ⟨script, distinct⟩ := addressed.filed directory searched name text playlist file read
    refine ⟨⟨fun other member => ?_, addressed.filed⟩, ?_, fun other has => ?_⟩
    · rcases Tables.mem_put put_places member with rfl | old
      · exact ⟨⟨_, Registry.text_accepted _ text playlist read⟩, distinct⟩
      · exact addressed.stored other old
    · simp [Has, get?, Tables.find_put put_places]
    · have different : playlist.script ≠ other.playlist.script := by
        intro same
        rw [Has, ← same, script, absent] at has
        cases has
      simpa [Has, get?, load, Tables.find_put put_places, different] using has

end Library

/-! ### The caret -/

def Library.Anchors (library : Library) (loaded : Option Loaded) (index : Nat) : Prop :=
  library.Addressed ∧ ∀ held ∈ loaded, library.Has held ∧ index < held.playlist.length

namespace Player

def Anchored (player : Player) : Prop := player.library.Anchors player.playback.loaded player.playback.index

end Player

def Activity.inserts : Activity → Bool
  | .asked (.insert _) => true
  | _ => false

namespace World

-- Nothing is put into the library along the way.
def Shelved (world : World) : List Move → Prop
  | [] => True
  | move :: moves => (∀ activity ∈ world.mover? move, activity.inserts = false) ∧ (world.move move).Shelved moves

instance decidableShelved (world : World) : (moves : List Move) → Decidable (world.Shelved moves)
  | [] => .isTrue trivial
  | move :: moves =>
      have := decidableShelved (world.move move) moves
      inferInstanceAs (Decidable
        ((∀ activity ∈ world.mover? move, activity.inserts = false) ∧ (world.move move).Shelved moves))

end World

end Storyline
