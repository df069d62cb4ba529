import Storyline.Script

set_option autoImplicit false

/-!
The scripts that a player can reach. Every playlist that is put to use has a handle of its own, because each copy keeps its
own visit flags. Names that are not loaded are looked for in a directory.
-/

namespace Storyline

structure Loaded where
  handle : Nat
  playlist : Playlist

structure SearchDir where
  path : String
  read : String → Option (Except FileError String)

structure Library where
  registry : Registry := []
  scripts : List Loaded := []
  search : Option SearchDir := none
  nextHandle : Nat := 0

namespace Library

def get? (library : Library) (name : String) : Option Loaded :=
  library.scripts.find? fun loaded => loaded.playlist.script = name

def load (library : Library) (playlist : Playlist) : Loaded × Library :=
  (⟨library.nextHandle, playlist⟩, { library with nextHandle := library.nextHandle + 1 })

def put (loaded : Loaded) : List Loaded → List Loaded
  | [] => [loaded]
  | other :: others =>
    if loaded.playlist.script < other.playlist.script then loaded :: other :: others
    else if loaded.playlist.script = other.playlist.script then loaded :: others
    else other :: put loaded others

def insert (library : Library) (playlist : Playlist) : Loaded × Library :=
  let (loaded, library) := library.load playlist
  (loaded, { library with scripts := put loaded library.scripts })

def insertText (library : Library) (text : Except FileError String) : Except Error (Loaded × Library) :=
  match text with
  | .error cause => .error (.file cause)
  | .ok text => (library.registry.ofText text).map library.insert

def require (library : Library) (name : String) : Except Error (Loaded × Library) :=
  match library.get? name with
  | some loaded => .ok (loaded, library)
  | none =>
    match library.search.bind fun directory => directory.read name with
    | some text => library.insertText text
    | none => .error (.script (.notFound name))

def names (library : Library) : List String := library.scripts.map fun loaded => loaded.playlist.script

def totalCommands (library : Library) : Nat :=
  library.scripts.foldl (fun total loaded => total + loaded.playlist.length) 0

end Library

end Storyline
