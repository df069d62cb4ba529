import Storyline.Console.Files

set_option autoImplicit false

/-!
A tree of directories and files with a working directory in it. Every name of a path but the last has to be that of a
directory. Opening a log makes the directories on the way to it and then the log itself, which stays empty.
-/

namespace Storyline.Console

inductive Node where
  | directory
  | file (text : String)
deriving DecidableEq, Repr

abbrev Place := List String

structure Tree where
  nodes : List (Place × Node)
  here : Place
deriving DecidableEq, Repr

namespace Tree

def node? (tree : Tree) (place : Place) : Option Node :=
  if place.isEmpty then some .directory else (tree.nodes.find? fun entry => entry.1 = place).map Prod.snd

def add (tree : Tree) (place : Place) (node : Node) : Tree := { tree with nodes := (place, node) :: tree.nodes }

def step (place : Place) (name : String) : Place :=
  if name = "." then place else if name = ".." then place.dropLast else place ++ [name]

def enter (tree : Tree) (place : Place) (name : String) : Except FileError Place :=
  match tree.node? (step place name) with
  | some .directory => .ok (step place name)
  | some (.file _) => .error .notDirectory
  | none => .error .missing

/-! ### Paths -/

def start (tree : Tree) (path : String) : Place := if path.startsWith "/" then [] else tree.here

def names (path : String) : List String := (path.splitOn "/").filter fun name => name ≠ ""

def isDirectory (tree : Tree) (place : Place) (names : List String) : Bool := (names.foldlM tree.enter place).isOk

def locate (tree : Tree) (place : Place) (names : List String) : Except FileError Place :=
  (names.dropLast.foldlM tree.enter place).map fun directory => names.getLast?.elim directory (step directory)

def read (tree : Tree) (path : String) : Except FileError String :=
  if path = "" then .error .missing
  else (tree.locate (tree.start path) (names path)).bind fun place =>
    match tree.node? place with
    | some .directory => .error .isDirectory
    | some (.file text) => if path.endsWith "/" then .error .notDirectory else .ok text
    | none => .error .missing

/-! ### Making directories and logs -/

def makeDirectory (tree : Tree) (place : Place) (names : List String) : Except FileError Tree :=
  (tree.locate place names).bind fun made =>
    if (tree.node? made).isSome then .error .exists else .ok (tree.add made .directory)

def ensureDirectory (tree : Tree) (place : Place) (names : List String) : Except FileError Tree :=
  match tree.makeDirectory place names with
  | .ok tree => .ok tree
  | .error cause => if tree.isDirectory place names then .ok tree else .error cause

def ensureDirectories (tree : Tree) (place : Place) : List String → Except FileError Tree
  | [] => .ok tree
  | name :: outer =>
    let names := (name :: outer).reverse
    match tree.ensureDirectory place names with
    | .error .missing => (tree.ensureDirectories place outer).bind fun tree => tree.ensureDirectory place names
    | result => result

def openLog (tree : Tree) (path : String) : Except FileError Tree :=
  if path = "" then .error .missing
  else
    let start := tree.start path
    let outer := ((names path).filter fun name => name ≠ ".").reverse.drop 1
    (tree.ensureDirectories start outer).bind fun tree =>
      (tree.locate start (names path)).bind fun place =>
        match tree.node? place with
        | some .directory => .error .isDirectory
        | some (.file _) => if path.endsWith "/" then .error .isDirectory else .ok tree
        | none => if path.endsWith "/" then .error .isDirectory else .ok (tree.add place (.file ""))

def files (tree : Tree) : Files := ⟨tree.read⟩

/-! ### A working directory with files -/

def bare : Tree where
  nodes := (["dev", "etc", "home", "tmp", "usr", "var"].map fun name => ([name], .directory))
    ++ [(["dev", "null"], .file ""), (["tmp", "."], .directory)]
  here := ["tmp", "."]

def put (tree : Tree) (path text : String) : Tree :=
  let names := (names path).filter fun name => name ≠ "."
  match tree.ensureDirectories tree.here (names.reverse.drop 1) with
  | .ok tree => tree.add (tree.here ++ names) (.file text)
  | .error _ => tree

def ofFiles (entries : List (String × String)) : Tree := entries.foldl (fun tree entry => tree.put entry.1 entry.2) bare

end Tree

end Storyline.Console
